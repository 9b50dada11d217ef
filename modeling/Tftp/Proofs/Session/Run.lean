import Tftp.Proofs.Exchange.Run
import Tftp.Rank

/-!
# Runs of a session in any surroundings

The runs of a session are to `Session.call` what the runs of an exchange are to `Exchange.call`:
nothing is assumed of what the backend, the file, the writer and the reader answer.

* `Session.Step` and `Session.Run` — one call with some answer, and steps one after the other;
* `Session.replay` — whether a session can do the deeds of a log, as a computation;
* `Step.of_opening`, `Step.of_exchanging` and their companions — the next deed in each phase;
* `Opened` and `Followed` — where a session goes from the answer of its backend, and from a step of
  its exchange.
-/

namespace Tftp

namespace Session

/-- A session makes its next call and goes on from an answer. -/
inductive Step (s : Session) : Deed → Session → Prop where
  /-- the backend is asked for the file -/
  | opened {filename : String} {resume : Except Fault Unit → Noted Session}
      (h : s.call = .openFile filename resume) (answer : Except Fault Unit) :
      Step s (.opened filename answer) (resume answer).value
  /-- a block is read -/
  | fetched {size : Int} {resume : Except Fault Bytes → Noted Session}
      (h : s.call = .readFile size resume) (answer : Except Fault Bytes) :
      Step s (.fetched size answer) (resume answer).value
  /-- the file is closed -/
  | closed {resume : Except Fault Unit → Noted Session} (h : s.call = .closeFile resume)
      (answer : Except Fault Unit) : Step s (.closed answer) (resume answer).value
  /-- a packet is written -/
  | sent {packet : Draft} {resume : Except Fault Time → Noted Session}
      (h : s.call = .send packet resume) (answer : Except Fault Time) :
      Step s (.sent packet answer) (resume answer).value
  /-- a packet is waited for -/
  | received {wait : Time} {resume : Reception → Noted Session}
      (h : s.call = .receive wait resume) (r : Reception) :
      Step s (.received wait r) (resume r).value

/-- A session comes to a state with a log of deeds. -/
inductive Run (start : Session) : Log → Session → Prop where
  /-- before the first step -/
  | start : Run start [] start
  /-- with one step more -/
  | step {log : Log} {s : Session} {d : Deed} {t : Session} (run : Run start log s)
      (h : s.Step d t) : Run start (log ++ [d]) t

variable {s t : Session} {d : Deed}

/-! ## Any answer

What a session is answered is not up to it. For every answer of the right kind there is a step. -/

/-- The backend may answer anything, and so may the file, the writer and the reader. -/
theorem step_of_opening {filename : String} {options : Option Options}
    (hp : s.phase = .opening filename options) (answer : Except Fault Unit) :
    s.Step (.opened filename answer) (s.opened filename options answer).value :=
  .opened (by rw [call, hp]) answer

theorem step_of_fetching {number : UInt16} (hp : s.phase = .fetching number)
    (answer : Except Fault Bytes) :
    s.Step (.fetched s.terms.blockSize answer) (s.fetched number answer).value :=
  .fetched (by rw [call, hp]) answer

theorem step_of_closing {result : Except Fault Outcome} (hp : s.phase = .closing result)
    (answer : Except Fault Unit) : s.Step (.closed answer) (s.closed result answer).value :=
  .closed (by rw [call, hp]) answer

/-- A session goes along with its exchange. -/
theorem step_of_exchanging {goal : Goal} {x : Exchange} {next : Exchange.Next}
    (hp : s.phase = .exchanging goal x) (h : x.Step d next) :
    s.Step d (s.follow goal next).value := by
  cases h with
  | @sent packet resume hx answer =>
    have hc : s.call = .send packet fun a => (resume a).andThen (s.follow goal) := by
      simp only [call, hp, hx]
    exact .sent hc answer
  | @received wait resume hx r =>
    have hc : s.call = .receive wait fun r => (resume r).andThen (s.follow goal) := by
      simp only [call, hp, hx]
    exact .received hc r

/-! ## Logs that are replayed

To show that some log is that of a run, its steps would have to be given one by one. Instead the log
can be replayed: from a session and a deed the next session is computed. -/

/-- The session after a deed, if it makes the call and the answer fits. -/
def after? (s : Session) (d : Deed) : Option Session :=
  match s.call, d with
  | .openFile filename resume, .opened filename' answer =>
    if filename = filename' then some (resume answer).value else none
  | .readFile size resume, .fetched size' answer =>
    if size = size' then some (resume answer).value else none
  | .closeFile resume, .closed answer => some (resume answer).value
  | .send packet resume, .sent packet' answer =>
    if packet = packet' then some (resume answer).value else none
  | .receive wait resume, .received wait' r =>
    if wait = wait' then some (resume r).value else none
  | _, _ => none

/-- The session after the deeds of a log, if it can do them one after the other. -/
def replay (s : Session) (log : Log) : Option Session :=
  log.foldlM after? s

/-- What is replayed is a step, so that a log can be checked by computing. The call that the session
makes has to fit the deed, and the answer is taken from the deed. -/
theorem step_of_after? (h : s.after? d = some t) : s.Step d t := by
  unfold after? at h
  split at h
  · next hc =>
    split at h
    · next heq =>
      obtain rfl := Option.some.inj h
      exact heq ▸ .opened hc _
    · cases h
  · next hc =>
    split at h
    · next heq =>
      obtain rfl := Option.some.inj h
      exact heq ▸ .fetched hc _
    · cases h
  · next hc =>
    obtain rfl := Option.some.inj h
    exact .closed hc _
  · next hc =>
    split at h
    · next heq =>
      obtain rfl := Option.some.inj h
      exact heq ▸ .sent hc _
    · cases h
  · next hc =>
    split at h
    · next heq =>
      obtain rfl := Option.some.inj h
      exact heq ▸ .received hc _
    · cases h
  · cases h

/-- A run goes on with a log that can be replayed. -/
theorem Run.append_replay {start : Session} {before log : Log} (run : Run start before s)
    (h : s.replay log = some t) : Run start (before ++ log) t := by
  induction log generalizing before s with
  | nil =>
    obtain rfl := Option.some.inj h
    rw [List.append_nil]
    exact run
  | cons d log ih =>
    rw [replay, List.foldlM_cons] at h
    obtain ⟨u, hu, hrest⟩ := Option.bind_eq_some_iff.mp h
    have := ih (run.step (step_of_after? hu)) hrest
    rw [List.append_assoc] at this
    exact this

/-- A log that can be replayed is the log of a run. -/
theorem Run.of_replay {log : Log} (h : s.replay log = some t) : Run s log t :=
  Run.start.append_replay h

/-! ## The next deed

From here on steps are turned around. The phase of a session tells what its next deed is, apart from
the answer, and the answer tells which session it comes to. -/

/-- Before it is opened, the backend is asked for the file. -/
theorem Step.of_opening {filename : String} {options : Option Options} (h : s.Step d t)
    (hp : s.phase = .opening filename options) :
    ∃ answer, d = .opened filename answer ∧ t = (s.opened filename options answer).value := by
  cases h with
  | opened hc answer =>
    simp only [call, hp, Call.openFile.injEq] at hc
    obtain ⟨rfl, rfl⟩ := hc
    exact ⟨answer, rfl, rfl⟩
  | _ hc => simp only [call, hp] at hc; cases hc

/-- While a packet is exchanged, the steps of the session are those of its exchange. The session
adds what it makes of the end. -/
theorem Step.of_exchanging {goal : Goal} {x : Exchange} (h : s.Step d t)
    (hp : s.phase = .exchanging goal x) :
    ∃ next, x.Step d next ∧ t = (s.follow goal next).value := by
  cases h with
  | sent hc answer =>
    simp only [call, hp] at hc
    split at hc
    · next hx =>
      simp only [Call.send.injEq] at hc
      obtain ⟨rfl, rfl⟩ := hc
      exact ⟨_, .sent hx answer, rfl⟩
    · cases hc
  | received hc r =>
    simp only [call, hp] at hc
    split at hc
    · cases hc
    · next hx =>
      simp only [Call.receive.injEq] at hc
      obtain ⟨rfl, rfl⟩ := hc
      exact ⟨_, .received hx r, rfl⟩
  | _ hc =>
    simp only [call, hp] at hc
    split at hc <;> cases hc

/-- Before a block is sent, its payload is read from the file. -/
theorem Step.of_fetching {number : UInt16} (h : s.Step d t) (hp : s.phase = .fetching number) :
    ∃ answer, d = .fetched s.terms.blockSize answer ∧ t = (s.fetched number answer).value := by
  cases h with
  | fetched hc answer =>
    simp only [call, hp, Call.readFile.injEq] at hc
    obtain ⟨rfl, rfl⟩ := hc
    exact ⟨answer, rfl, rfl⟩
  | _ hc => simp only [call, hp] at hc; cases hc

/-- An error is reported in one packet. -/
theorem Step.of_reporting {code : ErrorCode} {message : Bytes} {fileOpen : Bool} (h : s.Step d t)
    (hp : s.phase = .reporting code message fileOpen) :
    ∃ answer, d = .sent (Packet.report code message).toDraft answer ∧
      t = (s.reported fileOpen answer).value := by
  cases h with
  | sent hc answer =>
    simp only [call, hp, Call.send.injEq] at hc
    obtain ⟨rfl, rfl⟩ := hc
    exact ⟨answer, rfl, rfl⟩
  | _ hc => simp only [call, hp] at hc; cases hc

/-- At the end the file is closed. -/
theorem Step.of_closing {result : Except Fault Outcome} (h : s.Step d t)
    (hp : s.phase = .closing result) :
    ∃ answer, d = .closed answer ∧ t = (s.closed result answer).value := by
  cases h with
  | closed hc answer =>
    simp only [call, hp, Call.closeFile.injEq] at hc
    obtain rfl := hc
    exact ⟨answer, rfl, rfl⟩
  | _ hc => simp only [call, hp] at hc; cases hc

/-- After its end a session makes no call. -/
theorem not_step_of_ended {result : Except Fault Outcome} (hp : s.phase = .ended result) :
    ¬ s.Step d t := by
  intro h
  cases h with
  | _ hc => simp only [call, hp] at hc; cases hc

/-- A session that asks for a file is the one that is opening it. -/
theorem exists_phase_of_openFile {filename : String} {resume : Except Fault Unit → Noted Session}
    (h : s.call = .openFile filename resume) : ∃ options, s.phase = .opening filename options := by
  rw [call] at h
  split at h
  case h_1 name options hp =>
    cases h
    exact ⟨options, hp⟩
  case h_2 => split at h <;> cases h
  all_goals cases h

/-- A session without a call to make is over. -/
theorem phase_of_finished {result : Except Fault Outcome} (h : s.call = .finished result) :
    s.phase = .ended result := by
  rw [call] at h
  split at h
  case h_2 => split at h <;> cases h
  case h_6 result' hp =>
    cases h
    exact hp
  all_goals cases h

/-! ## The next phase

The functions of a session that go on from an answer branch a lot. Each has a relation with one
constructor for each branch, which says what the session comes to, and a lemma that it is always one
of these. -/

@[simp] theorem terms_enter (s : Session) (p : Phase) : (s.enter p).terms = s.terms := rfl

/-- The payload of a full block. -/
def size (s : Session) : Nat :=
  s.terms.blockSize.toNat

/-- A block has a byte at least, for the terms of a session are valid. -/
theorem size_pos (s : Session) : 0 < s.size := by
  have := s.valid.blockSize_pos
  simp only [size]
  omega

theorem blockSize_eq (s : Session) : s.terms.blockSize = s.size :=
  (Int.toNat_of_nonneg (Int.le_of_lt s.valid.blockSize_pos)).symm

theorem timeout_pos (s : Session) : 0 < Time.ofSeconds s.terms.timeout := by
  have h := (s.valid .timeout).1
  simp only [Negotiable.least, Terms.get] at h
  have hpos : 0 < s.terms.timeout := h
  exact Int.mul_pos (by decide) hpos

/-- The terms of a session stay valid. -/
theorem valid_agreed (s : Session) {requested : Options} {a : Agreement}
    (h : negotiate requested s.terms = .ok a) : a.terms.Valid :=
  valid_of_negotiate s.valid h

/-- The session under the terms that were agreed on. -/
def under (s : Session) {requested : Options} {a : Agreement}
    (h : negotiate requested s.terms = .ok a) : Session :=
  { s with terms := a.terms, valid := s.valid_agreed h }

theorem value_finish (s : Session) (result : Except Fault Outcome) :
    (s.finish result).value = s.enter (.ended result) := by
  cases result <;> rfl

/-- After a report the file is closed, if it is open. -/
theorem value_reported (s : Session) (fileOpen : Bool) (answer : Except Fault Time) :
    (s.reported fileOpen answer).value =
      s.enter (if fileOpen then .closing (answer.map fun _ => .abortedByError)
        else .ended (answer.map fun _ => .abortedByError)) := by
  cases fileOpen
  · exact value_finish s _
  · rfl

/-- After the closing of the file the session is over. -/
theorem value_closed (s : Session) (result : Except Fault Outcome) (answer : Except Fault Unit) :
    (s.closed result answer).value = s.enter (.ended (answer.bind fun _ => result)) := by
  cases answer <;> exact value_finish s _

/-- Where a session goes from the answer of its backend, one case for each way on. -/
inductive Opened (s : Session) (options : Option Options) : Except Fault Unit → Session → Prop where
  /-- there is no file -/
  | refused {f : Fault} :
      Opened s options (.error f) (s.enter (.reporting
        (Fault.backend f.rejection.1 f.rejection.2).code
        (Fault.backend f.rejection.1 f.rejection.2).message false))
  /-- a request without options -/
  | incomplete (h : options = none) :
      Opened s options (.ok ()) (s.enter (.closing (.error (.missingField .options))))
  /-- an option has a value that is no number -/
  | rejected {requested : Options} {reason : String} (h : options = some requested)
      (hn : negotiate requested s.terms = .error (.negotiation reason)) :
      Opened s options (.ok ()) (s.enter (.reporting (Fault.negotiation reason).code
        (Fault.negotiation reason).message true))
  /-- the options cannot be read for another reason -/
  | failed {requested : Options} {f : Fault} (h : options = some requested)
      (hn : negotiate requested s.terms = .error f) (hf : ∀ reason, f ≠ .negotiation reason) :
      Opened s options (.ok ()) (s.enter (.closing (.error f)))
  /-- there is nothing to acknowledge -/
  | passedOver {requested : Options} {a : Agreement} (h : options = some requested)
      (hn : negotiate requested s.terms = .ok a) (ha : a.accepted = []) :
      Opened s options (.ok ()) ((s.under hn).enter (.fetching 1))
  /-- the options that were agreed on are acknowledged first -/
  | agreed {requested : Options} {a : Agreement} (h : options = some requested)
      (hn : negotiate requested s.terms = .ok a) (ha : a.accepted ≠ []) :
      Opened s options (.ok ()) ((s.under hn).exchange .agreement (.optionAck a.accepted) 0)

/-- What a session does with the options of its request, one case for each. -/
theorem agree_spec (s : Session) (requested : Options) :
    Opened s (some requested) (.ok ()) (s.agree requested).value := by
  rw [agree]
  split
  · next f hn =>
    cases f with
    | negotiation reason => exact .rejected rfl hn
    | _ => exact .failed rfl hn nofun
  · next a hn =>
    by_cases ha : a.accepted = []
    · simp only [ha, List.isEmpty_nil, if_true]
      exact .passedOver rfl hn ha
    · have hempty : a.accepted.isEmpty = false := by
        rw [List.isEmpty_eq_false_iff]
        exact ha
      simp only [hempty, Bool.false_eq_true, if_false]
      exact .agreed rfl hn ha

/-- A session goes on from every answer of its backend in one of these ways. -/
theorem opened_spec (s : Session) (filename : String) (options : Option Options)
    (answer : Except Fault Unit) :
    Opened s options answer (s.opened filename options answer).value := by
  match answer, options with
  | .error f, _ => exact .refused
  | .ok (), none => exact .incomplete rfl
  | .ok (), some [] => exact .passedOver (a := ⟨s.terms, []⟩) rfl rfl rfl
  | .ok (), some (option :: rest) => exact s.agree_spec (option :: rest)

/-- Where a session goes from a step of its exchange, one case for each way on. -/
inductive Followed (s : Session) : Goal → Exchange.Next → Session → Prop where
  /-- the exchange goes on -/
  | going {goal : Goal} (x : Exchange) :
      Followed s goal (.going x) (s.enter (.exchanging goal x))
  /-- the terms were acknowledged -/
  | agreed {reply : Draft} : Followed s .agreement (.ended (.ok reply)) (s.enter (.fetching 1))
  /-- the last block was acknowledged -/
  | completed {number : UInt16} {reply : Draft} :
      Followed s (.block number true) (.ended (.ok reply)) (s.enter (.closing (.ok .completed)))
  /-- a block was acknowledged, and it was not the last -/
  | continued {number : UInt16} {reply : Draft} :
      Followed s (.block number false) (.ended (.ok reply)) (s.enter (.fetching (number + 1)))
  /-- the copies are exhausted -/
  | timedOut {goal : Goal} {f : Fault} (h : f.isTimeout = true) :
      Followed s goal (.ended (.error f)) (s.enter (.closing (.ok .abortedByTimeout)))
  /-- what was received could not be read -/
  | unreadable {goal : Goal} {f : Fault} (h : f.isUnreadable = true) :
      Followed s goal (.ended (.error f)) (s.enter (.closing (.ok .abortedByError)))
  /-- another fault -/
  | failed {goal : Goal} {f : Fault} (ht : f.isTimeout = false) (hu : f.isUnreadable = false) :
      Followed s goal (.ended (.error f)) (s.enter (.closing (.error f)))

/-- A session goes on from every step of its exchange in one of these ways. -/
theorem follow_spec (s : Session) (goal : Goal) (next : Exchange.Next) :
    Followed s goal next (s.follow goal next).value := by
  match next, goal with
  | .going x, _ => exact .going x
  | .ended (.ok reply), .agreement => exact .agreed
  | .ended (.ok reply), .block number true => exact .completed
  | .ended (.ok reply), .block number false => exact .continued
  | .ended (.error f), goal =>
    simp only [follow, unanswered]
    cases ht : f.isTimeout with
    | true => cases goal <;> exact .timedOut ht
    | false =>
      cases hu : f.isUnreadable with
      | true => exact .unreadable hu
      | false => exact .failed ht hu

end Session

end Tftp
