import Tftp.Proofs.Exchange.Trail
import Tftp.Proofs.Session.Run

/-!
# What a session leaves behind

The log of a session is put together from few parts: the answer of the backend, the runs of its
exchanges with the reads from the file between them, one report at most, and the closing of the
file. This module says so once, for every request and whatever the surroundings answer. What is to
be known about logs follows by going through the parts, without the steps of the session.

* `Session.Trouble` — what a session reports an error for, with the code and the words;
* `Session.Reached` — the log up to a read from the file, or up to an exchange;
* `Session.Troubled`, `Session.Concluded` and `Session.Over` — the log up to a report, up to the
  result of the session, and up to its end;
* `Session.Trail` — the log of a session wherever it stands.

`Trail.step` goes through the phases, and `Run.trail` is what other modules use.
-/

namespace Tftp

/-- Of which kind a fault is that a backend refuses a request with. Failed calls of the operating
system are told apart by their numbers. -/
def Fault.refusal : Fault → BackendKind
  | .system e =>
    match e.number? with
    | some 2 | some 20 | some 21 => .notFound
    | some 1 | some 13 => .permissionDenied
    | _ => .other
  | .backend kind _ => kind
  | _ => .other

theorem Fault.fst_rejection (f : Fault) : f.rejection.1 = f.refusal := by
  cases f with
  | system e =>
    simp only [rejection, refusal, SystemError.kind, SystemError.noEntry, SystemError.notDirectory,
      SystemError.isDirectory, SystemError.accessDenied, SystemError.notPermitted]
    cases e.number? with
    | none => rfl
    | some n => grind
  | _ => rfl

namespace Session

/-! ## Troubles -/

/-- What a session reports an error for. -/
inductive Trouble where
  /-- a request of a kind that is not served -/
  | unserved
  /-- a request to write -/
  | writing
  /-- the backend has no file -/
  | noFile (fault : Fault)
  /-- an option has a value that is no number -/
  | options (reason : String)
  /-- the file cannot be read -/
  | file (fault : Fault)
  /-- a reply cannot be read -/
  | reply (fault : Fault)

namespace Trouble

/-- The code that a trouble is reported with. -/
def code : Trouble → ErrorCode
  | unserved => .illegalOperation
  | writing => .undefined
  | noFile f =>
    match f.refusal with
    | .notFound => .fileNotFound
    | .permissionDenied => .accessViolation
    | .other => .undefined
  | options _ => .optionRefused
  | file _ | reply _ => .undefined

/-- The words that a trouble is reported with. -/
def message : Trouble → Bytes
  | unserved => Fault.messageOfText "illegal operation"
  | writing => Bytes.ofText "not supported"
  | noFile f => Fault.messageOfText f.rejection.2
  | options reason => Fault.messageOfText reason
  | file f | reply f => f.message

/-- The packet that reports a trouble. -/
def report (trouble : Trouble) : Draft :=
  (Packet.report trouble.code trouble.message).toDraft

end Trouble

/-! ## The parts of a log -/

/-- Where a session with a file and with its terms stands between two parts of its log. -/
inductive Stage where
  /-- the payload of a block is read next -/
  | fetching (number : UInt16)
  /-- a packet is exchanged next -/
  | exchanging (goal : Goal) (packet : Packet) (block : Int)

/-- The block to go on with after a goal, if it is not the last. -/
def Goal.next? : Goal → Option UInt16
  | .agreement => some 1
  | .block number false => some (number + 1)
  | .block _ true => none

/-- The result of a session with the end of an exchange, if it is not to go on. -/
inductive Goal.Gives : Goal → Except Fault Draft → Except Fault Outcome → Prop
  /-- the last block was acknowledged -/
  | completed {number : UInt16} {reply : Draft} :
      Gives (.block number true) (.ok reply) (.ok .completed)
  /-- the copies were exhausted -/
  | timedOut {goal : Goal} {f : Fault} (h : f.isTimeout = true) :
      Gives goal (.error f) (.ok .abortedByTimeout)
  /-- a reply could not be read -/
  | unreadable {goal : Goal} {f : Fault} (h : f.isUnreadable = true) :
      Gives goal (.error f) (.ok .abortedByError)
  /-- another fault -/
  | failed {goal : Goal} {f : Fault} (ht : f.isTimeout = false) (hu : f.isUnreadable = false) :
      Gives goal (.error f) (.error f)

section

variable (peer : Address) (request : Draft)

/-- The request is to read, and its options lead to an agreement. -/
structure Agrees (a : Agreement) : Prop where
  /-- it is a request to read -/
  opcode_eq : request.opcode = some Opcode.readRequest.bytes
  /-- its options come to the agreement -/
  exists_negotiate : ∃ requested, request.options = some requested ∧
    negotiate requested Terms.default = .ok a

/-- A run of the exchange of a packet, under the terms of an agreement. -/
abbrev Exchanges (a : Agreement) (packet : Packet) (block : Int) (log : Log)
    (next : Exchange.Next) : Prop :=
  Exchange.Run (.going (.start peer packet.toDraft block (.ofSeconds a.terms.timeout))) log next

/-- A session with an agreement reaches a stage with a log. -/
inductive Reached (a : Agreement) : Stage → Log → Prop
  /-- there is nothing to acknowledge -/
  | passedOver {filename : String} (h : Agrees request a) (ha : a.accepted = []) :
      Reached a (.fetching 1) [.opened filename (.ok ())]
  /-- the options that were agreed on are acknowledged first -/
  | agreed {filename : String} (h : Agrees request a) (ha : a.accepted ≠ []) :
      Reached a (.exchanging .agreement (.optionAck a.accepted) 0) [.opened filename (.ok ())]
  /-- what is read is sent as a block -/
  | fetched {number : UInt16} {log : Log} (h : Reached a (.fetching number) log) (payload : Bytes) :
      Reached a (.exchanging (.block number (payload.length < a.terms.blockSize))
        (.data (Bytes.ofWord number) payload) number.toNat)
        (log ++ [.fetched a.terms.blockSize (.ok payload)])
  /-- a packet was acknowledged, and there is a block to go on with -/
  | answered {goal : Goal} {packet : Packet} {block : Int} {number : UInt16} {log part : Log}
      {reply : Draft} (h : Reached a (.exchanging goal packet block) log)
      (hx : Exchanges peer a packet block part (.ended (.ok reply)))
      (hnext : goal.next? = some number) : Reached a (.fetching number) (log ++ part)

/-- A session comes into trouble with a log, under some terms and with the file open or not. -/
inductive Troubled : Trouble → Terms → Bool → Log → Prop
  /-- it is known from the request alone -/
  | unserved {opcode : Bytes} (h : request.opcode = some opcode)
      (hread : opcode ≠ Opcode.readRequest.bytes)
      (hwrite : opcode ≠ Opcode.writeRequest.bytes) :
      Troubled .unserved .default false []
  | writing (h : request.opcode = some Opcode.writeRequest.bytes) :
      Troubled .writing .default false []
  /-- the file is not there -/
  | noFile {filename : String} {f : Fault}
      (h : request.opcode = some Opcode.readRequest.bytes) :
      Troubled (.noFile f) .default false [.opened filename (.error f)]
  /-- the file is there, the options are not agreed on -/
  | options {filename : String} {requested : Options} {reason : String}
      (h : request.opcode = some Opcode.readRequest.bytes) (ho : request.options = some requested)
      (hn : negotiate requested Terms.default = .error (.negotiation reason)) :
      Troubled (.options reason) .default true [.opened filename (.ok ())]
  /-- a read fails, with some blocks acknowledged -/
  | file {a : Agreement} {number : UInt16} {log : Log} {f : Fault}
      (h : Reached peer request a (.fetching number) log) :
      Troubled (.file f) a.terms true (log ++ [.fetched a.terms.blockSize (.error f)])

/-- The result of a session is there with a log, under some terms and with the file open or not. -/
inductive Concluded : Terms → Bool → Log → Except Fault Outcome → Prop
  /-- a request without options -/
  | incomplete {filename : String} (h : request.opcode = some Opcode.readRequest.bytes)
      (ho : request.options = none) :
      Concluded .default true [.opened filename (.ok ())] (.error (.missingField .options))
  /-- the options cannot be read, for another reason than a value that is no number -/
  | unread {filename : String} {requested : Options} {f : Fault}
      (h : request.opcode = some Opcode.readRequest.bytes) (ho : request.options = some requested)
      (hn : negotiate requested Terms.default = .error f)
      (hf : ∀ reason, f ≠ .negotiation reason) :
      Concluded .default true [.opened filename (.ok ())] (.error f)
  /-- a trouble was reported, if that succeeded -/
  | reported {trouble : Trouble} {terms : Terms} {fileOpen : Bool} {log : Log}
      (h : Troubled peer request trouble terms fileOpen log) (answer : Except Fault Time) :
      Concluded terms fileOpen (log ++ [.sent trouble.report answer])
        (answer.map fun _ => .abortedByError)
  /-- an exchange was the last one -/
  | exchanged {a : Agreement} {goal : Goal} {packet : Packet} {block : Int} {log part : Log}
      {ending : Except Fault Draft} {result : Except Fault Outcome}
      (h : Reached peer request a (.exchanging goal packet block) log)
      (hx : Exchanges peer a packet block part (.ended ending)) (hg : goal.Gives ending result) :
      Concluded a.terms true (log ++ part) result

/-- A session is over with a log and a result. -/
inductive Over : Terms → Log → Except Fault Outcome → Prop
  /-- the request lacks what every request has -/
  | unclear {field : Field} (h : request.opcode = none ∨ request.filename = none) :
      Over .default [] (.error (.missingField field))
  /-- there was no file to close -/
  | unopened {terms : Terms} {log : Log} {result : Except Fault Outcome}
      (h : Concluded peer request terms false log result) : Over terms log result
  /-- the file was closed, and a fault of that takes the place of the result -/
  | closed {terms : Terms} {log : Log} {result : Except Fault Outcome}
      (h : Concluded peer request terms true log result) (answer : Except Fault Unit) :
      Over terms (log ++ [.closed answer]) (answer.bind fun _ => result)

end

/-- The log of a session, one case for each phase. -/
inductive Trail (request : Draft) (log : Log) (s : Session) : Prop
  /-- the file is not opened yet -/
  | opening {filename : String} (hp : s.phase = .opening filename request.options)
      (hopcode : request.opcode = some Opcode.readRequest.bytes)
      (hterms : s.terms = Terms.default) (hlog : log = [])
  /-- a block is read next -/
  | fetching {a : Agreement} {number : UInt16} (hp : s.phase = .fetching number)
      (hterms : s.terms = a.terms) (h : Reached s.peer request a (.fetching number) log)
  /-- a packet is exchanged -/
  | exchanging {a : Agreement} {goal : Goal} {packet : Packet} {block : Int} {x : Exchange}
      {before part : Log} (hp : s.phase = .exchanging goal x) (hterms : s.terms = a.terms)
      (h : Reached s.peer request a (.exchanging goal packet block) before)
      (hx : Exchanges s.peer a packet block part (.going x)) (hlog : log = before ++ part)
  /-- a trouble is about to be reported -/
  | reporting {trouble : Trouble} {fileOpen : Bool}
      (hp : s.phase = .reporting trouble.code trouble.message fileOpen)
      (h : Troubled s.peer request trouble s.terms fileOpen log)
  /-- the file is about to be closed -/
  | closing {result : Except Fault Outcome} (hp : s.phase = .closing result)
      (h : Concluded s.peer request s.terms true log result)
  /-- it is over -/
  | ended {result : Except Fault Outcome} (hp : s.phase = .ended result)
      (h : Over s.peer request s.terms log result)

variable {peer : Address} {request : Draft} {log : Log} {s t : Session} {d : Deed} {a : Agreement}

/-- The agreement is the one that the options of the request lead to. -/
theorem Agrees.negotiate_eq {q : Request} (h : Agrees (Packet.readRequest q).toDraft a) :
    negotiate q.options Terms.default = .ok a := by
  obtain ⟨requested, ho, hn⟩ := h.exists_negotiate
  obtain rfl : q.options = requested := Option.some.inj ho
  exact hn

/-- A session gets to the transfer on a request to read with options that can be used. -/
theorem Reached.agrees {stage : Stage} (h : Reached peer request a stage log) :
    Agrees request a := by
  induction h with
  | passedOver h => exact h
  | agreed h => exact h
  | fetched _ _ ih => exact ih
  | answered _ _ _ ih => exact ih

theorem Reached.opcode_eq {stage : Stage} (h : Reached peer request a stage log) :
    request.opcode = some Opcode.readRequest.bytes :=
  h.agrees.opcode_eq

/-! ## Every run leaves a trail -/

/-- A session begins before its file is opened, or with a request that it does not serve. -/
theorem trail_start (peer : Address) (request : Draft) :
    Trail request [] (Session.start peer request).value := by
  rw [Session.start]
  split
  · next hopcode => exact .ended rfl (.unclear (.inl hopcode))
  · next opcode hopcode =>
    dsimp only
    split
    · next hread =>
      split
      · next hfilename => exact .ended rfl (.unclear (.inr hfilename))
      · exact .opening rfl (hread ▸ hopcode) rfl rfl
    · next hread =>
      split
      · next hwrite => exact .reporting rfl (.writing (hwrite ▸ hopcode))
      · next hwrite => exact .reporting rfl (.unserved hopcode hread hwrite)

theorem Trouble.code_noFile (f : Fault) :
    (Trouble.noFile f).code = (Fault.backend f.rejection.1 f.rejection.2).code := by
  simp only [code, ← Fault.fst_rejection]
  cases f.rejection.1 <;> rfl

/-- From the answer of its backend a session goes on along its trail. A file that is refused and
options with a faulty value are troubles; if there is an agreement, a stage is reached. -/
theorem Opened.trail {filename : String} {answer : Except Fault Unit}
    (h : Opened s request.options answer t)
    (hopcode : request.opcode = some Opcode.readRequest.bytes)
    (hterms : s.terms = Terms.default) : Trail request [.opened filename answer] t := by
  cases h with
  | @refused f =>
    have htrouble : Troubled s.peer request (.noFile f) s.terms false
        [.opened filename (.error f)] := hterms ▸ .noFile hopcode
    refine .reporting ?_ htrouble
    rw [Trouble.code_noFile]
    rfl
  | incomplete ho => exact .closing rfl (hterms ▸ .incomplete hopcode ho)
  | @rejected requested reason ho hn =>
    rw [hterms] at hn
    have htrouble : Troubled s.peer request (.options reason) s.terms true
        [.opened filename (.ok ())] := hterms ▸ .options hopcode ho hn
    exact .reporting (by rfl) htrouble
  | failed ho hn hf =>
    rw [hterms] at hn
    exact .closing rfl (hterms ▸ .unread hopcode ho hn hf)
  | passedOver ho hn ha =>
    exact .fetching rfl rfl (.passedOver ⟨hopcode, _, ho, hterms ▸ hn⟩ ha)
  | agreed ho hn ha =>
    exact .exchanging rfl rfl (.agreed ⟨hopcode, _, ho, hterms ▸ hn⟩ ha) .start
      (List.append_nil _).symm

/-- From a step of its exchange a session goes on along its trail. -/
theorem Followed.trail {goal : Goal} {packet : Packet} {block : Int}
    {before part : Log} {next : Exchange.Next} (h : Followed s goal next t)
    (hterms : s.terms = a.terms)
    (hr : Reached s.peer request a (.exchanging goal packet block) before)
    (hx : Exchanges s.peer a packet block part next) : Trail request (before ++ part) t := by
  have conclude {ending : Except Fault Draft} {result : Except Fault Outcome}
      (hx : Exchanges s.peer a packet block part (.ended ending)) (hg : goal.Gives ending result) :
      Trail request (before ++ part) (s.enter (.closing result)) :=
    .closing rfl (hterms ▸ .exchanged hr hx hg)
  cases h with
  | going x => exact .exchanging rfl hterms hr hx rfl
  | agreed => exact .fetching rfl hterms (.answered hr hx rfl)
  | continued => exact .fetching rfl hterms (.answered hr hx rfl)
  | completed => exact conclude hx .completed
  | timedOut h => exact conclude hx (.timedOut h)
  | unreadable h => exact conclude hx (.unreadable h)
  | failed ht hu => exact conclude hx (.failed ht hu)

/-- From a read of its file a session goes on along its trail. -/
theorem trail_fetched {number : UInt16} (hterms : s.terms = a.terms)
    (h : Reached s.peer request a (.fetching number) log) (answer : Except Fault Bytes) :
    Trail request (log ++ [.fetched s.terms.blockSize answer]) (s.fetched number answer).value := by
  cases answer with
  | error f =>
    have htrouble : Troubled s.peer request (.file f) a.terms true _ := .file h
    rw [← hterms] at htrouble
    exact .reporting (by rfl) htrouble
  | ok payload =>
    have hr := h.fetched payload
    rw [← hterms] at hr
    refine .exchanging rfl hterms hr ?_ (List.append_nil _).symm
    rw [hterms]
    exact .start

/-- Each step goes on along the trail. -/
theorem Trail.step (h : Trail request log s) (hs : s.Step d t) : Trail request (log ++ [d]) t := by
  cases h with
  | opening hp hopcode hterms hlog =>
    obtain ⟨answer, rfl, rfl⟩ := hs.of_opening hp
    rw [hlog]
    exact (opened_spec s _ _ answer).trail hopcode hterms
  | fetching hp hterms h =>
    obtain ⟨answer, rfl, rfl⟩ := hs.of_fetching hp
    exact trail_fetched hterms h answer
  | exchanging hp hterms h hx hlog =>
    -- the deed belongs to the exchange, whose own run grows by it
    obtain ⟨next, hx', rfl⟩ := hs.of_exchanging hp
    rw [hlog, List.append_assoc]
    exact (follow_spec s _ next).trail hterms h (hx.step hx')
  | @reporting trouble fileOpen hp h =>
    obtain ⟨answer, rfl, rfl⟩ := hs.of_reporting hp
    rw [value_reported]
    cases fileOpen with
    | true => exact .closing rfl (.reported h answer)
    | false => exact .ended rfl (.unopened (.reported h answer))
  | closing hp h =>
    obtain ⟨answer, rfl, rfl⟩ := hs.of_closing hp
    rw [value_closed]
    exact .ended rfl (.closed h answer)
  | ended hp => exact absurd hs (not_step_of_ended hp)

/-- Before the file is opened nothing was done. -/
theorem Trail.log_eq_nil (h : Trail request log s) {filename : String} {options : Option Options}
    (hp : s.phase = .opening filename options) : log = [] := by
  cases h with
  | opening _ _ _ hlog => exact hlog
  | _ hp' => rw [hp] at hp'; cases hp'

/-- **A session leaves a trail**, whatever it was asked for and was answered. -/
theorem Run.trail (run : Run (Session.start peer request).value log s) : Trail request log s := by
  induction run with
  | start => exact trail_start peer request
  | step run h ih => exact ih.step h

/-- The log and the result of a session that is over. -/
theorem Run.over {result : Except Fault Outcome}
    (run : Run (Session.start peer request).value log s)
    (hp : s.phase = .ended result) : Over s.peer request s.terms log result := by
  cases run.trail with
  | ended hp' h =>
    rw [hp] at hp'
    cases hp'
    exact h
  | _ hp' => rw [hp] at hp'; cases hp'

end Session

end Tftp
