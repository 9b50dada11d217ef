import Tftp.Proofs.Negotiation.Agreement
import Tftp.Proofs.Packet.RoundTrip
import Tftp.Proofs.Session.Trail

/-!
# How a session answers its request

The backend and the file may fail in any way, and the channel may lose packets and spoil them. Even
so a session that ends has an outcome, and has sent something to its client.

There is one exception. A value of an option with more digits than can be read is a fault that no
part of a session expects: it ends the session without an outcome and without a packet.

* `Deed.Regular` — what is assumed of the surroundings;
* `Session.BreaksDown` — the exception;
* `Session.answers_unless_breaksDown` — the main theorem.
-/

namespace Tftp

/-- The backend and the file may answer anything. The file can be closed, packets can be sent, and
what is received is a packet from a datagram, or no packet was there in time or could be read. -/
inductive Deed.Regular : Deed → Prop
  /-- the backend may have the file or not -/
  | opened (filename : String) (answer : Except Fault Unit) : Regular (.opened filename answer)
  /-- the file may fail -/
  | fetched (size : Int) (answer : Except Fault Bytes) : Regular (.fetched size answer)
  /-- it can be closed -/
  | closed : Regular (.closed (.ok ()))
  /-- packets can be sent -/
  | sent (packet : Draft) (now : Time) : Regular (.sent packet (.ok now))
  /-- a packet came in a datagram -/
  | decoded {datagram : Bytes} {p : Packet} (h : Packet.decode datagram = .ok p) (wait now : Time) :
      Regular (.received wait ⟨.ok p.toDraft, now⟩)
  /-- nothing came, or nothing that can be read -/
  | spoiled {f : Fault} (h : f.isTimeout = true ∨ f.isUnreadable = true) (wait now : Time) :
      Regular (.received wait ⟨.error f, now⟩)

/-- Every deed of a log is regular. -/
def Log.Regular (log : Log) : Prop :=
  ∀ d ∈ log, d.Regular

namespace Log.Regular

variable {log part : Log}

theorem left (h : Regular (log ++ part)) : log.Regular :=
  fun d hd => h d (List.mem_append_left part hd)

theorem right (h : Regular (log ++ part)) : part.Regular :=
  fun d hd => h d (List.mem_append_right log hd)

theorem allSent (h : log.Regular) : log.AllSent := by
  intro packet f hmem
  cases h _ hmem

end Log.Regular

/-! ## Exchanges

An exchange can fail for reasons that its session does not expect. In regular surroundings it does
not. -/

namespace Exchange.Ended

variable {packet : Draft} {block : Int} {log : Log}

/-- Where every write succeeds, an exchange has written its packet when it ends. -/
theorem packets_ne_nil {ending : Except Fault Draft} (h : Ended packet block log ending)
    (hsent : log.AllSent) : log.packets ≠ [] := by
  cases h with
  | answered _ h => exact List.ne_nil_of_mem (h.mem_packets _)
  | gaveUp h => exact List.ne_nil_of_mem (List.append_nil log ▸ h.mem_packets [])
  | brokeOff _ h => exact List.ne_nil_of_mem (h.mem_packets _)
  | notReported _ h => exact List.ne_nil_of_mem (h.mem_packets _)
  | notSent => exact absurd hsent (Log.not_allSent_of_mem (List.mem_append_right _ (.head _)))
  | failed _ h => exact List.ne_nil_of_mem (h.mem_packets _)
  | unclear _ h => exact List.ne_nil_of_mem (h.mem_packets _)

/-- In regular surroundings an exchange fails only because nothing came in time or because
something could not be read. -/
theorem fault_of_regular {f : Fault} (h : Ended packet block log (.error f))
    (hregular : log.Regular) : f.isTimeout = true ∨ f.isUnreadable = true := by
  cases h with
  | gaveUp => exact .inl rfl
  | brokeOff _ _ hf => exact .inr hf
  | notReported => cases hregular.right _ (.tail _ (.head _))
  | notSent => cases hregular.right _ (.head _)
  | failed =>
    cases hregular.right _ (.head _) with
    | spoiled h => exact h
  | unclear _ _ hreply =>
    -- only a reply that was never a datagram lacks the fields to tell
    cases hregular.right _ (.head _) with
    | decoded hd =>
      obtain ⟨b, hb⟩ := Packet.acknowledges_of_decode hd block
      rw [hb] at hreply
      cases hreply

end Exchange.Ended

/-! ## Sessions

That a session breaks down depends on its request and on whether the file is there. It is decided
when the options are read, before the first packet. -/

namespace Session

/-- The request is to read, the file is there, and the first fault among the options is that of a
number of too many digits. -/
def BreaksDown (p : Packet) (log : Log) : Prop :=
  ∃ q filename, p = .readRequest q ∧ HasOverlong q.options ∧ .opened filename (.ok ()) ∈ log

/-- A session ends with an outcome and with something sent, or it breaks down. -/
inductive Answers (p : Packet) (log : Log) : Except Fault Outcome → Prop
  /-- it has an outcome, and something was sent -/
  | answered (h : ¬ BreaksDown p log) (hpackets : log.packets ≠ []) (outcome : Outcome) :
      Answers p log (.ok outcome)
  /-- it has none, and nothing was sent -/
  | brokeDown (h : BreaksDown p log) (hpackets : log.packets = []) (digits : Nat) :
      Answers p log (.error (.numeralTooLong digits))

variable {peer : Address} {p : Packet} {log part : Log} {a : Agreement}
  {result : Except Fault Outcome}

/-- With options that can be used a session does not break down. -/
theorem not_breaksDown_of_negotiate {requested : Options} (ho : p.toDraft.options = some requested)
    (h : ∀ f, negotiate requested Terms.default = .error f → ∃ reason, f = .negotiation reason)
    (log : Log) : ¬ BreaksDown p log := by
  rintro ⟨q, -, rfl, hover, -⟩
  obtain rfl : q.options = requested := Option.some.inj ho
  obtain ⟨f, hn, hf⟩ := (exists_negotiate_eq_error_iff Terms.default).mpr hover
  obtain ⟨reason, hreason⟩ := h f hn
  exact hf reason hreason

/-- A request that is agreed on has no such value. -/
theorem Agrees.not_breaksDown (h : Agrees p.toDraft a) (log : Log) : ¬ BreaksDown p log := by
  obtain ⟨requested, ho, hn⟩ := h.exists_negotiate
  refine not_breaksDown_of_negotiate ho ?_ log
  intro f hf
  rw [hn] at hf
  cases hf

/-- Without a file a session does not break down. -/
theorem not_breaksDown_of_not_mem (h : ∀ filename, .opened filename (.ok ()) ∉ log) :
    ¬ BreaksDown p log := by
  rintro ⟨-, filename, -, -, hmem⟩
  exact h filename hmem

/-- A session that comes into a trouble does not break down. -/
theorem Troubled.not_breaksDown {trouble : Trouble} {terms : Terms} {fileOpen : Bool}
    (h : Troubled peer p.toDraft trouble terms fileOpen log) (answer : Except Fault Time) :
    ¬ BreaksDown p (log ++ [.sent trouble.report answer]) := by
  cases h with
  | unserved => exact not_breaksDown_of_not_mem (by simp)
  | writing => exact not_breaksDown_of_not_mem (by simp)
  | noFile => exact not_breaksDown_of_not_mem (by simp)
  | options h ho hn =>
    refine not_breaksDown_of_negotiate ho ?_ _
    intro f hf
    rw [hn] at hf
    cases hf
    exact ⟨_, rfl⟩
  | file h => exact h.agrees.not_breaksDown _

/-- The options of a request that cannot be read for another reason than a value that is no number
are those of a session that breaks down. -/
theorem answers_of_unread {filename : String} {requested : Options} {f : Fault}
    (hopcode : p.toDraft.opcode = some Opcode.readRequest.bytes)
    (ho : p.toDraft.options = some requested)
    (hn : negotiate requested Terms.default = .error f) (hf : ∀ reason, f ≠ .negotiation reason) :
    Answers p [.opened filename (.ok ())] (.error f) := by
  have hover : HasOverlong requested :=
    (exists_negotiate_eq_error_iff Terms.default).mp ⟨f, hn, hf⟩
  obtain ⟨option, -, hoption⟩ := List.exists_of_findSome?_eq_some (negotiate_eq_error_iff.mp hn)
  rcases optionFault?_eq_some hoption with ⟨-, reason, hreason⟩ | ⟨-, digits, rfl⟩
  · exact absurd hreason (hf reason)
  · cases p with
    | readRequest q =>
      obtain rfl : q.options = requested := Option.some.inj ho
      exact .brokeDown ⟨q, filename, rfl, hover, .head _⟩ rfl digits
    | _ => simp [Packet.opcode, Opcode.bytes] at hopcode

/-- The last exchange of a session gives it an outcome. An exchange that was reached has written its
packet, and in regular surroundings it fails in no way that the session does not expect. -/
theorem Reached.answers {goal : Goal} {packet : Packet} {block : Int} {ending : Except Fault Draft}
    (h : Reached peer p.toDraft a (.exchanging goal packet block) log)
    (hx : Exchanges peer a packet block part (.ended ending)) (hg : goal.Gives ending result)
    (hregular : part.Regular) : Answers p (log ++ part) result := by
  have hnot : ¬ BreaksDown p (log ++ part) := h.agrees.not_breaksDown _
  have hpackets : Log.packets (log ++ part) ≠ [] := by
    rw [Log.packets_append]
    exact List.append_ne_nil_of_right_ne_nil _ (hx.ended.packets_ne_nil hregular.allSent)
  cases hg with
  | completed => exact .answered hnot hpackets _
  | timedOut => exact .answered hnot hpackets _
  | unreadable => exact .answered hnot hpackets _
  | failed ht hu =>
    rcases hx.ended.fault_of_regular hregular with hf | hf
    · rw [hf] at ht
      cases ht
    · rw [hf] at hu
      cases hu

/-- A session that is through with its request has answered it or broken down, one case for each way
to be through. -/
theorem Concluded.answers {terms : Terms} {fileOpen : Bool}
    (h : Concluded peer p.toDraft terms fileOpen log result)
    (hp : p.opcode = .readRequest ∨ p.opcode = .writeRequest) (hregular : log.Regular) :
    Answers p log result := by
  cases h with
  | incomplete _ ho => cases p <;> simp [Packet.opcode, Packet.toDraft] at hp ho
  | unread hopcode ho hn hf => exact answers_of_unread hopcode ho hn hf
  | @reported trouble _ _ before h answer =>
    have hpackets : Log.packets (before ++ [.sent trouble.report answer]) ≠ [] := by
      cases hregular.right _ (.head _) with
      | sent packet now =>
        rw [Log.packets_append]
        exact List.append_ne_nil_of_right_ne_nil _ (List.cons_ne_nil _ _)
    cases hregular.right _ (.head _) with
    | sent packet now => exact .answered (h.not_breaksDown _) hpackets _
  | exchanged h hx hg => exact h.answers hx hg hregular.right

/-- The closing of the file changes nothing about that. -/
theorem Answers.closed (h : Answers p log result) :
    Answers p (log ++ [.closed (.ok ())]) result := by
  have hiff : BreaksDown p (log ++ [.closed (.ok ())]) ↔ BreaksDown p log := by
    simp [BreaksDown]
  have hpackets : Log.packets (log ++ [.closed (.ok ())]) = log.packets := Log.packets_concat rfl _
  cases h with
  | answered h hne outcome =>
    refine .answered (mt hiff.mp h) ?_ outcome
    rw [hpackets]
    exact hne
  | brokeDown h hnil digits =>
    refine .brokeDown (hiff.mpr h) ?_ digits
    rw [hpackets]
    exact hnil

/-- **Every request is answered**, except where a number has too many digits. A session in regular
surroundings that ends has an outcome and has sent something, whatever it was asked for and whatever
the backend and the file did. If it breaks down it has neither. -/
theorem answers_unless_breaksDown {s : Session}
    (hp : p.opcode = .readRequest ∨ p.opcode = .writeRequest)
    (run : Run (Session.start peer p.toDraft).value log s) (hregular : log.Regular)
    (hended : s.phase = .ended result) :
    (¬ BreaksDown p log → (∃ outcome, result = .ok outcome) ∧ log.packets ≠ []) ∧
      (BreaksDown p log → (∃ digits, result = .error (.numeralTooLong digits)) ∧
        log.packets = []) := by
  have hanswers : Answers p log result := by
    have hover := run.over hended
    generalize s.terms = terms at hover
    cases hover with
    | unclear h => cases p <;> simp [Packet.opcode, Packet.toDraft] at hp h
    | unopened h => exact h.answers hp hregular
    | closed h answer =>
      cases hregular.right _ (.head _) with
      | closed => exact (h.answers hp hregular.left).closed
  cases hanswers with
  | answered h hpackets outcome =>
    exact ⟨fun _ => ⟨⟨outcome, rfl⟩, hpackets⟩, fun hb => absurd hb h⟩
  | brokeDown h hpackets digits =>
    exact ⟨fun hn => absurd h hn, fun _ => ⟨⟨digits, rfl⟩, hpackets⟩⟩

/-- The file fails when it is read from. -/
def brokenFile : Log :=
  let f := Fault.internal "broken"
  [.opened (Bytes.toText [102]) (.ok ()), .fetched 512 (.error f),
    .sent (Packet.report .undefined f.message).toDraft (.ok 0), .closed (.ok ())]

/-- The file is there but cannot be read. The session reports that and is aborted by an error. -/
theorem answers_unless_breaksDown_brokenFile :
    let p := Packet.readRequest ⟨[102], octetMode, []⟩
    let s : Session := { peer := .null, phase := .ended (.ok .abortedByError) }
    (p.opcode = .readRequest ∨ p.opcode = .writeRequest) ∧
      Run (Session.start .null p.toDraft).value brokenFile s ∧ brokenFile.Regular ∧
      s.phase = .ended (.ok .abortedByError) ∧ brokenFile.packets ≠ [] := by
  intro p s
  have run : Run (Session.start .null p.toDraft).value brokenFile s := Run.of_replay rfl
  have hregular : brokenFile.Regular := by
    intro d hd
    simp only [brokenFile, List.mem_cons, List.not_mem_nil, or_false] at hd
    rcases hd with rfl | rfl | rfl | rfl
    · exact .opened _ _
    · exact .fetched _ _
    · exact .sent _ _
    · exact .closed
  have hagrees : Agrees p.toDraft ⟨Terms.default, []⟩ := ⟨rfl, [], rfl, rfl⟩
  have h := answers_unless_breaksDown (.inl rfl) run hregular rfl
  exact ⟨.inl rfl, run, hregular, rfl, (h.1 (hagrees.not_breaksDown _)).2⟩

/-! ## A session that breaks down

The exception can be met: it takes a datagram that is well-formed, with one value of so many digits.
-/

/-- A request for blocks of a size. -/
def sizedRequest (value : Bytes) : Request :=
  ⟨[102], octetMode, [(Negotiable.blockSize.bytes, value)]⟩

/-- The datagram that the request comes in. -/
def sizedDatagram (value : Bytes) : Bytes :=
  0 :: 1 :: [[102], octetMode, Negotiable.blockSize.bytes, value].flatMap fun field => field ++ [0]

/-- The request is read from its datagram, whatever its value is, as long as no null byte cuts it
short. -/
theorem decode_sizedDatagram {value : Bytes} (h : 0 ∉ value) :
    Packet.decode (sizedDatagram value) = .ok (.readRequest (sizedRequest value)) := by
  have hname : 0 ∉ Negotiable.blockSize.bytes ∧
      Negotiable.blockSize.bytes.toLower = Negotiable.blockSize.bytes := by
    decide +kernel
  have hnull : ∀ field ∈ Draft.optionFields (sizedRequest value).options, 0 ∉ field := by
    refine List.forall_mem_cons.mpr ⟨hname.1, List.forall_mem_cons.mpr ⟨h, ?_⟩⟩
    simp
  have hlower : ∀ option ∈ (sizedRequest value).options, option.1.toLower = option.1 := by
    refine List.forall_mem_cons.mpr ⟨hname.2, ?_⟩
    simp
  have hdatagram : sizedDatagram value = [0, 1] ++ [102, 0] ++ octetMode ++ [0] ++
      Bytes.terminated (Draft.optionFields (sizedRequest value).options) := by
    simp [sizedDatagram, sizedRequest]
  rw [hdatagram, Packet.decode_options hnull hlower (List.nodup_singleton _)]
  rfl

/-- Ones, one more than can be read. -/
def overlong : Bytes :=
  List.replicate (Numeral.maxDigits + 1) 49

/-- So many ones are a value that cannot be read. -/
theorem hasOverlong_sizedRequest : HasOverlong (sizedRequest overlong).options := by
  refine ⟨[], _, [], rfl, ⟨.blockSize, overlong, rfl, .plain, ⟨?_, ?_⟩, ?_⟩, nofun⟩
  · exact List.cons_ne_nil _ _
  · intro b hb
    rw [List.eq_of_mem_replicate hb]
    rfl
  · rw [overlong, List.length_replicate]
    exact Nat.lt_succ_self _

/-- With options that cannot be read for another reason than a value that is no number, the file is
closed and nothing else is done. -/
theorem Opened.of_unread {s t : Session} {requested : Options} {f : Fault}
    (h : Opened s (some requested) (.ok ()) t) (hn : negotiate requested s.terms = .error f)
    (hf : ∀ reason, f ≠ .negotiation reason) : t.phase = .closing (.error f) := by
  cases h with
  | incomplete ho => cases ho
  | rejected ho hn' =>
    obtain rfl := Option.some.inj ho
    rw [hn] at hn'
    exact absurd (Except.error.inj hn') (hf _)
  | failed ho hn' =>
    obtain rfl := Option.some.inj ho
    rw [hn] at hn'
    obtain rfl := Except.error.inj hn'
    rfl
  | passedOver ho hn' =>
    obtain rfl := Option.some.inj ho
    rw [hn] at hn'
    cases hn'
  | agreed ho hn' =>
    obtain rfl := Option.some.inj ho
    rw [hn] at hn'
    cases hn'

/-- A request that comes in a datagram breaks its session down: nothing is sent, and the session
ends without an outcome. -/
theorem exists_breaksDown :
    ∃ (log : Log) (s : Session) (f : Fault),
      Packet.decode (sizedDatagram overlong) = .ok (.readRequest (sizedRequest overlong)) ∧
        Run (Session.start .null (Packet.readRequest (sizedRequest overlong)).toDraft).value log s ∧
        log.Regular ∧ s.phase = .ended (.error f) ∧ log.packets = [] := by
  have hdecode :
      Packet.decode (sizedDatagram overlong) = .ok (.readRequest (sizedRequest overlong)) := by
    apply decode_sizedDatagram
    intro hmem
    cases List.eq_of_mem_replicate hmem
  obtain ⟨f, hn, hf⟩ :=
    (exists_negotiate_eq_error_iff Terms.default).mpr hasOverlong_sizedRequest
  let s := (Session.start .null (Packet.readRequest (sizedRequest overlong)).toDraft).value
  have hopened := s.opened_spec (Bytes.toText [102]) (some (sizedRequest overlong).options) (.ok ())
  -- the file is there and the number is refused, so the file is closed at once
  have hclosing := hopened.of_unread hn hf
  have run := (Run.start.step (step_of_opening (s := s) rfl (.ok ()))).step
    (step_of_closing hclosing (.ok ()))
  rw [value_closed] at run
  refine ⟨_, _, f, hdecode, run, ?_, rfl, rfl⟩
  intro d hd
  rcases List.mem_pair.mp hd with rfl | rfl
  · exact .opened _ _
  · exact .closed

end Session

end Tftp
