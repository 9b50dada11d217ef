import Mathlib.Data.List.Infix
import Mathlib.Logic.Basic
import Tftp.Exchange
import Tftp.Proofs.Packet.Grammar

/-!
# Runs of an exchange in any surroundings

What an exchange asks for is fixed by `Exchange.call`. What it is answered is up to its
surroundings. This module says what runs there are when nothing is assumed of the surroundings, so
that a theorem about all runs holds for every reader and writer:

* `Deed` and `Log` — one call together with the answer that it got, and the deeds of a run;
* `Log.Always` — every deed of a log, with the deeds before it, is as some rule says;
* `Exchange.Step` and `Exchange.Run` — a call is made and gone on from with some answer, and steps
  one after the other.

The rest of the module turns steps around: from the phase an exchange is in, what its next deed is
and which state it comes to (`Step.of_waiting`, `received_spec` and their companions). Later modules
argue from these and never unfold `Exchange.call`.
-/

namespace Tftp

/-! ## Deeds and logs

A log has the calls with their answers, and no states. Two runs with the same log had the same
surroundings, and what a run comes to is a function of its log. -/

/-- One call of an exchange or a session, with the answer. -/
inductive Deed where
  /-- the backend was asked for the file -/
  | opened (filename : String) (answer : Except Fault Unit)
  /-- the file was read from -/
  | fetched (size : Int) (answer : Except Fault Bytes)
  /-- the file was closed -/
  | closed (answer : Except Fault Unit)
  /-- a packet was written, or its writing failed -/
  | sent (packet : Draft) (answer : Except Fault Time)
  /-- a packet was waited for -/
  | received (wait : Time) (reception : Reception)

/-- The deeds of a run, the earliest first. -/
abbrev Log := List Deed

/-- The packet that a deed wrote, with the time; a write that failed wrote nothing. -/
def Deed.writing? : Deed → Option (Draft × Time)
  | sent packet (.ok now) => some (packet, now)
  | _ => none

/-- The reception that a deed ended with. -/
def Deed.reception? : Deed → Option Reception
  | received _ r => some r
  | _ => none

namespace Log

/-- The packets that were written, each with its time. -/
def writings (log : Log) : List (Draft × Time) :=
  log.filterMap Deed.writing?

/-- The packets that were written, the earliest first. -/
def packets (log : Log) : List Draft :=
  log.writings.map Prod.fst

/-- What was received. -/
def receptions (log : Log) : List Reception :=
  log.filterMap Deed.reception?

@[simp] theorem writings_append (l m : Log) : writings (l ++ m) = writings l ++ writings m :=
  List.filterMap_append

@[simp] theorem packets_append (l m : Log) : packets (l ++ m) = packets l ++ packets m := by
  rw [packets, writings_append, List.map_append]
  rfl

/-- A deed that wrote nothing adds no packet. -/
theorem packets_concat {d : Deed} (h : d.writing? = none) (log : Log) :
    packets (log ++ [d]) = log.packets := by
  simp [packets, writings, h]

@[simp] theorem receptions_append (l m : Log) :
    receptions (l ++ m) = receptions l ++ receptions m :=
  List.filterMap_append

/-- Every deed of a log, with the deeds before it, is as a rule says. -/
def Always (rule : Log → Deed → Prop) (log : Log) : Prop :=
  ∀ before d, before ++ [d] <+: log → rule before d

theorem always_nil (rule : Log → Deed → Prop) : Always rule [] := by
  intro before d h
  have := List.prefix_nil.mp h
  simp at this

/-- A rule is kept by one deed more exactly when it was kept and that deed keeps it. -/
theorem always_concat {rule : Log → Deed → Prop} {log : Log} {d : Deed} :
    Always rule (log ++ [d]) ↔ Always rule log ∧ rule log d := by
  constructor
  · intro h
    refine ⟨fun before e hb => h before e (hb.trans (List.prefix_append log [d])), ?_⟩
    exact h log d List.prefix_rfl
  · rintro ⟨hlog, hd⟩ before e hb
    rcases List.prefix_concat_iff.mp hb with heq | hpre
    · obtain ⟨rfl, he⟩ := List.append_inj' heq rfl
      obtain rfl := List.singleton_injective he
      exact hd
    · exact hlog before e hpre

/-- The same for a deed at the beginning, which the rule for the deeds after it knows of. -/
theorem always_cons {rule : Log → Deed → Prop} {d : Deed} {log : Log} :
    Always rule (d :: log) ↔ rule [] d ∧ Always (fun before => rule (d :: before)) log := by
  constructor
  · intro h
    refine ⟨h [] d ⟨log, rfl⟩, fun before e hb => h (d :: before) e ?_⟩
    exact (List.prefix_cons_inj d).mpr hb
  · rintro ⟨hd, hlog⟩ before e hb
    cases before with
    | nil =>
      obtain rfl := (List.cons_prefix_cons.mp hb).1
      exact hd
    | cons d' before =>
      obtain ⟨rfl, hrest⟩ := List.cons_prefix_cons.mp hb
      exact hlog before e hrest

/-- A rule is kept in two parts when the second one is judged with the first before it. -/
theorem always_append {rule : Log → Deed → Prop} {l m : Log} :
    Always rule (l ++ m) ↔ Always rule l ∧ Always (fun before => rule (l ++ before)) m := by
  induction l generalizing rule with
  | nil => exact ⟨fun h => ⟨always_nil rule, h⟩, And.right⟩
  | cons d l ih => rw [List.cons_append, always_cons, ih, always_cons, and_assoc]; rfl

end Log

/-! ## Acknowledgements -/

/-- A reply is the acknowledgement with a number. -/
def Draft.IsAck (reply : Draft) (number : Int) : Prop :=
  reply.opcode = some Opcode.ack.bytes ∧
    ∃ bytes w, reply.block = some bytes ∧ bytes.toWord? = some w ∧ (w.toNat : Int) = number

/-- A reply is accepted exactly when it is the acknowledgement of the block. The numbers are
compared as they are on the wire, where they wrap around. -/
theorem Draft.acknowledges_eq_true_iff {reply : Draft} {block : Int} :
    reply.acknowledges block = .ok true ↔ reply.IsAck block := by
  unfold acknowledges IsAck
  constructor
  · intro h
    split at h
    · cases h
    · next opcode ho =>
      split at h
      · cases h
      · next hack =>
        split at h
        · cases h
        · next bytes hb =>
          split at h
          · cases h
          · next w hw =>
            refine ⟨?_, bytes, w, hb, hw, ?_⟩
            · rw [ho, not_not.mp hack]
            · simpa using h
  · rintro ⟨ho, bytes, w, hb, hw, hn⟩
    rw [ho, hb]
    simp [hw, hn]

/-- A packet from a datagram always tells whether it acknowledges a block. -/
theorem Packet.acknowledges_of_decode {datagram : Bytes} {p : Packet}
    (h : Packet.decode datagram = .ok p) (block : Int) :
    ∃ b, p.toDraft.acknowledges block = .ok b := by
  -- only the acknowledgement is asked for its number, and a datagram has two bytes for that
  cases p with
  | ack bytes =>
    have hsome : bytes.toWord?.isSome := by
      rw [Bytes.isSome_toWord?, length_of_decode_ack h]
      rfl
    obtain ⟨w, hw⟩ := Option.isSome_iff_exists.mp hsome
    refine ⟨(w.toNat : Int) == block, ?_⟩
    simp [Draft.acknowledges, toDraft, Opcode.bytes, hw]
  | _ => exact ⟨false, rfl⟩

theorem Fault.isUnreadable_of_isTimeout {f : Fault} (h : f.isTimeout = true) :
    f.isUnreadable = false := by
  cases f <;> first | rfl | cases h

/-! ## Steps of an exchange

A step is a call with any answer of its kind. A run is built from its end, since what it comes to is
asked for more often than how it begins. -/

namespace Exchange

/-- An exchange makes its next call and goes on from an answer. -/
inductive Step (x : Exchange) : Deed → Next → Prop where
  /-- it writes a packet, and goes on from whether that succeeded -/
  | sent {packet : Draft} {resume : Except Fault Time → Noted Next}
      (h : x.call = .send packet resume) (answer : Except Fault Time) :
      Step x (.sent packet answer) (resume answer).value
  /-- it waits for a packet, and goes on from what came -/
  | received {wait : Time} {resume : Reception → Noted Next}
      (h : x.call = .receive wait resume) (r : Reception) :
      Step x (.received wait r) (resume r).value

/-- An exchange comes to a state with a log of deeds. -/
inductive Run (start : Next) : Log → Next → Prop where
  /-- before the first step -/
  | start : Run start [] start
  /-- with one step more -/
  | step {log : Log} {x : Exchange} {d : Deed} {next : Next} (run : Run start log (.going x))
      (h : x.Step d next) : Run start (log ++ [d]) next

variable {x : Exchange} {d : Deed} {next : Next}

/-- An exchange can go on from any answer to the writing of its packet. -/
theorem step_of_sending (hp : x.phase = .sending) (answer : Except Fault Time) :
    x.Step (.sent x.packet answer) (x.sent answer).value :=
  .sent (by rw [call, hp]) answer

/-- An exchange can go on from any reception. -/
theorem step_of_waiting {now deadline : Time} (hp : x.phase = .waiting now deadline)
    (r : Reception) : x.Step (.received (deadline - now) r) (x.received deadline r).value :=
  .received (by rw [call, hp]) r

/-- About to send, an exchange writes its packet. -/
theorem Step.of_sending (h : x.Step d next) (hp : x.phase = .sending) :
    ∃ answer, d = .sent x.packet answer ∧ next = (x.sent answer).value := by
  cases h with
  | sent hc answer =>
    simp only [call, hp, Call.send.injEq] at hc
    obtain ⟨rfl, rfl⟩ := hc
    exact ⟨answer, rfl, rfl⟩
  | received hc r =>
    simp only [call, hp] at hc
    cases hc

/-- While it waits, an exchange receives for the time that is left. -/
theorem Step.of_waiting {now deadline : Time} (h : x.Step d next)
    (hp : x.phase = .waiting now deadline) :
    ∃ r, d = .received (deadline - now) r ∧ next = (x.received deadline r).value := by
  cases h with
  | sent hc answer =>
    simp only [call, hp] at hc
    cases hc
  | received hc r =>
    simp only [call, hp, Call.receive.injEq] at hc
    obtain ⟨rfl, rfl⟩ := hc
    exact ⟨r, rfl, rfl⟩

/-- About to report, an exchange writes the error packet and ends with a fault. -/
theorem Step.of_reporting {f : Fault} (h : x.Step d next) (hp : x.phase = .reporting f) :
    ∃ answer, d = .sent (Packet.report .undefined f.message).toDraft answer ∧
      next = (reported f answer).value := by
  cases h with
  | sent hc answer =>
    simp only [call, hp, Call.send.injEq] at hc
    obtain ⟨rfl, rfl⟩ := hc
    exact ⟨answer, rfl, rfl⟩
  | received hc r =>
    simp only [call, hp] at hc
    cases hc

/-- The state of an exchange while time is left, or after it. -/
theorem value_await_of_lt (x : Exchange) {now deadline : Time} (h : now < deadline) :
    (x.await now deadline).value = .going { x with phase := .waiting now deadline } := by
  rw [await, if_pos h]
  rfl

/-- Once the time is over the next copy is due. -/
theorem value_await_of_le (x : Exchange) {now deadline : Time} (h : deadline ≤ now) :
    (x.await now deadline).value = x.retry.value := by
  rw [await, if_neg (Int.not_lt.mpr h)]

theorem value_retry_of_lt (x : Exchange) (h : x.attempt < maxAttempts) :
    x.retry.value = .going { x with attempt := x.attempt + 1, phase := .sending } := by
  rw [retry, if_pos h]

theorem value_retry_of_le (x : Exchange) (h : maxAttempts ≤ x.attempt) :
    x.retry.value = .ended (.error exhausted) := by
  rw [retry, if_neg (Nat.not_lt.mpr h)]
  rfl

/-- What a reception means for an exchange, one case for each way on. -/
inductive Received (x : Exchange) (deadline : Time) : Reception → Next → Prop where
  /-- nothing came, and the next copy is due -/
  | timedOut {f : Fault} {now : Time} (h : f.isTimeout = true) :
      Received x deadline ⟨.error f, now⟩ x.retry.value
  /-- what came cannot be read, and is reported -/
  | unreadable {f : Fault} {now : Time} (h : f.isUnreadable = true) :
      Received x deadline ⟨.error f, now⟩ (.going { x with phase := .reporting f })
  /-- a fault of another kind -/
  | failed {f : Fault} {now : Time} (ht : f.isTimeout = false) (hu : f.isUnreadable = false) :
      Received x deadline ⟨.error f, now⟩ (.ended (.error f))
  /-- a reply that does not tell what it is -/
  | unclear {reply : Draft} {f : Fault} {now : Time} (h : reply.acknowledges x.block = .error f) :
      Received x deadline ⟨.ok reply, now⟩ (.ended (.error f))
  /-- the acknowledgement -/
  | accepted {reply : Draft} {now : Time} (h : reply.IsAck x.block) :
      Received x deadline ⟨.ok reply, now⟩ (.ended (.ok reply))
  /-- any other reply, which is discarded -/
  | discarded {reply : Draft} {now : Time} (h : reply.acknowledges x.block = .ok false) :
      Received x deadline ⟨.ok reply, now⟩ (x.await now deadline).value

/-- An exchange goes on from every reception in one of these ways. -/
theorem received_spec (x : Exchange) (deadline : Time) (r : Reception) :
    Received x deadline r (x.received deadline r).value := by
  obtain ⟨outcome, now⟩ := r
  cases outcome with
  | error f =>
    cases ht : f.isTimeout with
    | true =>
      simp only [received, ht, if_true]
      exact .timedOut ht
    | false =>
      cases hu : f.isUnreadable with
      | true =>
        simp only [received, ht, hu, if_true, Bool.false_eq_true, if_false]
        exact .unreadable hu
      | false =>
        simp only [received, ht, hu, Bool.false_eq_true, if_false]
        exact .failed ht hu
  | ok reply =>
    -- a fault, another packet and the acknowledgement, in this order
    rcases ha : reply.acknowledges x.block with f | _ | _
    · simp only [received, ha]
      exact .unclear ha
    · simp only [received, ha]
      exact .discarded ha
    · simp only [received, ha]
      exact .accepted (Draft.acknowledges_eq_true_iff.mp ha)

end Exchange

end Tftp
