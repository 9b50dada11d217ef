import Mathlib.Tactic.Ring
import Tftp.Proofs.Exchange.Run

/-!
# How an exchange ends

An exchange is played against a writer that never fails and a reader that keeps to its contract: a
wait ends within its time, with a packet from a datagram or with an unreadable one, or it ends
exactly when its time is over. Nothing is assumed of how many packets come, of which kind, or when.

* `Deed.Kept` — the contract, for a deed begun at a time;
* `Exchange.copies` — the copies of a packet that are written, one each time the timeout is over;
* `Exchange.Answered`, `Exchange.GaveUp` and `Exchange.BrokeOff` — the three ways to end.

The main theorem is `Exchange.ends_in_one_way`. What carries it is `Exchange.Stands`, which says for
each phase how the log, the clock and the deadline hang together; `Stands.step` keeps it.
-/

namespace Tftp

/-! ## The clock and the contract

A log does not tell the time. It is counted from the time when the exchange began: a write that
succeeds tells when it was done, and so does every reception. Whether a reader keeps to its contract
depends on when a wait is begun, and so the contract is about a deed and the time before it. -/

/-- The time after a deed that was begun at a time. -/
def Deed.clock (now : Time) : Deed → Time
  | sent _ (.ok t) => t
  | received _ r => r.now
  | _ => now

/-- The time after a log that was begun at a time. -/
def Log.clock (begin : Time) (log : Log) : Time :=
  log.foldl Deed.clock begin

@[simp] theorem Log.clock_nil (begin : Time) : Log.clock begin [] = begin := rfl

/-- The clock goes on with the last deed. What an exchange wrote or received before does not turn it
back. -/
@[simp] theorem Log.clock_concat (begin : Time) (log : Log) (d : Deed) :
    Log.clock begin (log ++ [d]) = d.clock (Log.clock begin log) := by
  simp [Log.clock]

/-- What a reader may end a wait with that was begun at a time. -/
inductive Reception.Kept (now wait : Time) : Reception → Prop where
  /-- a packet that was read from a datagram, in time -/
  | packet {datagram : Bytes} {p : Packet} {t : Time} (h : Packet.decode datagram = .ok p)
      (ht : t ≤ now + wait) : Kept now wait ⟨.ok p.toDraft, t⟩
  /-- a datagram that could not be read, in time -/
  | unreadable {f : Fault} {t : Time} (h : f.isUnreadable = true) (ht : t ≤ now + wait) :
      Kept now wait ⟨.error f, t⟩
  /-- nothing, exactly when the time is over -/
  | timedOut {f : Fault} (h : f.isTimeout = true) : Kept now wait ⟨.error f, now + wait⟩

/-- A deed begun at a time, with a writer that succeeds at once and a reader that keeps to its
contract. -/
inductive Deed.Kept (now : Time) : Deed → Prop where
  /-- written, with no time passing -/
  | sent (packet : Draft) : Kept now (.sent packet (.ok now))
  /-- waited for, as the contract allows -/
  | received {wait : Time} {r : Reception} (h : r.Kept now wait) : Kept now (.received wait r)

/-- Every deed of a log begun at a time is kept. -/
def Log.Kept (begin : Time) (log : Log) : Prop :=
  log.Always fun before d => d.Kept (before.clock begin)

namespace Exchange

/-! ## Copies and endings

Each ending says three things: what the result is, what the last deeds were, and which copies were
written before. None of them mentions a state of the exchange, only its log and its result. -/

section

variable (packet : Draft) (block : Int) (timeout begin : Time)

/-- So many copies of a packet, the first when the exchange begins and each next one when the
timeout of the one before is over. -/
def copies (n : Nat) : List (Draft × Time) :=
  (List.range n).map fun i => (packet, begin + i * timeout)

/-- A wait is begun while the timeout of the last copy is not over yet. -/
def Timely (before : Log) (d : Deed) : Prop :=
  d.reception?.isSome →
    ∃ t, before.writings.getLast? = some (packet, t) ∧ before.clock begin < t + timeout

/-- A reception that an exchange passes over: neither the acknowledgement nor unreadable. -/
def PassedOver (r : Reception) : Prop :=
  (∀ reply, r.outcome = .ok reply → ¬ reply.IsAck block) ∧
    ∀ f, r.outcome = .error f → f.isUnreadable = false

/-- The exchange ended with the first acknowledgement that was received, as its last deed. -/
def Answered (log : Log) (result : Except Fault Draft) : Prop :=
  ∃ (n : Nat) (before : Log) (wait now : Time) (reply : Draft), 1 ≤ n ∧ n ≤ maxAttempts ∧
    log = before ++ [.received wait ⟨.ok reply, now⟩] ∧ result = .ok reply ∧
    reply.IsAck block ∧ (∀ r ∈ before.receptions, PassedOver block r) ∧
    before.writings = copies packet timeout begin n

/-- The exchange timed out when the timeout of its last copy was over, and wrote nothing else. -/
def GaveUp (log : Log) (result : Except Fault Draft) : Prop :=
  result = .error exhausted ∧ log.clock begin = begin + maxAttempts * timeout ∧
    (∀ r ∈ log.receptions, PassedOver block r) ∧
    log.writings = copies packet timeout begin maxAttempts

/-- The exchange failed with the first unreadable packet, and its last deed was to report that. -/
def BrokeOff (log : Log) (result : Except Fault Draft) : Prop :=
  ∃ (n : Nat) (before : Log) (wait now : Time) (f : Fault), 1 ≤ n ∧ n ≤ maxAttempts ∧
    log = before ++ [.received wait ⟨.error f, now⟩,
      .sent (Packet.report .undefined f.message).toDraft (.ok now)] ∧
    result = .error f ∧ f.isUnreadable = true ∧
    (∀ r ∈ before.receptions, PassedOver block r) ∧
    before.writings = copies packet timeout begin n

/-- The three ways to end. -/
inductive Ending where
  /-- with the acknowledgement -/
  | answered
  /-- with a timeout -/
  | gaveUp
  /-- with a packet that cannot be read -/
  | brokeOff

/-- A log and a result show a way to end. -/
def Ending.Shown (log : Log) (result : Except Fault Draft) : Ending → Prop
  | answered => Answered packet block timeout begin log result
  | gaveUp => GaveUp packet block timeout begin log result
  | brokeOff => BrokeOff packet block timeout begin log result

end

/-- One copy more is written a timeout after the one before. -/
theorem copies_succ (packet : Draft) (timeout begin : Time) (n : Nat) :
    copies packet timeout begin (n + 1) =
      copies packet timeout begin n ++ [(packet, begin + n * timeout)] := by
  simp [copies, List.range_succ]

theorem getLast?_copies_succ (packet : Draft) (timeout begin : Time) (n : Nat) :
    (copies packet timeout begin (n + 1)).getLast? = some (packet, begin + n * timeout) := by
  rw [copies_succ, List.getLast?_concat]

/-! ## Where an exchange stands

The invariant has one case for each phase. A copy that is about to be sent is due just now; while
the exchange waits, the deadline is ahead; and while it reports, the unreadable packet was the last
deed. -/

/-- How the log of an exchange, its clock and its phase hang together. -/
inductive Stands (peer : Address) (packet : Draft) (block : Int) (timeout begin : Time)
    (log : Log) : Next → Prop where
  /-- copies were written as far as their times are over, and none was answered -/
  | sending {n : Nat} (hn : n < maxAttempts)
      (hpassed : ∀ r ∈ log.receptions, PassedOver block r)
      (hwritings : log.writings = copies packet timeout begin n)
      (hclock : log.clock begin = begin + n * timeout) :
      Stands peer packet block timeout begin log
        (.going ⟨peer, packet, block, timeout, n + 1, .sending⟩)
  /-- the time of the last copy is not over -/
  | waiting {n : Nat} {now deadline : Time} (hn : n < maxAttempts)
      (hpassed : ∀ r ∈ log.receptions, PassedOver block r)
      (hwritings : log.writings = copies packet timeout begin (n + 1))
      (hclock : log.clock begin = now) (hdeadline : deadline = begin + n * timeout + timeout)
      (hlt : now < deadline) :
      Stands peer packet block timeout begin log
        (.going ⟨peer, packet, block, timeout, n + 1, .waiting now deadline⟩)
  /-- what was received last cannot be read -/
  | reporting {n : Nat} {before : Log} {wait now : Time} {f : Fault} (hn : n < maxAttempts)
      (hlog : log = before ++ [.received wait ⟨.error f, now⟩]) (hf : f.isUnreadable = true)
      (hpassed : ∀ r ∈ before.receptions, PassedOver block r)
      (hwritings : before.writings = copies packet timeout begin (n + 1)) :
      Stands peer packet block timeout begin log
        (.going ⟨peer, packet, block, timeout, n + 1, .reporting f⟩)
  /-- it is over, in one of the three ways -/
  | ended {result : Except Fault Draft}
      (h : Answered packet block timeout begin log result ∨
        GaveUp packet block timeout begin log result ∨
        BrokeOff packet block timeout begin log result) :
      Stands peer packet block timeout begin log (.ended result)

section

variable {peer : Address} {packet : Draft} {block : Int} {timeout begin : Time} {log : Log}

/-- No copy is due before the first one. -/
theorem stands_start :
    Stands peer packet block timeout begin [] (.going (.start peer packet block timeout)) := by
  refine .sending (n := 0) (by decide) ?_ rfl ?_
  · intro r hr
    cases hr
  · simp

/-- When the time of a copy is over the next one is due, or the exchange gives up. -/
theorem stands_retry {n : Nat} {phase : Phase} (hn : n < maxAttempts)
    (hpassed : ∀ r ∈ log.receptions, PassedOver block r)
    (hwritings : log.writings = copies packet timeout begin (n + 1))
    (hclock : log.clock begin = begin + n * timeout + timeout) :
    Stands peer packet block timeout begin log
      (retry ⟨peer, packet, block, timeout, n + 1, phase⟩).value := by
  have hsucc : begin + n * timeout + timeout = begin + ((n + 1 : Nat) : Int) * timeout := by
    push_cast
    ring
  rw [hsucc] at hclock
  -- a copy more, or none: the clock is the same in either case
  by_cases hlt : n + 1 < maxAttempts
  · rw [value_retry_of_lt _ hlt]
    exact .sending hlt hpassed hwritings hclock
  · have heq : n + 1 = maxAttempts := Nat.le_antisymm hn (Nat.not_lt.mp hlt)
    rw [value_retry_of_le _ (Nat.not_lt.mp hlt)]
    rw [heq] at hwritings hclock
    exact .ended (.inr (.inl ⟨rfl, hclock, hpassed, hwritings⟩))

/-- A reader that keeps to its contract is late only with a packet that came at the deadline, so
that in either case the next copy is written then and not later. -/
theorem stands_await {n : Nat} {phase : Phase} {now deadline : Time} (hn : n < maxAttempts)
    (hpassed : ∀ r ∈ log.receptions, PassedOver block r)
    (hwritings : log.writings = copies packet timeout begin (n + 1))
    (hclock : log.clock begin = now) (hdeadline : deadline = begin + n * timeout + timeout)
    (hle : now ≤ deadline) :
    Stands peer packet block timeout begin log
      (await ⟨peer, packet, block, timeout, n + 1, phase⟩ now deadline).value := by
  by_cases hlt : now < deadline
  · rw [value_await_of_lt _ hlt]
    exact .waiting hn hpassed hwritings hclock hdeadline hlt
  · have heq : now = deadline := Int.le_antisymm hle (Int.not_lt.mp hlt)
    rw [value_await_of_le _ (Int.not_lt.mp hlt)]
    refine stands_retry hn hpassed hwritings ?_
    rw [hclock, heq, hdeadline]

theorem passedOver_of_timeout {f : Fault} {t : Time} (h : f.isTimeout = true) :
    PassedOver block ⟨.error f, t⟩ := by
  constructor
  · intro reply hr
    cases hr
  · intro g hg
    cases hg
    exact Fault.isUnreadable_of_isTimeout h

/-- A reply is discarded only if it is not the acknowledgement. -/
theorem passedOver_of_discarded {reply : Draft} {t : Time}
    (h : reply.acknowledges block = .ok false) : PassedOver block ⟨.ok reply, t⟩ := by
  constructor
  · intro reply' hr hack
    cases hr
    rw [Draft.acknowledges_eq_true_iff.mpr hack] at h
    cases h
  · intro g hg
    cases hg

/-- A reception more that is passed over. -/
theorem passedOver_concat {wait : Time} {r : Reception}
    (h : ∀ q ∈ log.receptions, PassedOver block q) (hr : PassedOver block r) :
    ∀ q ∈ (log ++ [Deed.received wait r]).receptions, PassedOver block q := by
  intro q hq
  rw [Log.receptions_append] at hq
  rcases List.mem_append.mp hq with hold | hnew
  · exact h q hold
  · have heq : q = r := List.mem_singleton.mp hnew
    rw [heq]
    exact hr

/-- A deed of a reader and a writer that keep to their contracts keeps the exchange in order. -/
theorem Stands.step {x : Exchange} {d : Deed} {next : Next} (htimeout : 0 < timeout)
    (hs : Stands peer packet block timeout begin log (.going x)) (h : x.Step d next)
    (hk : d.Kept (log.clock begin)) :
    Stands peer packet block timeout begin (log ++ [d]) next := by
  cases hs with
  | @sending n hn hpassed hwritings hclock =>
    -- a writer that never fails writes at once, and so the whole timeout is left
    obtain ⟨answer, rfl, rfl⟩ := h.of_sending rfl
    cases hk
    have hlt : log.clock begin < log.clock begin + timeout :=
      Int.lt_add_of_pos_right _ htimeout
    simp only [sent, value_await_of_lt _ hlt]
    refine .waiting hn ?_ ?_ ?_ ?_ hlt
    · simpa [Log.receptions, Deed.reception?] using hpassed
    · rw [copies_succ, ← hwritings, ← hclock, Log.writings_append]
      rfl
    · rw [Log.clock_concat]
      rfl
    · rw [hclock]
  | @waiting n now deadline hn hpassed hwritings hclock hdeadline hlt =>
    obtain ⟨r, rfl, hnext⟩ := h.of_waiting rfl
    have hspec := received_spec ⟨peer, packet, block, timeout, n + 1, .waiting now deadline⟩
      deadline r
    rw [← hnext] at hspec
    clear h hnext
    have hw : (log ++ [Deed.received (deadline - now) r]).writings =
        copies packet timeout begin (n + 1) := by
      rw [Log.writings_append, hwritings]
      exact List.append_nil _
    have hc : (log ++ [Deed.received (deadline - now) r]).clock begin = r.now := by
      rw [Log.clock_concat]
      rfl
    have hend : log.clock begin + (deadline - now) = deadline := by
      rw [hclock]
      exact add_sub_cancel now deadline
    cases hk with | received hk =>
    cases hspec with
    | @timedOut f t hf =>
      -- the contract leaves only the deadline for a wait that is over
      have ht : t = deadline := by
        cases hk with
        | unreadable hu _ =>
          rw [Fault.isUnreadable_of_isTimeout hf] at hu
          cases hu
        | timedOut _ => exact hend
      refine stands_retry hn (passedOver_concat hpassed (passedOver_of_timeout hf)) hw ?_
      rw [hc, ht, hdeadline]
    | @unreadable f t hf => exact .reporting hn rfl hf hpassed hwritings
    | @failed f t ht hu =>
      -- the contract allows no other fault
      cases hk with
      | unreadable h _ => rw [h] at hu; cases hu
      | timedOut h => rw [h] at ht; cases ht
    | @unclear reply f t hunclear =>
      -- no packet from a datagram leaves open what it is
      cases hk with | packet hdecode _ =>
      obtain ⟨b, hb⟩ := Packet.acknowledges_of_decode hdecode block
      rw [hb] at hunclear
      cases hunclear
    | @accepted reply t hack =>
      exact .ended (.inl ⟨n + 1, log, _, t, reply, Nat.le_add_left 1 n, hn, rfl, rfl, hack, hpassed,
        hwritings⟩)
    | @discarded reply t hdiscarded =>
      -- even a packet that is passed over may come just at the deadline
      cases hk with | packet _ ht =>
      rw [hend] at ht
      exact stands_await hn (passedOver_concat hpassed (passedOver_of_discarded hdiscarded)) hw hc
        hdeadline ht
  | @reporting n before wait now f hn hlog hf hpassed hwritings =>
    obtain ⟨answer, rfl, rfl⟩ := h.of_reporting rfl
    cases hk
    refine .ended (.inr (.inr ⟨n + 1, before, wait, now, f, Nat.le_add_left 1 n, hn, ?_, rfl, hf,
      hpassed, hwritings⟩))
    rw [hlog, List.append_assoc, Log.clock_concat]
    rfl

/-- A wait is begun in time, for an exchange that waits stands before its deadline. -/
theorem Stands.timely {x : Exchange} {d : Deed} {next : Next}
    (hs : Stands peer packet block timeout begin log (.going x)) (h : x.Step d next) :
    Timely packet timeout begin log d := by
  intro hd
  cases hs with
  | sending =>
    obtain ⟨answer, rfl, -⟩ := h.of_sending rfl
    cases hd
  | @waiting n now deadline hn hpassed hwritings hclock hdeadline hlt =>
    refine ⟨begin + n * timeout, ?_, ?_⟩
    · rw [hwritings, getLast?_copies_succ]
    · rw [hclock, ← hdeadline]
      exact hlt
  | reporting =>
    obtain ⟨answer, rfl, -⟩ := h.of_reporting rfl
    cases hd

/-- A run with a reader and a writer that keep to their contracts is in order all the way. -/
theorem Run.stands {next : Next} (htimeout : 0 < timeout)
    (run : Run (.going (.start peer packet block timeout)) log next) (hk : log.Kept begin) :
    Stands peer packet block timeout begin log next ∧
      log.Always (Timely packet timeout begin) := by
  induction run with
  | start => exact ⟨stands_start, Log.always_nil _⟩
  | step run h ih =>
    obtain ⟨hklog, hkd⟩ := Log.always_concat.mp hk
    obtain ⟨hs, ht⟩ := ih hklog
    exact ⟨hs.step htimeout h hkd, Log.always_concat.mpr ⟨ht, hs.timely h⟩⟩

/-! ## The three ways to end

They exclude one another because of the result alone: a reply, the fault of a timeout, or the fault
of an unreadable packet. -/

/-- A reply is no fault. -/
theorem Answered.not_gaveUp {result : Except Fault Draft}
    (h : Answered packet block timeout begin log result) :
    ¬ GaveUp packet block timeout begin log result := by
  rintro ⟨hresult, -⟩
  obtain ⟨n, before, wait, now, reply, -, -, -, hreply, -⟩ := h
  rw [hreply] at hresult
  cases hresult

theorem Answered.not_brokeOff {result : Except Fault Draft}
    (h : Answered packet block timeout begin log result) :
    ¬ BrokeOff packet block timeout begin log result := by
  rintro ⟨m, before', wait', now', f, -, -, -, hf, -⟩
  obtain ⟨n, before, wait, now, reply, -, -, -, hreply, -⟩ := h
  rw [hreply] at hf
  cases hf

/-- Both end with a fault, but a timeout is not unreadable. -/
theorem GaveUp.not_brokeOff {result : Except Fault Draft}
    (h : GaveUp packet block timeout begin log result) :
    ¬ BrokeOff packet block timeout begin log result := by
  rintro ⟨n, before, wait, now, f, -, -, -, hf, hunreadable, -⟩
  rw [h.1] at hf
  cases hf
  cases hunreadable

/-- A log and a result show at most one way to end. Any two different ways exclude each other by one
of the three lemmas above. -/
theorem Ending.Shown.unique {result : Except Fault Draft} {e e' : Ending}
    (h : e.Shown packet block timeout begin log result)
    (h' : e'.Shown packet block timeout begin log result) : e' = e := by
  cases e with
  | answered =>
    cases e' with
    | answered => rfl
    | gaveUp => exact absurd h' (Answered.not_gaveUp h)
    | brokeOff => exact absurd h' (Answered.not_brokeOff h)
  | gaveUp =>
    cases e' with
    | answered => exact absurd h (Answered.not_gaveUp h')
    | gaveUp => rfl
    | brokeOff => exact absurd h' (GaveUp.not_brokeOff h)
  | brokeOff =>
    cases e' with
    | answered => exact absurd h (Answered.not_brokeOff h')
    | gaveUp => exact absurd h (GaveUp.not_brokeOff h')
    | brokeOff => rfl

/-- **An exchange ends in exactly one way.** Whatever comes, however much of it and in whatever
order, as long as the reader keeps to its contract: the exchange ends with the first
acknowledgement, or it gives up when the time of its last copy is over, or it breaks off with the
first unreadable packet after one report. In each case the copies were written at the times when
they were due, and no wait was begun at or after the deadline of the last copy. -/
theorem ends_in_one_way {result : Except Fault Draft} (htimeout : 0 < timeout)
    (run : Run (.going (.start peer packet block timeout)) log (.ended result))
    (hk : log.Kept begin) :
    log.Always (Timely packet timeout begin) ∧
      ∃! e : Ending, e.Shown packet block timeout begin log result := by
  obtain ⟨hs, htimely⟩ := run.stands htimeout hk
  refine ⟨htimely, ?_⟩
  cases hs with | ended h =>
  rcases h with h | h | h
  · exact ⟨.answered, h, fun _ => Ending.Shown.unique h⟩
  · exact ⟨.gaveUp, h, fun _ => Ending.Shown.unique h⟩
  · exact ⟨.brokeOff, h, fun _ => Ending.Shown.unique h⟩

/-- A stale acknowledgement comes, the time of the first copy runs out, and the answer to the second
copy comes just at its deadline. -/
def lateAnswer : Log :=
  let packet := (Packet.data [0, 1] [104]).toDraft
  [.sent packet (.ok 0), .received 3000 ⟨.ok (Packet.ack [0, 0]).toDraft, 1000⟩,
    .received 2000 ⟨.error (.timedOut "timeout"), 3000⟩, .sent packet (.ok 3000),
    .received 3000 ⟨.ok (Packet.ack [0, 1]).toDraft, 6000⟩]

/-- An answer that comes at the deadline is still an answer: the exchange gets it, with two copies
written. -/
theorem ends_in_one_way_lateAnswer :
    let packet := (Packet.data [0, 1] [104]).toDraft
    let result := Except.ok (Packet.ack [0, 1]).toDraft
    (0 : Time) < 3000 ∧ Run (.going (.start .null packet 1 3000)) lateAnswer (.ended result) ∧
      Log.Kept 0 lateAnswer ∧ Log.Always (Timely packet 3000 0) lateAnswer ∧
      ∃! e : Ending, e.Shown packet 1 3000 0 lateAnswer result := by
  intro packet result
  have htimeout : (0 : Time) < 3000 := by decide
  have run : Run (.going (.start .null packet 1 3000)) lateAnswer (.ended result) := by
    let x (attempt : Nat) (phase : Phase) : Exchange := ⟨.null, packet, 1, 3000, attempt, phase⟩
    have hp (attempt : Nat) (now deadline : Time) :
        (x attempt (.waiting now deadline)).phase = .waiting now deadline := rfl
    have h₁ : (x 1 .sending).Step (.sent packet (.ok 0)) (.going (x 1 (.waiting 0 3000))) :=
      step_of_sending rfl (.ok 0)
    have h₂ : (x 1 (.waiting 0 3000)).Step
        (.received 3000 ⟨.ok (Packet.ack [0, 0]).toDraft, 1000⟩)
        (.going (x 1 (.waiting 1000 3000))) := step_of_waiting (hp 1 0 3000) _
    have h₃ : (x 1 (.waiting 1000 3000)).Step
        (.received 2000 ⟨.error (.timedOut "timeout"), 3000⟩)
        (.going (x 2 .sending)) := step_of_waiting (hp 1 1000 3000) _
    have h₄ : (x 2 .sending).Step (.sent packet (.ok 3000)) (.going (x 2 (.waiting 3000 6000))) :=
      step_of_sending rfl (.ok 3000)
    have h₅ : (x 2 (.waiting 3000 6000)).Step
        (.received 3000 ⟨.ok (Packet.ack [0, 1]).toDraft, 6000⟩) (.ended result) :=
      step_of_waiting (hp 2 3000 6000) _
    exact ((((Run.start.step h₁).step h₂).step h₃).step h₄).step h₅
  -- each deed is kept at the time when it was begun
  have hk : Log.Kept 0 lateAnswer := by
    have ack (n : UInt8) : Packet.decode [0, 4, 0, n] = .ok (.ack [0, n]) := rfl
    have h₂ : Reception.Kept 0 3000 ⟨.ok (Packet.ack [0, 0]).toDraft, 1000⟩ :=
      .packet (ack 0) (by decide)
    have h₃ : Reception.Kept 1000 2000 ⟨.error (.timedOut "timeout"), 3000⟩ := .timedOut rfl
    have h₅ : Reception.Kept 3000 3000 ⟨.ok (Packet.ack [0, 1]).toDraft, 6000⟩ :=
      .packet (ack 1) (by decide)
    have hk₁ : Log.Kept 0 _ := Log.always_concat.mpr ⟨Log.always_nil _, .sent packet⟩
    have hk₂ : Log.Kept 0 _ := Log.always_concat.mpr ⟨hk₁, .received h₂⟩
    have hk₃ : Log.Kept 0 _ := Log.always_concat.mpr ⟨hk₂, .received h₃⟩
    have hk₄ : Log.Kept 0 _ := Log.always_concat.mpr ⟨hk₃, .sent packet⟩
    exact Log.always_concat.mpr ⟨hk₄, .received h₅⟩
  exact ⟨htimeout, run, hk, ends_in_one_way htimeout run hk⟩

end

end Exchange

end Tftp
