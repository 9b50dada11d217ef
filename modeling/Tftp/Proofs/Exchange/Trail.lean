import Tftp.Proofs.Exchange.Reliability

/-!
# What an exchange leaves behind

`Exchange.Run` allows every answer: late ones, refused writes, replies that do not tell what they
are. This module says what the log of such a run looks like, so that whoever puts exchanges together
never goes through their steps again.

* `Log.Countdown` and `Log.Waits` — the time that is left for an answer, and waits for just that;
* `Exchange.Unanswered` — so many copies were written, and nothing that counts was received;
* `Exchange.Ended` — the log of an exchange that is over, one case for each way to end;
* `Exchange.Trail` — the log of an exchange wherever it stands.

`Run.trail`, `Run.ended` and `Run.waits` are what other modules use.

`Exchange.Stands` says more, but only of an exchange whose surroundings keep to their contracts.
What is here holds of every run, and is what a session can rely on when its writer fails.
-/

namespace Tftp

/-! ## Deeds on the wire

The time for an answer is read off the log alone: it begins with the last packet that was written,
and each reception tells how much of it is over. So a wait can be judged without the state of the
exchange. -/

/-- Writing a packet and waiting for one are all that an exchange does. -/
inductive Deed.OnWire : Deed → Prop
  | sent (packet : Draft) (answer : Except Fault Time) : OnWire (.sent packet answer)
  | received (wait : Time) (r : Reception) : OnWire (.received wait r)

namespace Log

/-- No write failed. -/
def AllSent (log : Log) : Prop :=
  ∀ packet f, .sent packet (.error f) ∉ log

theorem not_allSent_of_mem {log : Log} {packet : Draft} {f : Fault}
    (h : .sent packet (.error f) ∈ log) : ¬ log.AllSent :=
  fun hsent => hsent packet f h

theorem AllSent.left {l m : Log} (h : AllSent (l ++ m)) : AllSent l :=
  fun packet f hmem => h packet f (List.mem_append_left m hmem)

theorem AllSent.right {l m : Log} (h : AllSent (l ++ m)) : AllSent m :=
  fun packet f hmem => h packet f (List.mem_append_right l hmem)

theorem AllSent.append {l m : Log} (h : AllSent l) (h' : AllSent m) : AllSent (l ++ m) :=
  fun packet f hmem => (List.mem_append.mp hmem).elim (h packet f) (h' packet f)

/-- The time for an answer runs out at a deadline. It began when the last packet was written, and
what was received since then did not begin it anew. -/
inductive Countdown (timeout : Time) : Log → Time → Time → Prop
  /-- it begins with a packet that was written -/
  | sent (log : Log) (packet : Draft) (now : Time) :
      Countdown timeout (log ++ [.sent packet (.ok now)]) now (now + timeout)
  /-- it goes on while something is received -/
  | received {log : Log} {now deadline : Time} (h : Countdown timeout log now deadline)
      (wait : Time) (r : Reception) :
      Countdown timeout (log ++ [.received wait r]) r.now deadline

/-- A packet is waited for as long as the time for an answer runs. -/
def Waits (timeout : Time) (before : Log) (d : Deed) : Prop :=
  ∀ wait r, d = .received wait r →
    ∃ now deadline, before.Countdown timeout now deadline ∧ wait = deadline - now

variable {timeout now deadline : Time} {log : Log} {d : Deed}

/-- What was done before the last packet was written does not matter. -/
theorem Countdown.after (h : log.Countdown timeout now deadline) (before : Log) :
    (before ++ log).Countdown timeout now deadline := by
  induction h with
  | sent log packet now =>
    rw [← List.append_assoc]
    exact .sent (before ++ log) packet now
  | received _ wait r ih =>
    rw [← List.append_assoc]
    exact ih.received wait r

/-- A wait is as long as it is whatever was done before. -/
theorem Waits.after (h : Waits timeout log d) (before : Log) :
    Waits timeout (before ++ log) d := by
  intro wait r hd
  obtain ⟨now, deadline, hcount, hwait⟩ := h wait r hd
  exact ⟨now, deadline, hcount.after before, hwait⟩

/-- Where nothing is waited for there is nothing to wait too long for. -/
theorem waits_of_reception?_eq_none (timeout : Time) (log : Log) (h : d.reception? = none) :
    Waits timeout log d := by
  rintro wait r rfl
  cases h

end Log

/-- A reply that does not tell what it is lacks a field, which is no fault of the channel. -/
theorem Draft.fault_of_acknowledges {reply : Draft} {block : Int} {f : Fault}
    (h : reply.acknowledges block = .error f) : f.isTimeout = false ∧ f.isUnreadable = false := by
  unfold Draft.acknowledges at h
  split at h
  · cases h
    exact ⟨rfl, rfl⟩
  · split at h
    · cases h
    · split at h
      · cases h
        exact ⟨rfl, rfl⟩
      · split at h
        · cases h
          exact ⟨rfl, rfl⟩
        · cases h

/-! ## Logs of exchanges

An exchange can end in seven ways. Three of them are left where the reader and the writer keep to
their contracts. In the others a write fails, a wait fails without being over, or a reply lacks the
fields of its kind. -/

namespace Exchange

section

variable (packet : Draft) (block : Int)

/-- So many copies were written, and all that was received was passed over. -/
structure Unanswered (n : Nat) (log : Log) : Prop where
  /-- only copies of the packet were written -/
  packets_eq : log.packets = List.replicate n packet
  /-- nothing that was received ended the exchange -/
  passedOver : ∀ r ∈ log.receptions, PassedOver block r

/-- The log of an exchange that is over, and its result. -/
inductive Ended : Log → Except Fault Draft → Prop
  /-- the acknowledgement was received -/
  | answered {n : Nat} {log : Log} {wait now : Time} {reply : Draft} (hn : n < maxAttempts)
      (h : Unanswered packet block (n + 1) log) (hack : reply.IsAck block) :
      Ended (log ++ [.received wait ⟨.ok reply, now⟩]) (.ok reply)
  /-- the time of the last copy was over -/
  | gaveUp {log : Log} (h : Unanswered packet block maxAttempts log) :
      Ended log (.error exhausted)
  /-- what was received could not be read, and was reported -/
  | brokeOff {n : Nat} {log : Log} {wait now time : Time} {f : Fault} (hn : n < maxAttempts)
      (h : Unanswered packet block (n + 1) log) (hf : f.isUnreadable = true) :
      Ended (log ++ [.received wait ⟨.error f, now⟩,
        .sent (Packet.report .undefined f.message).toDraft (.ok time)]) (.error f)
  /-- the report could not be written -/
  | notReported {n : Nat} {log : Log} {wait now : Time} {f g : Fault} (hn : n < maxAttempts)
      (h : Unanswered packet block (n + 1) log) (hf : f.isUnreadable = true) :
      Ended (log ++ [.received wait ⟨.error f, now⟩,
        .sent (Packet.report .undefined f.message).toDraft (.error g)]) (.error g)
  /-- a copy could not be written -/
  | notSent {n : Nat} {log : Log} (hn : n < maxAttempts) (h : Unanswered packet block n log)
      (f : Fault) : Ended (log ++ [.sent packet (.error f)]) (.error f)
  /-- receiving failed for another reason -/
  | failed {n : Nat} {log : Log} {wait now : Time} {f : Fault} (hn : n < maxAttempts)
      (h : Unanswered packet block (n + 1) log) (ht : f.isTimeout = false)
      (hu : f.isUnreadable = false) : Ended (log ++ [.received wait ⟨.error f, now⟩]) (.error f)
  /-- a reply did not tell what it is -/
  | unclear {n : Nat} {log : Log} {wait now : Time} {reply : Draft} {f : Fault}
      (hn : n < maxAttempts) (h : Unanswered packet block (n + 1) log)
      (hreply : reply.acknowledges block = .error f) :
      Ended (log ++ [.received wait ⟨.ok reply, now⟩]) (.error f)

/-- The log of an exchange, and where it stands. -/
inductive Trail (peer : Address) (timeout : Time) : Log → Next → Prop
  /-- the next copy is due -/
  | sending {n : Nat} {log : Log} (hn : n < maxAttempts) (h : Unanswered packet block n log) :
      Trail peer timeout log (.going ⟨peer, packet, block, timeout, n + 1, .sending⟩)
  /-- the time of the last copy runs -/
  | waiting {n : Nat} {log : Log} {now deadline : Time} (hn : n < maxAttempts)
      (h : Unanswered packet block (n + 1) log) (hcount : log.Countdown timeout now deadline) :
      Trail peer timeout log
        (.going ⟨peer, packet, block, timeout, n + 1, .waiting now deadline⟩)
  /-- what was received last cannot be read -/
  | reporting {n : Nat} {log : Log} {wait now : Time} {f : Fault} (hn : n < maxAttempts)
      (h : Unanswered packet block (n + 1) log) (hf : f.isUnreadable = true) :
      Trail peer timeout (log ++ [.received wait ⟨.error f, now⟩])
        (.going ⟨peer, packet, block, timeout, n + 1, .reporting f⟩)
  /-- it is over -/
  | ended {log : Log} {result : Except Fault Draft} (h : Ended packet block log result) :
      Trail peer timeout log (.ended result)

end

variable {peer : Address} {packet : Draft} {block : Int} {timeout : Time} {n : Nat} {log : Log}
  {x : Exchange} {d : Deed} {next : Next}

theorem unanswered_nil (packet : Draft) (block : Int) : Unanswered packet block 0 [] where
  packets_eq := rfl
  passedOver := by
    intro r hr
    cases hr

/-- One copy more. -/
theorem Unanswered.sent (h : Unanswered packet block n log) (now : Time) :
    Unanswered packet block (n + 1) (log ++ [.sent packet (.ok now)]) where
  packets_eq := by
    rw [Log.packets_append, h.packets_eq, List.replicate_succ']
    rfl
  passedOver := by
    simpa [Log.receptions, Deed.reception?] using h.passedOver

/-- One reception more that is passed over. -/
theorem Unanswered.received {r : Reception} (h : Unanswered packet block n log) (wait : Time)
    (hr : PassedOver block r) : Unanswered packet block n (log ++ [.received wait r]) where
  packets_eq := by
    rw [Log.packets_concat rfl, h.packets_eq]
  passedOver := passedOver_concat h.passedOver hr

/-- Once a copy was written, it stays among the packets. -/
theorem Unanswered.mem_packets (h : Unanswered packet block (n + 1) log) (after : Log) :
    packet ∈ Log.packets (log ++ after) := by
  rw [Log.packets_append, h.packets_eq, List.replicate_succ]
  exact .head _

/-- When the time of a copy is over the next one is due, or the exchange gives up. -/
theorem trail_retry {phase : Phase} (hn : n < maxAttempts)
    (h : Unanswered packet block (n + 1) log) :
    Trail packet block peer timeout log
      (retry ⟨peer, packet, block, timeout, n + 1, phase⟩).value := by
  by_cases hlt : n + 1 < maxAttempts
  · rw [value_retry_of_lt _ hlt]
    exact .sending hlt h
  · have heq : n + 1 = maxAttempts := Nat.le_antisymm hn (Nat.not_lt.mp hlt)
    rw [value_retry_of_le _ (Nat.not_lt.mp hlt)]
    rw [heq] at h
    exact .ended (.gaveUp h)

/-- With time left the exchange waits on. Otherwise the next copy is due. -/
theorem trail_await {phase : Phase} {now deadline : Time} (hn : n < maxAttempts)
    (h : Unanswered packet block (n + 1) log) (hcount : log.Countdown timeout now deadline) :
    Trail packet block peer timeout log
      (await ⟨peer, packet, block, timeout, n + 1, phase⟩ now deadline).value := by
  by_cases hlt : now < deadline
  · rw [value_await_of_lt _ hlt]
    exact .waiting hn h hcount
  · rw [value_await_of_le _ (Int.not_lt.mp hlt)]
    exact trail_retry hn h

/-- Each step goes on from a log as it is described. There is one case for each phase, and for a
reception one for each thing that it may mean (`received_spec`). -/
theorem Trail.step (h : Trail packet block peer timeout log (.going x)) (hs : x.Step d next) :
    Trail packet block peer timeout (log ++ [d]) next := by
  cases h with
  | sending hn h =>
    obtain ⟨answer, rfl, rfl⟩ := hs.of_sending rfl
    cases answer with
    | error f => exact .ended (.notSent hn h f)
    | ok now => exact trail_await hn (h.sent now) (.sent log packet now)
  | @waiting n _ now deadline hn h hcount =>
    obtain ⟨r, rfl, hnext⟩ := hs.of_waiting rfl
    have hspec := received_spec ⟨peer, packet, block, timeout, n + 1, .waiting now deadline⟩
      deadline r
    rw [← hnext] at hspec
    clear hs hnext
    cases hspec with
    | timedOut hf => exact trail_retry hn (h.received _ (passedOver_of_timeout hf))
    | unreadable hf => exact .reporting hn h hf
    | failed ht hu => exact .ended (.failed hn h ht hu)
    | unclear hreply => exact .ended (.unclear hn h hreply)
    | accepted hack => exact .ended (.answered hn h hack)
    | discarded hreply =>
      exact trail_await hn (h.received _ (passedOver_of_discarded hreply)) (hcount.received _ _)
  | @reporting n before wait now f hn h hf =>
    obtain ⟨answer, rfl, rfl⟩ := hs.of_reporting rfl
    rw [List.append_assoc]
    cases answer with
    | error g => exact .ended (.notReported hn h hf)
    | ok time => exact .ended (.brokeOff hn h hf)

/-- **The log of an exchange** is one of these, whatever it was answered. -/
theorem Run.trail (run : Run (.going (.start peer packet block timeout)) log next) :
    Trail packet block peer timeout log next := by
  induction run with
  | start => exact .sending (by decide) (unanswered_nil packet block)
  | step run hs ih => exact ih.step hs

/-- In particular, the log of an exchange that is over shows how it ended. -/
theorem Run.ended {result : Except Fault Draft}
    (run : Run (.going (.start peer packet block timeout)) log (.ended result)) :
    Ended packet block log result := by
  cases run.trail with
  | ended h => exact h

/-- An exchange waits as long as the time for an answer runs. When it waits, its trail tells how far
the time has run, and the wait is for what is left. -/
theorem Run.waits (run : Run (.going (.start peer packet block timeout)) log next) :
    log.Always (Log.Waits timeout) := by
  induction run with
  | start => exact Log.always_nil _
  | @step log x d next run hs ih =>
    refine Log.always_concat.mpr ⟨ih, ?_⟩
    rintro wait r rfl
    cases run.trail with
    | sending =>
      obtain ⟨answer, hd, -⟩ := hs.of_sending rfl
      cases hd
    | waiting _ _ hcount =>
      obtain ⟨r', hd, -⟩ := hs.of_waiting rfl
      cases hd
      exact ⟨_, _, hcount, rfl⟩
    | reporting =>
      obtain ⟨answer, hd, -⟩ := hs.of_reporting rfl
      cases hd

/-- An exchange writes nothing but its packet and the report of a fault. The phase tells which of
them is written next. -/
theorem Run.packet_of_sent (run : Run (.going (.start peer packet block timeout)) log next) :
    ∀ p answer, .sent p answer ∈ log →
      p = packet ∨ ∃ f : Fault, p = (Packet.report .undefined f.message).toDraft := by
  induction run with
  | start =>
    intro p answer h
    cases h
  | @step log x d next run hs ih =>
    intro p answer h
    rcases List.mem_append.mp h with h | h
    · exact ih p answer h
    · obtain rfl := List.mem_singleton.mp h
      cases run.trail with
      | sending =>
        obtain ⟨answer', hd, -⟩ := hs.of_sending rfl
        cases hd
        exact .inl rfl
      | waiting =>
        obtain ⟨r, hd, -⟩ := hs.of_waiting rfl
        cases hd
      | reporting =>
        obtain ⟨answer', hd, -⟩ := hs.of_reporting rfl
        cases hd
        exact .inr ⟨_, rfl⟩

/-- What it writes beside its packet are errors. -/
theorem Run.sent_eq (run : Run (.going (.start peer packet block timeout)) log next) (p : Draft)
    (answer : Except Fault Time) (h : .sent p answer ∈ log) :
    p = packet ∨ p.opcode = some Opcode.error.bytes := by
  rcases run.packet_of_sent p answer h with rfl | ⟨f, rfl⟩
  · exact .inl rfl
  · exact .inr rfl

/-- An exchange that has written anything has written its packet. -/
theorem Run.mem_packets (run : Run (.going (.start peer packet block timeout)) log next)
    (h : log.packets ≠ []) : packet ∈ log.packets := by
  have before {n : Nat} {l : Log} (hl : Unanswered packet block n l) (hne : l.packets ≠ []) :
      packet ∈ l.packets := by
    rw [hl.packets_eq] at hne ⊢
    exact List.mem_replicate.mpr ⟨fun hn => hne (hn ▸ rfl), rfl⟩
  cases run.trail with
  | sending _ hl => exact before hl h
  | waiting _ hl => exact before hl h
  | reporting _ hl => exact hl.mem_packets _
  | ended he =>
    -- an exchange that received anything has written a copy before
    cases he with
    | answered _ hl => exact hl.mem_packets _
    | gaveUp hl => exact before hl h
    | brokeOff _ hl => exact hl.mem_packets _
    | notReported _ hl => exact hl.mem_packets _
    | notSent _ hl f =>
      rw [Log.packets_concat rfl] at h ⊢
      exact before hl h
    | failed _ hl => exact hl.mem_packets _
    | unclear _ hl => exact hl.mem_packets _

theorem Run.onWire {start : Next} (run : Run start log next) : ∀ d ∈ log, d.OnWire := by
  induction run with
  | start =>
    intro d hd
    cases hd
  | step run hs ih =>
    intro d hd
    rcases List.mem_append.mp hd with hd | hd
    · exact ih d hd
    · rw [List.mem_singleton.mp hd]
      cases hs with
      | sent _ answer => exact .sent _ answer
      | received _ r => exact .received _ r

/-! ## Where a write fails -/

/-- With a write that fails an exchange ends. -/
theorem Step.of_failed {p : Draft} {f : Fault} (h : x.Step (.sent p (.error f)) next) :
    next = .ended (.error f) := by
  cases hp : x.phase with
  | sending =>
    obtain ⟨answer, hd, rfl⟩ := h.of_sending hp
    cases hd
    rfl
  | waiting now deadline =>
    obtain ⟨r, hd, -⟩ := h.of_waiting hp
    cases hd
  | reporting f =>
    obtain ⟨answer, hd, rfl⟩ := h.of_reporting hp
    cases hd
    rfl

/-- An exchange in which a write failed has ended with that. -/
theorem Run.of_failed {start : Next} {p : Draft} {f : Fault} (run : Run start log next)
    (hmem : .sent p (.error f) ∈ log) : next = .ended (.error f) := by
  induction run with
  | start => cases hmem
  | step run hs ih =>
    rcases List.mem_append.mp hmem with h | h
    · -- nothing comes after the end
      cases ih h
    · obtain rfl := List.mem_singleton.mp h
      exact hs.of_failed

theorem Run.allSent_of_going {start : Next} (run : Run start log (.going x)) : log.AllSent := by
  intro p f hmem
  cases run.of_failed hmem

theorem Run.allSent_of_ok {start : Next} {reply : Draft}
    (run : Run start log (.ended (.ok reply))) : log.AllSent := by
  intro p f hmem
  cases run.of_failed hmem

/-! ## Where every write succeeds

Without failed writes the result tells how the log looks. -/

/-- An exchange with an answer ends with the acknowledgement. -/
theorem Ended.of_ok {reply : Draft} (h : Ended packet block log (.ok reply)) :
    ∃ n before wait now, n < maxAttempts ∧ log = before ++ [.received wait ⟨.ok reply, now⟩] ∧
      Unanswered packet block (n + 1) before ∧ reply.IsAck block := by
  cases h with
  | answered hn h hack => exact ⟨_, _, _, _, hn, rfl, h, hack⟩

/-- An exchange that times out has written all its copies, and nothing else. -/
theorem Ended.of_timeout {f : Fault} (h : Ended packet block log (.error f)) (hsent : log.AllSent)
    (hf : f.isTimeout = true) : Unanswered packet block maxAttempts log := by
  cases h with
  | gaveUp h => exact h
  | brokeOff _ _ hu =>
    rw [Fault.isUnreadable_of_isTimeout hf] at hu
    cases hu
  | notReported =>
    exact absurd hsent (Log.not_allSent_of_mem (List.mem_append_right _ (.tail _ (.head _))))
  | notSent => exact absurd hsent (Log.not_allSent_of_mem (List.mem_append_right _ (.head _)))
  | failed _ _ ht =>
    rw [hf] at ht
    cases ht
  | unclear _ _ hreply =>
    rw [(Draft.fault_of_acknowledges hreply).1] at hf
    cases hf

/-- An exchange that breaks off has reported what it could not read, as its last deed. -/
theorem Ended.of_unreadable {f : Fault} (h : Ended packet block log (.error f))
    (hsent : log.AllSent) (hf : f.isUnreadable = true) :
    ∃ n before wait now time, n < maxAttempts ∧ log = before ++ [.received wait ⟨.error f, now⟩,
        .sent (Packet.report .undefined f.message).toDraft (.ok time)] ∧
      Unanswered packet block (n + 1) before := by
  cases h with
  | gaveUp => cases hf
  | brokeOff hn h => exact ⟨_, _, _, _, _, hn, rfl, h⟩
  | notReported =>
    exact absurd hsent (Log.not_allSent_of_mem (List.mem_append_right _ (.tail _ (.head _))))
  | notSent => exact absurd hsent (Log.not_allSent_of_mem (List.mem_append_right _ (.head _)))
  | failed _ _ _ hu =>
    rw [hf] at hu
    cases hu
  | unclear _ _ hreply =>
    rw [(Draft.fault_of_acknowledges hreply).2] at hf
    cases hf

end Exchange

end Tftp
