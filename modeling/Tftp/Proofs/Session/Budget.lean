import Tftp.Proofs.Session.Trail

/-!
# What a session spends

A session reads the file block by block and writes every packet a few times. How often it does so is
bounded by how much there is to be read, whatever its surroundings answer.

* `Log.reads` and `Log.content` — how often the file was read from, and what was read in all;
* `Log.transferred` and `Log.reported` — how many packets were written, errors counted apart;
* `Log.Within` — a log keeps to the budget for a block size;
* `Session.Stage.Spent` — what was spent when a block is read next, or a packet exchanged.

The main theorem is `Session.Trail.within`. The reads keep to the budget because all but the last
give full blocks, and the packets because an exchange comes after each read, and only one before the
first.
-/

namespace Tftp

/-! ## Counting

All counts are additive over the parts of a log, so that the budget is balanced part by part. -/

/-- A deed is a read from the file. -/
def Deed.isRead : Deed → Bool
  | .fetched .. => true
  | _ => false

/-- What a deed has read from the file. -/
def Deed.payload : Deed → Bytes
  | .fetched _ (.ok payload) => payload
  | _ => []

/-- A packet is an error packet. -/
def Draft.isError (packet : Draft) : Bool :=
  packet.opcode == some Opcode.error.bytes

namespace Log

/-- How often the file was read from. -/
def reads (log : Log) : Nat :=
  log.countP Deed.isRead

/-- What was read from the file in all. -/
def content (log : Log) : Bytes :=
  log.flatMap Deed.payload

/-- How many error packets were written. -/
def reported (log : Log) : Nat :=
  log.packets.countP Draft.isError

/-- How many other packets were written. -/
def transferred (log : Log) : Nat :=
  log.packets.countP fun packet => !packet.isError

/-- A log keeps to the budget for blocks of a size. All reads but one gave a full block, a packet
was exchanged for each read and one before, and one error was reported at most. -/
structure Within (size : Nat) (log : Log) : Prop where
  /-- all reads but one gave a full block -/
  reads_le : size * log.reads ≤ log.content.length + size
  /-- three copies for each read, and for one packet before -/
  transferred_le : log.transferred ≤ Exchange.maxAttempts * (log.reads + 1)
  /-- one error at most -/
  reported_le : log.reported ≤ 1

variable {size n : Nat} {log : Log}

@[simp] theorem reads_append (l m : Log) : reads (l ++ m) = reads l + reads m :=
  List.countP_append

@[simp] theorem content_append (l m : Log) : content (l ++ m) = content l ++ content m :=
  List.flatMap_append

@[simp] theorem reported_append (l m : Log) : reported (l ++ m) = reported l + reported m := by
  simp [reported]

@[simp] theorem transferred_append (l m : Log) :
    transferred (l ++ m) = transferred l + transferred m := by
  simp [transferred]

/-- A log without reads and with no packets but an error. -/
theorem within_of_reads_eq_zero (size : Nat) (hreads : log.reads = 0)
    (htransferred : log.transferred = 0) (hreported : log.reported ≤ 1) : log.Within size where
  reads_le := by
    rw [hreads]
    exact Nat.zero_le _
  transferred_le := by
    rw [htransferred]
    exact Nat.zero_le _
  reported_le := hreported

/-- What comes after the transfer is one error at most. -/
theorem Within.append {part : Log} (h : log.Within size) (hreads : part.reads = 0)
    (htransferred : part.transferred = 0) (hreported : log.reported + part.reported ≤ 1) :
    Within size (log ++ part) where
  reads_le := by
    rw [reads_append, content_append, List.length_append, hreads]
    exact h.reads_le.trans (Nat.add_le_add_right (Nat.le_add_right _ _) _)
  transferred_le := by
    rw [reads_append, transferred_append, hreads, htransferred]
    exact h.transferred_le
  reported_le := by
    rw [reported_append]
    exact hreported

/-- There are no more reads than full blocks in what was read, and one. -/
theorem Within.reads_le_div (h : log.Within size) (hsize : 0 < size)
    (hlength : log.content.length ≤ n) : log.reads ≤ n / size + 1 := by
  have hle : size * log.reads ≤ n + size := h.reads_le.trans (Nat.add_le_add_right hlength size)
  rw [← Nat.add_div_right n hsize]
  exact (Nat.le_div_iff_mul_le hsize).mpr (Nat.mul_comm size _ ▸ hle)

/-- Writing and waiting have nothing to do with the file. -/
theorem reads_eq_zero_of_onWire (h : ∀ d ∈ log, d.OnWire) : log.reads = 0 := by
  rw [reads, List.countP_eq_zero]
  intro d hd
  cases h d hd <;> exact Bool.false_ne_true

end Log

/-! ## Exchanges

An exchange reads nothing and spends three packets at most, besides an error. If it is answered it
has not even reported that. -/

namespace Exchange

/-- An exchange has written no more copies than it may, and reported one error at most. -/
structure Spent (log : Log) : Prop where
  /-- three copies at most -/
  transferred_le : log.transferred ≤ maxAttempts
  /-- one error at most -/
  reported_le : log.reported ≤ 1

variable {peer : Address} {packet : Draft} {block : Int} {timeout : Time} {n : Nat}
  {log after : Log} {next : Next}

theorem Unanswered.transferred_eq (h : Unanswered packet block n log)
    (hpacket : packet.isError = false) : log.transferred = n := by
  simp [Log.transferred, h.packets_eq, List.countP_replicate, hpacket]

theorem Unanswered.reported_eq (h : Unanswered packet block n log)
    (hpacket : packet.isError = false) : log.reported = 0 := by
  simp [Log.reported, h.packets_eq, List.countP_replicate, hpacket]

/-- After its copies an exchange writes an error at most. -/
theorem Unanswered.spent (h : Unanswered packet block n log) (hpacket : packet.isError = false)
    (hn : n ≤ maxAttempts) (htransferred : after.transferred = 0) (hreported : after.reported ≤ 1) :
    Spent (log ++ after) where
  transferred_le := by
    rw [Log.transferred_append, h.transferred_eq hpacket, htransferred]
    exact hn
  reported_le := by
    rw [Log.reported_append, h.reported_eq hpacket, Nat.zero_add]
    exact hreported

/-- However an exchange ends, it has spent no more than it may. -/
theorem Ended.spent {result : Except Fault Draft} (h : Ended packet block log result)
    (hpacket : packet.isError = false) : Spent log := by
  cases h with
  | answered hn h => exact h.spent hpacket hn rfl (Nat.zero_le 1)
  | gaveUp h => exact List.append_nil log ▸ h.spent hpacket le_rfl rfl (Nat.zero_le 1)
  | brokeOff hn h => exact h.spent hpacket hn rfl le_rfl
  | notReported hn h => exact h.spent hpacket hn rfl (Nat.zero_le 1)
  | notSent hn h => exact h.spent hpacket (Nat.le_of_lt hn) rfl (Nat.zero_le 1)
  | failed hn h => exact h.spent hpacket hn rfl (Nat.zero_le 1)
  | unclear hn h => exact h.spent hpacket hn rfl (Nat.zero_le 1)

theorem Trail.spent (h : Trail packet block peer timeout log next)
    (hpacket : packet.isError = false) : Spent log := by
  cases h with
  | sending hn h =>
    exact List.append_nil log ▸ h.spent hpacket (Nat.le_of_lt hn) rfl (Nat.zero_le 1)
  | waiting hn h => exact List.append_nil log ▸ h.spent hpacket hn rfl (Nat.zero_le 1)
  | reporting hn h => exact h.spent hpacket hn rfl (Nat.zero_le 1)
  | ended h => exact h.spent hpacket

/-- An exchange that is answered has reported no error. -/
theorem Ended.reported_eq {reply : Draft} (h : Ended packet block log (.ok reply))
    (hpacket : packet.isError = false) : log.reported = 0 := by
  obtain ⟨n, before, wait, now, -, rfl, hbefore, -⟩ := h.of_ok
  rw [Log.reported_append, hbefore.reported_eq hpacket]
  rfl

end Exchange

/-! ## Sessions

The bound on the reads would not carry itself. What does is sharper: as long as there is a next
block, all reads so far have given full blocks. -/

namespace Session

/-- What was spent when a stage is reached. While there is a block to go on with, every read has
given a full block. -/
inductive Stage.Spent (size : Nat) : Stage → Log → Prop
  /-- before a read, with the exchange before paid for -/
  | fetching {number : UInt16} {log : Log} (hreads : size * log.reads ≤ log.content.length)
      (htransferred : log.transferred ≤ Exchange.maxAttempts * (log.reads + 1))
      (hreported : log.reported = 0) : Spent size (.fetching number) log
  /-- after a read, with an exchange still to be paid for -/
  | exchanging {goal : Goal} {packet : Packet} {block : Int} {log : Log}
      (hpacket : packet.toDraft.isError = false)
      (hreads : size * log.reads ≤ log.content.length + size)
      (hnext : goal.next?.isSome → size * log.reads ≤ log.content.length)
      (htransferred : log.transferred ≤ Exchange.maxAttempts * log.reads)
      (hreported : log.reported = 0) : Spent size (.exchanging goal packet block) log

variable {peer : Address} {request : Draft} {log part : Log} {s : Session} {a : Agreement}
  {goal : Goal} {packet : Packet} {block : Int} {number : UInt16} {next : Exchange.Next}
  {size : Nat}

/-- A read that gives a full block leaves something to go on with. -/
theorem Stage.Spent.fetched (h : (Stage.fetching number).Spent a.terms.blockSize.toNat log)
    (payload : Bytes) :
    (Stage.exchanging (.block number (payload.length < a.terms.blockSize))
      (.data (Bytes.ofWord number) payload) number.toNat).Spent a.terms.blockSize.toNat
        (log ++ [.fetched a.terms.blockSize (.ok payload)]) := by
  cases h with
  | fetching hreads htransferred hreported =>
    have hreads' : Log.reads (log ++ [.fetched a.terms.blockSize (.ok payload)]) = log.reads + 1 :=
      Log.reads_append _ _
    have hcontent : Log.content (log ++ [.fetched a.terms.blockSize (.ok payload)]) =
        log.content ++ payload := by
      simp [Log.content, Deed.payload]
    have hlength : (log.content ++ payload).length = log.content.length + payload.length :=
      List.length_append
    refine .exchanging rfl ?_ ?_ ?_ ?_
    · rw [hreads', hcontent, hlength, Nat.mul_add_one]
      omega
    · intro hnext
      -- the block is not the last, so it is a full one
      have hfull : ¬ (payload.length : Int) < a.terms.blockSize := by
        intro hlast
        simp [Goal.next?, hlast] at hnext
      rw [hreads', hcontent, hlength, Nat.mul_add_one]
      omega
    · rw [hreads', Log.transferred_append]
      exact htransferred
    · rw [Log.reported_append, hreported]
      rfl

/-- An exchange that is answered has spent no more than its copies. -/
theorem Stage.Spent.answered (h : (Stage.exchanging goal packet block).Spent size log)
    {reply : Draft} (hx : Exchanges peer a packet block part (.ended (.ok reply)))
    (hnext : goal.next? = some number) : (Stage.fetching number).Spent size (log ++ part) := by
  cases h with
  | exchanging hpacket _ hfull htransferred hreported =>
    have hpart := Log.reads_eq_zero_of_onWire hx.onWire
    have hspent := hx.ended.spent hpacket
    refine .fetching ?_ ?_ ?_
    · rw [Log.reads_append, hpart, Log.content_append, List.length_append]
      exact (hfull (hnext ▸ rfl)).trans (Nat.le_add_right _ _)
    · rw [Log.reads_append, hpart, Log.transferred_append]
      exact Nat.add_le_add htransferred hspent.transferred_le
    · rw [Log.reported_append, hreported, hx.ended.reported_eq hpacket]

/-- The induction is on the stages that were reached, each of which is paid for by the one
before. -/
theorem Reached.spent {stage : Stage} (h : Reached peer request a stage log) :
    stage.Spent a.terms.blockSize.toNat log := by
  induction h with
  | passedOver => exact .fetching (Nat.zero_le _) (Nat.zero_le _) rfl
  | agreed => exact .exchanging rfl (Nat.zero_le _) (fun _ => Nat.zero_le _) (Nat.zero_le _) rfl
  | fetched _ payload ih => exact ih.fetched payload
  | answered _ hx hnext ih => exact ih.answered hx hnext

/-- While a packet is exchanged a session keeps to the budget. -/
theorem Reached.within (h : Reached peer request a (.exchanging goal packet block) log)
    (hx : Exchanges peer a packet block part next) :
    Log.Within a.terms.blockSize.toNat (log ++ part) := by
  cases h.spent with
  | exchanging hpacket hreads _ htransferred hreported =>
    have hpart := Log.reads_eq_zero_of_onWire hx.onWire
    have hspent := hx.trail.spent hpacket
    constructor
    · rw [Log.reads_append, hpart, Log.content_append, List.length_append]
      exact hreads.trans (Nat.add_le_add_right (Nat.le_add_right _ _) _)
    · rw [Log.reads_append, hpart, Log.transferred_append]
      exact Nat.add_le_add htransferred hspent.transferred_le
    · rw [Log.reported_append, hreported, Nat.zero_add]
      exact hspent.reported_le

/-- When a block is about to be read there is something left. -/
theorem Stage.Spent.within (h : (Stage.fetching number).Spent size log) : log.Within size := by
  cases h with
  | fetching hreads htransferred hreported =>
    exact ⟨hreads.trans (Nat.le_add_right _ _), htransferred, hreported ▸ Nat.zero_le 1⟩

/-- Before a block is read there is a read left in the budget. -/
theorem Stage.Spent.within_failed (h : (Stage.fetching number).Spent size log) (n : Int)
    (f : Fault) :
    Log.Within size (log ++ [.fetched n (.error f)]) ∧
      Log.reported (log ++ [.fetched n (.error f)]) = 0 := by
  cases h with
  | fetching hreads htransferred hreported =>
    have hreads' : Log.reads (log ++ [.fetched n (.error f)]) = log.reads + 1 :=
      Log.reads_append _ _
    have hreported' : Log.reported (log ++ [.fetched n (.error f)]) = 0 := by
      rw [Log.reported_append, hreported]
      rfl
    refine ⟨⟨?_, ?_, hreported' ▸ Nat.zero_le 1⟩, hreported'⟩
    · rw [hreads', Nat.mul_add_one, Log.content_append, List.length_append]
      exact Nat.add_le_add_right (hreads.trans (Nat.le_add_right _ _)) _
    · rw [hreads', Log.transferred_append]
      exact htransferred.trans (Nat.mul_le_mul_left _ (Nat.le_succ _))

/-- Up to a trouble no error was reported. -/
theorem Troubled.within {trouble : Trouble} {terms : Terms} {fileOpen : Bool}
    (h : Troubled peer request trouble terms fileOpen log) :
    log.Within terms.blockSize.toNat ∧ log.reported = 0 := by
  cases h with
  | file h => exact h.spent.within_failed _ _
  | _ => exact ⟨Log.within_of_reads_eq_zero _ rfl rfl (Nat.zero_le 1), rfl⟩

/-- However a session is through with its request, it was within its budget. -/
theorem Concluded.within {terms : Terms} {fileOpen : Bool} {result : Except Fault Outcome}
    (h : Concluded peer request terms fileOpen log result) :
    log.Within terms.blockSize.toNat := by
  cases h with
  | incomplete => exact Log.within_of_reads_eq_zero _ rfl rfl (Nat.zero_le 1)
  | unread => exact Log.within_of_reads_eq_zero _ rfl rfl (Nat.zero_le 1)
  | @reported trouble _ _ before h answer =>
    obtain ⟨hwithin, hnone⟩ := h.within
    have hreport : Log.reported [.sent trouble.report answer] ≤ 1 := by
      cases answer with
      | error f => exact Nat.zero_le 1
      | ok now => exact le_rfl
    have htransferred : Log.transferred [.sent trouble.report answer] = 0 := by
      cases answer <;> rfl
    refine hwithin.append rfl htransferred ?_
    rw [hnone, Nat.zero_add]
    exact hreport
  | exchanged h hx => exact h.within hx

/-- **A session keeps to its budget** all the way, whatever it was asked for and was answered. -/
theorem Trail.within (h : Trail request log s) : log.Within s.size := by
  rw [size]
  cases h with
  | opening _ _ _ hlog => exact hlog ▸ Log.within_of_reads_eq_zero _ rfl rfl (Nat.zero_le 1)
  | fetching _ hterms h => exact hterms ▸ h.spent.within
  | exchanging _ hterms h hx hlog => exact hterms ▸ hlog ▸ h.within hx
  | reporting _ h => exact h.within.1
  | closing _ h => exact h.within
  | ended _ h =>
    generalize s.terms = terms at h
    cases h with
    | unclear => exact Log.within_of_reads_eq_zero _ rfl rfl (Nat.zero_le 1)
    | unopened h => exact h.within
    | closed h answer => exact h.within.append rfl rfl h.within.reported_le

end Session

end Tftp
