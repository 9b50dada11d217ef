import Mathlib.Data.Set.Defs
import Mathlib.Tactic.Ring
import Tftp.Proofs.Rehearsal.Run
import Tftp.Proofs.Session.Blocks

/-!
# Transfers with losses

A client acknowledges at once every packet that expects it, except for those that are lost on the
way to it. Which ones are lost is fixed beforehand by a set of write indexes, and can be any set.

* `Channel.lossy` — the channel to such a client;
* `Loss.walk` — what a session is expected to write: each step of the transfer takes the first index
  that is not lost among the next three;
* `Agreement.steps` — the steps of a transfer, the acknowledgement of the options and the blocks.

The main theorem is `Rehearsal.serves_despite_loss`. The walk counts indexes over all writes, while
an exchange counts only its own attempts. They are brought together one exchange at a time, by
induction on the attempts that are left (`Loss.leads_attempts`).

The walk is a plain recursion over the steps and the set, and can be computed by hand for any small
set. Which of the writes of a whole transfer are lost is up to the set, and nothing is assumed of
it: it may be infinite, and it may hold every write. The clock is part of the statement as well,
since a client can tell from it how long it was kept waiting.
-/

namespace Tftp

/-- The channel to a client that acknowledges at once what expects it, when the writes with some
indexes are lost. -/
def Channel.lossy (S : Set Nat) [DecidablePred (· ∈ S)] (writes : Nat) (clock : Time) :
    Channel where
  respond i packet := if i ∈ S then [] else acknowledging packet
  writes
  clock

/-- The packets of a transfer that are to be acknowledged, in order. -/
def Agreement.steps (a : Agreement) (content : Bytes) : List Draft :=
  (if a.accepted = [] then [] else [(Packet.optionAck a.accepted).toDraft]) ++
    Bytes.blocks a.terms.blockSize.toNat content

namespace Loss

variable (S : Set Nat) [DecidablePred (· ∈ S)]

/-! ## The walk

The walk is arithmetic over a set of indexes and knows nothing of sessions, channels or the time. An
attempt takes one index, whether its packet is lost or not, so that an exchange begins with the
index after the last one of the exchange before. -/

/-- The first of so many indexes that is not lost. -/
def slot? (n i : Nat) : Option Nat :=
  (List.range' i n).find? (· ∉ S)

/-- How many of so many indexes are lost. -/
def lost (i n : Nat) : Nat :=
  (List.range' i n).countP (· ∈ S)

/-- How many copies of a packet are written, the first with an index: those that are lost, and the
one that is not, if there is one. -/
def copies (n i : Nat) : Nat :=
  match slot? S n i with
  | some j => lost S i (j - i) + 1
  | none => n

/-- What is written of some steps, and whether each of them came through. -/
structure Walk where
  /-- the packets that were written, each as often as it was -/
  written : List Draft
  /-- no step ran out of attempts -/
  complete : Bool

/-- How a transfer ends after a walk. -/
def Walk.outcome (w : Walk) : Outcome :=
  if w.complete then .completed else .abortedByTimeout

/-- The walk over some steps, the first of which begins with an index. It stops after the first step
of which every copy is lost. -/
def walk : Nat → List Draft → Walk
  | _, [] => ⟨[], true⟩
  | i, packet :: steps =>
    let written := List.replicate (copies S Exchange.maxAttempts i) packet
    match slot? S Exchange.maxAttempts i with
    | some j => { walk (j + 1) steps with written := written ++ (walk (j + 1) steps).written }
    | none => ⟨written, false⟩

variable {S}
variable {n i j : Nat}

@[simp] theorem slot?_zero (i : Nat) : slot? S 0 i = none := rfl

theorem slot?_of_mem (h : i ∈ S) (n : Nat) : slot? S (n + 1) i = slot? S n (i + 1) := by
  simp [slot?, List.range'_succ, h]

theorem slot?_of_notMem (h : i ∉ S) (n : Nat) : slot? S (n + 1) i = some i := by
  simp [slot?, List.range'_succ, h]

@[simp] theorem lost_zero (i : Nat) : lost S i 0 = 0 := rfl

theorem lost_of_mem (h : i ∈ S) (n : Nat) : lost S i (n + 1) = lost S (i + 1) n + 1 := by
  simp [lost, List.range'_succ, h]

theorem lost_of_notMem (h : i ∉ S) (n : Nat) : lost S i (n + 1) = lost S (i + 1) n := by
  simp [lost, List.range'_succ, h]

/-- Losses add up. By this the losses of a whole walk are counted step by step. -/
theorem lost_add (i m n : Nat) : lost S i (m + n) = lost S i m + lost S (i + m) n := by
  rw [lost, ← List.range'_append_1, List.countP_append]
  rfl

/-- All indexes before the first that is not lost are lost. -/
theorem add_lost_of_slot? (h : slot? S n i = some j) : i + lost S i (j - i) = j := by
  induction n generalizing i with
  | zero => cases h
  | succ n ih =>
    by_cases hi : i ∈ S
    · rw [slot?_of_mem hi] at h
      have hle := ih h
      have hsub : j - i = (j - (i + 1)) + 1 := by omega
      rw [hsub, lost_of_mem hi]
      omega
    · rw [slot?_of_notMem hi, Option.some.injEq] at h
      rw [← h, Nat.sub_self]
      rfl

/-- The copies of a packet reach up to the index that is not lost, so that the next packet begins
right after it. -/
theorem add_copies_of_slot? (h : slot? S n i = some j) : i + copies S n i = j + 1 := by
  have := add_lost_of_slot? h
  simp only [copies, h]
  omega

/-- A copy that is lost is one more. -/
theorem copies_of_mem (h : i ∈ S) (n : Nat) : copies S (n + 1) i = copies S n (i + 1) + 1 := by
  cases hs : slot? S n (i + 1) with
  | none =>
    have hs' : slot? S (n + 1) i = none := by
      rw [slot?_of_mem h, hs]
    simp only [copies, hs, hs']
  | some j =>
    have hs' : slot? S (n + 1) i = some j := by
      rw [slot?_of_mem h, hs]
    have := add_copies_of_slot? hs
    have := add_copies_of_slot? hs'
    omega

theorem copies_of_notMem (h : i ∉ S) (n : Nat) : copies S (n + 1) i = 1 := by
  have := add_copies_of_slot? (slot?_of_notMem h n)
  omega

/-- Where no three indexes in a row are lost, there is always one of three that is not. -/
theorem isSome_slot? (h : ∀ i, ¬ (i ∈ S ∧ i + 1 ∈ S ∧ i + 2 ∈ S)) (i : Nat) :
    (slot? S Exchange.maxAttempts i).isSome := by
  rw [slot?, List.find?_isSome]
  by_contra hall
  -- a third of them that is not lost would have been found
  refine h i ⟨?_, ?_, ?_⟩ <;> by_contra hi <;> refine hall ⟨_, ?_, decide_eq_true hi⟩ <;>
    simp [Exchange.maxAttempts, List.mem_range']

/-- So a walk comes through where no three in a row are lost. -/
theorem walk_complete (h : ∀ i, ¬ (i ∈ S ∧ i + 1 ∈ S ∧ i + 2 ∈ S)) (i : Nat) (steps : List Draft) :
    (walk S i steps).complete = true := by
  induction steps generalizing i with
  | nil => rfl
  | cons packet steps ih =>
    obtain ⟨j, hj⟩ := Option.isSome_iff_exists.mp (isSome_slot? h i)
    simp only [walk, hj]
    exact ih (j + 1)

/-! ## One exchange

A copy is written and its answer is there at once, or the timeout goes by. Put together for the
attempts that are left, this is what the walk says of one step. -/

/-- What a client acknowledges: a packet with the number that is waited for. -/
theorem acknowledging_data (w : UInt16) (payload : Bytes) :
    Channel.acknowledging (Packet.data (Bytes.ofWord w) payload).toDraft =
      [⟨0, .ok (Packet.ack (Bytes.ofWord w)).toDraft⟩] := by
  have hnumber : Channel.blockNumber (Packet.data (Bytes.ofWord w) payload).toDraft = w.toNat := by
    simp [Channel.blockNumber, Packet.toDraft]
  have hlt : w.toNat < 65536 := w.toNat_lt
  have hmod : (((w.toNat : Int) + 0).emod 65536).toNat = w.toNat := by
    rw [Int.add_zero]
    exact congrArg Int.toNat (Int.emod_eq_of_lt (Int.natCast_nonneg _) (by omega))
  simp only [Channel.acknowledging, Channel.Reply.outcome, hnumber, hmod, UInt16.ofNat_toNat]
  rfl

theorem acknowledging_optionAck (options : Options) :
    Channel.acknowledging (Packet.optionAck options).toDraft =
      [⟨0, .ok (Packet.ack (Bytes.ofWord 0)).toDraft⟩] :=
  rfl

open Rehearsal (Scene)
open Rehearsal.Scene (Leads leads_send leads_receive leads_read leads_close)

section

variable {s : Session} {goal : Session.Goal} {x : Exchange} {w : UInt16}
variable (file : File) (sent : List Draft) (clock : Time)

/-- What follows an exchange does not depend on the phase before. -/
theorem follow_enter (s : Session) (p : Session.Phase) (goal : Session.Goal)
    (next : Exchange.Next) :
    ((s.enter p).follow goal next).value = (s.follow goal next).value := by
  cases next with
  | going x => rfl
  | ended result =>
    cases result with
    | ok reply =>
      match goal with
      | .agreement => rfl
      | .block _ true => rfl
      | .block _ false => rfl
    | error f =>
      simp only [Session.follow, Session.unanswered]
      split
      · cases goal <;> rfl
      · split <;> rfl

/-- The exchange while it waits for an answer to the copy that it wrote last. -/
def waiting (x : Exchange) (clock : Time) : Exchange :=
  { x with phase := .waiting clock (clock + x.timeout) }

/-- A copy is written, and an answer to it is under way if it is not lost. -/
theorem leads_copy (hp : s.phase = .exchanging goal x) (hx : x.phase = .sending)
    (ht : 0 < x.timeout) (i : Nat) :
    Leads ⟨s, .lossy S i clock, file, sent⟩
      ⟨s.enter (.exchanging goal (waiting x clock)),
        { Channel.lossy S (i + 1) clock with
          queue := if i ∈ S then [] else Channel.acknowledging x.packet },
        file, sent ++ [x.packet]⟩ := by
  have hlt : clock < clock + x.timeout := Int.lt_add_of_pos_right _ ht
  have hawait : (x.await clock (clock + x.timeout)).value = .going (waiting x clock) :=
    Exchange.value_await_of_lt x hlt
  have h := leads_send (.lossy S i clock) file sent hp hx rfl
  simp only [Channel.lossy, hawait] at h
  exact h

/-- A copy that is not lost is acknowledged at once. -/
theorem leads_kept (hp : s.phase = .exchanging goal x) (hx : x.phase = .sending)
    (ha : Channel.acknowledging x.packet = [⟨0, .ok (Packet.ack (Bytes.ofWord w)).toDraft⟩])
    (hb : x.block = w.toNat) (ht : 0 < x.timeout) (hi : i ∉ S) :
    Leads ⟨s, .lossy S i clock, file, sent⟩
      ⟨(s.follow goal (.ended (.ok (Packet.ack (Bytes.ofWord w)).toDraft))).value,
        .lossy S (i + 1) clock, file, sent ++ [x.packet]⟩ := by
  -- the reply bears the number of the block, and so it is accepted
  have hack : (Packet.ack (Bytes.ofWord w)).toDraft.acknowledges x.block = .ok true :=
    Draft.acknowledges_eq_true_iff.mpr
      ⟨rfl, Bytes.ofWord w, w, rfl, Bytes.toWord?_ofWord w, hb.symm⟩
  have hq : (waiting x clock).phase = .waiting clock (clock + x.timeout) := rfl
  refine (leads_copy file sent clock hp hx ht i).trans ?_
  rw [if_neg hi, ha]
  have h := leads_receive (s := s.enter (.exchanging goal (waiting x clock)))
    { Channel.lossy S (i + 1) clock with
      queue := [⟨0, .ok (Packet.ack (Bytes.ofWord w)).toDraft⟩] }
    file (sent ++ [x.packet]) rfl hq
  simp only [Channel.receive, Channel.lossy, Int.add_zero, Exchange.received, waiting, hack,
    follow_enter] at h
  exact h

/-- After a copy that is lost the whole timeout goes by. -/
theorem leads_lost (hp : s.phase = .exchanging goal x) (hx : x.phase = .sending)
    (ht : 0 < x.timeout) (hi : i ∈ S) :
    Leads ⟨s, .lossy S i clock, file, sent⟩
      ⟨(s.follow goal x.retry.value).value, .lossy S (i + 1) (clock + x.timeout), file,
        sent ++ [x.packet]⟩ := by
  have hq : (waiting x clock).phase = .waiting clock (clock + x.timeout) := rfl
  have hretry : (waiting x clock).retry.value = x.retry.value := rfl
  have hwait : clock + x.timeout - clock = x.timeout := by
    rw [Int.add_comm, Int.add_sub_cancel]
  have hover : Channel.waitOver.isTimeout = true := rfl
  refine (leads_copy file sent clock hp hx ht i).trans ?_
  rw [if_pos hi]
  have h := leads_receive (s := s.enter (.exchanging goal (waiting x clock)))
    (Channel.lossy S (i + 1) clock) file (sent ++ [x.packet]) rfl hq
  simp only [Channel.receive, Channel.lossy, Exchange.received, hwait, hover, if_true, follow_enter,
    hretry] at h
  exact h

/-- How an exchange ends that has so many attempts left. -/
def answer (S : Set Nat) [DecidablePred (· ∈ S)] (n i : Nat) (w : UInt16) : Exchange.Next :=
  .ended (if (slot? S n i).isSome then .ok (Packet.ack (Bytes.ofWord w)).toDraft
    else .error Exchange.exhausted)

/-- An exchange with some attempts left writes the copies that the walk counts, and the timeout goes
by once for each that is lost. The induction is on the attempts that are left: a copy that is kept
ends the exchange, and after one that is lost there is an attempt less and an index more. -/
theorem leads_attempts (hp : s.phase = .exchanging goal x) (hx : x.phase = .sending)
    (ha : Channel.acknowledging x.packet = [⟨0, .ok (Packet.ack (Bytes.ofWord w)).toDraft⟩])
    (hb : x.block = w.toNat) (ht : 0 < x.timeout) (hn : x.attempt + n = Exchange.maxAttempts) :
    Leads ⟨s, .lossy S i clock, file, sent⟩
      ⟨(s.follow goal (answer S (n + 1) i w)).value,
        .lossy S (i + copies S (n + 1) i) (clock + x.timeout * lost S i (copies S (n + 1) i)),
        file, sent ++ List.replicate (copies S (n + 1) i) x.packet⟩ := by
  -- a lost copy leaves one attempt less, and one that is kept ends the exchange
  induction n generalizing s x i clock sent with
  | zero =>
    by_cases hi : i ∈ S
    · have h := leads_lost file sent clock hp hx ht hi
      have hretry : x.retry.value = .ended (.error Exchange.exhausted) :=
        Exchange.value_retry_of_le x hn.ge
      rw [hretry] at h
      simpa [answer, slot?_of_mem hi, copies, lost_of_mem hi] using h
    · have h := leads_kept file sent clock hp hx ha hb ht hi
      simpa [answer, slot?_of_notMem hi, copies_of_notMem hi, lost_of_notMem hi] using h
  | succ n ih =>
    by_cases hi : i ∈ S
    · have h := leads_lost file sent clock hp hx ht hi
      have hretry : x.retry.value = .going { x with attempt := x.attempt + 1, phase := .sending } :=
        Exchange.value_retry_of_lt x (by omega)
      rw [hretry] at h
      have hattempt : x.attempt + 1 + n = Exchange.maxAttempts := by omega
      have hrest := ih (s := s.enter (.exchanging goal
          { x with attempt := x.attempt + 1, phase := .sending })) (i := i + 1)
        (sent ++ [x.packet]) (clock + x.timeout) rfl rfl ha hb ht hattempt
      have hclock : clock + x.timeout + x.timeout * lost S (i + 1) (copies S (n + 1) (i + 1)) =
          clock + x.timeout * (lost S (i + 1) (copies S (n + 1) (i + 1)) + 1 : Nat) := by
        push_cast
        ring
      -- what is written from the next index on is one copy less, one of them lost
      rw [follow_enter, hclock, List.append_assoc, List.singleton_append, ← List.replicate_succ,
        Nat.add_right_comm i 1, ← lost_of_mem hi, ← copies_of_mem hi, Nat.add_assoc i,
        ← copies_of_mem hi] at hrest
      rw [answer, slot?_of_mem hi]
      exact h.trans hrest
    · have h := leads_kept file sent clock hp hx ha hb ht hi
      simpa [answer, slot?_of_notMem hi, copies_of_notMem hi, lost_of_notMem hi] using h

variable (goal) in
/-- The exchange of a packet under the terms of a session, from its first attempt on. -/
theorem leads_exchange {packet : Packet} (ha : Channel.acknowledging packet.toDraft =
      [⟨0, .ok (Packet.ack (Bytes.ofWord w)).toDraft⟩]) :
    Leads ⟨s.exchange goal packet w.toNat, .lossy S i clock, file, sent⟩
      ⟨(s.follow goal (answer S Exchange.maxAttempts i w)).value,
        .lossy S (i + copies S Exchange.maxAttempts i) (clock +
          Time.ofSeconds s.terms.timeout * lost S i (copies S Exchange.maxAttempts i)),
        file, sent ++ List.replicate (copies S Exchange.maxAttempts i) packet.toDraft⟩ := by
  have hstart : (Exchange.start s.peer packet.toDraft w.toNat
      (.ofSeconds s.terms.timeout)).attempt + 2 = Exchange.maxAttempts := rfl
  have h := leads_attempts (S := S) (i := i) (s := s.exchange goal packet w.toNat) file sent clock
    rfl rfl ha rfl s.timeout_pos hstart
  rw [Session.exchange, follow_enter] at h
  exact h

end

/-! ## The steps of a transfer

From here on scenes are joined whose sessions stand between two exchanges. What is left of the file
and what is left of the steps go together: when so many blocks were read, so many steps are done. -/

/-- From a scene with such a session and file on, a transfer goes as the walk over some steps
says. -/
def Goes (S : Set Nat) [DecidablePred (· ∈ S)] (s t : Session) (file : File) (steps : List Draft) :
    Prop :=
  ∀ (i : Nat) (clock : Time) (sent : List Draft), ∃ left : File, left.closing = none ∧
    Leads ⟨t, .lossy S i clock, file, sent⟩
      ⟨s.enter (.closing (.ok (walk S i steps).outcome)),
        .lossy S (i + (walk S i steps).written.length) (clock +
          Time.ofSeconds s.terms.timeout * lost S i (walk S i steps).written.length),
        left, sent ++ (walk S i steps).written⟩

section

variable {s : Session} {file : File} {steps : List Draft} {w : UInt16}

/-- After the last block there are no steps left. -/
theorem goes_nil (hfile : file.closing = none) :
    Goes S s (s.enter (.closing (.ok .completed))) file [] := by
  intro i clock sent
  refine ⟨file, hfile, ?_⟩
  simpa [walk, Walk.outcome] using Leads.refl _

/-- One step, and the steps after it in the case that it comes through. If all its copies are lost
the transfer is over with a timeout. If not, the next step begins with the index after the copy that
was kept, and the losses of both are added up on the clock. -/
theorem Goes.cons {goal : Session.Goal} {packet : Packet} (hfile : file.closing = none)
    (ha : Channel.acknowledging packet.toDraft =
      [⟨0, .ok (Packet.ack (Bytes.ofWord w)).toDraft⟩])
    (h : Goes S s (s.acknowledged goal).value file steps) :
    Goes S s (s.exchange goal packet w.toNat) file (packet.toDraft :: steps) := by
  intro i clock sent
  have hfirst := leads_exchange (S := S) (s := s) (i := i) goal file sent clock ha
  cases hs : slot? S Exchange.maxAttempts i with
  | none =>
    have hwalk : walk S i (packet.toDraft :: steps) =
        ⟨List.replicate (copies S Exchange.maxAttempts i) packet.toDraft, false⟩ := by
      simp only [walk, hs]
    have hanswer : answer S Exchange.maxAttempts i w = .ended (.error Exchange.exhausted) := by
      simp only [answer, hs]
      rfl
    have hfollow : (s.follow goal (.ended (.error Exchange.exhausted))).value =
        s.enter (.closing (.ok .abortedByTimeout)) := by
      cases goal <;> rfl
    refine ⟨file, hfile, ?_⟩
    rw [hwalk, List.length_replicate]
    rw [hanswer, hfollow] at hfirst
    exact hfirst
  | some j =>
    have hwalk : walk S i (packet.toDraft :: steps) =
        ⟨List.replicate (copies S Exchange.maxAttempts i) packet.toDraft ++
          (walk S (j + 1) steps).written, (walk S (j + 1) steps).complete⟩ := by
      simp only [walk, hs]
    have hanswer : answer S Exchange.maxAttempts i w =
        .ended (.ok (Packet.ack (Bytes.ofWord w)).toDraft) := by
      simp only [answer, hs]
      rfl
    have hnext := add_copies_of_slot? hs
    -- the steps that are left begin later, after what was written and lost so far
    obtain ⟨left, hleft, hrest⟩ := h (i + copies S Exchange.maxAttempts i)
      (clock + Time.ofSeconds s.terms.timeout * lost S i (copies S Exchange.maxAttempts i))
      (sent ++ List.replicate (copies S Exchange.maxAttempts i) packet.toDraft)
    refine ⟨left, hleft, ?_⟩
    rw [hanswer] at hfirst
    have hclock (m n : Nat) : clock + Time.ofSeconds s.terms.timeout * m +
        Time.ofSeconds s.terms.timeout * n =
          clock + Time.ofSeconds s.terms.timeout * (m + n : Nat) := by
      push_cast
      ring
    -- the next step begins with the index after the last copy of this one
    rw [← hnext] at hwalk
    rw [hclock, ← lost_add, List.append_assoc, Nat.add_assoc] at hrest
    simp only [hwalk, List.length_append, List.length_replicate]
    exact hfirst.trans hrest

/-- A scene that leads to another without a packet. -/
theorem Goes.of_leads {t u : Session} {file' : File}
    (hlead : ∀ c sent, Leads ⟨t, c, file, sent⟩ ⟨u, c, file', sent⟩)
    (h : Goes S s u file' steps) : Goes S s t file steps := by
  intro i clock sent
  obtain ⟨left, hleft, hrest⟩ := h i clock sent
  exact ⟨left, hleft, (hlead _ sent).trans hrest⟩

/-- A file in memory that never fails. -/
def held (observed : Bool) (content : Bytes) : File :=
  { source := .content content, observed }

/-- A read from a file in memory gives its front and leaves the rest. -/
theorem read_held (observed : Bool) (content : Bytes) (n : Nat) :
    (held observed content).read n = (.ok (content.take n), held observed (content.drop n)) := by
  have hn : ¬ (n : Int) < 0 := by omega
  simp only [held, File.read, File.Source.take, hn, if_false, List.splitAt_eq, Int.toNat_natCast,
    Option.map_none]

variable (content : Bytes) (observed : Bool)

/-- A block is read and exchanged, and the transfer goes on from there. What is left of the file
after the read is the content without the blocks so far, and what is left of the steps are the
blocks after this one. -/
theorem goes_block {k : Nat} (hk : k ≤ content.length / s.size)
    (h : Goes S s
      (s.acknowledged (.block (.ofNat (k + 1)) (decide (k = content.length / s.size)))).value
      (held observed (content.drop ((k + 1) * s.size)))
      ((Bytes.blocks s.size content).drop (k + 1))) :
    Goes S s (s.enter (.fetching (.ofNat (k + 1)))) (held observed (content.drop (k * s.size)))
      ((Bytes.blocks s.size content).drop k) := by
  have hlt : k < (Bytes.blocks s.size content).length := by
    rw [Bytes.length_blocks]
    exact Nat.lt_succ_of_le hk
  have hread := read_held observed (content.drop (k * s.size)) s.size
  -- the session knows the last block by its length, the walk by its index
  have hlast : decide ((((content.drop (k * s.size)).take s.size).length : Int) < s.size) =
      decide (k = content.length / s.size) := by
    rw [decide_eq_decide, Int.ofNat_lt]
    exact Bytes.length_take_drop_lt_iff s.size_pos hk
  rw [List.drop_drop, ← Nat.succ_mul] at hread
  rw [List.drop_eq_getElem_cons hlt, Bytes.getElem_blocks, Bytes.block_succ]
  refine Goes.of_leads (fun c sent => leads_read c _ sent rfl) ?_
  rw [Session.terms_enter, s.blockSize_eq, hread]
  have hfetched (payload : Bytes) : ((s.enter (.fetching (.ofNat (k + 1)))).fetched
      (.ofNat (k + 1)) (.ok payload)).value = s.exchange
        (.block (.ofNat (k + 1)) (decide ((payload.length : Int) < s.terms.blockSize)))
        (.data (Bytes.ofWord (.ofNat (k + 1))) payload) (UInt16.ofNat (k + 1)).toNat := rfl
  rw [hfetched, s.blockSize_eq, hlast]
  exact Goes.cons rfl (acknowledging_data _ _) h

/-- The blocks that are left are transferred, by induction on how many come after the next one. With
the last block the session closes its file, and with every other one it reads the next. -/
theorem goes_fetching {k m : Nat} (hk : k + m = content.length / s.size) :
    Goes S s (s.enter (.fetching (.ofNat (k + 1)))) (held observed (content.drop (k * s.size)))
      ((Bytes.blocks s.size content).drop k) := by
  induction m generalizing k with
  | zero =>
    rw [Nat.add_zero] at hk
    have hdrop : (Bytes.blocks s.size content).drop (k + 1) = [] := by
      apply List.drop_of_length_le
      rw [Bytes.length_blocks, ← hk]
    refine goes_block content observed (Nat.le_of_eq hk) ?_
    rw [hdrop, decide_eq_true hk]
    exact goes_nil rfl
  | succ m ih =>
    have hne : k ≠ content.length / s.size := by omega
    have hnext : (s.acknowledged (.block (.ofNat (k + 1)) false)).value =
        s.enter (.fetching (.ofNat (k + 1 + 1))) :=
      congrArg (fun n => s.enter (.fetching n)) (UInt16.ofNat_add (k + 1) 1).symm
    refine goes_block content observed (by omega) ?_
    rw [decide_eq_false hne, hnext]
    exact ih (by omega)

/-- The session of a request is answered by its backend, and the steps of the transfer follow. With
options that are accepted there is a step before the blocks, and without there is none. -/
theorem goes_opened {t : Session} {requested : Options} {a : Agreement}
    (h : s.Opened (some requested) (.ok ()) t) (ha : negotiate requested s.terms = .ok a) :
    ∃ u : Session, u.terms = a.terms ∧
      Goes S u t (held observed content) (a.steps content) := by
  have hfirst (u : Session) : Goes S u (u.enter (.fetching 1)) (held observed content)
      (Bytes.blocks u.size content) := by
    have h := goes_fetching (S := S) (s := u) content observed
      (Nat.zero_add (content.length / u.size))
    rw [Nat.zero_mul, List.drop_zero, List.drop_zero] at h
    exact h
  cases h with
  | incomplete heq => cases heq
  | rejected heq hn =>
    cases heq
    rw [ha] at hn
    cases hn
  | failed heq hn =>
    cases heq
    rw [ha] at hn
    cases hn
  | @passedOver _ b heq hn hb =>
    cases heq
    obtain rfl : a = b := by
      rw [ha] at hn
      exact Except.ok.inj hn
    refine ⟨s.under hn, rfl, ?_⟩
    rw [Agreement.steps, if_pos hb]
    exact hfirst (s.under hn)
  | @agreed _ b heq hn hb =>
    cases heq
    obtain rfl : a = b := by
      rw [ha] at hn
      exact Except.ok.inj hn
    refine ⟨s.under hn, rfl, ?_⟩
    rw [Agreement.steps, if_neg hb]
    exact Goes.cons rfl (acknowledging_optionAck _) (hfirst (s.under hn))

end

/-! ## What is written

What can be said of the packets of a walk, without the session that wrote them. -/

theorem mem_of_mem_written {i : Nat} {steps : List Draft} {packet : Draft}
    (h : packet ∈ (walk S i steps).written) : packet ∈ steps := by
  induction steps generalizing i with
  | nil => cases h
  | cons first steps ih =>
    cases hs : slot? S Exchange.maxAttempts i with
    | none =>
      simp only [walk, hs] at h
      rw [List.eq_of_mem_replicate h]
      exact List.mem_cons_self
    | some j =>
      simp only [walk, hs] at h
      rcases List.mem_append.mp h with h | h
      · rw [List.eq_of_mem_replicate h]
        exact List.mem_cons_self
      · exact List.mem_cons_of_mem _ (ih h)

/-- A walk that comes through has written every step, each some times in a row. The counts are those
of the copies, and each is one at least since an exchange writes before it waits. -/
theorem exists_copied {i : Nat} {steps : List Draft} (h : (walk S i steps).complete = true) :
    ∃ counts : List Nat, counts.length = steps.length ∧ (∀ c ∈ counts, 1 ≤ c) ∧
      (walk S i steps).written = (copied counts steps).flatten := by
  induction steps generalizing i with
  | nil => exact ⟨[], rfl, nofun, rfl⟩
  | cons first steps ih =>
    cases hs : slot? S Exchange.maxAttempts i with
    | none =>
      simp only [walk, hs] at h
      cases h
    | some j =>
      simp only [walk, hs] at h ⊢
      obtain ⟨counts, hlength, hpos, hwritten⟩ := ih h
      have hcopies := add_copies_of_slot? hs
      have hj := add_lost_of_slot? hs
      refine ⟨copies S Exchange.maxAttempts i :: counts, ?_, ?_, ?_⟩
      · rw [List.length_cons, List.length_cons, hlength]
      · intro c hc
        rcases List.mem_cons.mp hc with rfl | hc
        · omega
        · exact hpos c hc
      · rw [hwritten]
        rfl

/-- The packets of a transfer are no reports of errors. -/
theorem opcode_ne_of_mem_steps {a : Agreement} {content : Bytes} {packet : Draft}
    (h : packet ∈ a.steps content) : packet.opcode ≠ some Opcode.error.bytes := by
  rcases List.mem_append.mp h with h | h
  · split at h
    · cases h
    · rw [List.mem_singleton.mp h]
      simp [Packet.opcode, Opcode.bytes]
  · obtain ⟨i, hi, rfl⟩ := List.getElem_of_mem h
    rw [Bytes.getElem_blocks, Bytes.opcode_block]
    decide

/-- No two steps that follow one another are equal. This is why repetitions can be told from
steps. -/
theorem isChain_steps (a : Agreement) (content : Bytes) : (a.steps content).IsChain (· ≠ ·) := by
  have hblocks := Bytes.isChain_blocks a.terms.blockSize.toNat content
  rw [Agreement.steps]
  split
  · exact hblocks
  · refine List.isChain_cons.mpr ⟨?_, hblocks⟩
    intro packet hp heq
    have hmem : packet ∈ Bytes.blocks a.terms.blockSize.toNat content := List.mem_of_mem_head? hp
    obtain ⟨i, hi, hpacket⟩ := List.getElem_of_mem hmem
    rw [Bytes.getElem_blocks] at hpacket
    rw [← hpacket] at heq
    cases Packet.toDraft_inj heq

/-- The steps carry the content, for the acknowledgement of options has no payload. -/
theorem flatten_bytes_steps {a : Agreement} (hsize : 0 < a.terms.blockSize.toNat)
    (content : Bytes) : ((a.steps content).map Draft.bytes).flatten = content := by
  have hblocks := Bytes.flatten_bytes_blocks hsize content
  rw [Agreement.steps, List.map_append, List.flatten_append, hblocks]
  split <;> rfl

end Loss

namespace Rehearsal

/-- A rehearsal with losses runs to the end of the walk. Its scenes are joined: the file is opened,
the steps go as the walk goes, the file is closed, and then nothing is left to do. -/
theorem exists_scene_run (S : Set Nat) [DecidablePred (· ∈ S)] {peer : Address} {q : Request}
    {a : Agreement} {backend : Option Backend} {files : FileSystem} {content : Bytes}
    {observed : Bool}
    (hfile : (Backend.openFile? files peer q.filename.toText backend).answer =
      .file { source := .content content, observed })
    (ha : negotiate q.options Terms.default = .ok a) :
    let w := Loss.walk S 0 (a.steps content)
    ∃ (u : Session) (left : File),
      (start peer (Packet.readRequest q).toDraft backend files (.lossy S 0 0)).run.scene =
        ⟨u.enter (.ended (.ok w.outcome)), .lossy S w.written.length
          (Time.ofSeconds a.terms.timeout * Loss.lost S 0 w.written.length), left, w.written⟩ := by
  intro w
  have hopened := (Session.start peer (Packet.readRequest q).toDraft).value.opened_spec
    q.filename.toText (some q.options) (.ok ())
  obtain ⟨u, hu, hgoes⟩ := Loss.goes_opened (S := S) content observed hopened ha
  obtain ⟨left, hleft, hlead⟩ := hgoes 0 0 []
  have hclosed : ((u.enter (.closing (.ok w.outcome))).closed (.ok w.outcome) left.close).value =
      u.enter (.ended (.ok w.outcome)) := by
    rw [Session.value_closed, File.close, hleft]
    rfl
  -- the transfer is opened, goes the walk and closes its file
  obtain ⟨t, hstep, ht⟩ := exists_step_start (.lossy S 0 0) hfile
  obtain ⟨v, hv, hrun⟩ := hlead t ht
  obtain ⟨z, hz, hrun'⟩ := Scene.leads_close _ _ _ rfl v hv
  rw [hclosed, Nat.zero_add, Int.zero_add, List.nil_append, hu] at hz
  have hover : z.step = none := by
    have hsession : z.session = u.enter (.ended (.ok w.outcome)) := congrArg Scene.session hz
    simp only [step, hsession, Session.call, Session.phase_enter]
  refine ⟨u, left, ?_⟩
  rw [run_of_step hstep, hrun, hrun', run_of_step_eq_none hover]
  exact hz

/-- **A transfer survives every loss that leaves one copy in three.** Each step of it takes the
first index that is not lost among the next three. If every step gets one, the transfer
completes and the whole content was sent. Otherwise it is aborted after the third copy of the first
step without one. In both cases the packets are those of the walk, each written as often as copies
were lost and once more if one was not, there is no error packet, and the negotiated timeout went by
once for each lost copy. -/
theorem serves_despite_loss (S : Set Nat) [DecidablePred (· ∈ S)] {peer : Address} {q : Request}
    {a : Agreement} {backend : Option Backend} {files : FileSystem} {content : Bytes}
    {observed : Bool}
    (hfile : (Backend.openFile? files peer q.filename.toText backend).answer =
      .file { source := .content content, observed })
    (ha : negotiate q.options Terms.default = .ok a) :
    let r := (start peer (Packet.readRequest q).toDraft backend files (.lossy S 0 0)).run
    let w := Loss.walk S 0 (a.steps content)
    r.result? = some (.ok w.outcome) ∧ r.transcript.sent = w.written ∧
      r.channel.clock = Time.ofSeconds a.terms.timeout * Loss.lost S 0 w.written.length ∧
      (∀ packet ∈ r.transcript.sent, packet.opcode ≠ some Opcode.error.bytes) ∧
      (w.complete = true → collapse r.transcript.sent = a.steps content ∧
        ((collapse r.transcript.sent).map Draft.bytes).flatten = content) ∧
      ((∀ i, ¬ (i ∈ S ∧ i + 1 ∈ S ∧ i + 2 ∈ S)) → r.result? = some (.ok .completed)) := by
  intro r w
  obtain ⟨u, left, hscene⟩ := exists_scene_run S hfile ha
  have hresult : r.result? = some (.ok w.outcome) := by
    have hsession : r.session = u.enter (.ended (.ok w.outcome)) := congrArg Scene.session hscene
    rw [result?, hsession, Session.phase_enter]
  have hsent : r.transcript.sent = w.written := congrArg Scene.sent hscene
  have hclock : r.channel.clock =
      Time.ofSeconds a.terms.timeout * Loss.lost S 0 w.written.length :=
    congrArg (fun scene => scene.channel.clock) hscene
  refine ⟨hresult, hsent, hclock, ?_, ?_, ?_⟩
  · intro packet hp
    rw [hsent] at hp
    exact Loss.opcode_ne_of_mem_steps (Loss.mem_of_mem_written hp)
  · intro hw
    obtain ⟨counts, hlength, hpos, hwritten⟩ := Loss.exists_copied hw
    have hcollapse : collapse r.transcript.sent = a.steps content := by
      rw [hsent, hwritten, collapse_copied hpos (Loss.isChain_steps a content), hlength,
        List.take_length]
    have hsize : 0 < a.terms.blockSize.toNat := by
      have := (valid_of_negotiate Terms.valid_default ha).blockSize_pos
      omega
    rw [hcollapse]
    exact ⟨rfl, Loss.flatten_bytes_steps hsize content⟩
  · intro hS
    rw [hresult, Loss.Walk.outcome, if_pos (Loss.walk_complete hS 0 _)]

/-- Two copies of every three are lost. -/
theorem serves_despite_loss_twoOfThree :
    let S : Set Nat := {i | i % 3 < 2}
    let q : Request := ⟨[102], octetMode, []⟩
    let backend := some (Backend.constant [1, 2, 3])
    let r := (start .null (Packet.readRequest q).toDraft backend .empty (.lossy S 0 0)).run
    let w := Loss.walk S 0 (Agreement.steps ⟨Terms.default, []⟩ [1, 2, 3])
    (Backend.openFile? .empty .null q.filename.toText backend).answer =
        .file { source := .content [1, 2, 3], observed := false } ∧
      negotiate q.options Terms.default = .ok ⟨Terms.default, []⟩ ∧
      r.result? = some (.ok w.outcome) ∧ r.transcript.sent = w.written ∧
      r.channel.clock = Time.ofSeconds 3 * Loss.lost S 0 w.written.length ∧
      (∀ packet ∈ r.transcript.sent, packet.opcode ≠ some Opcode.error.bytes) ∧
      (w.complete = true →
        collapse r.transcript.sent = Agreement.steps ⟨Terms.default, []⟩ [1, 2, 3] ∧
        ((collapse r.transcript.sent).map Draft.bytes).flatten = [1, 2, 3]) ∧
      r.result? = some (.ok .completed) := by
  intro S q backend r w
  have hfile : (Backend.openFile? .empty .null q.filename.toText backend).answer =
      .file { source := .content [1, 2, 3], observed := false } := rfl
  have ha : negotiate q.options Terms.default = .ok ⟨Terms.default, []⟩ := rfl
  obtain ⟨hresult, hsent, hclock, herror, hwhole, hcompletes⟩ := serves_despite_loss S hfile ha
  refine ⟨hfile, ha, hresult, hsent, hclock, herror, hwhole, hcompletes ?_⟩
  rintro i ⟨h₀, h₁, h₂⟩
  have hi₀ : i % 3 < 2 := h₀
  have hi₁ : (i + 1) % 3 < 2 := h₁
  have hi₂ : (i + 2) % 3 < 2 := h₂
  omega

end Rehearsal

end Tftp
