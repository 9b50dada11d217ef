import Mathlib.Data.List.Basic
import Tftp.Connection

/-!
# A connection as a reader

Whatever is done to a connection, in whatever order, the packets of its client are read exactly once
and in the order of their arrival. What is done may follow from what was read: when a read is
settled, its callback does more before anything else is done.

* `Line.Turn` — one thing that is done to a connection, and `Turn.effect`, what came of it;
* `Line.point` — a run after so many turns, with callbacks;
* `Line.Turn.Comes` — all that a turn can come to;
* `Line.Kept` — the invariant, which every turn keeps (`Kept.turn`);
* `Line.Orderly` — what a reader can rely on.

The main theorem is `Line.orderly_point`.
-/

namespace Tftp

/-- Whether a read was settled with a packet, or with the fault of a datagram that is none. -/
def isDelivery : Except Fault Packet → Bool
  | .ok _ => true
  | .error (.malformed _) => true
  | .error _ => false

/-- Whatever arrives, a packet or the fault of a malformed datagram, its outcome counts as
delivered. The two faults that a connection makes by itself do not. -/
theorem isDelivery_outcome (arrival : Arrival) : isDelivery arrival.outcome = true := by
  cases arrival <;> rfl

namespace Line

/-! ## Turns

A connection is told by what is done to it. A turn has the connection before it, so that everything
that came of it can be computed from the turn alone. -/

/-- Something is done to a connection, as it is and at the time that it is. -/
structure Turn where
  before : Line
  input : Input

namespace Turn

/-- What comes of a turn. -/
def effect (t : Turn) : Connection.Effect :=
  (t.before.step t.input).1

/-- The connection and the clock after a turn. -/
def after (t : Turn) : Line :=
  ⟨t.effect.connection, (t.before.step t.input).2⟩

/-- Whether a packet is asked for. -/
def isRead (t : Turn) : Bool :=
  match t.input with
  | .read _ => true
  | _ => false

/-- Whether the connection is closed, or its transport stops. -/
def ends (t : Turn) : Bool :=
  match t.input with
  | .close | .stop => true
  | _ => false

/-- What a datagram from the client is, if one arrives while the connection is open. -/
def arrival? (t : Turn) : Option Arrival :=
  match t.input with
  | .receive bytes sender =>
    if !t.before.connection.closed && sender.same t.before.connection.peer then
      some (Packet.decode bytes)
    else none
  | _ => none

/-- Nothing arrives by a read. -/
theorem arrival?_of_isRead {t : Turn} (h : t.isRead = true) : t.arrival? = none := by
  obtain ⟨l, input⟩ := t
  cases input with
  | receive bytes sender => cases h
  | _ => rfl

/-- A read ends nothing. -/
theorem ends_of_isRead {t : Turn} (h : t.isRead = true) : t.ends = false := by
  obtain ⟨l, input⟩ := t
  cases input with
  | close => cases h
  | stop => cases h
  | _ => rfl

/-- What the callback of a read does, if a read is settled. It is told which read it was and what
came of it. -/
def followUp (react : Nat → Except Fault Packet → List Input) (t : Turn) : List Input :=
  match t.effect.settled with
  | some (number, result) => react number result
  | none => []

end Turn

/-- The reads that were settled, with their results. -/
def settled (log : List Turn) : List (Nat × Except Fault Packet) :=
  log.filterMap fun t => t.effect.settled

/-- What the reads gave that were settled with something from the client. -/
def delivered (log : List Turn) : List (Except Fault Packet) :=
  ((settled log).map Prod.snd).filter isDelivery

/-- What arrived from the client while the connection was open. -/
def arrivals (log : List Turn) : List Arrival :=
  log.filterMap Turn.arrival?

/-! ## Runs with callbacks

What is to be done is kept as an agenda. When a turn settles a read, what its callback does is put
in front of the agenda, so that a callback may read, write or close again and again before the next
thing from outside is done. -/

/-- A point of a run: what was done, where that led, and what is to be done next. -/
structure Point where
  log : List Turn
  line : Line
  agenda : List Input

/-- The next turn. What the callback of a settled read does comes before everything else, as it is
run before the call returns that settled the read. -/
def Point.next (react : Nat → Except Fault Packet → List Input) (p : Point) : Point :=
  match p.agenda with
  | [] => p
  | input :: agenda =>
    let t : Turn := ⟨p.line, input⟩
    ⟨p.log ++ [t], t.after, t.followUp react ++ agenda⟩

/-- A run after so many turns. -/
def point (react : Nat → Except Fault Packet → List Input) (start : Line) (inputs : List Input) :
    Nat → Point
  | 0 => ⟨[], start, inputs⟩
  | n + 1 => (point react start inputs n).next react

variable {react : Nat → Except Fault Packet → List Input} {start l : Line} {inputs : List Input}
  {log : List Turn} {t : Turn}

/-- Every turn of a run was taken at an earlier point of it. -/
theorem exists_point_of_log_eq {n : Nat} {earlier later : List Turn}
    (h : (point react start inputs n).log = earlier ++ t :: later) :
    ∃ m, (point react start inputs m).log = earlier ∧
      (point react start inputs m).line = t.before := by
  induction n generalizing later with
  | zero => exact absurd h.symm (List.append_ne_nil_of_right_ne_nil _ (List.cons_ne_nil _ _))
  | succ n ih =>
    rw [point, Point.next] at h
    split at h
    · exact ih h
    · next input agenda ha =>
      rcases List.eq_nil_or_concat later with rfl | ⟨init, last, rfl⟩
      · obtain ⟨hlog, hturn⟩ := List.append_inj' h rfl
        refine ⟨n, hlog, ?_⟩
        rw [← List.head_eq_of_cons_eq hturn]
      · rw [List.concat_eq_append, ← List.cons_append, ← List.append_assoc] at h
        exact ih (List.append_inj' h rfl).1

/-! ## What a turn comes to

The ways in which a turn can end are listed once, each with the connection before and after it. The
four parts of the invariant are proved by going through this list, and the definitions of the
connection are not opened again. -/

/-- All that a turn can come to. -/
inductive Turn.Comes (t : Turn) : Prop where
  /-- at most the transport changes, and something may be sent while the connection is open -/
  | unchanged {transport : Option Transport} (hread : t.isRead = false)
      (harrival : t.arrival? = none)
      (hends : t.ends = true → t.before.connection.closed = true)
      (hafter : t.effect.connection = { t.before.connection with transport })
      (hsettled : t.effect.settled = none)
      (hsent : t.before.connection.closed = true → t.effect.sent = [])
  /-- another read is pending -/
  | refused (hread : t.isRead = true) (hpending : t.before.connection.pending.isSome = true)
      (heffect : t.effect = { connection :=
          { t.before.connection with asked := t.before.connection.asked + 1 }
                              raised := some Connection.busyFault })
  /-- a read finds the connection closed -/
  | late (hread : t.isRead = true) (hclosed : t.before.connection.closed = true)
      (heffect : t.effect = { connection :=
          { t.before.connection with asked := t.before.connection.asked + 1 }
                              settled := some (t.before.connection.asked,
                                .error Connection.closedFault) })
  /-- a read takes the first of the queue -/
  | taken {arrival : Arrival} {queue : List Arrival} (hread : t.isRead = true)
      (hpending : t.before.connection.pending = none)
      (hclosed : t.before.connection.closed = false)
      (hqueue : t.before.connection.queue = arrival :: queue)
      (heffect : t.effect = { connection :=
          { t.before.connection with asked := t.before.connection.asked + 1, queue }
                              settled := some (t.before.connection.asked, arrival.outcome) })
  /-- a read has to wait -/
  | waits {due : Time} (hread : t.isRead = true) (hpending : t.before.connection.pending = none)
      (hclosed : t.before.connection.closed = false) (hqueue : t.before.connection.queue = [])
      (heffect : t.effect = { connection :=
          { t.before.connection with
            asked := t.before.connection.asked + 1
            pending := some t.before.connection.asked
            timer := some due } })
  /-- something arrives and has to wait -/
  | queued {arrival : Arrival} (hread : t.isRead = false) (hends : t.ends = false)
      (harrival : t.arrival? = some arrival)
      (hpending : t.before.connection.pending = none)
      (hclosed : t.before.connection.closed = false)
      (hafter : t.effect.connection =
        { t.before.connection with queue := t.before.connection.queue ++ [arrival] })
      (hsettled : t.effect.settled = none)
  /-- something arrives and is delivered to the pending read -/
  | delivered {arrival : Arrival} {number : Nat} (hread : t.isRead = false)
      (hends : t.ends = false) (harrival : t.arrival? = some arrival)
      (hpending : t.before.connection.pending = some number)
      (hafter : t.effect.connection = { t.before.connection with pending := none, timer := none })
      (hsettled : t.effect.settled = some (number, arrival.outcome))
  /-- the time of the pending read is over -/
  | expired (hread : t.isRead = false) (hends : t.ends = false) (harrival : t.arrival? = none)
      (hafter : t.effect.connection = { t.before.connection with pending := none, timer := none })
      (hsettled : t.effect.settled = t.before.connection.pending.map fun number =>
        (number, .error Connection.timeoutFault))
      (hsent : t.effect.sent = [])
  /-- all reading and writing ends -/
  | ended {transport : Option Transport} (hread : t.isRead = false) (hends : t.ends = true)
      (harrival : t.arrival? = none)
      (hafter : t.effect.connection =
        { t.before.connection with closed := true, pending := none, timer := none, transport })
      (hsettled : t.effect.settled = t.before.connection.pending.map fun number =>
        (number, .error Connection.closedFault))
      (hsent : t.effect.sent = [])

/-- A read is refused, settled at once or pending. -/
theorem Turn.comes_read (c : Connection) (now wait : Time) :
    Turn.Comes ⟨⟨c, now⟩, .read wait⟩ := by
  have heffect : Turn.effect ⟨⟨c, now⟩, .read wait⟩ = c.read now wait := rfl
  rw [Connection.read] at heffect
  split at heffect
  · next hpending => exact .refused rfl hpending heffect
  · next hpending =>
    have hnone : c.pending = none := by simpa using hpending
    split at heffect
    · next hclosed => exact .late rfl hclosed heffect
    · next hclosed =>
      have hopen : c.closed = false := by simpa using hclosed
      split at heffect
      · next arrival queue hqueue => exact .taken rfl hnone hopen hqueue heffect
      · next hqueue => exact .waits rfl hnone hopen hqueue heffect

/-- What is written may be sent. -/
theorem Turn.comes_write (c : Connection) (now : Time) (packet : Draft) :
    Turn.Comes ⟨⟨c, now⟩, .write packet⟩ := by
  have heffect : Turn.effect ⟨⟨c, now⟩, .write packet⟩ = c.write packet := rfl
  have hends : Turn.ends ⟨⟨c, now⟩, .write packet⟩ = true → c.closed = true := nofun
  rw [Connection.write] at heffect
  split at heffect
  · exact .unchanged rfl rfl hends (by rw [heffect]) (by rw [heffect]) fun _ => by rw [heffect]
  · next d hd =>
    refine .unchanged rfl rfl hends (by rw [heffect]) (by rw [heffect]) fun hclosed => ?_
    -- nothing can be written to a closed connection
    simp only [Connection.datagram, show c.closed = true from hclosed, if_true] at hd
    cases hd

/-- What arrives is given to the pending read, or waits for one in the queue. -/
theorem Turn.comes_deliver {t : Turn} {arrival : Arrival} {notices : List Notice}
    (hread : t.isRead = false) (hends : t.ends = false) (harrival : t.arrival? = some arrival)
    (hclosed : t.before.connection.closed = false)
    (heffect : t.effect = { t.before.connection.deliver arrival with notices }) : t.Comes := by
  rw [Connection.deliver] at heffect
  split at heffect
  · next hpending =>
    obtain ⟨number, hnumber⟩ := Option.isSome_iff_exists.mp hpending
    refine .delivered hread hends harrival hnumber (by rw [heffect]; rfl) ?_
    simp only [heffect, Connection.settle, hnumber, Option.map_some]
  · next hpending =>
    have hnone : t.before.connection.pending = none := by simpa using hpending
    exact .queued hread hends harrival hnone hclosed (by rw [heffect]) (by rw [heffect])

/-- A datagram is ignored, refused, or something arrives. The cases are those of the connection: it
is closed, the sender is not the client, the datagram is a packet or it is none. In the last two
something arrives, which is the packet or the fault of reading it. -/
theorem Turn.comes_receive (c : Connection) (now : Time) (bytes : Bytes) (sender : Address) :
    Turn.Comes ⟨⟨c, now⟩, .receive bytes sender⟩ := by
  have heffect : Turn.effect ⟨⟨c, now⟩, .receive bytes sender⟩ = c.receive bytes sender := rfl
  have hends : Turn.ends ⟨⟨c, now⟩, .receive bytes sender⟩ = true → c.closed = true := nofun
  rw [Connection.receive] at heffect
  split at heffect
  · next hclosed =>
    refine .unchanged rfl ?_ hends (by rw [heffect]) (by rw [heffect]) fun _ => by rw [heffect]
    simp only [Turn.arrival?, hclosed, Bool.not_true, Bool.false_and, Bool.false_eq_true, if_false]
  · next hclosed =>
    have hopen : c.closed = false := by simpa using hclosed
    split at heffect
    · next hstranger =>
      have hsame : sender.same c.peer = false := by simpa using hstranger
      refine .unchanged rfl ?_ hends (by rw [heffect]; exact c.connection_refuseSender sender)
        (by rw [heffect]; exact c.settled_refuseSender sender)
        fun hclosed' => absurd hclosed' hclosed
      simp only [Turn.arrival?, hsame, Bool.and_false, Bool.false_eq_true, if_false]
    · next hstranger =>
      have hsame : sender.same c.peer = true := by simpa using hstranger
      have harrival : Turn.arrival? ⟨⟨c, now⟩, .receive bytes sender⟩ =
          some (Packet.decode bytes) := by
        simp only [Turn.arrival?, hsame, hopen, Bool.not_false, Bool.and_true, if_true]
      split at heffect
      · next packet hd =>
        rw [hd] at harrival
        have hnotices : (c.deliver (.ok packet)).notices = [] := by
          rw [Connection.deliver]
          split <;> rfl
        have hall : (Turn.effect ⟨⟨c, now⟩, .receive bytes sender⟩) =
            { c.deliver (.ok packet) with notices := [] } := by
          rw [heffect, ← hnotices]
        exact comes_deliver rfl rfl harrival hopen hall
      · next e hd =>
        rw [hd] at harrival
        exact comes_deliver rfl rfl harrival hopen heffect

/-- A pending read whose time is over is settled. -/
theorem Turn.comes_advance (c : Connection) (now span : Time) :
    Turn.Comes ⟨⟨c, now⟩, .advance span⟩ := by
  have heffect : Turn.effect ⟨⟨c, now⟩, .advance span⟩ = c.expire (now + span) := rfl
  rw [Connection.expire] at heffect
  split at heffect
  · exact .expired rfl rfl rfl (by rw [heffect]; rfl) (by rw [heffect]; rfl) (by rw [heffect]; rfl)
  · exact .unchanged rfl rfl nofun (by rw [heffect]) (by rw [heffect]) fun _ => by rw [heffect]

/-- A connection is closed once. -/
theorem Turn.comes_close (c : Connection) (now : Time) : Turn.Comes ⟨⟨c, now⟩, .close⟩ := by
  have heffect : Turn.effect ⟨⟨c, now⟩, .close⟩ = c.close := rfl
  rw [Connection.close] at heffect
  split at heffect
  · next hclosed =>
    exact .unchanged rfl rfl (fun _ => hclosed) (by rw [heffect]) (by rw [heffect])
      fun _ => by rw [heffect]
  · exact .ended rfl rfl rfl (by rw [heffect]; rfl) (by rw [heffect]; rfl) (by rw [heffect]; rfl)

/-- Whatever is done to a connection, it comes to one of these. -/
theorem Turn.comes (t : Turn) : t.Comes := by
  obtain ⟨⟨c, now⟩, input⟩ := t
  cases input with
  | read wait => exact comes_read c now wait
  | write packet => exact comes_write c now packet
  | receive bytes sender => exact comes_receive c now bytes sender
  | advance span => exact comes_advance c now span
  | close => exact comes_close c now
  | stop => exact .ended rfl rfl rfl rfl rfl rfl
  | fail failure => exact .unchanged rfl rfl nofun rfl rfl fun _ => rfl

/-! ## The invariant

The invariant has four parts. The first says when a read is pending; the others compare the
connection with what was done to it so far: the numbers of the reads, the order of the packets, and
the end. -/

/-- One turn more settles one read more, or none. -/
@[simp] theorem settled_concat (log : List Turn) (t : Turn) :
    settled (log ++ [t]) = settled log ++ t.effect.settled.toList := by
  cases h : t.effect.settled <;> simp [settled, h]

/-- In one turn more one thing more arrives, or none. -/
@[simp] theorem arrivals_concat (log : List Turn) (t : Turn) :
    arrivals (log ++ [t]) = arrivals log ++ t.arrival?.toList := by
  cases h : t.arrival? <;> simp [arrivals, h]

/-- One turn more delivers what it settles, unless that is a fault of the connection itself. -/
@[simp] theorem delivered_concat (log : List Turn) (t : Turn) :
    delivered (log ++ [t]) =
      delivered log ++ (t.effect.settled.toList.map Prod.snd).filter isDelivery := by
  simp [delivered]

/-- One turn more may be one read more. -/
@[simp] theorem countP_concat (log : List Turn) (t : Turn) :
    (log ++ [t]).countP Turn.isRead = log.countP Turn.isRead + if t.isRead then 1 else 0 := by
  simp [List.countP_append, List.countP_cons]

/-- A read is pending exactly while a timer runs, and then nothing is in the queue and the
connection is open. -/
structure Steady (c : Connection) : Prop where
  /-- a timer runs exactly while a read is pending -/
  timer : c.timer.isSome = c.pending.isSome
  /-- a read is pending only on an open connection with an empty queue -/
  waiting : c.pending.isSome = true → c.queue = [] ∧ c.closed = false

/-- The numbers of the settled reads, and of the pending one. -/
def numbers (log : List Turn) (c : Connection) : List Nat :=
  (settled log).map Prod.fst ++ c.pending.toList

/-- Reads are numbered one by one, and the settled ones and the pending one are all different. -/
structure Numbered (log : List Turn) (c : Connection) : Prop where
  /-- the next number is the count of the reads so far -/
  asked : c.asked = log.countP Turn.isRead
  /-- the numbers that were given are below it -/
  bound : ∀ n ∈ numbers log c, n < c.asked
  /-- no number is settled or pending twice -/
  nodup : (numbers log c).Nodup

/-- What was delivered, and then what still waits, is what arrived. -/
def InOrder (log : List Turn) (c : Connection) : Prop :=
  delivered log ++ c.queue.map Arrival.outcome = (arrivals log).map Arrival.outcome

/-- The connection is closed exactly if something has ended it. -/
def Shut (log : List Turn) (c : Connection) : Prop :=
  c.closed = true ↔ ∃ t ∈ log, t.ends = true

/-- What holds of a connection at each point of a run. -/
structure Kept (log : List Turn) (c : Connection) : Prop where
  /-- a read and its timer go together -/
  steady : Steady c
  /-- the reads are numbered -/
  numbered : Numbered log c
  /-- the packets are in order -/
  inOrder : InOrder log c
  /-- the connection is closed if and only if it was ended -/
  shut : Shut log c

/-- A new connection has neither a read nor a queue. -/
theorem kept_new (peer : Address) (transport : Option Transport) :
    Kept [] { peer, transport } where
  steady := ⟨rfl, nofun⟩
  numbered := ⟨rfl, nofun, List.nodup_nil⟩
  inOrder := rfl
  shut := iff_of_false Bool.false_ne_true fun ⟨_, ht, _⟩ => List.not_mem_nil ht

/-- No read is pending on a closed connection. -/
theorem Steady.pending_eq_none {c : Connection} (h : Steady c) (hclosed : c.closed = true) :
    c.pending = none := by
  by_contra hsome
  have hopen := (h.waiting (Option.isSome_iff_ne_none.mpr hsome)).2
  rw [hclosed] at hopen
  cases hopen

/-- Without a pending read there is no timer. -/
theorem Steady.timer_eq_none {c : Connection} (h : Steady c) (hpending : c.pending = none) :
    c.timer = none := by
  have htimer := h.timer
  rw [hpending] at htimer
  simpa using htimer

/-- A timer runs exactly while a read is pending, after each turn. Only a read that has to wait sets
both, and whatever settles the read takes both away. -/
theorem Steady.turn (h : Steady t.before.connection) : Steady t.effect.connection := by
  cases t.comes with
  | unchanged _ _ _ hafter =>
    rw [hafter]
    exact ⟨h.timer, h.waiting⟩
  | refused _ _ heffect =>
    rw [heffect]
    exact ⟨h.timer, h.waiting⟩
  | late _ _ heffect =>
    rw [heffect]
    exact ⟨h.timer, h.waiting⟩
  | taken _ hpending _ _ heffect =>
    rw [heffect]
    refine ⟨h.timer, fun hsome => ?_⟩
    have hsome' : t.before.connection.pending.isSome = true := hsome
    rw [hpending] at hsome'
    cases hsome'
  | waits _ _ hclosed hqueue heffect =>
    rw [heffect]
    exact ⟨rfl, fun _ => ⟨hqueue, hclosed⟩⟩
  | queued _ _ _ hpending _ hafter =>
    rw [hafter]
    refine ⟨h.timer, fun hsome => ?_⟩
    have hsome' : t.before.connection.pending.isSome = true := hsome
    rw [hpending] at hsome'
    cases hsome'
  | delivered _ _ _ _ hafter =>
    rw [hafter]
    exact ⟨rfl, nofun⟩
  | expired _ _ _ hafter =>
    rw [hafter]
    exact ⟨rfl, nofun⟩
  | ended _ _ _ hafter =>
    rw [hafter]
    exact ⟨rfl, nofun⟩

/-- Only a read takes a number, and that is the next one. The numbers are those of the settled
reads and the pending one. A read that is refused takes a number as well, which never appears
among them. -/
theorem numbers_turn (log : List Turn) (h : Steady t.before.connection) :
    (t.isRead = false ∧ t.effect.connection.asked = t.before.connection.asked ∧
      numbers (log ++ [t]) t.effect.connection = numbers log t.before.connection) ∨
    (t.isRead = true ∧ t.effect.connection.asked = t.before.connection.asked + 1 ∧
      (numbers (log ++ [t]) t.effect.connection = numbers log t.before.connection ∨
        numbers (log ++ [t]) t.effect.connection =
          numbers log t.before.connection ++ [t.before.connection.asked])) := by
  cases t.comes with
  | unchanged hread _ _ hafter hsettled =>
    exact .inl ⟨hread, by rw [hafter], by simp [numbers, hafter, hsettled]⟩
  | refused hread _ heffect =>
    exact .inr ⟨hread, by rw [heffect], .inl (by simp [numbers, heffect])⟩
  | late hread hclosed heffect =>
    have hpending := h.pending_eq_none hclosed
    exact .inr ⟨hread, by rw [heffect], .inr (by simp [numbers, heffect, hpending])⟩
  | taken hread hpending _ _ heffect =>
    exact .inr ⟨hread, by rw [heffect], .inr (by simp [numbers, heffect, hpending])⟩
  | waits hread hpending _ _ heffect =>
    exact .inr ⟨hread, by rw [heffect], .inr (by simp [numbers, heffect, hpending])⟩
  | queued hread _ _ _ _ hafter hsettled =>
    exact .inl ⟨hread, by rw [hafter], by simp [numbers, hafter, hsettled]⟩
  | delivered hread _ _ hpending hafter hsettled =>
    exact .inl ⟨hread, by rw [hafter], by simp [numbers, hafter, hsettled, hpending]⟩
  | expired hread _ _ hafter hsettled =>
    refine .inl ⟨hread, by rw [hafter], ?_⟩
    cases hpending : t.before.connection.pending <;>
      simp [numbers, hafter, hsettled, hpending]
  | ended hread _ _ hafter hsettled =>
    refine .inl ⟨hread, by rw [hafter], ?_⟩
    cases hpending : t.before.connection.pending <;>
      simp [numbers, hafter, hsettled, hpending]

/-- Each read has a number of its own. A read that is refused has one too, and neither settles nor
keeps it. -/
theorem Numbered.turn (h : Numbered log t.before.connection) (hs : Steady t.before.connection) :
    Numbered (log ++ [t]) t.effect.connection := by
  have hnew : t.before.connection.asked ∉ numbers log t.before.connection :=
    fun hn => Nat.lt_irrefl _ (h.bound _ hn)
  rcases numbers_turn log hs with ⟨hread, hasked, hnumbers⟩ | ⟨hread, hasked, hnumbers⟩
  · refine ⟨?_, ?_, ?_⟩
    · rw [hasked, h.asked, countP_concat, hread]
      rfl
    · rw [hasked, hnumbers]
      exact h.bound
    · rw [hnumbers]
      exact h.nodup
  · refine ⟨?_, ?_, ?_⟩
    · rw [hasked, h.asked, countP_concat, hread]
      rfl
    · intro n hn
      rw [hasked]
      rcases hnumbers with hnumbers | hnumbers <;> rw [hnumbers] at hn
      · exact Nat.lt_succ_of_lt (h.bound n hn)
      · rcases List.mem_append.mp hn with hn | hn
        · exact Nat.lt_succ_of_lt (h.bound n hn)
        · rw [List.mem_singleton.mp hn]
          exact Nat.lt_succ_self _
    · rcases hnumbers with hnumbers | hnumbers <;> rw [hnumbers]
      · exact h.nodup
      · exact List.nodup_append.mpr ⟨h.nodup, List.pairwise_singleton _ _, fun a ha b hb hab =>
          hnew (by rw [← List.mem_singleton.mp hb, ← hab]; exact ha)⟩

/-- What is delivered is the first of what waits, or it has just arrived. When it has just arrived
the queue is empty, since a read was pending. -/
theorem inOrder_turn (h : InOrder log t.before.connection) (hs : Steady t.before.connection) :
    InOrder (log ++ [t]) t.effect.connection := by
  rw [InOrder] at h ⊢
  cases t.comes with
  | unchanged _ harrival _ hafter hsettled =>
    simpa [hafter, hsettled, harrival] using h
  | refused hread _ heffect =>
    simpa [heffect, Turn.arrival?_of_isRead hread] using h
  | late hread _ heffect =>
    simpa [heffect, Turn.arrival?_of_isRead hread, Connection.closedFault, isDelivery] using h
  | taken hread _ _ hqueue heffect =>
    simpa [heffect, Turn.arrival?_of_isRead hread, hqueue, isDelivery_outcome] using h
  | waits hread _ _ _ heffect =>
    simpa [heffect, Turn.arrival?_of_isRead hread] using h
  | queued _ _ harrival _ _ hafter hsettled =>
    simp [hafter, hsettled, harrival, ← h]
  | delivered _ _ harrival hpending hafter hsettled =>
    have hempty := (hs.waiting (by rw [hpending]; rfl)).1
    simp [hafter, hsettled, harrival, ← h, hempty, isDelivery_outcome]
  | expired _ _ harrival hafter hsettled =>
    cases hpending : t.before.connection.pending <;>
      simpa [hafter, hsettled, harrival, hpending, Connection.timeoutFault, isDelivery] using h
  | ended _ _ harrival hafter hsettled =>
    cases hpending : t.before.connection.pending <;>
      simpa [hafter, hsettled, harrival, hpending, Connection.closedFault, isDelivery] using h

/-- A connection was ended in a turn before, or it is in this one. -/
theorem exists_ends_concat_iff (log : List Turn) (t : Turn) :
    (∃ u ∈ log ++ [t], u.ends = true) ↔ (∃ u ∈ log, u.ends = true) ∨ t.ends = true := by
  simp only [List.mem_append, List.mem_singleton, or_and_right, exists_or, exists_eq_left]

/-- A connection does not open again, and closes only when it is ended. -/
theorem closed_turn : t.effect.connection.closed = (t.before.connection.closed || t.ends) := by
  cases t.comes with
  | unchanged _ _ hends hafter =>
    rw [hafter]
    cases he : t.ends with
    | false => exact (Bool.or_false _).symm
    | true =>
      rw [Bool.or_true]
      exact hends he
  | refused hread _ heffect => simp [heffect, Turn.ends_of_isRead hread]
  | late hread _ heffect => simp [heffect, Turn.ends_of_isRead hread]
  | taken hread _ _ _ heffect => simp [heffect, Turn.ends_of_isRead hread]
  | waits hread _ _ _ heffect => simp [heffect, Turn.ends_of_isRead hread]
  | queued _ hends _ _ _ hafter => simp [hafter, hends]
  | delivered _ hends _ _ hafter => simp [hafter, hends]
  | expired _ hends _ hafter => simp [hafter, hends]
  | ended _ hends _ hafter => simp [hafter, hends]

/-- **Every turn keeps the invariant.** -/
theorem Kept.turn (h : Kept log t.before.connection) : Kept (log ++ [t]) t.effect.connection where
  steady := h.steady.turn
  numbered := h.numbered.turn h.steady
  inOrder := inOrder_turn h.inOrder h.steady
  shut := by
    have hshut : t.before.connection.closed = true ↔ _ := h.shut
    rw [Shut, exists_ends_concat_iff, closed_turn, Bool.or_eq_true, hshut]

/-- The invariant holds at each point of a run on a new connection. -/
theorem kept_point (react : Nat → Except Fault Packet → List Input) (peer : Address)
    (transport : Option Transport) (clock : Time) (inputs : List Input) (n : Nat) :
    Kept (point react ⟨{ peer, transport }, clock⟩ inputs n).log
      (point react ⟨{ peer, transport }, clock⟩ inputs n).line.connection := by
  induction n with
  | zero => exact kept_new peer transport
  | succ n ih =>
    rw [point, Point.next]
    split
    · exact ih
    · exact Kept.turn ih

/-! ## What a reader can rely on

Some of what a reader can rely on is said of the connection now, and some of each turn that was
taken. The invariant holds at the turn as well, since each turn was taken at an earlier point of the
run (`exists_point_of_log_eq`). -/

/-- A read fails by itself, and changes nothing but the number of the next one. -/
def Turn.Refused (t : Turn) : Prop :=
  t.after.clock = t.before.clock ∧
    t.effect = { connection := { t.before.connection with asked := t.before.connection.asked + 1 }
                 raised := some Connection.busyFault }

/-- The pending read fails, and nothing is left of it. -/
structure Turn.Ended (t : Turn) : Prop where
  /-- the connection is closed -/
  closed : t.effect.connection.closed = true
  /-- no read is pending -/
  pending : t.effect.connection.pending = none
  /-- no timer runs -/
  timer : t.effect.connection.timer = none
  /-- the read that was pending, if there was one, has failed -/
  settled : t.effect.settled =
    t.before.connection.pending.map fun number => (number, .error Connection.closedFault)

/-- Nothing is sent or delivered, and no timer runs. Only a new read is settled, and fails. -/
structure Turn.Inert (t : Turn) : Prop where
  /-- nothing is sent -/
  sent : t.effect.sent = []
  /-- a write fails -/
  raised : ∀ packet, t.input = .write packet → t.effect.raised = some Connection.closedFault
  /-- only a new read is settled, and fails -/
  settled : ∀ number result, t.effect.settled = some (number, result) →
    t.isRead = true ∧ result = .error Connection.closedFault
  /-- the queue stays as it is -/
  queue : t.effect.connection.queue = t.before.connection.queue
  /-- no read is pending -/
  pending : t.effect.connection.pending = none
  /-- no timer runs -/
  timer : t.effect.connection.timer = none
  /-- the connection stays closed -/
  closed : t.effect.connection.closed = true

/-- What a reader can rely on, after what was done to a connection. -/
structure Orderly (log : List Turn) (c : Connection) : Prop where
  /-- a read is pending exactly while a timer runs -/
  timer : c.pending.isSome = true ↔ c.timer.isSome = true
  /-- meanwhile the queue is empty and the connection open -/
  waiting : c.pending.isSome = true → c.queue = [] ∧ c.closed = false
  /-- no read is settled twice -/
  once : ((settled log).map Prod.fst).Nodup
  /-- only what was asked for is settled -/
  asked : ∀ n ∈ (settled log).map Prod.fst, n < log.countP Turn.isRead
  /-- what was delivered, and then what waits, is what arrived -/
  order : delivered log ++ c.queue.map Arrival.outcome = (arrivals log).map Arrival.outcome
  /-- a read while another is pending is refused -/
  refused : ∀ t ∈ log, t.isRead = true → t.before.connection.pending.isSome = true → t.Refused
  /-- the end leaves nothing pending -/
  ended : ∀ t ∈ log, t.ends = true → t.Ended
  /-- nothing happens after the end -/
  inert : ∀ earlier t later, log = earlier ++ t :: later → (∃ u ∈ earlier, u.ends = true) → t.Inert

/-- A read while another is pending fails by itself. -/
theorem refused_of_pending (hread : t.isRead = true)
    (hpending : t.before.connection.pending.isSome = true) : t.Refused := by
  obtain ⟨⟨c, now⟩, input⟩ := t
  cases input with
  | read wait =>
    have hbusy : c.pending.isSome = true := hpending
    refine ⟨rfl, ?_⟩
    simp only [Turn.effect, step, Connection.read, hbusy, if_true]
  | _ => cases hread

/-- The end of a connection fails the pending read and takes the timer away. A connection that is
closed again had neither. -/
theorem Steady.ended (h : Steady t.before.connection) (hends : t.ends = true) : t.Ended := by
  cases t.comes with
  | unchanged _ _ hclosed hafter hsettled =>
    -- it was closed before, and so nothing was pending
    have hpending := h.pending_eq_none (hclosed hends)
    have htimer := h.timer_eq_none hpending
    refine ⟨?_, ?_, ?_, ?_⟩
    · rw [hafter]
      exact hclosed hends
    · rw [hafter]
      exact hpending
    · rw [hafter]
      exact htimer
    · rw [hsettled, hpending]
      rfl
  | ended _ _ _ hafter hsettled =>
    exact ⟨by rw [hafter], by rw [hafter], by rw [hafter], hsettled⟩
  | refused hread => cases (Turn.ends_of_isRead hread).symm.trans hends
  | late hread => cases (Turn.ends_of_isRead hread).symm.trans hends
  | taken hread => cases (Turn.ends_of_isRead hread).symm.trans hends
  | waits hread => cases (Turn.ends_of_isRead hread).symm.trans hends
  | queued _ hnot => cases hnot.symm.trans hends
  | delivered _ hnot => cases hnot.symm.trans hends
  | expired _ hnot => cases hnot.symm.trans hends

/-- Nothing can be written to a closed connection. -/
theorem raised_of_closed (hclosed : t.before.connection.closed = true) (packet : Draft)
    (hinput : t.input = .write packet) : t.effect.raised = some Connection.closedFault := by
  obtain ⟨⟨c, now⟩, input⟩ := t
  obtain rfl : input = .write packet := hinput
  have hdatagram : c.datagram packet = .error Connection.closedFault := if_pos hclosed
  simp only [Turn.effect, step, Connection.write, hdatagram]

/-- A closed connection stays as it is. A read on it fails at once, and nothing else happens to it
any more. -/
theorem Steady.inert (h : Steady t.before.connection)
    (hclosed : t.before.connection.closed = true) : t.Inert := by
  have hpending := h.pending_eq_none hclosed
  have htimer := h.timer_eq_none hpending
  have hraised := raised_of_closed hclosed
  have hafter : t.effect.connection.closed = true := by rw [closed_turn, hclosed, Bool.true_or]
  cases t.comes with
  | unchanged _ _ _ hconnection hsettled hsent =>
    refine ⟨hsent hclosed, hraised, ?_, ?_, ?_, ?_, hafter⟩
    · intro number result hsome
      cases hsettled.symm.trans hsome
    · rw [hconnection]
    · rw [hconnection]
      exact hpending
    · rw [hconnection]
      exact htimer
  | late hread _ heffect =>
    refine ⟨by rw [heffect], hraised, ?_, by rw [heffect], ?_, ?_, hafter⟩
    · intro number result hsome
      rw [heffect] at hsome
      cases hsome
      exact ⟨hread, rfl⟩
    · rw [heffect]
      exact hpending
    · rw [heffect]
      exact htimer
  | expired _ _ _ hconnection hsettled hsent =>
    rw [hpending] at hsettled
    refine ⟨hsent, hraised, ?_, by rw [hconnection], by rw [hconnection], by rw [hconnection],
      hafter⟩
    intro number result hsome
    cases hsettled.symm.trans hsome
  | ended _ _ _ hconnection hsettled hsent =>
    rw [hpending] at hsettled
    refine ⟨hsent, hraised, ?_, by rw [hconnection], by rw [hconnection], by rw [hconnection],
      hafter⟩
    intro number result hsome
    cases hsettled.symm.trans hsome
  | refused _ hsome =>
    rw [hpending] at hsome
    cases hsome
  | taken _ _ hopen => cases hopen.symm.trans hclosed
  | waits _ _ hopen => cases hopen.symm.trans hclosed
  | queued _ _ _ _ hopen => cases hopen.symm.trans hclosed
  | delivered _ _ _ hsome => cases hpending.symm.trans hsome

/-- **A connection is read exactly once and in order.** Something is done to a new connection, in
whatever order, and more is done by the callbacks of its reads. At each point a read is pending
exactly while a timer runs, and then the queue is empty and the connection is open. No read is
settled twice. What the reads gave, in the order in which they were settled, and then what is still
in the queue, is what arrived from the client while the connection was open: nothing is lost,
repeated or moved, and a read that timed out or was closed took nothing. A read while another is
pending is refused and changes nothing. The end of a connection fails its pending read and leaves no
timer, and after it nothing is sent and nothing delivered. -/
theorem orderly_point (react : Nat → Except Fault Packet → List Input) (peer : Address)
    (transport : Option Transport) (clock : Time) (inputs : List Input) (n : Nat) :
    let p := point react ⟨{ peer, transport }, clock⟩ inputs n
    Orderly p.log p.line.connection := by
  intro p
  have h : Kept p.log p.line.connection := kept_point react peer transport clock inputs n
  have hnodup := List.nodup_append.mp h.numbered.nodup
  -- each turn was taken at an earlier point, where the invariant held as well
  have hbefore (earlier : List Turn) (t : Turn) (later : List Turn)
      (hlog : p.log = earlier ++ t :: later) : Kept earlier t.before.connection := by
    obtain ⟨m, hearlier, hline⟩ := exists_point_of_log_eq hlog
    rw [← hearlier, ← hline]
    exact kept_point react peer transport clock inputs m
  refine ⟨?_, h.steady.waiting, hnodup.1, ?_, h.inOrder, ?_, ?_, ?_⟩
  · rw [h.steady.timer]
  · intro m hm
    rw [← h.numbered.asked]
    exact h.numbered.bound m (List.mem_append_left _ hm)
  · exact fun t _ hread hpending => refused_of_pending hread hpending
  · intro t ht hends
    obtain ⟨earlier, later, hlog⟩ := List.append_of_mem ht
    exact (hbefore earlier t later hlog).steady.ended hends
  · intro earlier t later hlog hends
    have hkept := hbefore earlier t later hlog
    exact hkept.steady.inert (hkept.shut.mpr hends)

/-- A callback that reads again gets the next packet. -/
example :
    let start : Line := ⟨{ peer := .null }, 0⟩
    let inputs : List Input :=
      [.read 5, .receive [0, 4, 0, 1] .null, .receive [0, 4, 0, 2] .null]
    delivered (point (fun _ _ => [.read 5]) start inputs 5).log =
      [.ok (.ack [0, 1]), .ok (.ack [0, 2])] := by
  rfl

end Line

end Tftp
