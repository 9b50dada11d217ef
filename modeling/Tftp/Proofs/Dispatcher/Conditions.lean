import Tftp.Proofs.Dispatcher.Invariant

/-!
# The conditions of a transfer

Between two things that happen, each transfer of a dispatcher is in exactly one of three conditions:
its backend owes it a file, it has a pending read with one running timer, or it is over and its
connection is closed. So no transfer is ever stuck, and none leaves a timer behind.

* `Dispatcher.Condition` — the three conditions;
* `Dispatcher.Condition.Holds` — what each of them means, after some history.

The main theorem is `Dispatcher.exists_unique_condition`. That there is a condition and that there
is only one both come from the invariant `Dispatcher.Good`.
-/

namespace Tftp

namespace Dispatcher

/-! ## The conditions

The conditions are told from outside: by what the backend owes, what is read, which timer runs, and
whether the connection is open. The state of the session comes in only to name the packet that is
exchanged, and to say that there is a result. -/

/-- The conditions that a transfer may be in. -/
inductive Condition where
  /-- its backend has not answered yet -/
  | awaitsFile
  /-- it waits for a packet -/
  | awaitsPacket
  /-- it has come to its end -/
  | finished
  deriving DecidableEq

/-- The backend owes the file, nothing is read and no timer runs. -/
structure AwaitsFile (d : Dispatcher) (i : Nat) (t : Transfer) : Prop where
  /-- the backend has promised the file, and not sent it -/
  promised : d.Promised i
  /-- nothing is read -/
  pending : t.connection.pending = none
  /-- no timer is set -/
  timer : t.connection.timer = none
  /-- no timer runs -/
  armed : d.armed.count i = 0

/-- One read is pending on an open connection with an empty queue, and one timer runs. It is due the
timeout after the last sending of the packet that is exchanged, and that is still to come. -/
structure AwaitsPacket (past : List Happening) (d : Dispatcher) (i : Nat) (t : Transfer) :
    Prop where
  /-- the transfer has not come to its end -/
  ended : t.ended = false
  /-- its connection is open -/
  closed : t.connection.closed = false
  /-- a packet is read -/
  pending : t.connection.pending.isSome = true
  /-- nothing arrived that was not read -/
  queue : t.connection.queue = []
  /-- one timer runs -/
  armed : d.armed.count i = 1
  /-- it is due the timeout after the last sending, and not yet -/
  timer : ∃ goal x bytes sentAt, t.session.phase = .exchanging goal x ∧
    x.packet.encode = .ok bytes ∧ (trace past i).sentAt bytes = some sentAt ∧
    t.connection.timer = some (sentAt + .ofSeconds t.session.terms.timeout) ∧
    d.clock < sentAt + .ofSeconds t.session.terms.timeout

/-- The session has a result, its connection is closed, nothing is read and no timer runs. It
listens no longer, or its transport had stopped by itself. -/
structure IsOver (past : List Happening) (d : Dispatcher) (i : Nat) (t : Transfer) : Prop where
  /-- the session has a result -/
  result : ∃ result, t.session.phase = .ended result
  /-- the transfer has come to its end -/
  ended : t.ended = true
  /-- its connection is closed -/
  closed : t.connection.closed = true
  /-- nothing is read -/
  pending : t.connection.pending = none
  /-- no timer is set -/
  timer : t.connection.timer = none
  /-- no timer runs -/
  armed : d.armed.count i = 0
  /-- nothing listens any longer, if the transport did not stop by itself -/
  released : .stopped i ∉ past → t.connection.IsReleased

/-- A transfer is in a condition, after some history. -/
def Condition.Holds (past : List Happening) (d : Dispatcher) (i : Nat) (t : Transfer) :
    Condition → Prop
  | awaitsFile => d.AwaitsFile i t
  | awaitsPacket => d.AwaitsPacket past i t
  | finished => d.IsOver past i t

variable {past : List Happening} {d : Dispatcher} {i : Nat} {t : Transfer}

/-! ## Exactly one condition

Every transfer rests, and each way of resting is one of the conditions. They exclude each other,
since they say different things of the pending read and of the end. -/

/-- A transfer that rests is in one of the conditions. They are the ways to rest, with what the
dispatcher adds: how many timers are in its order, and that none of them is due. -/
theorem Good.exists_holds (h : d.Good past) (ht : d.transfers[i]? = some t) :
    ∃ c : Condition, c.Holds past d i t := by
  have htidy := h.sane.tidy i trivial
  have harmed := htidy.count_armed ht
  rcases htidy.rests t ht with hawaits | hsettled
  · rw [hawaits.timer] at harmed
    exact ⟨.awaitsFile, (htidy.opening t ht).mp hawaits.opening, hawaits.pending,
      hawaits.timer, harmed⟩
  · cases hsettled with
    | @waiting goal x now due hp hx hproper hdue hclosed hpending hqueue htimer hended =>
      have hlt := h.punctual i t trivial ht due htimer
      obtain ⟨bytes, sentAt, hbytes, hlast, rfl⟩ := hdue
      rw [htimer] at harmed
      rw [hproper.timeout_eq] at htimer hlt
      exact ⟨.awaitsPacket, hended, hclosed, hpending, hqueue, harmed, goal, x, bytes, sentAt, hp,
        hbytes, hlast, htimer, hlt⟩
    | finished hp hclosed hpending htimer hended hreleased =>
      rw [htimer] at harmed
      exact ⟨.finished, ⟨_, hp⟩, hended, hclosed, hpending, htimer, harmed, hreleased⟩

/-- A transfer that waits for its file reads nothing. -/
theorem AwaitsFile.not_awaitsPacket (h : d.AwaitsFile i t) : ¬ d.AwaitsPacket past i t := by
  intro h'
  have hpending := h'.pending
  rw [h.pending] at hpending
  cases hpending

/-- A transfer that waits for a packet has not come to its end. -/
theorem AwaitsPacket.not_isOver (h : d.AwaitsPacket past i t) : ¬ d.IsOver past i t := by
  intro h'
  have hended := h'.ended
  rw [h.ended] at hended
  cases hended

/-- Nothing is owed to a transfer that is over. -/
theorem Good.not_awaitsFile (h : d.Good past) (ht : d.transfers[i]? = some t)
    (hover : d.IsOver past i t) : ¬ d.AwaitsFile i t := by
  intro hawaits
  have htidy := h.sane.tidy i trivial
  obtain ⟨filename, options, hopening⟩ := (htidy.opening t ht).mpr hawaits.promised
  obtain ⟨result, hended⟩ := hover.result
  rw [hopening] at hended
  cases hended

/-- No two conditions hold together. They are told apart by the end, by the pending read and, for a
transfer that waits for its file, by the session. -/
theorem Good.holds_unique (h : d.Good past) (ht : d.transfers[i]? = some t) {c c' : Condition}
    (hc : c.Holds past d i t) (hc' : c'.Holds past d i t) : c' = c := by
  cases c with
  | awaitsFile =>
    cases c' with
    | awaitsFile => rfl
    | awaitsPacket => exact absurd hc' (AwaitsFile.not_awaitsPacket hc)
    | finished => exact absurd hc (h.not_awaitsFile ht hc')
  | awaitsPacket =>
    cases c' with
    | awaitsFile => exact absurd hc (AwaitsFile.not_awaitsPacket hc')
    | awaitsPacket => rfl
    | finished => exact absurd hc' (AwaitsPacket.not_isOver hc)
  | finished =>
    cases c' with
    | awaitsFile => exact absurd hc' (h.not_awaitsFile ht hc)
    | awaitsPacket => exact absurd hc (AwaitsPacket.not_isOver hc')
    | finished => rfl

/-- **No transfer is ever stuck, and none leaves anything behind.** Whatever the requests, the
datagrams from anywhere to any transfer, the answers of the backends, the failures of transports and
the passing of time, in whatever order: after all of it each transfer is in exactly one of three
conditions. Its backend owes it a file. Or its connection is open with one pending read and one
running timer, which is due the timeout after the last sending of the packet that is exchanged. Or
it is over, with its connection closed. -/
theorem exists_unique_condition (backend : Option Backend) (files : FileSystem) (clock : Time)
    (inputs : List Input) {i : Nat} {t : Transfer}
    (ht : (run { backend, files, clock } inputs).2.transfers[i]? = some t) :
    ∃! c : Condition, c.Holds (history { backend, files, clock } inputs)
      (run { backend, files, clock } inputs).2 i t := by
  have h := (good_new backend files clock).run inputs
  obtain ⟨c, hc⟩ := h.exists_holds ht
  exact ⟨c, hc, fun c' hc' => h.holds_unique ht hc hc'⟩

/-- A stranger interferes before a promised file comes. -/
theorem exists_unique_condition_promised :
    let d : Dispatcher := { backend := some (.scripted (.later (.ofBytes [104, 105]))) }
    let inputs : List Input :=
      [.request [0, 1, 102, 0, 111, 99, 116, 101, 116, 0] (.text "client"),
        .arrive 0 [0, 4, 0, 1] (some (.text "stranger")), .fulfil 0 none]
    ∃ t, (d.run inputs).2.transfers[0]? = some t ∧
      ∃! c : Condition, c.Holds (d.history inputs) (d.run inputs).2 0 t := by
  intro d inputs
  have hlength : (d.run inputs).2.transfers.length = 1 := rfl
  have ht := List.getElem?_eq_getElem (hlength ▸ Nat.one_pos)
  exact ⟨_, ht, exists_unique_condition _ _ _ inputs ht⟩

end Dispatcher

end Tftp
