import Tftp.Proofs.Transfer.Run

/-!
# Where a transfer comes to rest

Between two things that happen to it a transfer rests. Its backend still owes it a file
(`Transfer.Awaits`), or it rests as after a run (`Transfer.Settled`). Each thing that can happen
leads from there to a transfer that rests again:

* `Transfer.Awaits.rested_supply` — it gets its file, or the fault of opening it;
* `Transfer.Keeps` — what a transfer keeps to when something happens to its connection;
* `Transfer.Rests.keeps_receive`, `keeps_stop`, `keeps_expire` and `keeps_setFailure` — a datagram
  from anywhere, the end of its transport, the passing of time, and writes that fail or work again.

Only a settled read resumes the session. Where nothing is settled the pending read and its timer
stay as they are, which is what `Rests.keeps_of_settled_eq_none` says once for all.
-/

namespace Tftp

/-- A connection does not open again, closes only when its transport stops, and does not listen
again. -/
structure Connection.Stays (trace : Trace) (c c' : Connection) : Prop where
  /-- closed for good -/
  closed : c.closed = true → c'.closed = true
  /-- open, as long as its transport works -/
  isOpen : ¬ trace.stopped → c.closed = false → c'.closed = false
  /-- not listened on again -/
  released : c.IsReleased → c'.IsReleased

theorem Connection.stays_rfl {trace : Trace} {c : Connection} : c.Stays trace c :=
  ⟨id, fun _ => id, id⟩

/-- A sender who is not the client is answered with an error at most. -/
theorem Connection.opcode_of_mem_sent_refuseSender {c : Connection} {sender : Address}
    {d : Datagram} (h : d ∈ (c.refuseSender sender).sent) :
    d.bytes.take 2 = Opcode.error.bytes := by
  rw [refuseSender] at h
  split at h
  · cases h
  · cases h
  · next bytes hb =>
    split at h
    · cases h
    · rw [List.mem_singleton.mp h]
      exact (Option.some.inj (Draft.opcode_of_encode hb)).symm

namespace Transfer

/-! ## Ways to rest

A transfer without its file has a session that has not begun and a connection that nobody reads
from. What comes then is queued. -/

/-- The backend owes the transfer its file. -/
structure Awaits (trace : Trace) (t : Transfer) : Prop extends Idle trace t where
  /-- its session waits for the file -/
  opening : t.session.IsOpening

variable {trace : Trace} {now : Time} {t : Transfer}

/-- A transfer that rests, whether it has its file or not. -/
def Rests (trace : Trace) (t : Transfer) : Prop :=
  t.Awaits trace ∨ t.Settled trace

/-- A transfer that rests as after a run has its file. -/
theorem Settled.not_isOpening (h : t.Settled trace) : ¬ t.session.IsOpening := by
  rintro ⟨filename, options, ho⟩
  cases h with
  | waiting hp => rw [hp] at ho; cases ho
  | finished hp => rw [hp] at ho; cases ho

/-- That the transport stops is no trouble for a transfer that rests. -/
theorem Rests.stop (h : t.Rests trace) : t.Rests trace.stop := by
  rcases h with h | h
  · exact .inl ⟨⟨h.pending, h.timer, h.ended, fun hnot => absurd trivial hnot⟩, h.opening⟩
  · cases h with
    | waiting hp hx hproper hdue hclosed hpending hqueue htimer hended =>
      exact .inr (.waiting hp hx hproper hdue hclosed hpending hqueue htimer hended)
    | finished hp hclosed hpending htimer hended =>
      exact .inr (.finished hp hclosed hpending htimer hended fun hnot => absurd trivial hnot)

/-! ## The session is resumed

A session is resumed by a reception or by the answer of its backend. In both cases it can go on from
there, and the run after that comes to a rest. -/

/-- The session goes on with what its pending read gave. -/
theorem Idle.rested_resume (h : t.Idle trace) (now : Time) {goal : Session.Goal} {x : Exchange}
    {begun due : Time} (hp : t.session.phase = .exchanging goal x)
    (hphase : x.phase = .waiting begun due)
    (hx : x.Proper (.ofSeconds t.session.terms.timeout)) (hdue : x.Due trace due)
    (outcome : Except Fault Packet) :
    (t.resume now outcome).2.Rested (trace.stamp now (t.resume now outcome).1.sent) now := by
  have hresume : t.resume now outcome = runAfter now (t.next
      ((x.received due ⟨outcome.map Packet.toDraft, now⟩).andThen (t.session.follow goal))) := by
    simp only [resume, Session.call, hp, Exchange.call, hphase]
  rw [hresume]
  refine (h.went_follow ?_).rested_runAfter
  exact (Exchange.received_spec x due _).awake hx hdue

/-- The session goes on with its file, or with the fault of opening it. -/
theorem Awaits.rested_supply (h : t.Awaits trace) (answer : Except Fault File) :
    (t.supply now answer).2.Rested (trace.stamp now (t.supply now answer).1.sent) now := by
  obtain ⟨filename, options, hp⟩ := h.opening
  cases answer with
  | error f =>
    have hsupply : t.supply now (.error f) =
        runAfter now (t.next (t.session.opened filename options (.error f))) := by
      simp only [supply, Session.call, hp]
    rw [hsupply]
    exact (h.toIdle.went_next (t.session.opened_spec filename options _).awake).rested_runAfter
  | ok file =>
    have hsupply : t.supply now (.ok file) =
        runAfter now ({ t with file }.next (t.session.opened filename options (.ok ()))) := by
      simp only [supply, Session.call, hp]
    have hidle : Idle trace { t with file } := ⟨h.pending, h.timer, h.ended, h.isOpen⟩
    rw [hsupply]
    exact (hidle.went_next (t.session.opened_spec filename options _).awake).rested_runAfter

/-! ## What a transfer keeps to

Whatever happens to a connection, it settles the pending read or it does not. These two cases are
worked out once, and each thing that can happen is then one of them. -/

/-- What a transfer keeps to when something happens to its connection. -/
structure Keeps (trace : Trace) (now : Time) (t : Transfer) (e : Connection.Effect) : Prop where
  /-- it rests again -/
  rests : (t.absorb now e).2.Rests (trace.stamp now (t.absorb now e).1.sent)
  /-- it does not get its file from its connection -/
  opening : (t.absorb now e).2.session.IsOpening ↔ t.session.IsOpening
  /-- its timer stays, unless a read is settled -/
  timer : e.settled = none → (t.absorb now e).2.connection.timer = t.connection.timer
  /-- a new timer is not due yet -/
  inTime : e.settled.isSome = true → (t.absorb now e).2.InTime now

/-- Nothing settled: the pending read and its timer stay as they are. If the connection has
closed meanwhile, nobody was reading from it. Errors may have been sent, which do not count for
the timer. -/
theorem Rests.keeps_of_settled_eq_none (h : t.Rests trace) {e : Connection.Effect}
    (hsettled : e.settled = none) (hpending : e.connection.pending = t.connection.pending)
    (htimer : e.connection.timer = t.connection.timer)
    (hstays : t.connection.Stays trace e.connection)
    (hopen : t.connection.pending.isSome = true → e.connection.closed = t.connection.closed ∧
      e.connection.queue = t.connection.queue)
    (hsent : ∀ d ∈ e.sent, d.bytes.take 2 = Opcode.error.bytes) : t.Keeps trace now e := by
  have habsorb : t.absorb now e =
      ({ sent := e.sent, notices := e.notices }, { t with connection := e.connection }) := by
    simp only [absorb, hsettled]
  refine ⟨?_, ?_, ?_, ?_⟩
  · rw [habsorb]
    rcases h with h | h
    · refine .inl ⟨⟨hpending.trans h.pending, htimer.trans h.timer, h.ended, ?_⟩, h.opening⟩
      exact fun hnot => hstays.isOpen hnot (h.isOpen hnot)
    · cases h with
      | waiting hp hx hproper hdue hc hpend hqueue ht hended =>
        obtain ⟨hc', hqueue'⟩ := hopen hpend
        refine .inr (.waiting hp hx hproper (hdue.stamp hproper hsent) (hc'.trans hc) ?_
          (hqueue'.trans hqueue) (htimer.trans ht) hended)
        rw [hpending]
        exact hpend
      | finished hp hc hpend ht hended hreleased =>
        exact .inr (.finished hp (hstays.closed hc) (hpending.trans hpend) (htimer.trans ht) hended
          fun hnot => hstays.released (hreleased hnot))
  · rw [habsorb]
  · intro _
    rw [habsorb]
    exact htimer
  · intro hsome
    rw [hsettled] at hsome
    cases hsome

/-- Nothing happens to the connection, but errors may be sent to others. -/
theorem Rests.keeps_of_connection_eq (h : t.Rests trace) {e : Connection.Effect}
    (hsettled : e.settled = none) (hconnection : e.connection = t.connection)
    (hsent : ∀ d ∈ e.sent, d.bytes.take 2 = Opcode.error.bytes) : t.Keeps trace now e := by
  have hsame {α : Type} (field : Connection → α) : field e.connection = field t.connection :=
    congrArg field hconnection
  have hstays : t.connection.Stays trace e.connection := by
    rw [hconnection]
    exact Connection.stays_rfl
  refine h.keeps_of_settled_eq_none hsettled (hsame Connection.pending) (hsame Connection.timer)
    hstays ?_ hsent
  exact fun _ => ⟨hsame Connection.closed, hsame Connection.queue⟩

/-- The pending read is settled, and the session goes on with what it gave. Only a transfer that
waits for a packet has a pending read, and it runs from there until it rests. -/
theorem Rests.keeps_of_settle (h : t.Rests trace) (hpending : t.connection.pending.isSome = true)
    {e : Connection.Effect} {number : Nat} {outcome : Except Fault Packet}
    (hsettled : e.settled = some (number, outcome)) (hnone : e.connection.pending = none)
    (htimer : e.connection.timer = none) (hstays : t.connection.Stays trace e.connection)
    (hsent : e.sent = []) : t.Keeps trace now e := by
  rcases h with h | h
  · rw [h.pending] at hpending
    cases hpending
  · cases h with
    | finished hp hc hpend =>
      rw [hpend] at hpending
      cases hpending
    | waiting hp hx hproper hdue hc hpend hqueue ht hended =>
      have hidle : Idle trace { t with connection := e.connection } :=
        ⟨hnone, htimer, hended, fun hnot => hstays.isOpen hnot hc⟩
      have hrested := hidle.rested_resume now hp hx hproper hdue outcome
      have habsorb : t.absorb now e = ({ sent := [], notices := e.notices } ++
          ({ t with connection := e.connection }.resume now outcome).1,
            ({ t with connection := e.connection }.resume now outcome).2) := by
        simp only [absorb, hsettled, hsent]
      have hstays : ¬ t.session.IsOpening := by
        rintro ⟨filename, options, ho⟩
        rw [hp] at ho
        cases ho
      refine ⟨.inr ?_, ?_, ?_, ?_⟩
      · rw [habsorb]
        exact hrested.settled
      · rw [habsorb]
        exact iff_of_false hrested.settled.not_isOpening hstays
      · intro hno
        rw [hsettled] at hno
        cases hno
      · intro _
        rw [habsorb]
        exact hrested.inTime

/-- No timer is overdue after something happened if none was before. -/
theorem Keeps.inTime_absorb {e : Connection.Effect} (h : t.Keeps trace now e)
    (ht : t.InTime now) : (t.absorb now e).2.InTime now := by
  cases hsettled : e.settled with
  | none =>
    intro due hdue
    rw [h.timer hsettled] at hdue
    exact ht due hdue
  | some settled =>
    apply h.inTime
    rw [hsettled]
    rfl

/-! ## Each thing that happens

What is left is to see for each of them which case it is. -/

/-- A transfer that rests waits for a packet, or for nothing that its connection could bring. -/
theorem Rests.pending_none_or (h : t.Rests trace) :
    t.connection.pending.isSome = true ∨
      t.connection.pending = none ∧ t.connection.timer = none := by
  rcases h with h | h
  · exact .inr ⟨h.pending, h.timer⟩
  · cases h with
    | waiting _ _ _ _ _ hpend => exact .inl hpend
    | finished _ _ hpend ht => exact .inr ⟨hpend, ht⟩

/-- The writes fail, or work again. -/
theorem Rests.keeps_setFailure (h : t.Rests trace) (failure : Option String) :
    t.Keeps trace now { connection := t.connection.setFailure failure } := by
  have hstays : t.connection.Stays trace (t.connection.setFailure failure) := by
    refine ⟨id, fun _ => id, ?_⟩
    intro hreleased transport htransport
    obtain ⟨u, hu, rfl⟩ := Option.map_eq_some_iff.mp htransport
    exact hreleased u hu
  exact h.keeps_of_settled_eq_none rfl rfl rfl hstays (fun _ => ⟨rfl, rfl⟩) nofun

/-- The pending read is settled if there is one. -/
theorem Rests.keeps_settle (h : t.Rests trace) {c : Connection}
    (hpending : c.pending = t.connection.pending) (hstays : t.connection.Stays trace c)
    (outcome : Except Fault Packet) (notices : List Notice) :
    t.Keeps trace now { c.settle outcome with notices } := by
  have hkept : t.connection.Stays trace (c.settle outcome).connection :=
    ⟨hstays.closed, hstays.isOpen, hstays.released⟩
  rcases h.pending_none_or with hpend | ⟨hpend, ht⟩
  · obtain ⟨number, hnumber⟩ := Option.isSome_iff_exists.mp hpend
    have hsettled : (c.settle outcome).settled = some (number, outcome) := by
      simp only [Connection.settle, hpending, hnumber, Option.map_some]
    exact h.keeps_of_settle hpend hsettled rfl rfl hkept rfl
  · refine h.keeps_of_settled_eq_none ?_ hpend.symm ht.symm hkept ?_ nofun
    · simp only [Connection.settle, hpending, hpend, Option.map_none]
    · intro hsome
      rw [hpend] at hsome
      cases hsome

/-- The transport stops. -/
theorem Rests.keeps_stop (h : t.Rests trace) : t.Keeps trace.stop now t.connection.stop := by
  have hstays : t.connection.Stays trace.stop { t.connection with closed := true } :=
    ⟨fun _ => rfl, fun hnot => absurd trivial hnot, id⟩
  exact h.stop.keeps_settle (c := { t.connection with closed := true }) rfl hstays _ []

/-- The time comes to a point. -/
theorem Rests.keeps_expire (h : t.Rests trace) : t.Keeps trace now (t.connection.expire now) := by
  rw [Connection.expire]
  split
  · exact h.keeps_settle rfl Connection.stays_rfl _ []
  · exact h.keeps_of_connection_eq rfl rfl nofun

/-- An arrival goes to the pending read or to the queue. -/
theorem Rests.keeps_deliver (h : t.Rests trace) (arrival : Arrival) (notices : List Notice) :
    t.Keeps trace now { t.connection.deliver arrival with notices } := by
  rw [Connection.deliver]
  split
  · exact h.keeps_settle rfl Connection.stays_rfl _ notices
  · next hnone =>
    -- without a pending read nothing is said of the queue
    refine h.keeps_of_settled_eq_none rfl rfl rfl ⟨id, fun _ => id, id⟩ ?_ nofun
    exact fun hsome => absurd hsome hnone

/-- A stranger is told that nothing is expected from there. -/
theorem Rests.keeps_refuseSender (h : t.Rests trace) (sender : Address) (notices : List Notice) :
    t.Keeps trace now { t.connection.refuseSender sender with notices } := by
  exact h.keeps_of_connection_eq (Connection.settled_refuseSender _ _)
    (Connection.connection_refuseSender _ _)
    fun _ hd => Connection.opcode_of_mem_sent_refuseSender hd

/-- A datagram comes from anywhere. -/
theorem Rests.keeps_receive (h : t.Rests trace) (bytes : Bytes) (sender : Address) :
    t.Keeps trace now (t.connection.receive bytes sender) := by
  have hsilent (arrival : Arrival) : t.connection.deliver arrival =
      { t.connection.deliver arrival with notices := [] } := by
    rw [Connection.deliver]
    split <;> rfl
  rw [Connection.receive]
  split
  · exact h.keeps_of_connection_eq rfl rfl nofun
  · split
    · exact h.keeps_refuseSender sender _
    · split
      · rw [hsilent]
        exact h.keeps_deliver _ []
      · exact h.keeps_deliver _ _

/-- After its time has come, no timer of a transfer is due. -/
theorem Rests.inTime_expire (h : t.Rests trace) :
    (t.absorb now (t.connection.expire now)).2.InTime now := by
  have hkeeps : t.Keeps trace now (t.connection.expire now) := h.keeps_expire
  by_cases hsome : (t.connection.expire now).settled.isSome = true
  · exact hkeeps.inTime hsome
  · have hnone : (t.connection.expire now).settled = none := by
      simpa using hsome
    intro due hdue
    rw [hkeeps.timer hnone] at hdue
    have hpend : t.connection.pending.isSome = true := by
      rcases h.pending_none_or with hpend | ⟨-, ht⟩
      · exact hpend
      · rw [ht] at hdue
        cases hdue
    obtain ⟨number, hnumber⟩ := Option.isSome_iff_exists.mp hpend
    -- an expired timer would have settled the read
    by_contra hlate
    have hle : due ≤ now := Int.not_lt.mp hlate
    have hisDue : t.connection.isDue now = true := by
      simp only [Connection.isDue, hdue, hle, decide_true]
    simp only [Connection.expire, hisDue, if_true, Connection.settle, hnumber,
      Option.map_some] at hnone
    cases hnone

end Transfer

end Tftp
