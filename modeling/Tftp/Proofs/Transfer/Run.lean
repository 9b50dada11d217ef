import Tftp.Proofs.Session.Run
import Tftp.Transfer

/-!
# The run of a transfer

A transfer that was resumed runs until it has to wait for something from outside. This module says
where a run can end: the transfer waits for a packet with a timer that is counted from the last
sending of the packet that it exchanges, or it is over and its connection is closed.

* `Trace` — what is known of the past of a transfer, which grows as it keeps sending;
* `Exchange.Awake` and `Session.Awake` — exchanges and sessions that can go on at a time;
* `Transfer.Settled` — the ways to rest after a run;
* `Transfer.Running` — the invariant from one step of a run to the next.

A step of a run either goes on running or rests (`Transfer.Running.step`), and so every run ends
settled (`Transfer.Running.rested_run`).
-/

namespace Tftp

/-! ## Sendings

When a datagram was sent last decides when its timer is due. Of the past of a transfer nothing else
matters, apart from whether its transport has stopped. -/

/-- What is known of a transfer's past: when it sent each datagram last, if ever, and whether its
transport has stopped. -/
@[ext] structure Trace where
  sentAt : Bytes → Option Time
  stopped : Prop

namespace Trace

/-- Some datagrams are sent at a time. -/
def stamp (trace : Trace) (now : Time) (sent : List Datagram) : Trace :=
  { trace with sentAt := fun bytes =>
      if sent.any (·.bytes == bytes) then some now else trace.sentAt bytes }

/-- The transport stops. -/
def stop (trace : Trace) : Trace :=
  { trace with stopped := True }

@[simp] theorem stamp_nil (trace : Trace) (now : Time) : trace.stamp now [] = trace := by
  simp [stamp]

/-- Two lots of datagrams may be stamped one after the other. Since both have the same time, it does
not matter in which of them a datagram is. -/
theorem stamp_append (trace : Trace) (now : Time) (a b : List Datagram) :
    trace.stamp now (a ++ b) = (trace.stamp now a).stamp now b := by
  simp only [stamp, mk.injEq, and_true]
  funext bytes
  by_cases ha : a.any (·.bytes == bytes) <;> by_cases hb : b.any (·.bytes == bytes) <;>
    simp [List.any_append, ha, hb]

theorem sentAt_stamp_singleton (trace : Trace) (now : Time) (bytes : Bytes) (address : Address) :
    (trace.stamp now [⟨bytes, address⟩]).sentAt bytes = some now := by
  simp [stamp]

end Trace

/-- The first two bytes of a datagram are the kind of its packet. By this an error is told from what
is exchanged. -/
theorem Draft.opcode_of_encode {d : Draft} {bytes : Bytes} (h : d.encode = .ok bytes) :
    d.opcode = some (bytes.take 2) := by
  unfold encode at h
  cases ho : d.opcode with
  | none => rw [ho] at h; cases h
  | some opcode =>
    rw [ho] at h
    cases hk : Opcode.ofBytes? opcode with
    | none => simp [require, hk, bind, Except.bind] at h
    | some kind =>
      have hlength : opcode.length = 2 := by
        rw [Opcode.ofBytes?_eq_some hk, Opcode.length_bytes]
      cases hb : d.encodeBody kind with
      | error e => simp [require, hk, hb, bind, Except.bind] at h
      | ok body =>
        simp [require, hk, hb, bind, Except.bind, pure, Except.pure] at h
        rw [← h, ← hlength, List.take_left]

/-! ## Exchanges and sessions under way

A session that can go on is described by its phase. The one thing to be kept through all phases is
the deadline of the exchange: it is the timeout after the last sending of the packet, and stays that
when errors are sent in between. -/

namespace Exchange

/-- An exchange as sessions begin them, of data or of an acknowledgement of options. -/
structure Proper (timeout : Time) (x : Exchange) : Prop where
  /-- it exchanges data or an acknowledgement of options -/
  opcode : x.packet.opcode = some Opcode.data.bytes ∨ x.packet.opcode = some Opcode.optionAck.bytes
  /-- it waits as long as the session does -/
  timeout_eq : x.timeout = timeout

/-- The deadline is the timeout after the last sending of the packet. -/
def Due (trace : Trace) (x : Exchange) (due : Time) : Prop :=
  ∃ bytes sentAt, x.packet.encode = .ok bytes ∧ trace.sentAt bytes = some sentAt ∧
    due = sentAt + x.timeout

/-- An exchange that can go on at a time: if it waits then it has just begun to. -/
inductive Awake (trace : Trace) (now : Time) (x : Exchange) : Prop where
  | sending (hp : x.phase = .sending)
  | waiting {due : Time} (hp : x.phase = .waiting now due) (hlt : now < due)
      (hdue : x.Due trace due)
  | reporting {f : Fault} (hp : x.phase = .reporting f)

/-- An exchange that can go on, or that is over. -/
inductive Next.Awake (trace : Trace) (now timeout : Time) : Next → Prop where
  | going {x : Exchange} (h : x.Proper timeout) (ha : x.Awake trace now) :
      Awake trace now timeout (.going x)
  | ended (result : Except Fault Draft) : Awake trace now timeout (.ended result)

variable {trace : Trace} {now timeout due : Time} {x : Exchange}

/-- An exchange whose time is over sends once more, or is over. -/
theorem awake_retry (h : x.Proper timeout) : x.retry.value.Awake trace now timeout := by
  by_cases hlt : x.attempt < maxAttempts
  · rw [value_retry_of_lt x hlt]
    exact .going ⟨h.opcode, h.timeout_eq⟩ (.sending rfl)
  · rw [value_retry_of_le x (Nat.not_lt.mp hlt)]
    exact .ended _

/-- An exchange with a deadline waits for it, or turns to its next copy if it has passed. -/
theorem awake_await (h : x.Proper timeout) (hdue : x.Due trace due) :
    (x.await now due).value.Awake trace now timeout := by
  by_cases hlt : now < due
  · rw [value_await_of_lt x hlt]
    exact .going ⟨h.opcode, h.timeout_eq⟩ (.waiting rfl hlt hdue)
  · rw [value_await_of_le x (Int.not_lt.mp hlt)]
    exact awake_retry h

/-- Whatever is received, the deadline stays where it is as long as the exchange waits. -/
theorem Received.awake {outcome : Except Fault Draft} {next : Next}
    (h : Received x due ⟨outcome, now⟩ next) (hx : x.Proper timeout) (hdue : x.Due trace due) :
    next.Awake trace now timeout := by
  cases h with
  | timedOut => exact awake_retry hx
  | unreadable => exact .going ⟨hx.opcode, hx.timeout_eq⟩ (.reporting rfl)
  | failed => exact .ended _
  | unclear => exact .ended _
  | accepted => exact .ended _
  | discarded => exact awake_await hx hdue

/-- After a copy was sent, the deadline is counted from that sending. -/
theorem awake_sent (h : x.Proper timeout) {bytes : Bytes} (hb : x.packet.encode = .ok bytes)
    (address : Address) :
    (x.sent (.ok now)).value.Awake (trace.stamp now [⟨bytes, address⟩]) now timeout :=
  awake_await h ⟨bytes, now, hb, trace.sentAt_stamp_singleton now bytes address, rfl⟩

/-- Sending errors does not move a deadline, for what is exchanged is no error. -/
theorem Due.stamp {sent : List Datagram} (h : x.Due trace due) (hx : x.Proper timeout)
    (hsent : ∀ d ∈ sent, d.bytes.take 2 = Opcode.error.bytes) :
    x.Due (trace.stamp now sent) due := by
  obtain ⟨bytes, sentAt, hb, hsentAt, hdue⟩ := h
  refine ⟨bytes, sentAt, hb, ?_, hdue⟩
  -- the first two bytes tell an error from what is exchanged
  have hopcode := Draft.opcode_of_encode hb
  have hnot : ¬ sent.any (·.bytes == bytes) := by
    intro hany
    obtain ⟨d, hd, heq⟩ := List.any_eq_true.mp hany
    rw [← beq_iff_eq.mp heq, hsent d hd] at hopcode
    rcases hx.opcode with h | h <;> rw [hopcode] at h <;> cases h
  simp only [Trace.stamp, if_neg hnot, hsentAt]

end Exchange

namespace Session

/-- A session whose backend is asked for the file. -/
def IsOpening (s : Session) : Prop :=
  ∃ filename options, s.phase = .opening filename options

/-- A session that can go on at a time. -/
inductive Awake (trace : Trace) (now : Time) (s : Session) : Prop where
  | exchanging {goal : Goal} {x : Exchange} (hp : s.phase = .exchanging goal x)
      (hx : x.Proper (.ofSeconds s.terms.timeout)) (ha : x.Awake trace now)
  | fetching {number : UInt16} (hp : s.phase = .fetching number)
  | reporting {code : ErrorCode} {message : Bytes} {fileOpen : Bool}
      (hp : s.phase = .reporting code message fileOpen)
  | closing {result : Except Fault Outcome} (hp : s.phase = .closing result)
  | ended {result : Except Fault Outcome} (hp : s.phase = .ended result)

variable {trace : Trace} {now : Time} {s t : Session}

/-- A session is opening when it asks for its file. -/
theorem isOpening_of_call {filename : String} {resume : Except Fault Unit → Noted Session}
    (h : s.call = .openFile filename resume) : s.IsOpening := by
  obtain ⟨options, hp⟩ := exists_phase_of_openFile h
  exact ⟨filename, options, hp⟩

/-- The session of a request asks for its file at once, or it needs none. -/
theorem isOpening_or_awake_start (peer : Address) (request : Draft) :
    (start peer request).value.IsOpening ∨
      ∀ trace now, (start peer request).value.Awake trace now := by
  rw [start]
  dsimp only
  split
  · exact .inr fun _ _ => .ended rfl
  · split
    · split
      · exact .inr fun _ _ => .ended rfl
      · exact .inl ⟨_, _, rfl⟩
    · split
      · exact .inr fun _ _ => .reporting rfl
      · exact .inr fun _ _ => .reporting rfl

/-- However an exchange ends, the session that follows it can go on. -/
theorem Followed.awake {goal : Goal} {next : Exchange.Next} (h : Followed s goal next t)
    (ha : next.Awake trace now (.ofSeconds s.terms.timeout)) : t.Awake trace now := by
  cases h with
  | going => cases ha with | going hx ha => exact .exchanging rfl hx ha
  | agreed => exact .fetching rfl
  | completed => exact .closing rfl
  | continued => exact .fetching rfl
  | timedOut => exact .closing rfl
  | unreadable => exact .closing rfl
  | failed => exact .closing rfl

/-- However a request is received when its file is there, the session can go on. -/
theorem Opened.awake {options : Option Options} {answer : Except Fault Unit}
    (h : Opened s options answer t) : t.Awake trace now := by
  cases h with
  | refused => exact .reporting rfl
  | incomplete => exact .closing rfl
  | rejected => exact .reporting rfl
  | failed => exact .closing rfl
  | passedOver => exact .fetching rfl
  | agreed => exact .exchanging rfl ⟨.inr rfl, rfl⟩ (.sending rfl)

/-- With a block from the file the session begins to exchange it, and with a fault it reports
that. -/
theorem awake_fetched (s : Session) (number : UInt16) (answer : Except Fault Bytes) :
    (s.fetched number answer).value.Awake trace now := by
  cases answer with
  | error f => exact .reporting rfl
  | ok payload => exact .exchanging rfl ⟨.inl rfl, rfl⟩ (.sending rfl)

/-- A session that has reported an error closes its file if it has one, and is over otherwise. -/
theorem awake_reported (s : Session) (fileOpen : Bool) (answer : Except Fault Time) :
    (s.reported fileOpen answer).value.Awake trace now := by
  rw [value_reported]
  cases fileOpen with
  | true => exact .closing rfl
  | false => exact .ended rfl

end Session

/-! ## Transfers

While a transfer runs nothing is pending on its connection. A step of its session either leaves it
so, or reads from an empty queue and leaves a read pending; and with the end of the session its
connection is closed. These are the two ways to rest. -/

/-- What a connection sends is the packet, encoded. All that can go wrong before that sends
nothing. -/
theorem Connection.encode_of_datagram {c : Connection} {packet : Draft} {d : Datagram}
    (h : c.datagram packet = .ok d) : packet.encode = .ok d.bytes := by
  rw [datagram] at h
  split at h
  · cases h
  · split at h
    · cases h
    · split at h
      · cases h
      · next bytes hb =>
        split at h
        · cases h
        · cases h
          exact hb

/-- A connection that listens no longer. -/
def Connection.IsReleased (c : Connection) : Prop :=
  ∀ transport, c.transport = some transport → transport.listening = false

/-- A connection that was told to stop listening listens no longer. -/
theorem Connection.isReleased_stopListening (c : Connection) : c.stopListening.IsReleased := by
  intro transport h
  obtain ⟨_, -, rfl⟩ := Option.map_eq_some_iff.mp h
  rfl

/-- What comes of a read when none is pending: it is settled at once, or it is pending now. -/
inductive Connection.Read (c : Connection) (now wait : Time) : Connection.Effect → Prop where
  | settled {c' : Connection} {number : Nat} {outcome : Except Fault Packet}
      (hpending : c'.pending = c.pending) (htimer : c'.timer = c.timer)
      (hclosed : c'.closed = c.closed) :
      Read c now wait { connection := c', settled := some (number, outcome) }
  | pending {asked : Nat} (hclosed : c.closed = false) (hqueue : c.queue = []) :
      Read c now wait { connection :=
        { c with asked, pending := some c.asked, timer := some (now + wait) } }

/-- A read on a connection where none is pending is settled at once by what is queued or by the end,
or it is pending with a timer of its own. -/
theorem Connection.read_spec {c : Connection} (h : c.pending = none) (now wait : Time) :
    c.Read now wait (c.read now wait) := by
  have hnone : c.pending.isSome = false := by
    rw [h]
    rfl
  by_cases hclosed : c.closed = true
  · simp only [read, hnone, hclosed, if_true, Bool.false_eq_true, if_false]
    exact .settled rfl rfl hclosed.symm
  · rw [Bool.not_eq_true] at hclosed
    cases hq : c.queue with
    | cons arrival queue =>
      simp only [read, hnone, hclosed, hq, Bool.false_eq_true, if_false]
      exact .settled rfl rfl hclosed.symm
    | nil =>
      simp only [read, hnone, hclosed, hq, Bool.false_eq_true, if_false]
      have h : c.Read now wait _ := @Read.pending c now wait (c.asked + 1) hclosed hq
      simpa only [hclosed, hq] using h

namespace Transfer

/-- A transfer with nothing pending on its connection, before its end is attended to. -/
structure Idle (trace : Trace) (t : Transfer) : Prop where
  /-- no read is pending -/
  pending : t.connection.pending = none
  /-- no timer runs -/
  timer : t.connection.timer = none
  /-- its end was not attended to -/
  ended : t.ended = false
  /-- its connection is open, unless its transport has stopped -/
  isOpen : ¬ trace.stopped → t.connection.closed = false

/-- The transfer waits for a packet, or it is over. -/
inductive Settled (trace : Trace) (t : Transfer) : Prop where
  /-- a read is pending, with a timer for the deadline -/
  | waiting {goal : Session.Goal} {x : Exchange} {now due : Time}
      (hp : t.session.phase = .exchanging goal x) (hx : x.phase = .waiting now due)
      (hproper : x.Proper (.ofSeconds t.session.terms.timeout)) (hdue : x.Due trace due)
      (hclosed : t.connection.closed = false) (hpending : t.connection.pending.isSome = true)
      (hqueue : t.connection.queue = []) (htimer : t.connection.timer = some due)
      (hended : t.ended = false)
  /-- its end was attended to -/
  | finished {result : Except Fault Outcome} (hp : t.session.phase = .ended result)
      (hclosed : t.connection.closed = true) (hpending : t.connection.pending = none)
      (htimer : t.connection.timer = none) (hended : t.ended = true)
      (hreleased : ¬ trace.stopped → t.connection.IsReleased)

/-- The timer, if there is one, is not due yet. -/
def InTime (now : Time) (t : Transfer) : Prop :=
  ∀ due, t.connection.timer = some due → now < due

/-- A transfer between two steps of a run. -/
structure Running (trace : Trace) (now : Time) (t : Transfer) : Prop extends Idle trace t where
  /-- its session can go on -/
  awake : t.session.Awake trace now

/-- A transfer after a run. -/
structure Rested (trace : Trace) (now : Time) (t : Transfer) : Prop where
  /-- it waits or is over -/
  settled : t.Settled trace
  /-- its timer is not due -/
  inTime : t.InTime now

variable {trace : Trace} {now : Time} {t : Transfer}

/-- What a step of a run leads to. -/
def Went (trace : Trace) (now : Time) (r : Activity × Transfer) : Prop :=
  r.2.Running (trace.stamp now r.1.sent) now ∨ r.2.Rested (trace.stamp now r.1.sent) now

/-- The session goes on, and nothing happens to the connection. -/
theorem Idle.went_next (h : t.Idle trace) {s : Noted Session} {sent : List Datagram}
    {events : List Event} (hs : s.value.Awake (trace.stamp now sent) now) :
    Went trace now (t.next s sent events) :=
  .inl ⟨⟨h.pending, h.timer, h.ended, h.isOpen⟩, hs⟩

/-- An exchange goes on or comes to its end, and the session goes on with that. -/
theorem Idle.went_follow (h : t.Idle trace) {goal : Session.Goal} {next : Noted Exchange.Next}
    {sent : List Datagram} (hnext : next.value.Awake (trace.stamp now sent) now
      (.ofSeconds t.session.terms.timeout)) :
    Went trace now (t.next (next.andThen (t.session.follow goal)) sent) :=
  h.went_next ((t.session.follow_spec goal next.value).awake hnext)

/-- A copy of a packet is sent, or the sending fails. -/
theorem Idle.went_send (h : t.Idle trace) {goal : Session.Goal} {x : Exchange}
    (hx : x.Proper (.ofSeconds t.session.terms.timeout)) :
    Went trace now (t.send now x.packet fun a => (x.sent a).andThen (t.session.follow goal)) := by
  rw [send]
  cases hd : t.connection.datagram x.packet with
  | error f => exact h.went_follow (.ended _)
  | ok d =>
    have hb := Connection.encode_of_datagram hd
    exact h.went_follow (Exchange.awake_sent hx hb d.address)

/-- An error is reported, or the report fails. -/
theorem Idle.went_report (h : t.Idle trace) (packet : Draft)
    {resume : Except Fault Time → Noted Session}
    (hs : ∀ (trace : Trace) answer, (resume answer).value.Awake trace now) :
    Went trace now (t.send now packet resume) := by
  rw [send]
  cases t.connection.datagram packet with
  | error f => exact h.went_next (hs _ _)
  | ok d => exact h.went_next (hs _ _)

/-- A packet is there, or the read is pending from now on. The timer of a pending read is set for
the deadline of the exchange, which is still ahead. -/
theorem Idle.went_receive (h : t.Idle trace) {goal : Session.Goal} {x : Exchange} {due : Time}
    (hp : t.session.phase = .exchanging goal x) (hphase : x.phase = .waiting now due)
    (hx : x.Proper (.ofSeconds t.session.terms.timeout)) (hlt : now < due)
    (hdue : x.Due trace due) :
    Went trace now (t.receive now (due - now)
      fun r => (x.received due r).andThen (t.session.follow goal)) := by
  have hspec := Connection.read_spec h.pending now (due - now)
  rw [receive]
  generalize t.connection.read now (due - now) = e at hspec ⊢
  cases hspec with
  | settled hpending htimer hclosed =>
    rw [h.pending] at hpending
    rw [h.timer] at htimer
    have hidle : Idle trace { t with connection := _ } :=
      ⟨hpending, htimer, h.ended, fun hrunning => hclosed.trans (h.isOpen hrunning)⟩
    refine hidle.went_follow ?_
    exact (Exchange.received_spec x due _).awake hx hdue
  | pending hclosed hqueue =>
    have hend : now + (due - now) = due := by
      rw [Int.add_comm, Int.sub_add_cancel]
    refine .inr ⟨?_, ?_⟩
    · rw [Trace.stamp_nil]
      exact .waiting hp hphase hx hdue hclosed rfl hqueue (congrArg some hend) h.ended
    · intro due' hdue'
      obtain rfl : now + (due - now) = due' := Option.some.inj hdue'
      rw [hend]
      exact hlt

/-- The end is attended to. -/
theorem rested_finish (h : t.Idle trace) {result : Except Fault Outcome}
    (hp : t.session.phase = .ended result) :
    (t.finish result).2.Rested (trace.stamp now (t.finish result).1.sent) now := by
  have hclose : t.connection.close.connection.closed = true ∧
      t.connection.close.connection.pending = none ∧
      t.connection.close.connection.timer = none ∧
      (¬ trace.stopped → t.connection.close.connection.IsReleased) := by
    rw [Connection.close]
    split
    · next hclosed =>
      -- it was closed before, and so its transport stopped by itself
      refine ⟨hclosed, h.pending, h.timer, fun hrunning => ?_⟩
      rw [h.isOpen hrunning] at hclosed
      cases hclosed
    · exact ⟨rfl, rfl, rfl, fun _ => Connection.isReleased_stopListening _⟩
  obtain ⟨hclosed, hpending, htimer, hreleased⟩ := hclose
  refine ⟨.finished hp hclosed hpending htimer rfl hreleased, fun due hdue => ?_⟩
  have hnone : t.connection.close.connection.timer = some due := hdue
  rw [htimer] at hnone
  cases hnone

/-- **No run stops halfway.** A transfer that is running has a next step, after which it runs still
or rests. -/
theorem Running.step (h : t.Running trace now) :
    ∃ r, t.step now = some r ∧ Went trace now r := by
  have hidle := h.toIdle
  have hpending : t.connection.pending.isSome = false := by
    rw [h.pending]
    rfl
  cases h.awake with
  | @exchanging goal x hp hx ha =>
    cases ha with
    | sending hphase =>
      refine ⟨_, ?_, @Idle.went_send _ _ _ hidle goal _ hx⟩
      simp only [Transfer.step, Session.call, hp, Exchange.call, hphase]
    | waiting hphase hlt hdue =>
      refine ⟨_, ?_, hidle.went_receive hp hphase hx hlt hdue⟩
      simp only [Transfer.step, Session.call, hp, Exchange.call, hphase, hpending,
        Bool.false_eq_true, if_false]
    | @reporting f hphase =>
      have hreport (trace : Trace) (answer : Except Fault Time) :
          ((Exchange.reported f answer).andThen (t.session.follow goal)).value.Awake trace now := by
        cases answer with
        | error g => exact (t.session.follow_spec goal _).awake (.ended _)
        | ok sentAt => exact (t.session.follow_spec goal _).awake (.ended _)
      refine ⟨_, ?_, hidle.went_report (Packet.report .undefined f.message).toDraft hreport⟩
      simp only [Transfer.step, Session.call, hp, Exchange.call, hphase]
  | @fetching number hp =>
    refine ⟨_, by simp only [Transfer.step, Session.call, hp]; rfl, ?_⟩
    have hread : Idle trace { t with file := (t.file.read t.session.terms.blockSize).2 } :=
      ⟨h.pending, h.timer, h.ended, h.isOpen⟩
    exact hread.went_next (t.session.awake_fetched number _)
  | @reporting code message fileOpen hp =>
    have hreport (trace : Trace) (answer : Except Fault Time) :
        (t.session.reported fileOpen answer).value.Awake trace now :=
      t.session.awake_reported fileOpen answer
    refine ⟨_, ?_, hidle.went_report (Packet.report code message).toDraft hreport⟩
    simp only [Transfer.step, Session.call, hp]
  | @closing result hp =>
    refine ⟨_, by simp only [Transfer.step, Session.call, hp]; rfl, hidle.went_next ?_⟩
    rw [Session.value_closed]
    exact .ended rfl
  | @ended result hp =>
    refine ⟨_, ?_, .inr (rested_finish hidle hp)⟩
    simp only [Transfer.step, Session.call, hp, h.ended, Bool.false_eq_true, if_false]

/-- A transfer that rests has no next step. -/
theorem Settled.step_eq_none (h : t.Settled trace) : t.step now = none := by
  cases h with
  | waiting hp hx _ _ _ hpending =>
    simp only [step, Session.call, hp, Exchange.call, hx, hpending, if_true]
  | finished hp _ _ _ hended => simp only [step, Session.call, hp, hended, if_true]

/-- A transfer without a next step does not run. -/
theorem run_of_step_eq_none (h : t.step now = none) : t.run now = ({}, t) := by
  rw [run]
  split
  · rfl
  · next hs => rw [h] at hs; cases hs

/-- What is sent in two parts of a run, one after the other. -/
@[simp] theorem sent_append (a b : Activity) : (a ++ b).sent = a.sent ++ b.sent := rfl

/-- **Every run comes to a rest.** The induction follows the steps of the run. -/
theorem Running.rested_run (h : t.Running trace now) :
    (t.run now).2.Rested (trace.stamp now (t.run now).1.sent) now := by
  fun_induction run t now generalizing trace with
  | case1 t hs =>
    obtain ⟨r, hr, -⟩ := h.step
    rw [hs] at hr
    cases hr
  | case2 t a u hs b r hrun ih =>
    obtain ⟨_, hr, hwent⟩ := h.step
    rw [hs, Option.some.injEq] at hr
    subst hr
    -- what the first step sent is stamped before what the rest of the run sends
    rw [sent_append, Trace.stamp_append]
    rcases hwent with hrunning | hrested
    · have hrest := ih hrunning
      rw [hrun] at hrest
      exact hrest
    · rw [run_of_step_eq_none (hrested.settled.step_eq_none)] at hrun
      cases hrun
      rw [Trace.stamp_nil]
      exact hrested

/-- After a step, a run comes to a rest as well. -/
theorem Went.rested_runAfter {r : Activity × Transfer} (h : Went trace now r) :
    (runAfter now r).2.Rested (trace.stamp now (runAfter now r).1.sent) now := by
  rw [runAfter, sent_append, Trace.stamp_append]
  rcases h with hrunning | hrested
  · exact hrunning.rested_run
  · rw [run_of_step_eq_none (hrested.settled.step_eq_none), Trace.stamp_nil]
    exact hrested

end Transfer

end Tftp
