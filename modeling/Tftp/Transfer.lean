import Tftp.Backend
import Tftp.Connection
import Tftp.Rank

/-!
# Transfers

A transfer serves one request: it is a session together with the connection to its client and the
file that it reads. Something happens to the connection or to the file, the session is resumed
with it, and then it runs until it waits for the next thing to happen or is over.

`Transfer.step` carries out one call of the session, and `Transfer.run` takes steps until there is
none. A session that waits has either a pending read on its connection or the promise of a file.
-/

namespace Tftp

/-- What a transfer did: datagrams sent, events seen and notices given, each in order. -/
structure Activity where
  sent : List Datagram := []
  events : List Event := []
  notices : List Notice := []
  deriving Inhabited

/-- One activity after another. -/
def Activity.append (a b : Activity) : Activity :=
  ⟨a.sent ++ b.sent, a.events ++ b.events, a.notices ++ b.notices⟩

instance : Append Activity := ⟨Activity.append⟩

/-- A session, the connection to its client and its file. -/
structure Transfer where
  session : Session
  connection : Connection
  /-- the open file, an empty one before it is opened -/
  file : File := .ofBytes []
  /-- whether the end of the session was attended to -/
  ended : Bool := false

namespace Transfer

/-- The transfer in the next state of its session. -/
def next (t : Transfer) (s : Noted Session) (sent : List Datagram := [])
    (events : List Event := []) : Activity × Transfer :=
  (⟨sent, events, s.notices⟩, { t with session := s.value })

/-- The end of a session is attended to: the connection is closed, and a fault is noted. -/
def finish (t : Transfer) (result : Except Fault Outcome) : Activity × Transfer :=
  let notices := match result with
    | .ok _ => []
    | .error f => [.sessionFailed t.session.peer f.text]
  ({ notices }, { t with connection := t.connection.close.connection, ended := true })

/-- A packet is sent on the connection. -/
def send (t : Transfer) (now : Time) (packet : Draft) (resume : Except Fault Time → Noted Session) :
    Activity × Transfer :=
  match t.connection.datagram packet with
  | .ok d => t.next (resume (.ok now)) [d]
  | .error f => t.next (resume (.error f))

/-- A packet is asked for on the connection. -/
def receive (t : Transfer) (now wait : Time) (resume : Reception → Noted Session) :
    Activity × Transfer :=
  let e := t.connection.read now wait
  let t := { t with connection := e.connection }
  match e.settled with
  | some (_, outcome) => t.next (resume ⟨outcome.map Packet.toDraft, now⟩)
  | none => ({}, t)

/-- The transfer after one more call of its session. There is no step while the session waits for
its file or for a packet, nor after its end. -/
def step (t : Transfer) (now : Time) : Option (Activity × Transfer) :=
  match t.session.call with
  | .openFile .. => none
  | .readFile size resume =>
    let answer := t.file.read size
    some ({ t with file := answer.2 }.next (resume answer.1) [] [.fileRead t.file.observed size])
  | .closeFile resume => some (t.next (resume t.file.close) [] [.fileClosed t.file.observed])
  | .send packet resume => some (t.send now packet resume)
  | .receive wait resume =>
    if t.connection.pending.isSome then none else some (t.receive now wait resume)
  | .finished result => if t.ended then none else some (t.finish result)

/-- What goes down with each step: the rank of the session, and then the arrivals that are left,
together with the read that can still be pending and the end that is still to come. -/
def progress (t : Transfer) : Session.Progress :=
  (t.session.rank t.file.size,
    t.connection.queue.length + (if t.connection.pending.isSome then 0 else 1) +
      if t.ended then 0 else 2)

/-- Each step makes progress. -/
theorem step_lt {t u : Transfer} {now : Time} {a : Activity} (h : t.step now = some (a, u)) :
    Session.Progress.Lt u.progress t.progress := by
  unfold step at h
  split at h
  · exact nomatch h
  · next size resume hc =>
    simp only [next, Option.some.injEq, Prod.mk.injEq] at h
    obtain ⟨-, rfl⟩ := h
    exact Session.Progress.lt_of_rank (Session.Rank.lt_readFile hc t.file)
  · next resume hc =>
    simp only [next, Option.some.injEq, Prod.mk.injEq] at h
    obtain ⟨-, rfl⟩ := h
    exact Session.Progress.lt_of_rank (Session.Rank.lt_closeFile hc _ _)
  · next packet resume hc =>
    simp only [send, next, Option.some.injEq] at h
    split at h <;> simp only [Prod.mk.injEq] at h <;> obtain ⟨-, rfl⟩ := h <;>
      exact Session.Progress.lt_of_rank (Session.Rank.lt_send hc _ _)
  · next wait resume hc =>
    split at h
    · exact nomatch h
    · next hpending =>
      simp only [receive, Connection.read, hpending, Option.some.injEq] at h
      by_cases hclosed : t.connection.closed = true
      · simp only [hclosed, next, if_true] at h
        obtain ⟨-, rfl⟩ := h
        exact Session.Progress.lt_of_rank ((Session.Rank.receive hc _ _).2 _ rfl)
      · simp only [hclosed] at h
        match hq : t.connection.queue with
        | [] =>
          simp only [hq] at h
          obtain ⟨-, rfl⟩ := h
          refine Session.Progress.lt_of_count (.inr rfl) ?_
          simp [progress, hq, hpending]
        | arrival :: queue =>
          simp only [hq, next] at h
          obtain ⟨-, rfl⟩ := h
          refine Session.Progress.lt_of_count (Session.Rank.receive hc _ _).1 ?_
          simp [progress, hq]
  · next result hc =>
    split at h
    · exact nomatch h
    · next hended =>
      simp only [finish, Option.some.injEq, Prod.mk.injEq] at h
      obtain ⟨-, rfl⟩ := h
      refine Session.Progress.lt_of_count (.inr rfl) ?_
      have hqueue : t.connection.close.connection.queue = t.connection.queue := by
        unfold Connection.close
        split <;> rfl
      simp only [progress, hqueue, hended, if_true, Bool.false_eq_true, if_false]
      split <;> split <;> omega

/-- The transfer runs until its session waits or is over. -/
def run (t : Transfer) (now : Time) : Activity × Transfer :=
  match _h : t.step now with
  | none => ({}, t)
  | some (a, u) =>
    let (b, r) := u.run now
    (a ++ b, r)
termination_by t.progress
decreasing_by exact step_lt _h

/-! ## What happens to a transfer -/

/-- A run after some activity. -/
def runAfter (now : Time) (r : Activity × Transfer) : Activity × Transfer :=
  let (b, u) := r.2.run now
  (r.1 ++ b, u)

/-- The session goes on with the result of its pending read. -/
def resume (t : Transfer) (now : Time) (outcome : Except Fault Packet) : Activity × Transfer :=
  match t.session.call with
  | .receive _ resume => runAfter now (t.next (resume ⟨outcome.map Packet.toDraft, now⟩))
  | _ => ({}, t)

/-- The effect of something that happened to the connection: what it sent and noted, and the
session from the read that it settled. -/
def absorb (t : Transfer) (now : Time) (e : Connection.Effect) : Activity × Transfer :=
  let a : Activity := { sent := e.sent, notices := e.notices }
  let t := { t with connection := e.connection }
  match e.settled with
  | some (_, outcome) =>
    let (b, u) := t.resume now outcome
    (a ++ b, u)
  | none => (a, t)

/-- The session goes on with its file, or with the fault of opening it. -/
def supply (t : Transfer) (now : Time) (answer : Except Fault File) : Activity × Transfer :=
  match t.session.call with
  | .openFile _ resume =>
    match answer with
    | .ok file => runAfter now ({ t with file }.next (resume (.ok ())))
    | .error f => runAfter now (t.next (resume (.error f)))
  | _ => ({}, t)

end Transfer

end Tftp
