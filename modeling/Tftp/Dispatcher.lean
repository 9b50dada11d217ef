import Tftp.Transfer

/-!
# The dispatcher

The dispatcher listens for requests on the main socket and serves each of them as a transfer, which
has a socket of its own and is numbered from zero. It holds the clock that all transfers share, and
`Dispatcher.step` says what each thing that happens does:

* a datagram at the main socket is ignored, refused from there, or starts a transfer;
* a datagram at the socket of a transfer, the end of its transport, and the file or the fault that a
  backend had promised concern that transfer only;
* when the clock advances, the transfers whose time is over are resumed in the order of their due
  times, and equal times in the order in which the timers were set.
-/

namespace Tftp

/-- A file that a backend has promised to a transfer. -/
structure Promise where
  transfer : Nat
  file : File
  kept : Bool := false
  deriving Inhabited

/-- The backend, the transfers of the requests so far and the clock. -/
structure Dispatcher where
  backend : Option Backend := none
  files : FileSystem := .empty
  clock : Time := 0
  transfers : List Transfer := []
  /-- the transfers with a running timer, in the order in which the timers were set -/
  armed : List Nat := []
  promises : List Promise := []

/-- What came of something that happened. -/
structure Report where
  /-- datagrams sent from the main socket -/
  main : List Datagram := []
  /-- datagrams sent from the transfers, each with the number of its transfer -/
  sent : List (Nat × Datagram) := []
  events : List Event := []
  notices : List Notice := []
  /-- the fault with which the handling itself failed -/
  raised : Option Fault := none
  deriving Inhabited

namespace Report

/-- The report of a transfer's activity. -/
def ofActivity (i : Nat) (a : Activity) : Report :=
  { sent := a.sent.map (i, ·), events := a.events, notices := a.notices }

/-- One report after another; the first fault counts. -/
def append (r s : Report) : Report :=
  ⟨r.main ++ s.main, r.sent ++ s.sent, r.events ++ s.events, r.notices ++ s.notices,
    r.raised <|> s.raised⟩

instance : Append Report := ⟨append⟩

end Report

/-- What happens to a dispatcher. -/
inductive Dispatcher.Input where
  /-- a datagram at the main socket -/
  | request (bytes : Bytes) (sender : Address)
  /-- a datagram at the socket of a transfer, by default from its client -/
  | arrive (transfer : Nat) (bytes : Bytes) (sender : Option Address)
  /-- time passes -/
  | advance (span : Time)
  /-- another backend is set, or none -/
  | setBackend (backend : Option Backend)
  /-- the transport of a transfer stops -/
  | stop (transfer : Nat)
  /-- the writes of a transfer fail from now on, or work again -/
  | fail (transfer : Nat) (failure : Option String)
  /-- a promise is kept, or broken with a fault, which happens once -/
  | fulfil (promise : Nat) (fault : Option Fault)

namespace Dispatcher

/-- The datagram of an error from the main socket. -/
def refusal (message : String) (sender : Address) : List Datagram :=
  match (Packet.report .undefined (Bytes.ofText message)).toDraft.encode with
  | .ok bytes => [⟨bytes, sender⟩]
  | .error _ => []

/-- A transfer in its next state. Its timer, if one runs, was set last. -/
def setTransfer (d : Dispatcher) (i : Nat) (t : Transfer) : Dispatcher :=
  { d with
    transfers := d.transfers.set i t
    armed := d.armed.filter (· != i) ++ if t.connection.timer.isSome then [i] else [] }

/-- Something happened to the connection of a transfer. A timer that nothing was done to keeps its
place. -/
def absorb (d : Dispatcher) (i : Nat) (t : Transfer) (e : Connection.Effect) :
    Report × Dispatcher :=
  let (a, u) := t.absorb d.clock e
  let report := { Report.ofActivity i a with raised := e.raised }
  if e.settled.isSome then (report, d.setTransfer i u)
  else (report, { d with transfers := d.transfers.set i u })

/-- A transfer gets its file, or the fault of opening it. -/
def supply (d : Dispatcher) (i : Nat) (t : Transfer) (answer : Except Fault File) :
    Report × Dispatcher :=
  let (a, u) := t.supply d.clock answer
  (.ofActivity i a, d.setTransfer i u)

/-- The backend is asked for the file of a new transfer, if its session wants one. -/
def openTransfer (d : Dispatcher) (i : Nat) (t : Transfer) : Report × Dispatcher :=
  match t.session.call with
  | .openFile filename _ =>
    let o := Backend.openFile? d.files t.session.peer filename d.backend
    let asked : Report := { events := o.events, notices := o.notices }
    match o.answer with
    | .failure f =>
      let (r, d) := d.supply i t (.error f)
      (asked ++ r, d)
    | .file file =>
      let (r, d) := d.supply i t (.ok file)
      (asked ++ r, d)
    | .later file => (asked, { d with promises := d.promises ++ [⟨i, file, false⟩] })
  | _ =>
    let (a, u) := t.run d.clock
    (.ofActivity i a, d.setTransfer i u)

/-- A request gets a transfer of its own. -/
def serve (d : Dispatcher) (request : Packet) (sender : Address) : Report × Dispatcher :=
  let s := Session.start sender request.toDraft
  let t : Transfer := { session := s.value, connection := { peer := sender } }
  let i := d.transfers.length
  let (r, d) := { d with transfers := d.transfers ++ [t] }.openTransfer i t
  ({ notices := s.notices } ++ r, d)

/-- A datagram at the main socket. -/
def request (d : Dispatcher) (bytes : Bytes) (sender : Address) : Report × Dispatcher :=
  match Packet.decode bytes with
  | .error e => ({ notices := [.invalidRequest sender e.message] }, d)
  | .ok packet =>
    match packet with
    | .writeRequest _ =>
      let (r, d) := d.serve packet sender
      ({ notices := [.writeRequested sender] } ++ r, d)
    | .readRequest q =>
      if d.backend.isNone then
        ({ notices := [.readRequested sender], main := refusal "service unavailable" sender }, d)
      else if q.mode ≠ octetMode then
        ({ notices := [.readRequested sender, .modeNotSupported q.mode]
           main := refusal "mode not supported" sender }, d)
      else
        let (r, d) := d.serve packet sender
        ({ notices := [.readRequested sender] } ++ r, d)
    | _ => ({ notices := [.notARequest sender] }, d)

/-- The due time of a transfer's timer. -/
def due? (d : Dispatcher) (i : Nat) : Option Time :=
  d.transfers[i]?.bind fun t => t.connection.timer

/-- The transfers whose time is over, in the order of their due times. -/
def dueTransfers (d : Dispatcher) : List Nat :=
  let due := d.armed.filterMap fun i => (d.due? i).map fun t => (t, i)
  ((due.filter fun x => x.1 ≤ d.clock).mergeSort fun x y => x.1 ≤ y.1).map Prod.snd

/-- The time of a transfer is over. -/
def expire (d : Dispatcher) (i : Nat) : Report × Dispatcher :=
  match d.transfers[i]? with
  | some t => d.absorb i t (t.connection.expire d.clock)
  | none => ({}, d)

/-- The times of some transfers are over, one after the other. -/
def expireAll (d : Dispatcher) : List Nat → Report × Dispatcher
  | [] => ({}, d)
  | i :: is =>
    let (r, d) := d.expire i
    let (s, d) := d.expireAll is
    (r ++ s, d)

/-- Time passes. -/
def advance (d : Dispatcher) (span : Time) : Report × Dispatcher :=
  let d := { d with clock := d.clock + span }
  d.expireAll d.dueTransfers

/-- What comes of something that happens. What concerns a transfer or a promise that is not there
changes nothing. -/
def step (d : Dispatcher) : Input → Report × Dispatcher
  | .request bytes sender => d.request bytes sender
  | .arrive i bytes sender =>
    match d.transfers[i]? with
    | some t => d.absorb i t (t.connection.receive bytes (sender.getD t.connection.peer))
    | none => ({}, d)
  | .advance span => d.advance span
  | .setBackend backend => ({}, { d with backend })
  | .stop i =>
    match d.transfers[i]? with
    | some t => d.absorb i t t.connection.stop
    | none => ({}, d)
  | .fail i failure =>
    match d.transfers[i]? with
    | some t => d.absorb i t { connection := t.connection.setFailure failure }
    | none => ({}, d)
  | .fulfil n fault =>
    match d.promises[n]? with
    | some promise =>
      match d.transfers[promise.transfer]?, promise.kept with
      | some t, false =>
        let d := { d with promises := d.promises.set n { promise with kept := true } }
        d.supply promise.transfer t (match fault with
          | none => .ok promise.file
          | some f => .error f)
      | some _, true => ({ raised := some .alreadyKept }, d)
      | none, _ => ({}, d)
    | none => ({}, d)

/-- The time left on each running timer, in increasing order. -/
def timers (d : Dispatcher) : List Time :=
  ((d.transfers.filterMap fun t => t.connection.timer).map (· - d.clock)).mergeSort

/-- The reports of a list of inputs, one after the other, and the dispatcher after them. -/
def run (d : Dispatcher) : List Input → List Report × Dispatcher
  | [] => ([], d)
  | input :: inputs =>
    let (report, d) := d.step input
    let (reports, d) := d.run inputs
    (report :: reports, d)

end Dispatcher

end Tftp
