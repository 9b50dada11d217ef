import Tftp.Exchange

/-!
# Connections

A connection joins a session to one client. It reads and writes packets, and each of its
operations is a function to the connection after it and what came of it (`Connection.Effect`).

* Datagrams from the client are delivered to the read that is pending, or else they wait in a
  queue, in the order of their arrival.
* A read takes the first of the queue, or it is pending until a datagram comes, its time is over
  or the connection closes. There is at most one pending read; a second one is refused.
* Datagrams from any other address are answered with an error and otherwise ignored.
* A closed connection reads nothing and sends nothing.

Reads are numbered from zero, so that an effect can say which read it settles.
-/

namespace Tftp

/-- A datagram on its way to an address. -/
structure Datagram where
  bytes : Bytes
  address : Address
  deriving Inhabited

/-- The socket that a connection sends with. -/
structure Transport where
  listening : Bool := true
  /-- the words of the failure of every write, while writes fail -/
  failure : Option String := none
  deriving DecidableEq, Repr, Inhabited

/-- A packet from the client, or the reason why a datagram from the client is none. -/
abbrev Arrival := Except DecodeError Packet

/-- What a read gives for an arrival. -/
def Arrival.outcome : Arrival → Except Fault Packet
  | .ok p => .ok p
  | .error e => .error (.ofDecodeError e)

/-- The connection to one client. -/
structure Connection where
  peer : Address
  transport : Option Transport := some {}
  closed : Bool := false
  /-- what arrived and was not read yet, the earliest first -/
  queue : List Arrival := []
  /-- the number of the pending read -/
  pending : Option Nat := none
  /-- when the time of the pending read is over -/
  timer : Option Time := none
  /-- the number of the next read -/
  asked : Nat := 0

namespace Connection

/-- What comes of an operation on a connection. -/
structure Effect where
  connection : Connection
  /-- the read that the operation settles, and its result -/
  settled : Option (Nat × Except Fault Packet) := none
  sent : List Datagram := []
  notices : List Notice := []
  /-- the fault with which the operation itself fails -/
  raised : Option Fault := none

/-- The fault of work on a closed connection. -/
def closedFault : Fault := .transport "connection closed"

/-- The fault of a read while another is pending. -/
def busyFault : Fault := .transport "a read is already pending"

/-- The fault of a read whose time is over. -/
def timeoutFault : Fault := .timedOut "timeout"

/-- The message to a sender who is not the client. -/
def unknownSender : Packet :=
  Packet.report .unknownTransferId (Bytes.ofText "Unknown TID")

/-- A packet is asked for, to be waited for at most a given time. -/
def read (c : Connection) (now wait : Time) : Effect :=
  let number := c.asked
  let c := { c with asked := number + 1 }
  if c.pending.isSome then { connection := c, raised := some busyFault }
  else if c.closed then { connection := c, settled := some (number, .error closedFault) }
  else
    match c.queue with
    | arrival :: queue =>
      { connection := { c with queue }, settled := some (number, arrival.outcome) }
    | [] => { connection := { c with pending := some number, timer := some (now + wait) } }

/-- The datagram of a packet to the client, or the fault of sending it. -/
def datagram (c : Connection) (packet : Draft) : Except Fault Datagram :=
  if c.closed then .error closedFault
  else
    match c.transport with
    | none => .error .noTransport
    | some transport =>
      match packet.encode with
      | .error e => .error (.ofEncodeError e)
      | .ok bytes =>
        match transport.failure with
        | some words => .error (.transport words)
        | none => .ok ⟨bytes, c.peer⟩

/-- A packet is sent to the client. -/
def write (c : Connection) (packet : Draft) : Effect :=
  match c.datagram packet with
  | .error f => { connection := c, raised := some f }
  | .ok d => { connection := c, sent := [d] }

/-- The connection without a pending read, which is settled with a result. -/
def settle (c : Connection) (result : Except Fault Packet) : Effect :=
  { connection := { c with pending := none, timer := none }
    settled := c.pending.map fun number => (number, result) }

/-- An arrival goes to the pending read, or else to the end of the queue. -/
def deliver (c : Connection) (arrival : Arrival) : Effect :=
  if c.pending.isSome then c.settle arrival.outcome
  else { connection := { c with queue := c.queue ++ [arrival] } }

/-- An error goes to a sender who is not the client. -/
def refuseSender (c : Connection) (sender : Address) : Effect :=
  match c.transport, unknownSender.toDraft.encode with
  | none, _ => { connection := c, raised := some .noTransport }
  | some _, .error e => { connection := c, raised := some (.ofEncodeError e) }
  | some transport, .ok bytes =>
    match transport.failure with
    | some words => { connection := c, raised := some (.system (.described words)) }
    | none => { connection := c, sent := [⟨bytes, sender⟩] }

@[simp] theorem connection_refuseSender (c : Connection) (sender : Address) :
    (c.refuseSender sender).connection = c := by
  unfold refuseSender
  split
  · rfl
  · rfl
  · split <;> rfl

@[simp] theorem settled_refuseSender (c : Connection) (sender : Address) :
    (c.refuseSender sender).settled = none := by
  unfold refuseSender
  split
  · rfl
  · rfl
  · split <;> rfl

/-- A datagram arrives from some address. -/
def receive (c : Connection) (bytes : Bytes) (sender : Address) : Effect :=
  if c.closed then { connection := c }
  else if !sender.same c.peer then
    { c.refuseSender sender with notices := [.wrongTransferId] }
  else
    match Packet.decode bytes with
    | .ok packet => c.deliver (.ok packet)
    | .error e => { c.deliver (.error e) with notices := [.invalidDatagram e.message] }

/-- Whether the time of the pending read is over. -/
def isDue (c : Connection) (now : Time) : Bool :=
  match c.timer with
  | some due => due ≤ now
  | none => false

/-- The time has come to a point: a pending read whose time is over has timed out. -/
def expire (c : Connection) (now : Time) : Effect :=
  if c.isDue now then c.settle (.error timeoutFault) else { connection := c }

/-- The end of all reading and writing, with the pending read settled. -/
def shut (c : Connection) : Effect :=
  { c with closed := true }.settle (.error closedFault)

/-- The connection stops listening. -/
def stopListening (c : Connection) : Connection :=
  { c with transport := c.transport.map fun t => { t with listening := false } }

/-- The connection is closed, which also ends its listening. Closing it again changes nothing. -/
def close (c : Connection) : Effect :=
  if c.closed then { connection := c }
  else
    let e := c.shut
    { e with connection := e.connection.stopListening }

/-- The transport has stopped by itself. -/
def stop (c : Connection) : Effect := c.shut

/-- The connection with writes that fail in given words, or that work. -/
def setFailure (c : Connection) (failure : Option String) : Connection :=
  { c with transport := c.transport.map fun t => { t with failure } }

end Connection

/-! ## A connection in time -/

/-- A connection and a clock. -/
structure Line where
  connection : Connection
  clock : Time := 0

/-- What happens to a connection, or is asked of it. -/
inductive Line.Input where
  | read (wait : Time)
  | write (packet : Draft)
  | receive (bytes : Bytes) (sender : Address)
  | advance (span : Time)
  | close
  | stop
  | fail (failure : Option String)

namespace Line

/-- What comes of an input, with the clock after it. -/
def step (l : Line) : Input → Connection.Effect × Time
  | .read wait => (l.connection.read l.clock wait, l.clock)
  | .write packet => (l.connection.write packet, l.clock)
  | .receive bytes sender => (l.connection.receive bytes sender, l.clock)
  | .advance span => (l.connection.expire (l.clock + span), l.clock + span)
  | .close => (l.connection.close, l.clock)
  | .stop => (l.connection.stop, l.clock)
  | .fail failure => ({ connection := l.connection.setFailure failure }, l.clock)

/-- The effects of a list of inputs, one after the other, and the connection after them. -/
def run (l : Line) : List Input → List Connection.Effect × Line
  | [] => ([], l)
  | input :: inputs =>
    let (effect, clock) := l.step input
    let (effects, last) := run ⟨effect.connection, clock⟩ inputs
    (effect :: effects, last)

end Line

end Tftp
