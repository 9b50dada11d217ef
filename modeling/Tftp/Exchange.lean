import Tftp.Notice

/-!
# The reliable exchange of one packet

A packet is sent, and replies are read until one acknowledges it. An exchange is a state machine
over two effects, which its surroundings carry out:

* `Exchange.call` — what an exchange asks for next, to send a packet or to receive one, and how
  it goes on with the answer;
* `Exchange.Next` — the exchange in its next state, or its result.

The rules are these. A copy of the packet is waited on for the timeout, counted from its sending,
however many other packets arrive meanwhile. Then the next copy is sent, up to `maxAttempts`, and
after the last one the exchange has timed out. A packet that cannot be read is reported to the
peer in one error packet and ends the exchange with that fault. Every other fault ends the
exchange at once.
-/

namespace Tftp

/-- A point in time or a span of time, in milliseconds. -/
abbrev Time := Int

/-- A count of seconds as a span of time. -/
def Time.ofSeconds (n : Int) : Time := 1000 * n

/-- What a call to receive a packet is answered with, and when. -/
structure Reception where
  outcome : Except Fault Draft
  now : Time

/-- Whether a reply is the acknowledgement of a block. A reply without the fields to tell is a
fault. -/
def Draft.acknowledges (reply : Draft) (block : Int) : Except Fault Bool :=
  match reply.opcode with
  | none => .error (.missingField .opcode)
  | some opcode =>
    if opcode ≠ Opcode.ack.bytes then .ok false
    else
      match reply.block with
      | none => .error (.missingField .block)
      | some bytes =>
        match bytes.toWord? with
        | none => .error .badBlock
        | some w => .ok ((w.toNat : Int) == block)

/-- The error packet that reports a message to the client. -/
def Packet.report (code : ErrorCode) (message : Bytes) : Packet :=
  .error code.bytes message

/-- Where an exchange stands. -/
inductive Exchange.Phase where
  /-- the next copy is about to be sent -/
  | sending
  /-- the time is `now`, and replies are read until the deadline -/
  | waiting (now deadline : Time)
  /-- the fault of an unreadable reply is about to be reported -/
  | reporting (fault : Fault)
  deriving Inhabited

/-- The exchange of one packet against the acknowledgement of a block. -/
structure Exchange where
  peer : Address
  packet : Draft
  block : Int
  timeout : Time
  attempt : Nat
  phase : Exchange.Phase
  deriving Inhabited

namespace Exchange

/-- The number of copies of a packet that are sent at most. -/
def maxAttempts : Nat := 3

/-- How an exchange goes on: in a next state, or with its result. -/
inductive Next where
  | going (x : Exchange)
  | ended (result : Except Fault Draft)

/-- What an exchange asks of its surroundings, and how it goes on with the answer. A sent packet
is answered with the time. -/
inductive Call where
  | send (packet : Draft) (resume : Except Fault Time → Noted Next)
  | receive (wait : Time) (resume : Reception → Noted Next)

/-- The exchange of a packet, before its first copy is sent. -/
def start (peer : Address) (packet : Draft) (block : Int) (timeout : Time) : Exchange :=
  ⟨peer, packet, block, timeout, 1, .sending⟩

/-- The exchange ends with a fault. -/
def fail (f : Fault) : Noted Next :=
  .silent (.ended (.error f))

/-- The result of an exchange without an answer to any copy. -/
def exhausted : Fault :=
  .timedOut ("no valid reply after " ++ toString maxAttempts ++ " attempts")

/-- The time of a copy is over: the next copy is sent, if there is one left. -/
def retry (x : Exchange) : Noted Next :=
  if x.attempt < maxAttempts then
    ⟨[.resending x.peer (x.attempt + 1)],
      .going { x with attempt := x.attempt + 1, phase := .sending }⟩
  else fail exhausted

/-- Replies are read while there is time left. -/
def await (x : Exchange) (now deadline : Time) : Noted Next :=
  if now < deadline then .silent (.going { x with phase := .waiting now deadline })
  else x.retry

/-- The exchange goes on after a copy was sent. -/
def sent (x : Exchange) : Except Fault Time → Noted Next
  | .error f => fail f
  | .ok now => x.await now (now + x.timeout)

/-- The exchange goes on after a reply, or after the wait for one. -/
def received (x : Exchange) (deadline : Time) (r : Reception) : Noted Next :=
  match r.outcome with
  | .error f =>
    if f.isTimeout then x.retry
    else if f.isUnreadable then
      ⟨[.unreadablePacket x.peer f.text, .sendingError x.peer f.message],
        .going { x with phase := .reporting f }⟩
    else fail f
  | .ok reply =>
    match reply.acknowledges x.block with
    | .error f => fail f
    | .ok true => .silent (.ended (.ok reply))
    | .ok false => Noted.andThen ⟨[.discardedPacket x.peer], ()⟩ fun _ => x.await r.now deadline

/-- The exchange ends after the report of a fault, with that fault or with the fault of the
report. -/
def reported (f : Fault) : Except Fault Time → Noted Next
  | .error g => fail g
  | .ok _ => fail f

/-- What an exchange asks for next. -/
def call (x : Exchange) : Call :=
  match x.phase with
  | .sending => .send x.packet x.sent
  | .waiting now deadline => .receive (deadline - now) (x.received deadline)
  | .reporting f => .send (Packet.report .undefined f.message).toDraft (reported f)

/-- How many more steps an exchange can take without receiving a packet. -/
def patience (x : Exchange) : Nat :=
  match x.phase with
  | .sending => 2 * (maxAttempts - x.attempt) + 2
  | .waiting .. => 2 * (maxAttempts - x.attempt) + 1
  | .reporting _ => 0

end Exchange

end Tftp
