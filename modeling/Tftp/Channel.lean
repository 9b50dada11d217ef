import Tftp.Event

/-!
# Reply channels

A channel stands in for the client and the network: each packet that is written to it triggers a
list of deliveries, which are read back in order. Reading waits in the channel's own time. A
delivery may let time pass before it is there, and an empty channel lets the whole wait pass and
times out.

* `Channel.send` and `Channel.receive` — the two operations;
* `Channel.scripted` — the channel that answers each write as a script says.
-/

namespace Tftp

/-- What a read from a channel gives, and the time that passes before. -/
structure Delivery where
  delay : Time := 0
  outcome : Except Fault Draft

/-- A first-in first-out channel of replies. -/
structure Channel where
  /-- what the write of a packet triggers, the writes being numbered from zero -/
  respond : Nat → Draft → List Delivery
  /-- the writes that fail -/
  refuse : Nat → Option Fault := fun _ => none
  queue : List Delivery := []
  writes : Nat := 0
  clock : Time := 0

namespace Channel

/-- The fault of a wait that is over. -/
def waitOver : Fault := .timedOut "timeout"

/-- A packet is written. -/
def send (c : Channel) (packet : Draft) : Except Fault Time × Event × Channel :=
  let next := { c with writes := c.writes + 1 }
  match c.refuse c.writes with
  | some fault => (.error fault, .sendFailed c.writes, next)
  | none =>
    (.ok c.clock, .sent packet c.clock,
      { next with queue := c.queue ++ c.respond c.writes packet })

/-- A packet is read, and a time waited for it at most if there is none. -/
def receive (c : Channel) (wait : Time) : Reception × Event × Channel :=
  match c.queue with
  | [] =>
    let now := c.clock + wait
    (⟨.error waitOver, now⟩, .awaited wait c.clock, { c with clock := now })
  | d :: queue =>
    let now := c.clock + d.delay
    (⟨d.outcome, now⟩, .awaited wait c.clock, { c with queue, clock := now })

/-- A line of a script: what comes back for a packet. -/
inductive Reply where
  /-- an acknowledgement, counted from the block number of the packet -/
  | ack (offset : Int)
  /-- a packet as it is -/
  | packet (draft : Draft)
  /-- a datagram -/
  | datagram (bytes : Bytes)
  /-- the fault of the read -/
  | fault (fault : Fault)
  deriving DecidableEq, Repr, Inhabited

/-- The block number of a packet, or zero when it has none. -/
def blockNumber (packet : Draft) : Int :=
  ((packet.block.bind Bytes.toWord?).map fun w => (w.toNat : Int)).getD 0

/-- What a read gives for a line of a script. -/
def Reply.outcome (packet : Draft) : Reply → Except Fault Draft
  | ack offset =>
    let number := ((blockNumber packet + offset).emod 65536).toNat
    .ok (Packet.ack (Bytes.ofWord (UInt16.ofNat number))).toDraft
  | .packet draft => .ok draft
  | datagram bytes =>
    match Packet.decode bytes with
    | .ok p => .ok p.toDraft
    | .error e => .error (.ofDecodeError e)
  | fault f => .error f

/-- Whether a packet is one that a client acknowledges: data or an acknowledgement of options. -/
def expectsAck (packet : Draft) : Bool :=
  packet.opcode == some Opcode.data.bytes || packet.opcode == some Opcode.optionAck.bytes

/-- The replies of a client without a script: every packet that expects it is acknowledged. -/
def acknowledging (packet : Draft) : List Delivery :=
  if expectsAck packet then [⟨0, (Reply.ack 0).outcome packet⟩] else []

/-- The channel that answers each write with the lines of a script, and the writes that the script
leaves open with an acknowledgement or not at all. -/
def scripted (script : List (Option (List (Time × Reply)))) (acknowledges : Bool)
    (refuse : Nat → Option Fault) : Channel where
  respond i packet :=
    match script[i]? with
    | some (some lines) => lines.map fun (delay, reply) => ⟨delay, reply.outcome packet⟩
    | _ => if acknowledges then acknowledging packet else []
  refuse

/-- The time after a read is the time of the channel. -/
theorem clock_receive (c : Channel) (wait : Time) :
    (c.receive wait).2.2.clock = (c.receive wait).1.now := by
  unfold receive
  split <;> rfl

/-- A read that gives a packet has taken it from the queue. -/
theorem length_queue_receive {c : Channel} {wait : Time} {reply : Draft}
    (h : (c.receive wait).1.outcome = .ok reply) :
    (c.receive wait).2.2.queue.length < c.queue.length := by
  unfold receive at h ⊢
  split at h
  · exact nomatch h
  · next heq => simp [heq]

end Channel

end Tftp
