import Tftp.Proofs.Transfer.Live

/-!
# Strangers

A datagram from anyone but the client of a transfer is foreign to it. Whatever is in such a
datagram, and whenever it comes, the transfer goes on as if it had never arrived: a stranger is
answered with an error, and nothing else comes of it.

* `Transfer.Live.Ignored` — all that comes of a stranger's datagram;
* `Transfer.Live.own` — what is left of some inputs without the datagrams of strangers;
* `Transfer.Live.sentTo` and `Transfer.Live.readings` — what the client and the session see
  of a run, each with its time;
* `Transfer.Live.Undisturbed` — what strangers cannot change, and what they get.

The main theorem is `Transfer.Live.undisturbed`. A stranger's datagram leaves the transfer as it is
(`ignored_receive`), so both runs go through the same states, and the rest is read off the turns
that they have in common.
-/

namespace Tftp

/-! ## What a connection does with a stranger's datagram

A connection compares the sender with its client before it looks at the bytes. So nothing needs to
be known of what a stranger sends. -/

namespace Connection

/-- What a stranger is told: the error of an unknown transfer. -/
def strangerNotice : Bytes :=
  Opcode.error.bytes ++ ErrorCode.unknownTransferId.bytes ++ Bytes.ofText "Unknown TID" ++ [0]

/-- Writes on the transport work. -/
def CanWrite (c : Connection) : Prop :=
  ∃ transport, c.transport = some transport ∧ transport.failure = none

variable {c : Connection} {sender : Address}

theorem encode_unknownSender : unknownSender.toDraft.encode = .ok strangerNotice := rfl

/-- At most one datagram is sent to a stranger, and nothing to anyone else. -/
theorem address_of_mem_sent_refuseSender {d : Datagram} (h : d ∈ (c.refuseSender sender).sent) :
    d.address = sender := by
  rw [refuseSender] at h
  split at h
  · cases h
  · cases h
  · split at h
    · cases h
    · rw [List.mem_singleton.mp h]

theorem sent_refuseSender (h : c.CanWrite) :
    (c.refuseSender sender).sent = [⟨strangerNotice, sender⟩] := by
  obtain ⟨transport, htransport, hfailure⟩ := h
  simp only [refuseSender, htransport, encode_unknownSender, hfailure]

/-- A closed connection ignores whatever comes. -/
theorem receive_of_closed (bytes : Bytes) (sender : Address) (h : c.closed = true) :
    c.receive bytes sender = { connection := c } := by
  rw [receive, if_pos h]

/-- An open connection answers a stranger. It notes that, and does nothing else. -/
theorem receive_of_foreign (bytes : Bytes) (hopen : c.closed = false)
    (h : sender.same c.peer = false) :
    c.receive bytes sender = { c.refuseSender sender with notices := [.wrongTransferId] } := by
  rw [receive, hopen, if_neg Bool.false_ne_true, h]
  rfl

end Connection

namespace Transfer

/-! ## Foreign turns

A turn is foreign if its input is a stranger's datagram. It is taken and comes to nothing, apart
from the notice. -/

/-- Whether an input is a datagram from anyone but a given client. -/
def Input.isForeign (client : Address) : Input → Bool
  | .receive _ sender => !sender.same client
  | _ => false

theorem Input.exists_of_isForeign {client : Address} {input : Input}
    (h : input.isForeign client = true) :
    ∃ bytes sender, input = .receive bytes sender ∧ sender.same client = false := by
  cases input with
  | receive bytes sender => exact ⟨bytes, sender, rfl, by simpa [isForeign] using h⟩
  | _ => cases h

namespace Live

/-- Whether a stranger's datagram is received. -/
def Turn.isForeign (x : Turn) : Bool :=
  x.input.isForeign x.before.client

/-- What is left of some inputs without the datagrams of strangers. -/
def own (l : Live) (inputs : List Input) : List Input :=
  inputs.filter fun input => !input.isForeign l.client

variable {l : Live} {x : Turn} {input : Input} {inputs : List Input}

/-- What does not touch the connection does not touch the transfer. -/
theorem absorb_of_connection_eq {e : Connection.Effect} (hsettled : e.settled = none)
    (hconnection : e.connection = l.transfer.connection) :
    l.absorb e = ⟨{ sent := e.sent, notices := e.notices }, [], l⟩ := by
  simp only [absorb, Transfer.absorb, absorbReads, hsettled, hconnection]

/-- All that comes of a stranger's datagram: an answer to its sender, if the connection is open and
writes work, and nothing else. -/
structure Ignored (l : Live) (sender : Address) (c : Change) : Prop where
  /-- the transfer stays as it is -/
  after : c.after = l
  /-- no read is settled -/
  reads : c.reads = []
  /-- nothing is sent to anyone else -/
  address : ∀ d ∈ c.activity.sent, d.address = sender
  /-- a closed connection says nothing -/
  silent : l.transfer.connection.closed = true → c.activity.sent = []
  /-- an open one says that the sender is unknown -/
  answered : l.transfer.connection.closed = false → l.transfer.connection.CanWrite →
    c.activity.sent = [⟨Connection.strangerNotice, sender⟩]

/-- **A stranger's datagram is ignored**, whatever it contains and whenever it comes. A closed
connection looks at no datagram, and an open one looks at the sender first. -/
theorem ignored_receive (l : Live) (bytes : Bytes) {sender : Address}
    (h : sender.same l.client = false) :
    Ignored l sender (l.step (.receive bytes sender)) := by
  rw [step]
  cases hclosed : l.transfer.connection.closed with
  | true =>
    rw [Connection.receive_of_closed bytes sender hclosed, absorb_of_connection_eq rfl rfl]
    refine ⟨rfl, rfl, nofun, fun _ => rfl, fun hopen => ?_⟩
    rw [hclosed] at hopen
    cases hopen
  | false =>
    have heq := Connection.receive_of_foreign bytes hclosed h
    have hsettled : (l.transfer.connection.receive bytes sender).settled = none := by
      rw [heq]
      exact Connection.settled_refuseSender _ _
    have hconnection : (l.transfer.connection.receive bytes sender).connection =
        l.transfer.connection := by
      rw [heq]
      exact Connection.connection_refuseSender _ _
    rw [absorb_of_connection_eq hsettled hconnection, heq]
    refine ⟨rfl, rfl, fun d hd => Connection.address_of_mem_sent_refuseSender hd, ?_, ?_⟩
    · intro hshut
      rw [hclosed] at hshut
      cases hshut
    · exact fun _ hwrite => Connection.sent_refuseSender hwrite

/-! ## The run without strangers

Inputs may be left out one by one, since the transfer after a foreign turn is the one before it. -/

theorem own_cons_of_isForeign (h : input.isForeign l.client = true) :
    l.own (input :: inputs) = l.own inputs := by
  rw [own, List.filter_cons_of_neg (by rw [h]; exact Bool.false_ne_true)]
  rfl

/-- The inputs that are left do not depend on where the transfer stands. -/
theorem own_cons_of_not_isForeign (h : input.isForeign l.client = false) :
    l.own (input :: inputs) = input :: (l.step input).after.own inputs := by
  rw [own, List.filter_cons_of_pos (by rw [h]; rfl), own, client_step]

/-- The transfer after it is the transfer before it. -/
theorem after_of_isForeign (h : input.isForeign l.client = true) :
    (l.step input).after = l := by
  obtain ⟨bytes, sender, rfl, hsender⟩ := Input.exists_of_isForeign h
  exact (l.ignored_receive bytes hsender).after

/-- Strangers do not change where a run leads. -/
theorem last_own (l : Live) (inputs : List Input) : l.last (l.own inputs) = l.last inputs := by
  induction inputs generalizing l with
  | nil => rfl
  | cons input inputs ih =>
    rw [last]
    cases hf : input.isForeign l.client with
    | true => rw [own_cons_of_isForeign hf, after_of_isForeign hf, ih]
    | false => rw [own_cons_of_not_isForeign hf, last, ih]

/-- All other turns are taken as they are among those of strangers. -/
theorem log_own (l : Live) (inputs : List Input) :
    l.log (l.own inputs) = (l.log inputs).filter fun x => !x.isForeign := by
  induction inputs generalizing l with
  | nil => rfl
  | cons input inputs ih =>
    rw [log]
    cases hf : input.isForeign l.client with
    | true =>
      have hforeign : Turn.isForeign ⟨l, input⟩ = true := hf
      rw [List.filter_cons_of_neg (by simp [hforeign]), own_cons_of_isForeign hf,
        after_of_isForeign hf, ih]
    | false =>
      have hforeign : Turn.isForeign ⟨l, input⟩ = false := hf
      rw [List.filter_cons_of_pos (by simp [hforeign]), own_cons_of_not_isForeign hf, log, ih]

/-- In each turn the client is the same. -/
theorem client_of_mem_log (h : x ∈ l.log inputs) : x.before.client = l.client := by
  induction inputs generalizing l with
  | nil => cases h
  | cons input inputs ih =>
    rcases List.mem_cons.mp h with rfl | h
    · rfl
    · exact (ih h).trans (l.client_step input)

/-- What is seen of a run and shows nothing of foreign turns is the same without them. -/
theorem flatMap_log_own {α : Type} {seen : Turn → List α}
    (h : ∀ x ∈ l.log inputs, x.isForeign = true → seen x = []) :
    (l.log (l.own inputs)).flatMap seen = (l.log inputs).flatMap seen := by
  rw [log_own]
  generalize l.log inputs = turns at h
  induction turns with
  | nil => rfl
  | cons x turns ih =>
    have hrest := ih fun y hy => h y (List.mem_cons_of_mem x hy)
    cases hf : x.isForeign with
    | true =>
      rw [List.filter_cons_of_neg (by rw [hf]; exact Bool.false_ne_true), hrest, List.flatMap_cons,
        h x List.mem_cons_self hf, List.nil_append]
    | false =>
      rw [List.filter_cons_of_pos (by rw [hf]; rfl), List.flatMap_cons, List.flatMap_cons, hrest]

/-! ## What is seen of a run

The client sees what is sent to its address, and the session sees what its reads come to. Each is
the same with and without the foreign turns. -/

/-- What was sent to a client, and when. -/
def sentTo (client : Address) (log : List Turn) : List (Time × Datagram) :=
  log.flatMap fun x =>
    (x.change.activity.sent.filter fun d => d.address.same client).map fun d => (x.time, d)

/-- The reads that were settled, with their results, and when. -/
def readings (log : List Turn) : List (Time × Nat × Except Fault Packet) :=
  log.flatMap fun x => x.change.reads.map fun reading => (x.time, reading)

/-- A foreign turn is one in which a datagram is ignored. -/
theorem Turn.ignored_of_isForeign (h : x.isForeign = true) :
    ∃ sender, sender.same x.before.client = false ∧ Ignored x.before sender x.change := by
  obtain ⟨l, input⟩ := x
  obtain ⟨bytes, sender, rfl, hsender⟩ := Input.exists_of_isForeign h
  exact ⟨sender, hsender, l.ignored_receive bytes hsender⟩

/-- What the client is sent does not come from foreign turns, for it is sent to its own address. -/
theorem sentTo_own (l : Live) (inputs : List Input) :
    sentTo l.client (l.log (l.own inputs)) = sentTo l.client (l.log inputs) := by
  refine flatMap_log_own fun x hx hf => ?_
  obtain ⟨sender, hsender, hignored⟩ := Turn.ignored_of_isForeign hf
  rw [client_of_mem_log hx] at hsender
  rw [List.map_eq_nil_iff, List.filter_eq_nil_iff]
  intro d hd
  rw [hignored.address d hd, hsender]
  exact Bool.false_ne_true

/-- Nor are reads settled in foreign turns. -/
theorem readings_own (l : Live) (inputs : List Input) :
    readings (l.log (l.own inputs)) = readings (l.log inputs) := by
  refine flatMap_log_own fun x _ hf => ?_
  obtain ⟨sender, -, hignored⟩ := Turn.ignored_of_isForeign hf
  rw [hignored.reads, List.map_nil]

/-! ## Strangers cannot disturb a transfer -/

/-- What strangers cannot change about a run, and what they get. -/
structure Undisturbed (l : Live) (inputs : List Input) : Prop where
  /-- the session, its outcome, the queue, the pending read and the timer are the same -/
  last : l.last (l.own inputs) = l.last inputs
  /-- everything else happens at the same time and to the same transfer, and the same comes of it -/
  log : l.log (l.own inputs) = (l.log inputs).filter fun x => !x.isForeign
  /-- the client is sent the same, at the same times -/
  sent : sentTo l.client (l.log (l.own inputs)) = sentTo l.client (l.log inputs)
  /-- the same reads have the same results, at the same times -/
  readings : readings (l.log (l.own inputs)) = readings (l.log inputs)
  /-- a stranger is told so once, while the connection is open and writes work -/
  answered : ∀ before bytes sender, ⟨before, .receive bytes sender⟩ ∈ l.log inputs →
    sender.same l.client = false → before.transfer.connection.closed = false →
    before.transfer.connection.CanWrite →
    (before.step (.receive bytes sender)).activity.sent = [⟨Connection.strangerNotice, sender⟩]
  /-- a stranger is told nothing after that -/
  silent : ∀ before bytes sender, ⟨before, .receive bytes sender⟩ ∈ l.log inputs →
    sender.same l.client = false → before.transfer.connection.closed = true →
    (before.step (.receive bytes sender)).activity.sent = []

/-- **Strangers cannot disturb a transfer.** Wherever a transfer stands and whatever happens to it
from there, without the datagrams of strangers it comes to the same state after each of the other
things that happen. Its client is sent the same datagrams at the same times, and its reads are
settled at the same times with the same results. A stranger whose datagram comes while the
connection is open gets one error in return, and none after that. -/
theorem undisturbed (l : Live) (inputs : List Input) : Undisturbed l inputs where
  last := l.last_own inputs
  log := l.log_own inputs
  sent := l.sentTo_own inputs
  readings := l.readings_own inputs
  answered := by
    intro before bytes sender hx hsender
    rw [← client_of_mem_log hx] at hsender
    exact (before.ignored_receive bytes hsender).answered
  silent := by
    intro before bytes sender hx hsender
    rw [← client_of_mem_log hx] at hsender
    exact (before.ignored_receive bytes hsender).silent

end Live

end Transfer

end Tftp
