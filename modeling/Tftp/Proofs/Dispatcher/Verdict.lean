import Tftp.Proofs.Dispatcher.Timeline

/-!
# What becomes of a datagram at the main socket

Whatever the bytes, the sender and the past of the dispatcher, a datagram at the main socket is
ignored, or it is refused with one error from there, or it gets one transfer of its own. Which of
these is decided by the grammar of datagrams and by whether there is a backend.

* `Dispatcher.Verdict` — the four verdicts, two of which are refusals;
* `Dispatcher.Verdict.Fits` — for which datagrams a verdict is the right one;
* `Dispatcher.Verdict.Occurs` — what is to be seen of it;
* `Dispatcher.Spares` — what was there before is not touched;
* `Dispatcher.TurnsAway` — a write request is answered and over at once.

The main theorem is `Dispatcher.rules_on_every_datagram`. The verdict of a datagram can be computed
from what is read of it (`Dispatcher.ruling`), and both sides of the theorem are compared with that.
-/

namespace Tftp

namespace Dispatcher

/-! ## Verdicts

For which datagrams a verdict is the right one is said by the grammar, and what is to be seen of it
is said byte by byte. Neither mentions how a datagram is decoded or served. -/

/-- What may become of a datagram at the main socket. -/
inductive Verdict where
  /-- it is ignored -/
  | ignored
  /-- it is refused because there is no backend -/
  | unavailable
  /-- it is refused because of its mode -/
  | wrongMode
  /-- it gets a transfer -/
  | served

/-- A request stands in a datagram of its kind, in the letter case in which it was written. -/
def Asks (kind : Opcode) (q : Request) (bytes : Bytes) : Prop :=
  q.Readable ∧ bytes = kind.bytes ++ Bytes.terminated q.fields

/-- The verdict is the right one for a datagram, with some backend or none. -/
def Verdict.Fits (backend : Option Backend) (bytes : Bytes) : Verdict → Prop
  | ignored => (∀ p, ¬ Packet.StandsIn p bytes) ∨
      ∃ p : Packet, p.StandsIn bytes ∧ (p.opcode = .data ∨ p.opcode = .ack ∨ p.opcode = .error)
  | unavailable => backend.isNone ∧ ∃ q, Asks .readRequest q bytes
  | wrongMode => backend.isSome ∧ ∃ q, Asks .readRequest q bytes ∧ q.mode.toLower ≠ octetMode
  | served => (∃ q, Asks .writeRequest q bytes) ∨
      backend.isSome ∧ ∃ q, Asks .readRequest q bytes ∧ q.mode.toLower = octetMode

/-- An error with code zero as it is sent. -/
def complaint (message : String) : Bytes :=
  [0, 5, 0, 0] ++ Bytes.ofText message ++ [0]

/-- What is to be seen of a verdict. Unless it gets a transfer, a datagram changes nothing. -/
def Verdict.Occurs (d : Dispatcher) (sender : Address) (r : Report × Dispatcher) : Verdict → Prop
  | ignored => r.1 = { notices := r.1.notices } ∧ r.2 = d
  | unavailable => r.1 = { notices := r.1.notices
                           main := [⟨complaint "service unavailable", sender⟩] } ∧ r.2 = d
  | wrongMode => r.1 = { notices := r.1.notices
                         main := [⟨complaint "mode not supported", sender⟩] } ∧ r.2 = d
  | served => r.1.main = [] ∧ r.1.raised = none ∧
      ∃ t, t.connection.peer = sender ∧ r.2.transfers = d.transfers ++ [t]

/-- The transfers that there are, their timers and what they are owed stay as they are, and nothing
is sent by any of them. What is new comes after them. -/
structure Spares (d : Dispatcher) (r : Report × Dispatcher) : Prop where
  /-- the transfers stay in their places, and new ones come after them -/
  transfers : d.transfers <+: r.2.transfers
  /-- so do the timers in their order -/
  armed : d.armed <+: r.2.armed
  /-- so do the promises -/
  promises : d.promises <+: r.2.promises
  /-- the backend is the same -/
  backend : r.2.backend = d.backend
  /-- so are the files -/
  files : r.2.files = d.files
  /-- no time has passed -/
  clock : r.2.clock = d.clock
  /-- only the transfer that is new sends anything -/
  sent : ∀ x ∈ r.1.sent, x.1 = d.transfers.length

/-- One transfer is new. It has sent the sender an error and nothing else, no backend was asked for
anything, and it is over: its connection is closed, and no read is pending and no timer runs. -/
structure TurnsAway (d : Dispatcher) (sender : Address) (r : Report × Dispatcher) : Prop where
  /-- one error is sent, and no line of the log says that a file was asked for -/
  report : r.1 =
    { sent := [(d.transfers.length, ⟨complaint "not supported", sender⟩)]
      notices := [.writeRequested sender, .writeNotSupported,
        .sendingError sender (Bytes.ofText "not supported"), .sessionEnded sender .abortedByError] }
  /-- one transfer is new, and is over -/
  transfer : ∃ t, r.2 = { d with transfers := d.transfers ++ [t] } ∧ t.ended = true ∧
    t.connection.closed = true ∧ t.connection.pending = none ∧ t.connection.timer = none ∧
    t.connection.IsReleased

variable {past : List Happening} {d : Dispatcher} {bytes : Bytes} {sender : Address}

/-! ## Which verdict fits

The verdict is computed from what is decoded. That it is the one that fits is a matter of the
grammar alone, and of whether there is a backend. -/

/-- A read request in the sense of the grammar is one that is decoded so. The mode is told in lower
case, as it is compared. -/
theorem asks_readRequest_iff (bytes : Bytes) (P : Bytes → Prop) :
    (∃ q, Asks .readRequest q bytes ∧ P q.mode.toLower) ↔
      ∃ q, Packet.decode bytes = .ok (.readRequest q) ∧ P q.mode := by
  constructor
  · rintro ⟨q, ⟨hq, rfl⟩, hmode⟩
    exact ⟨q.folded, Packet.decode_eq_ok_iff.mpr (.readRequest hq), hmode⟩
  · rintro ⟨q, hq, hmode⟩
    cases Packet.decode_eq_ok_iff.mp hq with
    | @readRequest q h => exact ⟨q, ⟨h, rfl⟩, hmode⟩

/-- A write request in the sense of the grammar is one that is decoded so. -/
theorem asks_writeRequest_iff : (∃ q, Asks .writeRequest q bytes) ↔
    ∃ q, Packet.decode bytes = .ok (.writeRequest q) := by
  constructor
  · rintro ⟨q, hq, rfl⟩
    exact ⟨q.folded, Packet.decode_eq_ok_iff.mpr (.writeRequest hq)⟩
  · rintro ⟨q, hq⟩
    cases Packet.decode_eq_ok_iff.mp hq with
    | @writeRequest q h => exact ⟨q, h, rfl⟩

/-- The verdict on what was read of a datagram. -/
def ruling (backend : Option Backend) : Except DecodeError Packet → Verdict
  | .ok (.readRequest q) =>
    if backend.isNone then .unavailable else if q.mode = octetMode then .served else .wrongMode
  | .ok (.writeRequest _) => .served
  | _ => .ignored

/-- Just one verdict fits, and it is the ruling on what is read. Both sides are brought to what is
decoded, since the grammar and the decoder agree (`Packet.decode_eq_ok_iff`). -/
theorem Verdict.fits_iff {backend : Option Backend} {v : Verdict} :
    v.Fits backend bytes ↔ v = ruling backend (Packet.decode bytes) := by
  have hany : (∃ q, Asks .readRequest q bytes) ↔
      ∃ q, Packet.decode bytes = .ok (.readRequest q) := by
    simpa using asks_readRequest_iff bytes fun _ => True
  have hwrong := asks_readRequest_iff bytes (· ≠ octetMode)
  have hoctet := asks_readRequest_iff bytes (· = octetMode)
  have hstands (p : Packet) : p.StandsIn bytes ↔ Packet.decode bytes = .ok p :=
    Packet.decode_eq_ok_iff.symm
  have hack (options : Options) : Packet.decode bytes ≠ .ok (.optionAck options) :=
    fun h => nomatch Packet.decode_eq_ok_iff.mp h
  -- both sides speak of what is read, and there is one case for each kind of packet
  cases v <;> simp only [Fits, hstands, hany, hwrong, hoctet, asks_writeRequest_iff] <;>
    cases hdecode : Packet.decode bytes with
    | error e => simp [ruling]
    | ok p =>
      cases p with
      | readRequest q =>
        cases backend <;> by_cases hmode : q.mode = octetMode <;>
          simp [ruling, Packet.opcode, hmode]
      | optionAck options => exact absurd hdecode (hack options)
      | _ => simp [ruling, Packet.opcode]

/-! ## What is to be seen of it

A datagram that is ignored or refused leaves the dispatcher as it is. One that is served adds a
transfer at the end, which spares those that are there: they keep their numbers, their timers and
their places in the order. -/

/-- The first of the two refusals, byte by byte. -/
theorem refusal_unavailable (sender : Address) :
    refusal "service unavailable" sender = [⟨complaint "service unavailable", sender⟩] := rfl

/-- The other refusal, byte by byte. -/
theorem refusal_wrongMode (sender : Address) :
    refusal "mode not supported" sender = [⟨complaint "mode not supported", sender⟩] := rfl

/-- From the main socket nothing is sent when a transfer starts, and the start does not fail. -/
theorem quiet_openTransfer (d : Dispatcher) (i : Nat) (t : Transfer) :
    (d.openTransfer i t).1.main = [] ∧ (d.openTransfer i t).1.raised = none := by
  rw [openTransfer]
  split
  · dsimp only
    split <;> exact ⟨rfl, rfl⟩
  · exact ⟨rfl, rfl⟩

/-- A request that is served is not answered from the main socket, and raises nothing. -/
theorem quiet_serve (d : Dispatcher) (request : Packet) (sender : Address) :
    (d.serve request sender).1.main = [] ∧ (d.serve request sender).1.raised = none := by
  obtain ⟨hmain, hraised⟩ := quiet_openTransfer (d.extend (newcomer request sender))
    d.transfers.length (newcomer request sender)
  exact ⟨hmain, hraised⟩

/-- The number of a transfer that is not there yet stands in no order. -/
theorem Good.filter_armed (h : d.Good past) :
    d.armed.filter (· != d.transfers.length) = d.armed := by
  have harmed := (h.sane.tidy d.transfers.length trivial).armed
  rw [due?, List.getElem?_eq_none (Nat.le_refl _)] at harmed
  rw [List.filter_eq_self]
  intro i hi
  have hne : i ≠ d.transfers.length := by
    rintro rfl
    have hpos := List.count_pos_iff.mpr hi
    rw [harmed] at hpos
    exact Nat.lt_irrefl 0 hpos
  simpa using hne

/-- A transfer that is new comes last, and so does its timer. -/
theorem Good.setTransfer_extend (h : d.Good past) (t u : Transfer) :
    (d.extend t).setTransfer d.transfers.length u =
      { d with
        transfers := d.transfers ++ [u]
        armed := d.armed ++ if u.connection.timer.isSome then [d.transfers.length] else [] } := by
  have htransfers : (d.transfers ++ [t]).set d.transfers.length u = d.transfers ++ [u] := by
    rw [List.set_append_right _ _ (Nat.le_refl _), Nat.sub_self, List.set_cons_zero]
  simp only [setTransfer, extend, htransfers, h.filter_armed]

/-- The transfer that a start leads to. -/
def Start.transfer (t : Transfer) : Start → Transfer
  | .served _ u => u
  | .owed _ => t

/-- However a new transfer starts, the others are spared. -/
theorem Good.spares_started (h : d.Good past) (t : Transfer) (s : Start) {r : Report × Dispatcher}
    (hsent : r.1.sent = ((d.extend t).started d.transfers.length s).1)
    (hstate : r.2 = ((d.extend t).started d.transfers.length s).2) :
    d.Spares r ∧ r.2.transfers = d.transfers ++ [s.transfer t] := by
  obtain ⟨report, d'⟩ := r
  subst hstate
  cases s with
  | served a u =>
    rw [started, h.setTransfer_extend] at hsent ⊢
    refine ⟨⟨⟨[u], rfl⟩, List.prefix_append _ _, List.prefix_rfl, rfl, rfl, rfl, ?_⟩, rfl⟩
    intro x hx
    rw [hsent] at hx
    obtain ⟨_, -, rfl⟩ := List.mem_map.mp hx
    rfl
  | owed file =>
    refine ⟨⟨⟨[t], rfl⟩, List.prefix_rfl, List.prefix_append _ _, rfl, rfl, rfl, ?_⟩, rfl⟩
    intro x hx
    rw [hsent] at hx
    cases hx

/-- A request that is served gets a transfer, whose client is the sender. How it is opened does not
matter for the others. -/
theorem Good.serve_spec (h : d.Good past) (request : Packet) (sender : Address) :
    d.Spares (d.serve request sender) ∧
      Verdict.served.Occurs d sender (d.serve request sender) := by
  obtain ⟨hmain, hraised⟩ := quiet_serve d request sender
  obtain ⟨s, hopens, hsent, hstate⟩ := exists_opens (d.extend (newcomer request sender))
    d.transfers.length (newcomer request sender)
  generalize openActs _ _ = acts at hopens
  obtain ⟨hspares, htransfers⟩ := h.spares_started (newcomer request sender) s
    (r := d.serve request sender) hsent hstate
  have hpeer : (s.transfer (newcomer request sender)).connection.peer = sender := by
    cases hopens with
    | answered answer => exact Transfer.peer_supply _ _ answer
    | owed => rfl
    | began => exact Transfer.peer_run _ _
  exact ⟨hspares, hmain, hraised, _, hpeer, htransfers⟩

/-- A dispatcher that does not change spares everything. -/
theorem spares_of_unchanged {r : Report × Dispatcher} (hstate : r.2 = d) (hsent : r.1.sent = []) :
    d.Spares r := by
  obtain ⟨report, d'⟩ := r
  subst hstate
  refine ⟨List.prefix_rfl, List.prefix_rfl, List.prefix_rfl, rfl, rfl, rfl, ?_⟩
  intro x hx
  rw [hsent] at hx
  cases hx

/-- More notices make no difference. -/
theorem Spares.notices {r : Report × Dispatcher} (h : d.Spares r) (notices : List Notice) :
    d.Spares ({ notices } ++ r.1, r.2) :=
  ⟨h.transfers, h.armed, h.promises, h.backend, h.files, h.clock, h.sent⟩

/-- **What becomes of a datagram is the ruling on it**, and what was there before is spared. The
cases follow the ruling: the datagram is no packet, or a packet of some kind, and of the read
requests some are refused before a transfer is opened for them. -/
theorem Good.rules (h : d.Good past) (bytes : Bytes) (sender : Address) :
    d.Spares (d.request bytes sender) ∧
      (ruling d.backend (Packet.decode bytes)).Occurs d sender (d.request bytes sender) := by
  cases hdecode : Packet.decode bytes with
  | error e =>
    simp only [request, hdecode]
    exact ⟨spares_of_unchanged rfl rfl, rfl, rfl⟩
  | ok p =>
    obtain ⟨hspares, hmain, hraised, hopened⟩ := h.serve_spec p sender
    cases p with
    | readRequest q =>
      simp only [request, hdecode, ruling]
      by_cases hbackend : d.backend.isNone
      · rw [if_pos hbackend, if_pos hbackend, refusal_unavailable]
        exact ⟨spares_of_unchanged rfl rfl, rfl, rfl⟩
      · rw [if_neg hbackend, if_neg hbackend]
        by_cases hmode : q.mode = octetMode
        · rw [if_neg (not_not.mpr hmode), if_pos hmode]
          exact ⟨hspares.notices _, hmain, hraised, hopened⟩
        · rw [if_pos hmode, if_neg hmode, refusal_wrongMode]
          exact ⟨spares_of_unchanged rfl rfl, rfl, rfl⟩
    | writeRequest q =>
      simp only [request, hdecode, ruling]
      exact ⟨hspares.notices _, hmain, hraised, hopened⟩
    | _ =>
      simp only [request, hdecode, ruling]
      exact ⟨spares_of_unchanged rfl rfl, rfl, rfl⟩

/-- What tells the verdicts apart: what is sent from the main socket, and how many transfers there
are then. -/
def Verdict.mark (transfers : Nat) : Verdict → List Bytes × Nat
  | ignored => ([], transfers)
  | unavailable => ([complaint "service unavailable"], transfers)
  | wrongMode => ([complaint "mode not supported"], transfers)
  | served => ([], transfers + 1)

/-- A verdict that occurred is told from what the main socket sent and how many transfers there
are. -/
theorem Verdict.Occurs.mark_eq {v : Verdict} {r : Report × Dispatcher} (h : v.Occurs d sender r) :
    v.mark d.transfers.length = (r.1.main.map Datagram.bytes, r.2.transfers.length) := by
  cases v with
  | served =>
    obtain ⟨hmain, -, t, -, htransfers⟩ := h
    rw [hmain, htransfers, List.length_append]
    rfl
  | _ =>
    obtain ⟨hreport, hstate⟩ := h
    rw [hreport, hstate]
    rfl

/-- No two verdicts look the same. A transfer more tells one of them, and what the main socket sent
tells the other three. -/
theorem Verdict.occurs_unique {v v' : Verdict} {r : Report × Dispatcher} (h : v.Occurs d sender r)
    (h' : v'.Occurs d sender r) : v = v' := by
  have hmark := h.mark_eq.trans h'.mark_eq.symm
  have hmessage : complaint "service unavailable" ≠ complaint "mode not supported" := by decide
  cases v <;> cases v' <;> simp_all [mark]

/-! ## Write requests

A write request is served even without a backend, by a transfer that refuses it. The answer
therefore comes from a port of its own and not from the main socket. -/

/-- The transfer of a write request after it was answered. -/
def turnedAway (sender : Address) : Transfer where
  session := { peer := sender, phase := .ended (.ok .abortedByError) }
  connection := { peer := sender, transport := some { listening := false }, closed := true }
  ended := true

/-- The transfer of a write request sends its answer and is over. It asks for no file, and takes two
steps. -/
theorem run_newcomer_writeRequest (q : Request) (sender : Address) (now : Time) :
    (newcomer (.writeRequest q) sender).run now =
      ({ sent := [⟨complaint "not supported", sender⟩]
         notices := [.sessionEnded sender .abortedByError] }, turnedAway sender) := by
  have hanswer : (newcomer (.writeRequest q) sender).step now =
      some (⟨[⟨complaint "not supported", sender⟩], [], [.sessionEnded sender .abortedByError]⟩,
        { session := { peer := sender, phase := .ended (.ok .abortedByError) }
          connection := { peer := sender } }) := rfl
  have hfinish : Transfer.step
      { session := { peer := sender, phase := .ended (.ok .abortedByError) }
        connection := { peer := sender } } now = some ({}, turnedAway sender) := rfl
  have hover : (turnedAway sender).step now = none := rfl
  rw [Transfer.run_of_step hanswer, Transfer.run_of_step hfinish,
    Transfer.run_of_step_eq_none hover]
  rfl

/-- **A write request is answered and over at once.** -/
theorem Good.turnsAway (h : d.Good past) {q : Request}
    (hdecode : Packet.decode bytes = .ok (.writeRequest q)) (sender : Address) :
    d.TurnsAway sender (d.request bytes sender) := by
  have hopen : (d.extend (newcomer (.writeRequest q) sender)).openTransfer d.transfers.length
      (newcomer (.writeRequest q) sender) =
        (.ofActivity d.transfers.length ((newcomer (.writeRequest q) sender).run d.clock).1,
          (d.extend (newcomer (.writeRequest q) sender)).setTransfer d.transfers.length
            ((newcomer (.writeRequest q) sender).run d.clock).2) := rfl
  have hserve : d.serve (.writeRequest q) sender =
      ({ notices := (Session.start sender (Packet.writeRequest q).toDraft).notices } ++
          ((d.extend (newcomer (.writeRequest q) sender)).openTransfer d.transfers.length
            (newcomer (.writeRequest q) sender)).1,
        ((d.extend (newcomer (.writeRequest q) sender)).openTransfer d.transfers.length
          (newcomer (.writeRequest q) sender)).2) := rfl
  -- its timer does not run, and so the order of the timers is as it was
  have harmed : (d.armed ++ if (turnedAway sender).connection.timer.isSome then
      [d.transfers.length] else []) = d.armed := List.append_nil d.armed
  rw [run_newcomer_writeRequest, h.setTransfer_extend, harmed] at hopen
  simp only [request, hdecode, hserve, hopen]
  refine ⟨rfl, turnedAway sender, rfl, rfl, rfl, rfl, rfl, ?_⟩
  intro transport htransport
  cases htransport
  rfl

/-! ## The law

Both descriptions of a verdict single out the ruling, and so they agree. -/

/-- **What becomes of a datagram at the main socket.** After whatever has happened, for all bytes
and every sender, just one of four things comes of a datagram, and the datagram and the backend
decide which.

* Nothing but a notice, if the datagram is malformed, or is data, an acknowledgement or an error.
* An error from the main socket to the sender that the service is unavailable, if it is a read
  request and there is no backend.
* An error from the main socket to the sender that the mode is not supported, if it is a read
  request, there is a backend, and the mode is not octet in any letter case.
* A new transfer, if it is a write request, or a read request in octet mode with a backend.

A write request is turned away from its own socket, whatever is asked for and whatever the backend.
The transfers that there are already are spared in any case. -/
theorem rules_on_every_datagram (backend : Option Backend) (files : FileSystem) (clock : Time)
    (inputs : List Input) (bytes : Bytes) (sender : Address) :
    let d := (run { backend, files, clock } inputs).2
    let r := d.step (.request bytes sender)
    (∃! v : Verdict, v.Occurs d sender r) ∧
      (∀ v : Verdict, v.Occurs d sender r ↔ v.Fits d.backend bytes) ∧
      (∀ q, Asks .writeRequest q bytes → d.TurnsAway sender r) ∧ d.Spares r := by
  intro d r
  have h : d.Good _ := (good_new backend files clock).run inputs
  obtain ⟨hspares, hoccurs⟩ := h.rules bytes sender
  refine ⟨⟨_, hoccurs, fun v hv => Verdict.occurs_unique hv hoccurs⟩, fun v => ?_, ?_, hspares⟩
  · rw [Verdict.fits_iff]
    constructor
    · exact fun hv => Verdict.occurs_unique hv hoccurs
    · rintro rfl
      exact hoccurs
  · intro q hq
    obtain ⟨q', hdecode⟩ := asks_writeRequest_iff.mp ⟨q, hq⟩
    exact h.turnsAway hdecode sender

end Dispatcher

end Tftp
