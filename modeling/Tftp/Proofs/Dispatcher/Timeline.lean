import Tftp.Proofs.Dispatcher.Isolation
import Tftp.Proofs.Transfer.Acts

/-!
# The life of one transfer

While a dispatcher runs, datagrams arrive at the sockets of its transfers and their sessions act.
The life of a transfer has both in the order in which they happen.

* `Occurrence` — the arrival of a datagram, or an act of the session;
* `Dispatcher.occurrences` and `Dispatcher.life` — what happens to one transfer in a turn, and over
  a run;
* `Dispatcher.Turn` — all that an input can do to one transfer;
* `Dispatcher.Lived` — a transfer is what the acts of its life make of the session of its request.

What a turn does is said once (`Good.turn`), and everything about lives follows from it by going
through the ways of `Turn`. Lives are the lives of transfers: they lead from the request to the
transfer (`Good.lived_run`), and what their deeds send was sent (`Good.sendings_life`).
-/

namespace Tftp

/-- One thing that happens to a transfer. -/
inductive Occurrence where
  /-- a datagram arrives at its socket -/
  | arrived (bytes : Bytes) (sender : Address)
  /-- its session acts -/
  | did (act : Session.Act)

/-- The act of a session that an occurrence is. -/
def Occurrence.act? : Occurrence → Option Session.Act
  | arrived .. => none
  | did act => some act

/-- A read is settled with the result that is given for it. -/
theorem Connection.eq_of_settled_settle {c : Connection} {result outcome : Except Fault Packet}
    {number : Nat} (h : (c.settle result).settled = some (number, outcome)) :
    outcome = result := by
  obtain ⟨_, -, hpair⟩ := Option.map_eq_some_iff.mp h
  cases hpair
  rfl

/-- A read that is settled with a fault gives no packet. -/
theorem Connection.settled_settle_error (c : Connection) (f : Fault) {number : Nat} {p : Packet} :
    (c.settle (.error f)).settled ≠ some (number, .ok p) := by
  intro h
  cases eq_of_settled_settle h

namespace Dispatcher

/-! ## Lives

The acts of a transfer are computed from the dispatcher and the input, just as the transfer itself
is. A life has the arrivals besides, in the place where they come, so that it can be said which of
two things happened first. -/

/-- The acts among some occurrences. -/
def acts (life : List Occurrence) : List Session.Act :=
  life.filterMap Occurrence.act?

/-- The deeds among some occurrences. -/
def deeds (life : List Occurrence) : Log :=
  (acts life).map Session.Act.deed

/-- The transfer of a request, before anything is done about it. -/
def newcomer (request : Packet) (sender : Address) : Transfer where
  session := (Session.start sender request.toDraft).value
  connection := { peer := sender }

/-- The acts of a new transfer, in the turn in which its request comes. -/
def openActs (d : Dispatcher) (t : Transfer) : List Session.Act :=
  match t.session.call with
  | .openFile filename _ =>
    match (Backend.openFile? d.files t.session.peer filename d.backend).answer with
    | .failure f => t.supplyActs d.clock (.error f)
    | .file file => t.supplyActs d.clock (.ok file)
    | .later _ => []
  | _ => t.acts d.clock

/-- The acts of a transfer when something happens to its connection, if there is such a transfer. -/
def touchActs (now : Time) (f : Transfer → Connection.Effect) : Option Transfer → List Occurrence
  | some t => (t.absorbActs now (f t)).map .did
  | none => []

/-- What happens to one transfer when something happens to the dispatcher. -/
def occurrences (d : Dispatcher) (i : Nat) : Input → List Occurrence
  | .request bytes sender =>
    if d.begins i (.request bytes sender) then
      match Packet.decode bytes with
      | .ok request => (d.openActs (newcomer request sender)).map .did
      | .error _ => []
    else []
  | .arrive j bytes sender =>
    if j = i then
      match d.transfers[i]? with
      | some t =>
        let sender := sender.getD t.connection.peer
        .arrived bytes sender ::
          (t.absorbActs d.clock (t.connection.receive bytes sender)).map .did
      | none => []
    else []
  | .advance span =>
    touchActs (d.clock + span) (fun t => t.connection.expire (d.clock + span)) d.transfers[i]?
  | .setBackend _ => []
  | .stop j => if j = i then touchActs d.clock (fun t => t.connection.stop) d.transfers[i]? else []
  | .fail j failure =>
    if j = i then
      touchActs d.clock (fun t => { connection := t.connection.setFailure failure }) d.transfers[i]?
    else []
  | .fulfil n fault =>
    match d.promises[n]? with
    | some promise =>
      if promise.transfer = i ∧ promise.kept = false then
        match d.transfers[i]? with
        | some t =>
          (t.supplyActs d.clock (match fault with
            | none => .ok promise.file
            | some f => .error f)).map .did
        | none => []
      else []
    | none => []

/-- What happens to one transfer over a run. -/
def life (d : Dispatcher) (i : Nat) : List Input → List Occurrence
  | [] => []
  | input :: inputs => d.occurrences i input ++ (d.step input).2.life i inputs

@[simp] theorem acts_nil : acts [] = [] := rfl

@[simp] theorem acts_append (l m : List Occurrence) : acts (l ++ m) = acts l ++ acts m :=
  List.filterMap_append

@[simp] theorem acts_did (l : List Session.Act) : acts (l.map .did) = l := by
  rw [acts, List.filterMap_map]
  exact List.filterMap_some

@[simp] theorem acts_arrived (bytes : Bytes) (sender : Address) (l : List Occurrence) :
    acts (.arrived bytes sender :: l) = acts l := rfl

/-! ## Turns

An input can do seven things to one transfer, most of which are nothing or something that happens to
its connection. Every statement about lives is proved by going through these seven, and not through
the inputs. -/

/-- The time at which something happens. -/
def timeOf (d : Dispatcher) : Input → Time
  | .advance span => d.clock + span
  | _ => d.clock

/-- What is seen of what a transfer does. -/
def view (r : Activity × Transfer) : List Datagram × Option Transfer :=
  (r.1.sent, some r.2)

/-- All that an input can do to one transfer: what there was before, what happened to it, what was
sent and what there is then. -/
inductive Turn (d : Dispatcher) (now : Time) :
    Input → Option Transfer → List Occurrence → List Datagram × Option Transfer → Prop
  /-- nothing happens to it -/
  | unseen (input : Input) (t : Option Transfer) : Turn d now input t [] ([], t)
  /-- its request came, and its backend owes it a file -/
  | owed {bytes : Bytes} {sender peer : Address} {request : Packet} {filename : String}
      {file : File} (hdecode : Packet.decode bytes = .ok request)
      (hanswer : (Backend.openFile? d.files peer filename d.backend).answer = .later file) :
      Turn d now (.request bytes sender) none [] ([], some (newcomer request sender))
  /-- its request came, and its backend answered at once -/
  | answered {bytes : Bytes} {sender : Address} {request : Packet}
      (hdecode : Packet.decode bytes = .ok request) (answer : Except Fault File) :
      Turn d now (.request bytes sender) none
        (((newcomer request sender).supplyActs now answer).map .did)
        (view ((newcomer request sender).supply now answer))
  /-- its request came, and it needs no file -/
  | began {bytes : Bytes} {sender : Address} {request : Packet}
      (hdecode : Packet.decode bytes = .ok request) :
      Turn d now (.request bytes sender) none (((newcomer request sender).acts now).map .did)
        (view ((newcomer request sender).run now))
  /-- a datagram arrives at its socket -/
  | arrived {i : Nat} {bytes : Bytes} {sender? : Option Address} (t : Transfer)
      (sender : Address) :
      Turn d now (.arrive i bytes sender?) (some t)
        (.arrived bytes sender ::
          (t.absorbActs now (t.connection.receive bytes sender)).map .did)
        (view (t.absorb now (t.connection.receive bytes sender)))
  /-- something else happens to its connection -/
  | touched {input : Input} {t : Transfer} {e : Connection.Effect}
      (hpeer : e.connection.peer = t.connection.peer)
      (hqueue : e.connection.queue = t.connection.queue)
      (hsettled : ∀ number p, e.settled ≠ some (number, .ok p)) :
      Turn d now input (some t) ((t.absorbActs now e).map .did) (view (t.absorb now e))
  /-- its backend answers at last -/
  | supplied {n : Nat} {fault : Option Fault} (t : Transfer) (answer : Except Fault File) :
      Turn d now (.fulfil n fault) (some t) ((t.supplyActs now answer).map .did)
        (view (t.supply now answer))

variable {past : List Happening} {d : Dispatcher} {i : Nat} {now : Time}

/-- Something happens to the connections of some transfers, which the given one sees or not. -/
theorem turn_touchActs {input : Input} {f : Transfer → Connection.Effect}
    (hpeer : ∀ t, (f t).connection.peer = t.connection.peer)
    (hqueue : ∀ t, (f t).connection.queue = t.connection.queue)
    (hsettled : ∀ t number p, (f t).settled ≠ some (number, .ok p)) (t : Option Transfer) :
    Turn d now input t (touchActs now f t) (touched now f t) := by
  cases t with
  | none => exact .unseen input none
  | some t => exact .touched (hpeer t) (hqueue t) (hsettled t)

/-- Something happens to the connection of a transfer, which may be the given one. -/
theorem turn_touch {j : Nat} {input : Input} {f : Transfer → Connection.Effect}
    (hpeer : ∀ t, (f t).connection.peer = t.connection.peer)
    (hqueue : ∀ t, (f t).connection.queue = t.connection.queue)
    (hsettled : ∀ t number p, (f t).settled ≠ some (number, .ok p)) :
    Turn d d.clock input d.transfers[i]?
      (if j = i then touchActs d.clock f d.transfers[i]? else []) (seen i (d.touch j f)) := by
  by_cases hij : j = i
  · subst hij
    rw [if_pos rfl, seen_touch_self]
    exact turn_touchActs hpeer hqueue hsettled _
  · rw [if_neg hij, seen_touch_of_ne hij]
    exact .unseen input _

/-- A datagram arrives at the socket of a transfer, which may be the given one. It is the one thing
that may settle a read with a packet. -/
theorem turn_arrive (d : Dispatcher) (i j : Nat) (bytes : Bytes) (sender : Option Address) :
    Turn d d.clock (.arrive j bytes sender) d.transfers[i]?
      (d.occurrences i (.arrive j bytes sender)) (seen i (d.step (.arrive j bytes sender))) := by
  have hstep : d.step (.arrive j bytes sender) =
      d.touch j fun t => t.connection.receive bytes (sender.getD t.connection.peer) := rfl
  rw [hstep, occurrences]
  by_cases hij : j = i
  · subst hij
    rw [if_pos rfl, seen_touch_self]
    cases d.transfers[j]? with
    | none => exact .unseen _ none
    | some t => exact .arrived t _
  · rw [if_neg hij, seen_touch_of_ne hij]
    exact .unseen _ _

/-- A promise is kept to its own transfer, and once. For every other transfer nothing is to be seen
of it. -/
theorem turn_fulfil (d : Dispatcher) (i n : Nat) (fault : Option Fault) :
    Turn d d.clock (.fulfil n fault) d.transfers[i]? (d.occurrences i (.fulfil n fault))
      (seen i (d.step (.fulfil n fault))) := by
  cases hn : d.promises[n]? with
  | none =>
    simp only [occurrences, step, hn]
    exact .unseen _ _
  | some promise =>
    cases ht : d.transfers[promise.transfer]? with
    | none =>
      have hnothing : d.occurrences i (.fulfil n fault) = [] := by
        simp only [occurrences, hn]
        split
        · next hi => rw [← hi.1, ht]
        · rfl
      rw [hnothing]
      simp only [step, hn, ht]
      exact .unseen _ _
    | some t =>
      cases hkept : promise.kept with
      | true =>
        simp only [occurrences, step, hn, ht, hkept]
        rw [if_neg fun h => Bool.noConfusion h.2]
        exact .unseen _ _
      | false =>
        simp only [occurrences, step, hn, ht, hkept]
        by_cases hi : promise.transfer = i
        · subst hi
          have hlt := (List.getElem?_eq_some_iff.mp ht).1
          rw [if_pos ⟨rfl, trivial⟩, ht]
          exact seen_setTransfer_self hlt _ ▸ .supplied t _
        · rw [if_neg fun h => hi h.1]
          exact seen_setTransfer_of_ne hi _ ▸ .unseen _ _

/-- When time passes, a transfer sees its own time come. -/
theorem Good.turn_advance (h : d.Good past) (i : Nat) (span : Time) :
    Turn d (d.clock + span) (.advance span) d.transfers[i]? (d.occurrences i (.advance span))
      (seen i (d.step (.advance span))) := by
  have hseen : seen i (d.step (.advance span)) = touched (d.clock + span)
      (fun t => t.connection.expire (d.clock + span)) d.transfers[i]? := h.seen_advance span
  rw [hseen, occurrences]
  refine turn_touchActs (fun t => t.connection.peer_expire _) (fun t => ?_) (fun t number p => ?_) _
  · rw [Connection.expire]
    split <;> rfl
  · rw [Connection.expire]
    split
    · exact Connection.settled_settle_error _ _
    · intro h
      cases h

/-! ## The turn of a request

A request makes a new transfer, and only for that one it is more than nothing. How the transfer is
opened is the same question as in `exists_start`, with its acts told besides. -/

/-- How a transfer is opened: its acts, and how it begins. -/
inductive Opens (d : Dispatcher) (t : Transfer) : List Session.Act → Start → Prop
  /-- its backend answers at once -/
  | answered (answer : Except Fault File) :
      Opens d t (t.supplyActs d.clock answer)
        (.served (t.supply d.clock answer).1 (t.supply d.clock answer).2)
  /-- its backend owes it a file -/
  | owed {peer : Address} {filename : String} {file : File}
      (h : (Backend.openFile? d.files peer filename d.backend).answer = .later file) :
      Opens d t [] (.owed file)
  /-- it needs no file -/
  | began : Opens d t (t.acts d.clock) (.served (t.run d.clock).1 (t.run d.clock).2)

/-- A transfer is opened in one of three ways, and with each of them come its acts. The backend
answers at once, with a file or with a fault, or it will answer later, or the request is none to
open a file for. -/
theorem exists_opens (d : Dispatcher) (i : Nat) (t : Transfer) :
    ∃ s, d.Opens t (d.openActs t) s ∧ (d.openTransfer i t).1.sent = (d.started i s).1 ∧
      (d.openTransfer i t).2 = (d.started i s).2 := by
  cases hcall : t.session.call with
  | openFile filename resume =>
    cases hanswer : (Backend.openFile? d.files t.session.peer filename d.backend).answer with
    | failure f =>
      simp only [openTransfer, openActs, hcall, hanswer]
      exact ⟨_, .answered (.error f), rfl, rfl⟩
    | file file =>
      simp only [openTransfer, openActs, hcall, hanswer]
      exact ⟨_, .answered (.ok file), rfl, rfl⟩
    | later file =>
      simp only [openTransfer, openActs, hcall, hanswer]
      exact ⟨_, .owed hanswer, rfl, rfl⟩
  | _ =>
    simp only [openTransfer, openActs, hcall]
    exact ⟨_, .began, rfl, rfl⟩

/-- A request is refused from the main socket, or it gets a transfer. That a datagram which is no
request is ignored counts as refused here. -/
theorem request_spec (d : Dispatcher) (bytes : Bytes) (sender : Address) :
    (d.request bytes sender).1.sent = [] ∧ (d.request bytes sender).2 = d ∨
      ∃ request s, Packet.decode bytes = .ok request ∧
        (d.extend (newcomer request sender)).Opens (newcomer request sender)
          (d.openActs (newcomer request sender)) s ∧
        (d.request bytes sender).1.sent = (d.welcome (some (newcomer request sender, s))).1 ∧
        (d.request bytes sender).2 = (d.welcome (some (newcomer request sender, s))).2 := by
  have hserve (request : Packet) := exists_opens (d.extend (newcomer request sender))
    d.transfers.length (newcomer request sender)
  rw [request]
  split
  · exact .inl ⟨rfl, rfl⟩
  · next packet hdecode =>
    obtain ⟨s, hs⟩ := hserve packet
    split
    · exact .inr ⟨_, s, hdecode, hs⟩
    · split
      · exact .inl ⟨rfl, rfl⟩
      · split
        · exact .inl ⟨rfl, rfl⟩
        · exact .inr ⟨_, s, hdecode, hs⟩
    · exact .inl ⟨rfl, rfl⟩

/-- A new transfer is seen as it begins. -/
theorem Opens.turn {bytes : Bytes} {sender : Address} {request : Packet}
    {acts : List Session.Act} {s : Start} (hdecode : Packet.decode bytes = .ok request)
    (h : (d.extend (newcomer request sender)).Opens (newcomer request sender) acts s) :
    Turn d d.clock (.request bytes sender) none (acts.map .did)
      (sentBy d.transfers.length (d.welcome (some (newcomer request sender, s))).1,
        (d.welcome (some (newcomer request sender, s))).2.transfers[d.transfers.length]?) := by
  cases h with
  | answered answer =>
    obtain ⟨hsent, hget⟩ := d.welcome_served_self (newcomer request sender) _ _
    rw [hsent, hget]
    exact .answered hdecode answer
  | owed hanswer => exact d.getElem?_extend_self (newcomer request sender) ▸ .owed hdecode hanswer
  | began =>
    obtain ⟨hsent, hget⟩ := d.welcome_served_self (newcomer request sender) _ _
    rw [hsent, hget]
    exact .began hdecode

/-- Other transfers see nothing of it. -/
theorem view_welcome_of_ne {t : Transfer} {s : Start} (hi : d.transfers.length ≠ i) :
    (sentBy i (d.welcome (some (t, s))).1, (d.welcome (some (t, s))).2.transfers[i]?) =
      (([], d.transfers[i]?) : List Datagram × Option Transfer) := by
  cases s with
  | served a u =>
    rw [welcome, started, sentBy_ofActivity_of_ne hi, setTransfer, List.getElem?_set_ne hi,
      getElem?_extend_of_ne d t (Ne.symm hi)]
  | owed file => rw [← getElem?_extend_of_ne d t (Ne.symm hi)]; rfl

/-- A request starts a transfer that is new, or none. -/
theorem turn_request (d : Dispatcher) (i : Nat) (bytes : Bytes) (sender : Address) :
    Turn d d.clock (.request bytes sender) d.transfers[i]?
      (d.occurrences i (.request bytes sender)) (seen i (d.step (.request bytes sender))) := by
  rw [occurrences, seen, step]
  rcases d.request_spec bytes sender with
    ⟨hsent, hsame⟩ | ⟨request, s, hdecode, hopens, hsent, hafter⟩
  · have hbegins : d.begins i (.request bytes sender) = false := by
      simp [begins, step, hsame]
      omega
    rw [hbegins, hsent, hsame]
    exact .unseen _ _
  · rw [hsent, hafter, hdecode]
    by_cases hi : d.transfers.length = i
    · subst hi
      rw [begins_of_welcome hafter, if_pos rfl, List.getElem?_eq_none (Nat.le_refl _)]
      exact hopens.turn hdecode
    · rw [view_welcome_of_ne hi, if_neg (by simp [begins, hi])]
      exact .unseen _ _

/-- **What an input can do to one transfer.** -/
theorem Good.turn (h : d.Good past) (i : Nat) (input : Input) :
    Turn d (d.timeOf input) input d.transfers[i]? (d.occurrences i input)
      (seen i (d.step input)) := by
  cases input with
  | request bytes sender => exact d.turn_request i bytes sender
  | arrive j bytes sender => exact d.turn_arrive i j bytes sender
  | advance span => exact h.turn_advance i span
  | setBackend backend => exact .unseen _ _
  | stop j =>
    exact turn_touch (fun _ => rfl) (fun _ => rfl)
      fun t _ _ => Connection.settled_settle_error _ _
  | fail j failure =>
    refine turn_touch (fun _ => rfl) (fun _ => rfl) fun _ _ _ h => ?_
    cases h
  | fulfil n fault => exact d.turn_fulfil i n fault

/-! ## Transfers stay

A transfer is never removed, not even after its end, and its client never changes. This is needed to
say to whom its deeds are sent. -/

/-- A transfer that is there stays, with the same client. -/
theorem Turn.peer {input : Input} {t : Transfer} {part : List Occurrence}
    {s : List Datagram × Option Transfer} (h : Turn d now input (some t) part s) :
    ∃ u, s.2 = some u ∧ u.connection.peer = t.connection.peer := by
  cases h with
  | unseen => exact ⟨t, rfl, rfl⟩
  | arrived => exact ⟨_, rfl, Transfer.peer_absorb (Connection.peer_receive _ _ _)⟩
  | touched hpeer => exact ⟨_, rfl, Transfer.peer_absorb hpeer⟩
  | supplied => exact ⟨_, rfl, Transfer.peer_supply _ _ _⟩

/-- A transfer that is there stays over a whole run, with the same client. -/
theorem Good.exists_run (h : d.Good past) {t : Transfer} (ht : d.transfers[i]? = some t)
    (inputs : List Input) : ∃ u, (d.run inputs).2.transfers[i]? = some u ∧
      u.connection.peer = t.connection.peer := by
  induction inputs generalizing d past t with
  | nil => exact ⟨t, ht, rfl⟩
  | cons input inputs ih =>
    have hturn := h.turn i input
    rw [ht] at hturn
    obtain ⟨u, hu, hpeer⟩ := hturn.peer
    obtain ⟨v, hv, hpeer'⟩ := ih (h.goes_step input) hu
    exact ⟨v, hv, hpeer'.trans hpeer⟩

/-! ## What is sent

The history has more than the deeds of a session: its connection answers strangers by itself. What
the deeds send is therefore only a part of what was sent, in the same order. -/

/-- In a turn the session of a transfer sends what its deeds send. Its connection may send besides,
to others. -/
theorem Turn.sends {input : Input} {t : Option Transfer} {part : List Occurrence}
    {s : List Datagram × Option Transfer} (h : Turn d now input t part s) {u : Transfer}
    (hu : s.2 = some u) :
    (Log.sendings u.connection.peer (deeds part)).Sublist (s.1.map fun x => (now, x)) := by
  cases h with
  | unseen => exact List.nil_sublist _
  | owed => exact List.nil_sublist _
  | answered _ answer =>
    cases hu
    rw [deeds, acts_did, Transfer.peer_supply, view, Transfer.sendings_supplyActs]
  | began =>
    cases hu
    rw [deeds, acts_did, Transfer.peer_run, Transfer.sendings_acts, view]
  | @arrived _ bytes _ t sender =>
    cases hu
    have hpeer := t.connection.peer_receive bytes sender
    rw [deeds, acts_arrived, acts_did, Transfer.peer_absorb hpeer, view,
      Transfer.sendings_absorbActs hpeer]
    exact List.sublist_append_right _ _
  | touched hpeer =>
    cases hu
    rw [deeds, acts_did, Transfer.peer_absorb hpeer, view, Transfer.sendings_absorbActs hpeer]
    exact List.sublist_append_right _ _
  | supplied =>
    cases hu
    rw [deeds, acts_did, Transfer.peer_supply, view, Transfer.sendings_supplyActs]

/-- A transfer that is not there after a turn has done nothing in it. -/
theorem Turn.eq_nil {input : Input} {t : Option Transfer} {part : List Occurrence}
    {s : List Datagram × Option Transfer} (h : Turn d now input t part s) (hs : s.2 = none) :
    part = [] := by
  cases h with
  | unseen => rfl
  | _ => cases hs

/-- Only the passing of time moves the clock. All that happens in a turn therefore happens at one
time. -/
theorem clock_step (d : Dispatcher) (input : Input) :
    (d.step input).2.clock = d.timeOf input := by
  have htouch (j : Nat) (f : Transfer → Connection.Effect) : (d.touch j f).2.clock = d.clock :=
    (d.onlyTransfers_touch j f).clock
  cases input with
  | request bytes sender =>
    rcases d.request_spec bytes sender with ⟨-, hsame⟩ | ⟨request, s, -, -, -, hafter⟩
    · exact congrArg Dispatcher.clock hsame
    · rw [step, hafter]
      cases s <;> rfl
  | arrive j bytes sender => exact htouch j _
  | advance span => exact (onlyTransfers_expireAll _ _).clock
  | setBackend backend => rfl
  | stop j => exact htouch j _
  | fail j failure => exact htouch j _
  | fulfil n fault =>
    rw [step]
    split
    · split <;> rfl
    · rfl

/-- **What the deeds of a life send was sent**, at the same time and in the same order. The
induction is on the inputs, and each turn adds at the end of both. That the client is the same in
all turns is needed to say to whom it was sent. -/
theorem Good.sendings_life (h : d.Good past) (inputs : List Input) {t : Transfer}
    (ht : (d.run inputs).2.transfers[i]? = some t) :
    (Log.sendings t.connection.peer (deeds (d.life i inputs))).Sublist
      (sendings (d.history inputs) i) := by
  induction inputs generalizing d past with
  | nil => exact List.nil_sublist _
  | cons input inputs ih =>
    have hturn := h.turn i input
    rw [Dispatcher.life, deeds, acts_append, List.map_append, Log.sendings_append,
      sendings_history_cons, clock_step]
    refine List.Sublist.append ?_ (ih (h.goes_step input) ht)
    cases hu : (d.step input).2.transfers[i]? with
    | none =>
      rw [hturn.eq_nil hu]
      exact List.nil_sublist _
    | some u =>
      obtain ⟨v, hv, hpeer⟩ := (h.goes_step input).exists_run hu inputs
      obtain rfl : v = t := Option.some.inj (hv.symm.trans ht)
      rw [hpeer]
      exact hturn.sends hu

/-! ## Lives are those of transfers

A life is computed input by input. That it is a life of the session, from its request to what it is
now, is the invariant `Lived`, which every turn keeps. -/

/-- The life of a transfer so far: its request has come, and the acts lead from the session of that
to its own. A transfer that is not there has none. -/
inductive Lived (done : List Input) : List Occurrence → Option Transfer → Prop
  /-- there is no such transfer, and nothing has happened to it -/
  | unborn : Lived done [] none
  /-- its request came, and its acts lead to what it is -/
  | born {t : Transfer} {bytes : Bytes} {request : Packet} {life : List Occurrence}
      (hmem : .request bytes t.connection.peer ∈ done)
      (hdecode : Packet.decode bytes = .ok request)
      (hcourse : Session.Course (Session.start t.connection.peer request.toDraft).value (acts life)
        t.session) : Lived done life (some t)

/-- A transfer that is there had a request, which led to what its session is now. -/
theorem Lived.exists_request {done : List Input} {life : List Occurrence} {t : Transfer}
    (h : Lived done life (some t)) : ∃ bytes request,
      .request bytes t.connection.peer ∈ done ∧ Packet.decode bytes = .ok request ∧
        Session.Course (Session.start t.connection.peer request.toDraft).value (acts life)
          t.session := by
  cases h with
  | born hmem hdecode hcourse => exact ⟨_, _, hmem, hdecode, hcourse⟩

/-- What happens to others makes no difference to a life. -/
theorem Lived.later {done : List Input} {life : List Occurrence} {t : Option Transfer}
    (h : Lived done life t) (rest : List Input) : Lived (done ++ rest) life t := by
  cases h with
  | unborn => exact .unborn
  | born hmem hdecode hcourse => exact .born (List.mem_append_left _ hmem) hdecode hcourse

/-- A life goes on with the acts of its session, as long as the client stays the same. -/
theorem Lived.goes_on {done : List Input} {life part : List Occurrence} {t u : Transfer}
    (h : Lived done life (some t)) (hpeer : u.connection.peer = t.connection.peer)
    (hcourse : Session.Course t.session (acts part) u.session) :
    Lived done (life ++ part) (some u) := by
  obtain ⟨bytes, request, hmem, hdecode, hbefore⟩ := h.exists_request
  rw [← hpeer] at hmem hbefore
  refine .born hmem hdecode ?_
  rw [acts_append]
  exact hbefore.append hcourse

/-- The life of a transfer begins with its request. -/
theorem lived_newcomer (done : List Input) {bytes : Bytes} {request : Packet} (sender : Address)
    (hdecode : Packet.decode bytes = .ok request) :
    Lived (done ++ [.request bytes sender]) [] (some (newcomer request sender)) :=
  .born (List.mem_append_right _ (.head _)) hdecode (.nil _)

/-- In each turn a transfer goes on living. Where it is seen to act, the acts lead from the session
before to the session after, and so the life leads on. -/
theorem Turn.lived {done : List Input} {input : Input} {life part : List Occurrence}
    {t : Option Transfer} {s : List Datagram × Option Transfer} (h : Turn d now input t part s)
    (hl : Lived done life t) : Lived (done ++ [input]) (life ++ part) s.2 := by
  cases h with
  | unseen =>
    rw [List.append_nil]
    exact hl.later _
  | owed hdecode =>
    cases hl
    exact lived_newcomer done _ hdecode
  | answered hdecode answer =>
    cases hl
    refine (lived_newcomer done _ hdecode).goes_on (Transfer.peer_supply _ _ _) ?_
    rw [acts_did]
    exact Transfer.course_supplyActs _ _ _
  | began hdecode =>
    cases hl
    refine (lived_newcomer done _ hdecode).goes_on (Transfer.peer_run _ _) ?_
    rw [acts_did]
    exact Transfer.course_acts _ _
  | arrived t sender =>
    refine (hl.later _).goes_on (Transfer.peer_absorb (Connection.peer_receive _ _ _)) ?_
    rw [acts_arrived, acts_did]
    exact t.course_absorbActs _ _
  | touched hpeer =>
    refine (hl.later _).goes_on (Transfer.peer_absorb hpeer) ?_
    rw [acts_did]
    exact Transfer.course_absorbActs _ _ _
  | supplied t answer =>
    refine (hl.later _).goes_on (Transfer.peer_supply _ _ _) ?_
    rw [acts_did]
    exact t.course_supplyActs _ _

/-- **The life of a transfer is that of the session of its request**, whatever happens. -/
theorem Good.lived_run (h : d.Good past) {done : List Input} {life : List Occurrence}
    (hl : Lived done life d.transfers[i]?) (inputs : List Input) :
    Lived (done ++ inputs) (life ++ d.life i inputs) (d.run inputs).2.transfers[i]? := by
  induction inputs generalizing d past done life with
  | nil =>
    rw [List.append_nil, Dispatcher.life, List.append_nil]
    exact hl
  | cons input inputs ih =>
    have hrest := ih (h.goes_step input) ((h.turn i input).lived hl)
    rw [List.append_assoc, List.append_assoc] at hrest
    exact hrest

end Dispatcher

end Tftp
