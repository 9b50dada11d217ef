import Tftp.Proofs.Dispatcher.Invariant

/-!
# What a dispatcher does to one transfer

Whatever is done with one transfer of a dispatcher depends on that transfer, the clock and the files
alone, and leaves all the others as they are.

* `Dispatcher.seen` — what one transfer sees of what came of something;
* `Dispatcher.touch` — something happens to the connection of a transfer;
* `Dispatcher.OnlyTransfers` — nothing but transfers changed;
* `Dispatcher.Start` — how a new transfer begins.

When time passes, several transfers are resumed one after the other. Each of them sees its own
resumption only, and one that is not due sees none (`Good.seen_advance`). A request starts a
transfer in a way that depends on the backend, the files and the clock alone (`exists_request`).
-/

namespace Tftp

/-- A timer that is not due does not expire. -/
theorem Transfer.absorb_expire_of_inTime {t : Transfer} {now : Time} (h : t.InTime now) :
    t.absorb now (t.connection.expire now) = ({}, t) := by
  have hdue : t.connection.isDue now = false := by
    rw [Connection.isDue]
    split
    · next due htimer => exact decide_eq_false (Int.not_le.mpr (h due htimer))
    · rfl
  rw [Connection.expire, hdue]
  rfl

namespace Dispatcher

/-! ## The view of one transfer

Of what a dispatcher does, a transfer sees two things: the datagrams that it sends itself, and what
becomes of it. Everything in this module is said in these terms, for the transfer that something is
done to and for the others. -/

/-- The datagrams that one transfer sent. -/
def sentBy (j : Nat) (sent : List (Nat × Datagram)) : List Datagram :=
  sent.filterMap fun x => if x.1 = j then some x.2 else none

/-- What one transfer sees of what came of something: what it sent, and what it is then. -/
def seen (j : Nat) (r : Report × Dispatcher) : List Datagram × Option Transfer :=
  (sentBy j r.1.sent, r.2.transfers[j]?)

variable {past : List Happening} {d : Dispatcher} {i j : Nat} {t : Transfer}

/-- All that a transfer does is its own. -/
theorem sentBy_ofActivity_self (j : Nat) (a : Activity) :
    sentBy j (Report.ofActivity j a).sent = a.sent := by
  have hall : (fun x : Datagram => if j = j then some x else none) = some :=
    funext fun _ => if_pos rfl
  rw [sentBy, Report.ofActivity, List.filterMap_map]
  exact (congrArg (List.filterMap · a.sent) hall).trans List.filterMap_some

/-- Nothing that another transfer does is its own. -/
theorem sentBy_ofActivity_of_ne (h : i ≠ j) (a : Activity) :
    sentBy j (Report.ofActivity i a).sent = [] := by
  rw [sentBy, List.filterMap_eq_nil_iff]
  intro x hx
  obtain ⟨_, -, rfl⟩ := List.mem_map.mp hx
  exact if_neg h

/-- What a transfer sent according to two reports, one after the other. -/
theorem sentBy_append (j : Nat) (r s : Report) :
    sentBy j (r ++ s).sent = sentBy j r.sent ++ sentBy j s.sent :=
  List.filterMap_append

/-- A transfer that is set sees what it did, and is what it was set to. -/
theorem seen_setTransfer_self (hj : j < d.transfers.length) (r : Activity × Transfer) :
    seen j (.ofActivity j r.1, d.setTransfer j r.2) = (r.1.sent, some r.2) := by
  rw [seen, sentBy_ofActivity_self, setTransfer, List.getElem?_set_self hj]

/-- A transfer sees nothing of another one that is set. -/
theorem seen_setTransfer_of_ne (h : i ≠ j) (r : Activity × Transfer) :
    seen j (.ofActivity i r.1, d.setTransfer i r.2) = ([], d.transfers[j]?) := by
  rw [seen, sentBy_ofActivity_of_ne h, setTransfer, List.getElem?_set_ne h]

/-! ## Something happens to a connection

The inputs that concern one connection are all of one kind, which is called a touch here. For its
own transfer a touch is a function of that transfer and the clock, and for the others it is nothing.
-/

/-- Something happens to the connection of a transfer, if there is one. -/
def touch (d : Dispatcher) (i : Nat) (f : Transfer → Connection.Effect) : Report × Dispatcher :=
  match d.transfers[i]? with
  | some t => d.absorb i t (f t)
  | none => ({}, d)

/-- What is sent when something happens to a connection is sent by its transfer. -/
theorem sent_absorb (d : Dispatcher) (i : Nat) (t : Transfer) (e : Connection.Effect) :
    (d.absorb i t e).1.sent = (Report.ofActivity i (t.absorb d.clock e).1).sent := by
  rw [absorb]
  dsimp only
  split <;> rfl

/-- What is to be seen of it depends on the transfer and the clock alone. -/
def touched (now : Time) (f : Transfer → Connection.Effect) :
    Option Transfer → List Datagram × Option Transfer
  | some t => ((t.absorb now (f t)).1.sent, some (t.absorb now (f t)).2)
  | none => ([], none)

/-- A transfer sees what happens to its own connection, and this depends on the transfer and the
clock alone. -/
theorem seen_touch_self (d : Dispatcher) (j : Nat) (f : Transfer → Connection.Effect) :
    seen j (d.touch j f) = touched d.clock f d.transfers[j]? := by
  cases ht : d.transfers[j]? with
  | none => simp only [touch, ht, seen, touched, sentBy, List.filterMap_nil]
  | some t =>
    have hj := (List.getElem?_eq_some_iff.mp ht).1
    simp only [touch, ht, seen, sent_absorb, sentBy_ofActivity_self, transfers_absorb,
      List.getElem?_set_self hj, touched]

/-- A transfer sees nothing of what happens to the connections of others. -/
theorem seen_touch_of_ne (h : i ≠ j) (f : Transfer → Connection.Effect) :
    seen j (d.touch i f) = ([], d.transfers[j]?) := by
  rw [touch]
  split
  · rw [seen, sent_absorb, sentBy_ofActivity_of_ne h, transfers_absorb, List.getElem?_set_ne h]
  · rfl

/-! ## Time passes

Several timers may be due at once, and they run out in an order that depends on all transfers. The
order makes no difference to one of them: what others do is not seen, and its own timer runs out
once. -/

/-- Nothing is to be seen where no timer is due. -/
theorem touched_expire_of_punctual (h : d.Punctual (· = j)) :
    touched d.clock (fun t => t.connection.expire d.clock) d.transfers[j]? =
      ([], d.transfers[j]?) := by
  cases ht : d.transfers[j]? with
  | none => rfl
  | some t => rw [touched, Transfer.absorb_expire_of_inTime (h j t rfl ht)]

/-- A transfer sees nothing of the times of others. It must be among those whose time is over, or
not be due; that it may be among them twice does no harm, since it is not due any more after the
first time. -/
theorem Sane.seen_expireAll (h : d.Sane past fun _ => True) {is : List Nat}
    (hj : j ∈ is ∨ d.Punctual (· = j)) : seen j (d.expireAll is) =
      touched d.clock (fun t => t.connection.expire d.clock) d.transfers[j]? := by
  induction is generalizing d past with
  | nil =>
    rw [touched_expire_of_punctual (hj.resolve_left List.not_mem_nil)]
    rfl
  | cons i is ih =>
    have hsane := h.expire i
    have happend : seen j (d.expireAll (i :: is)) =
        (sentBy j (d.expire i).1.sent ++ (seen j ((d.expire i).2.expireAll is)).1,
          (seen j ((d.expire i).2.expireAll is)).2) := by
      rw [seen, Dispatcher.expireAll, sentBy_append]
      rfl
    have hfirst : d.expire i = d.touch i fun t => t.connection.expire d.clock := rfl
    rw [happend]
    by_cases hij : i = j
    · -- its own time comes, after which it is not due any more
      subst hij
      have hpunctual : (d.expire i).2.Punctual (· = i) := by
        have hnone : d.Punctual fun _ => False := fun _ _ hfalse => hfalse.elim
        intro k u hk
        exact hnone.expire h i k u (.inl hk)
      have hseen := d.seen_touch_self i fun t => t.connection.expire d.clock
      rw [← hfirst] at hseen
      rw [ih hsane (.inr hpunctual), touched_expire_of_punctual hpunctual, List.append_nil, ← hseen]
      rfl
    · have hrest : j ∈ is ∨ (d.expire i).2.Punctual (· = j) := by
        rcases hj with hj | hj
        · exact .inl ((List.mem_cons.mp hj).resolve_left (Ne.symm hij))
        · refine .inr fun k u hk => ?_
          exact hj.expire h i k u (.inr hk)
      have hseen : seen j (d.expire i) = ([], d.transfers[j]?) := seen_touch_of_ne hij _
      obtain ⟨hsent, htransfer⟩ := Prod.mk.inj hseen
      rw [ih hsane hrest, clock_expire, htransfer, hsent, List.nil_append]

/-- **When time passes, a transfer sees its own time come and nothing else.** -/
theorem Good.seen_advance (h : d.Good past) (span : Time) : seen j (d.advance span) =
    touched (d.clock + span) (fun t => t.connection.expire (d.clock + span)) d.transfers[j]? := by
  have hlater := h.sane.later span
  refine hlater.seen_expireAll (Classical.or_iff_not_imp_left.mpr fun hj k u hk => ?_)
  exact hlater.punctual_dueTransfers k u (hk ▸ hj)

/-! ## What else changes

The backend, the files, the clock and the promises stay as they are when a transfer is resumed. This
is kept apart from what is seen, since it holds of every transfer at once. -/

/-- Nothing but the transfers and the order of their timers changed. -/
structure OnlyTransfers (d d' : Dispatcher) : Prop where
  /-- the backend is the same -/
  backend : d'.backend = d.backend
  /-- so are the files -/
  files : d'.files = d.files
  /-- and the clock -/
  clock : d'.clock = d.clock
  /-- and the promises -/
  promises : d'.promises = d.promises
  /-- there are as many transfers as before -/
  length : d'.transfers.length = d.transfers.length

theorem onlyTransfers_rfl : d.OnlyTransfers d := ⟨rfl, rfl, rfl, rfl, rfl⟩

/-- Two changes of nothing but transfers are one. -/
theorem OnlyTransfers.trans {d' d'' : Dispatcher} (h : d.OnlyTransfers d')
    (h' : d'.OnlyTransfers d'') : d.OnlyTransfers d'' where
  backend := h'.backend.trans h.backend
  files := h'.files.trans h.files
  clock := h'.clock.trans h.clock
  promises := h'.promises.trans h.promises
  length := h'.length.trans h.length

/-- Setting a transfer changes nothing else. -/
theorem onlyTransfers_setTransfer (d : Dispatcher) (i : Nat) (t : Transfer) :
    d.OnlyTransfers (d.setTransfer i t) :=
  ⟨rfl, rfl, rfl, rfl, List.length_set⟩

/-- What happens to a connection changes nothing but its transfer and the order of the timers. -/
theorem onlyTransfers_touch (d : Dispatcher) (i : Nat) (f : Transfer → Connection.Effect) :
    d.OnlyTransfers (d.touch i f).2 := by
  rw [touch]
  split
  · rw [absorb]
    dsimp only
    split
    · exact d.onlyTransfers_setTransfer i _
    · exact ⟨rfl, rfl, rfl, rfl, List.length_set⟩
  · exact onlyTransfers_rfl

/-- When time is over for some transfers, nothing but transfers changes. -/
theorem onlyTransfers_expireAll (d : Dispatcher) (is : List Nat) :
    d.OnlyTransfers (d.expireAll is).2 := by
  induction is generalizing d with
  | nil => exact onlyTransfers_rfl
  | cons i is ih =>
    exact (d.onlyTransfers_touch i fun t => t.connection.expire d.clock).trans (ih _)

/-! ## A new transfer

What comes of a request is a new transfer or nothing. Since a new transfer is put at the end, the
number that it gets depends on those that are there, and how it begins does not. -/

/-- How a new transfer begins: it is served at once, or it is owed a file. -/
inductive Start where
  /-- its session ran until it rested -/
  | served (a : Activity) (t : Transfer)
  /-- its backend will answer later -/
  | owed (file : File)

/-- What comes of the start of a transfer: what it sent, and the dispatcher then. -/
def started (d : Dispatcher) (i : Nat) : Start → List (Nat × Datagram) × Dispatcher
  | .served a t => ((Report.ofActivity i a).sent, d.setTransfer i t)
  | .owed file => ([], { d with promises := d.promises ++ [⟨i, file, false⟩] })

/-- How a transfer begins depends on the backend, the files and the clock alone. The cases are those
of the session: it asks for a file, which comes at once, later or not at all, or it runs without
one. -/
theorem exists_start (backend : Option Backend) (files : FileSystem) (now : Time) (t : Transfer) :
    ∃ s : Start, ∀ d : Dispatcher, ∀ i, d.backend = backend → d.files = files → d.clock = now →
      (d.openTransfer i t).1.sent = (d.started i s).1 ∧
        (d.openTransfer i t).2 = (d.started i s).2 := by
  cases hcall : t.session.call with
  | openFile filename resume =>
    cases hanswer : (Backend.openFile? files t.session.peer filename backend).answer with
    | failure f =>
      refine ⟨.served (t.supply now (.error f)).1 (t.supply now (.error f)).2, ?_⟩
      rintro d i rfl rfl rfl
      simp only [openTransfer, hcall, hanswer]
      exact ⟨rfl, rfl⟩
    | file file =>
      refine ⟨.served (t.supply now (.ok file)).1 (t.supply now (.ok file)).2, ?_⟩
      rintro d i rfl rfl rfl
      simp only [openTransfer, hcall, hanswer]
      exact ⟨rfl, rfl⟩
    | later file =>
      refine ⟨.owed file, ?_⟩
      rintro d i rfl rfl rfl
      simp only [openTransfer, hcall, hanswer]
      exact ⟨rfl, rfl⟩
  | _ =>
    refine ⟨.served (t.run now).1 (t.run now).2, ?_⟩
    rintro d i rfl rfl rfl
    simp only [openTransfer, hcall]
    exact ⟨rfl, rfl⟩

/-- What comes of a request: a transfer that is new and how it begins, or nothing. -/
def welcome (d : Dispatcher) : Option (Transfer × Start) → List (Nat × Datagram) × Dispatcher
  | some (t, s) => (d.extend t).started d.transfers.length s
  | none => ([], d)

/-- A transfer that is served at once. -/
theorem welcome_served_self (d : Dispatcher) (t : Transfer) (a : Activity) (u : Transfer) :
    sentBy d.transfers.length (d.welcome (some (t, .served a u))).1 = a.sent ∧
      (d.welcome (some (t, .served a u))).2.transfers[d.transfers.length]? = some u :=
  ⟨sentBy_ofActivity_self _ a, List.getElem?_set_self (d.length_lt_extend t)⟩

/-- A request that is served starts a transfer, in a way that does not depend on the others. -/
theorem exists_serve (backend : Option Backend) (files : FileSystem) (now : Time)
    (request : Packet) (sender : Address) :
    ∃ newcomer, ∀ d : Dispatcher, d.backend = backend → d.files = files → d.clock = now →
      (d.serve request sender).1.sent = (d.welcome newcomer).1 ∧
        (d.serve request sender).2 = (d.welcome newcomer).2 := by
  let t : Transfer := { session := (Session.start sender request.toDraft).value
                        connection := { peer := sender } }
  obtain ⟨s, hs⟩ := exists_start backend files now t
  exact ⟨some (t, s), fun d => hs (d.extend t) d.transfers.length⟩

/-- **What comes of a request depends on the backend, the files and the clock alone**, and not on
the transfers that there are already. -/
theorem exists_request (backend : Option Backend) (files : FileSystem) (now : Time)
    (bytes : Bytes) (sender : Address) :
    ∃ newcomer, ∀ d : Dispatcher, d.backend = backend → d.files = files → d.clock = now →
      (d.request bytes sender).1.sent = (d.welcome newcomer).1 ∧
        (d.request bytes sender).2 = (d.welcome newcomer).2 := by
  cases hdecode : Packet.decode bytes with
  | error e => exact ⟨none, fun d _ _ _ => by simp only [request, hdecode]; exact ⟨rfl, rfl⟩⟩
  | ok packet =>
    obtain ⟨newcomer, hserve⟩ := exists_serve backend files now packet sender
    cases packet with
    | writeRequest q =>
      refine ⟨newcomer, fun d hb hf hc => ?_⟩
      simp only [request, hdecode]
      exact hserve d hb hf hc
    | readRequest q =>
      by_cases hserved : backend.isNone = false ∧ q.mode = octetMode
      · refine ⟨newcomer, fun d hb hf hc => ?_⟩
        simp only [request, hdecode, hb, hserved.1, hserved.2]
        exact hserve d hb hf hc
      · refine ⟨none, fun d hb _ _ => ?_⟩
        simp only [request, hdecode, hb]
        split
        · exact ⟨rfl, rfl⟩
        · next hbackend =>
          have hmode : q.mode ≠ octetMode := fun hmode =>
            hserved ⟨Bool.eq_false_iff.mpr hbackend, hmode⟩
          rw [if_pos hmode]
          exact ⟨rfl, rfl⟩
    | _ => exact ⟨none, fun d _ _ _ => by simp only [request, hdecode]; exact ⟨rfl, rfl⟩⟩

end Dispatcher

end Tftp
