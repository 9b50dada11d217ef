import Mathlib.Data.List.Basic
import Tftp.Proofs.Dispatcher.Locality

/-!
# Transfers are isolated

Whatever else a dispatcher has to do, each of its transfers is what it would be if the dispatcher
had nothing else to do.

* `Dispatcher.begins` — a request starts the transfer with a given number;
* `Dispatcher.concerning` — what is left of some inputs for one transfer alone;
* `Dispatcher.backendFor` — the backend that is set when the request for a transfer comes;
* `Dispatcher.sendings` — what one transfer sent, and when;
* `Dispatcher.Mirrors` — a dispatcher has for its first transfer what another has for a given one.

The main theorem is `Dispatcher.isolated`. It follows both dispatchers step by step: an input that
is left does the same to both (`Mirrors.agrees_step`), and one that is not left shows nothing to the
transfer.
-/

namespace Tftp

/-- When a transfer sent what, if that is what happened. -/
def Happening.sending? (j : Nat) : Happening → Option (Time × Datagram)
  | .sent i d time => if i = j then some (time, d) else none
  | .stopped _ => none

namespace Dispatcher

/-! ## What is left for one transfer

A run with many transfers is compared with a run that has one of them only. The inputs of the second
run are those of the first one that concern the transfer, with its number changed to zero: its own
request, what is addressed to it, and the passing of time. -/

/-- Whether a transfer with a given number starts: the number is the next one, and after the input
there is a transfer with it. -/
def begins (d : Dispatcher) (j : Nat) (input : Input) : Bool :=
  d.transfers.length = j ∧ j < (d.step input).2.transfers.length

/-- An input as far as it concerns one transfer, which is the first and only one then. -/
def own? (d : Dispatcher) (j : Nat) (input : Input) : Option Input :=
  match input with
  | .request .. => if d.begins j input then some input else none
  | .arrive i bytes sender => if i = j then some (.arrive 0 bytes sender) else none
  | .advance _ => some input
  | .setBackend _ => none
  | .stop i => if i = j then some (.stop 0) else none
  | .fail i failure => if i = j then some (.fail 0 failure) else none
  | .fulfil n fault =>
    match d.promises[n]? with
    | some p => if p.transfer = j then some (.fulfil 0 fault) else none
    | none => none

/-- What is left of some inputs for one transfer alone. Which inputs are left depends on how the
dispatcher has come to stand, since it is the number of transfers that tells whose request a request
is. -/
def concerning (d : Dispatcher) (j : Nat) : List Input → List Input
  | [] => []
  | input :: inputs => (d.own? j input).toList ++ (d.step input).2.concerning j inputs

/-- The backend that is set when the request for a transfer comes. -/
def backendFor (d : Dispatcher) (j : Nat) : List Input → Option Backend
  | [] => d.backend
  | input :: inputs =>
    if d.begins j input then d.backend else (d.step input).2.backendFor j inputs

/-- What one transfer sent, and when. -/
def sendings (past : List Happening) (j : Nat) : List (Time × Datagram) :=
  past.filterMap (Happening.sending? j)

/-- The promises for one transfer, as they are when it is the only one. -/
def promisesFor (d : Dispatcher) (j : Nat) : List Promise :=
  (d.promises.filter (·.transfer == j)).map fun p => { p with transfer := 0 }

variable {past : List Happening} {d alone : Dispatcher} {i j n : Nat} {p : Promise}

/-- What is left of two parts of a run is left of each of them, where the second part begins with
the dispatcher that the first one leads to. -/
theorem concerning_append (d : Dispatcher) (j : Nat) (inputs rest : List Input) :
    d.concerning j (inputs ++ rest) =
      d.concerning j inputs ++ (d.run inputs).2.concerning j rest := by
  induction inputs generalizing d with
  | nil => rfl
  | cons input inputs ih =>
    rw [List.cons_append, concerning, ih, concerning, List.append_assoc]
    rfl

/-! ## Sendings

What a transfer sent is read off the history, datagram by datagram with its time. -/

/-- What a transfer sent in two parts of a history, one after the other. -/
theorem sendings_append (past rest : List Happening) (j : Nat) :
    sendings (past ++ rest) j = sendings past j ++ sendings rest j :=
  List.filterMap_append

/-- Nothing is sent by the stop of a transport as such. What the transfer sends because of it is in
the report. -/
theorem sendings_stops (d : Dispatcher) (input : Input) (j : Nat) :
    sendings (d.stops input) j = [] := by
  cases input with
  | stop i =>
    rw [stops]
    split <;> rfl
  | _ => rfl

/-- All datagrams of one report are sent at one time. -/
theorem sendings_report (r : Report) (now : Time) (j : Nat) :
    sendings (r.sendings now) j = (sentBy j r.sent).map fun x => (now, x) := by
  rw [sendings, Report.sendings, sentBy, List.filterMap_map, List.map_filterMap]
  congr 1
  funext x
  rw [Function.comp, Happening.sending?]
  split <;> rfl

/-- What a transfer sends in a run it sends in the first step, at the time of that, or later. -/
theorem sendings_history_cons (d : Dispatcher) (input : Input) (inputs : List Input) (j : Nat) :
    sendings (d.history (input :: inputs)) j =
      (sentBy j (d.step input).1.sent).map (fun x => ((d.step input).2.clock, x)) ++
        sendings ((d.step input).2.history inputs) j := by
  rw [history, sendings_append, sendings_append, sendings_stops, List.nil_append, sendings_report]

/-! ## Promises

The promises for one transfer are at most one, as long as no two promises are for the same transfer.
In the other run that promise is the only one. -/

/-- Where nothing but transfers changed, the promises for each of them are the same. -/
theorem OnlyTransfers.promisesFor {d' : Dispatcher} (h : d.OnlyTransfers d') (j : Nat) :
    d'.promisesFor j = d.promisesFor j := by
  rw [Dispatcher.promisesFor, h.promises, Dispatcher.promisesFor]

/-- No two promises are for the same transfer. So the promises for one transfer are just that
one. -/
theorem filter_transfer_eq {promises : List Promise} (h : (promises.map Promise.transfer).Nodup)
    (hp : p ∈ promises) : promises.filter (·.transfer == p.transfer) = [p] := by
  induction promises with
  | nil => cases hp
  | cons q promises ih =>
    rw [List.map_cons, List.nodup_cons] at h
    obtain ⟨hq, hrest⟩ := h
    rcases List.mem_cons.mp hp with rfl | hp
    · have hnil : promises.filter (·.transfer == p.transfer) = [] := by
        rw [List.filter_eq_nil_iff]
        intro r hr heq
        exact hq (List.mem_map.mpr ⟨r, hr, beq_iff_eq.mp heq⟩)
      rw [List.filter_cons_of_pos (by simp), hnil]
    · have hne : q.transfer ≠ p.transfer := by
        intro heq
        rw [heq] at hq
        exact hq (List.mem_map_of_mem hp)
      rw [List.filter_cons_of_neg (by simpa using hne), ih hrest hp]

/-- A transfer that is owed a file is owed one. -/
theorem promisesFor_eq_singleton (h : (d.promises.map Promise.transfer).Nodup)
    (hn : d.promises[n]? = some p) : d.promisesFor p.transfer = [{ p with transfer := 0 }] := by
  rw [promisesFor, filter_transfer_eq h (List.mem_of_getElem? hn)]
  rfl

/-- What is promised to one transfer does not depend on the promises for others. -/
theorem filter_set_of_neg {promises : List Promise} {q : Promise} (hn : promises[n]? = some p)
    (hp : p.transfer ≠ j) (hq : q.transfer ≠ j) :
    (promises.set n q).filter (·.transfer == j) = promises.filter (·.transfer == j) := by
  induction promises generalizing n with
  | nil => rfl
  | cons r promises ih =>
    cases n with
    | zero =>
      obtain rfl : r = p := Option.some.inj hn
      rw [List.set_cons_zero, List.filter_cons_of_neg (by simpa using hq),
        List.filter_cons_of_neg (by simpa using hp)]
    | succ n => rw [List.set_cons_succ, List.filter_cons, List.filter_cons, ih hn]

/-- A promise that is kept to another transfer changes nothing for this one. -/
theorem promisesFor_keep_of_ne (hn : d.promises[n]? = some p) (hj : p.transfer ≠ j) :
    (d.keep n p).promisesFor j = d.promisesFor j := by
  have hfilter : (d.keep n p).promises.filter (·.transfer == j) =
      d.promises.filter (·.transfer == j) := filter_set_of_neg hn hj hj
  rw [promisesFor, hfilter, promisesFor]

/-- A promise that is kept stays on the list of its transfer as kept. -/
theorem promisesFor_keep_self (h : (d.promises.map Promise.transfer).Nodup)
    (hn : d.promises[n]? = some p) :
    (d.keep n p).promisesFor p.transfer = [{ p with transfer := 0, kept := true }] := by
  obtain ⟨hlt, -⟩ := List.getElem?_eq_some_iff.mp hn
  have hkept : (d.keep n p).promises[n]? = some { p with kept := true } :=
    List.getElem?_set_self hlt
  have hnodup : ((d.keep n p).promises.map Promise.transfer).Nodup := by
    rw [map_transfer_keep hn]
    exact h
  exact promisesFor_eq_singleton hnodup hkept

/-! ## The same for one transfer

Both runs go on side by side. After each input the two dispatchers have the same for the transfer
(`Mirrors`), and it has sent the same (`Agrees`). What was done to other transfers is not seen, and
what was done to this one is done to both. -/

/-- A dispatcher has the same for its first transfer as another for a given one. Its other
transfers, if it had any, and the order of its timers do not count. -/
structure Mirrors (j : Nat) (d alone : Dispatcher) : Prop where
  /-- it is the same time -/
  clock : alone.clock = d.clock
  /-- there are the same files -/
  files : alone.files = d.files
  /-- the transfer is the same, or both have none -/
  transfer : alone.transfers[0]? = d.transfers[j]?
  /-- the same is owed to it -/
  promises : alone.promises = d.promisesFor j

/-- The same came of two things for one transfer. -/
structure Agrees (j : Nat) (r r' : Report × Dispatcher) : Prop where
  /-- they have the same for the transfer afterwards -/
  mirrors : Mirrors j r.2 r'.2
  /-- the transfer sent the same -/
  sent : sentBy 0 r'.1.sent = sentBy j r.1.sent

/-- What came of an input that is left, and otherwise nothing. -/
def pass (d : Dispatcher) : Option Input → Report × Dispatcher
  | some input => d.step input
  | none => ({}, d)

/-- Changes of transfers that look the same to the two of them. -/
theorem Mirrors.agrees (h : Mirrors j d alone) {r r' : Report × Dispatcher}
    (hr : d.OnlyTransfers r.2) (hr' : alone.OnlyTransfers r'.2) (hseen : seen 0 r' = seen j r) :
    Agrees j r r' where
  mirrors := by
    refine ⟨?_, ?_, (Prod.mk.inj hseen).2, ?_⟩
    · rw [hr'.clock, hr.clock, h.clock]
    · rw [hr'.files, hr.files, h.files]
    · rw [hr'.promises, hr.promisesFor, h.promises]
  sent := (Prod.mk.inj hseen).1

/-- A change of others is not seen. -/
theorem Mirrors.agrees_of_unseen (h : Mirrors j d alone) {r : Report × Dispatcher}
    (hr : d.OnlyTransfers r.2) (hseen : seen j r = ([], d.transfers[j]?)) :
    Agrees j r ({}, alone) := by
  refine h.agrees hr onlyTransfers_rfl ?_
  rw [hseen, seen, h.transfer]
  rfl

theorem Mirrors.agrees_rfl (h : Mirrors j d alone) {report report' : Report}
    (hreport : report.sent = []) (hreport' : report'.sent = []) :
    Agrees j (report, d) (report', alone) :=
  ⟨h, by rw [hreport, hreport']; rfl⟩

/-- Something happens to the connection of the transfer in both of them. -/
theorem Mirrors.agrees_touch (h : Mirrors j d alone) (f : Transfer → Connection.Effect) :
    Agrees j (d.touch j f) (alone.touch 0 f) := by
  refine h.agrees (d.onlyTransfers_touch j f) (alone.onlyTransfers_touch 0 f) ?_
  rw [seen_touch_self, seen_touch_self, h.clock, h.transfer]

/-- Something happens to the connection of some transfer, which is left if it is the one. -/
theorem Mirrors.agrees_touch_ite (h : Mirrors j d alone) (f : Transfer → Connection.Effect)
    {input : Input} (hinput : alone.step input = alone.touch 0 f) :
    Agrees j (d.touch i f) (alone.pass (if i = j then some input else none)) := by
  by_cases hij : i = j
  · rw [if_pos hij, pass, hinput, hij]
    exact h.agrees_touch f
  · rw [if_neg hij]
    exact h.agrees_of_unseen (d.onlyTransfers_touch i f) (seen_touch_of_ne hij f)

/-- Time passes for both of them. In the dispatcher with other transfers their times may come as
well, before it or after it, and are not seen. -/
theorem Mirrors.agrees_advance (h : Mirrors j d alone) {past' : List Happening}
    (hd : d.Good past) (ha : alone.Good past') (span : Time) :
    Agrees j (d.step (.advance span)) (alone.step (.advance span)) := by
  have hlater : Mirrors j { d with clock := d.clock + span }
      { alone with clock := alone.clock + span } :=
    ⟨by rw [h.clock], h.files, h.transfer, h.promises⟩
  have hseen : seen 0 (alone.advance span) = seen j (d.advance span) := by
    rw [ha.seen_advance, hd.seen_advance, h.clock, h.transfer]
  exact hlater.agrees (onlyTransfers_expireAll _ _) (onlyTransfers_expireAll _ _) hseen

/-! ## Requests

What comes of a request does not depend on the transfers that there are already (`exists_request`).
So the request of the transfer begins it in the same way in both runs. -/

/-- A request leaves the backend as it is. -/
theorem backend_welcome (d : Dispatcher) (newcomer : Option (Transfer × Start)) :
    (d.welcome newcomer).2.backend = d.backend := by
  rcases newcomer with - | ⟨t, a | file⟩ <;> rfl

/-- A request that is accepted adds one transfer. -/
theorem length_welcome (d : Dispatcher) (newcomer : Transfer × Start) :
    (d.welcome (some newcomer)).2.transfers.length = d.transfers.length + 1 := by
  rcases newcomer with ⟨t, ⟨a, u⟩ | file⟩
  · rw [welcome, started, setTransfer, List.length_set, extend, List.length_append,
      List.length_singleton]
  · rw [welcome, started, extend, List.length_append, List.length_singleton]

/-- A request that is accepted begins the transfer with the next number. -/
theorem begins_of_welcome {bytes : Bytes} {sender : Address} {newcomer : Transfer × Start}
    (h : (d.request bytes sender).2 = (d.welcome (some newcomer)).2) :
    d.begins d.transfers.length (.request bytes sender) = true := by
  refine decide_eq_true ⟨rfl, ?_⟩
  rw [step, h, length_welcome]
  exact Nat.lt_succ_self _

/-- What is owed to a new transfer is owed to no other. -/
theorem promisesFor_welcome_owed (d : Dispatcher) (t : Transfer) (file : File) (j : Nat) :
    (d.welcome (some (t, .owed file))).2.promisesFor j =
      d.promisesFor j ++ if d.transfers.length = j then [⟨0, file, false⟩] else [] := by
  rw [promisesFor, welcome, started, List.filter_append, List.map_append]
  by_cases hj : d.transfers.length = j
  · rw [List.filter_cons_of_pos (by simpa using hj), if_pos hj]
    rfl
  · rw [List.filter_cons_of_neg (by simpa using hj), if_neg hj]
    rfl

/-- A transfer begins in the same way whatever its number is. The dispatcher on the other side has
no transfer yet, since there is none with the number on this side. -/
theorem Mirrors.welcome (h : Mirrors j d alone) (hj : d.transfers.length = j)
    (newcomer : Option (Transfer × Start)) :
    Mirrors j (d.welcome newcomer).2 (alone.welcome newcomer).2 ∧
      sentBy 0 (alone.welcome newcomer).1 = sentBy j (d.welcome newcomer).1 := by
  subst hj
  have hnone : alone.transfers[0]? = none := by
    rw [h.transfer, List.getElem?_eq_none_iff]
  have hzero : alone.transfers.length = 0 := by
    rw [List.getElem?_eq_none_iff] at hnone
    exact Nat.le_zero.mp hnone
  rcases newcomer with - | ⟨t, ⟨a, u⟩ | file⟩
  · exact ⟨h, rfl⟩
  · obtain ⟨hsent, hget⟩ := d.welcome_served_self t a u
    obtain ⟨hsent', hget'⟩ := alone.welcome_served_self t a u
    rw [hzero] at hsent' hget'
    exact ⟨⟨h.clock, h.files, hget'.trans hget.symm, h.promises⟩, hsent'.trans hsent.symm⟩
  · have hget := alone.getElem?_extend_self t
    rw [hzero] at hget
    refine ⟨⟨h.clock, h.files, hget.trans (d.getElem?_extend_self t).symm, ?_⟩, rfl⟩
    rw [promisesFor_welcome_owed, if_pos rfl, ← h.promises, ← hzero]
    rfl

/-- The transfers of others begin unseen. -/
theorem Mirrors.welcome_of_ne (h : Mirrors j d alone) (hj : d.transfers.length ≠ j)
    (newcomer : Option (Transfer × Start)) :
    Mirrors j (d.welcome newcomer).2 alone ∧ sentBy j (d.welcome newcomer).1 = [] := by
  rcases newcomer with - | ⟨t, ⟨a, u⟩ | file⟩
  · exact ⟨h, rfl⟩
  · refine ⟨⟨h.clock, h.files, ?_, h.promises⟩, sentBy_ofActivity_of_ne hj a⟩
    rw [h.transfer, Dispatcher.welcome, started, setTransfer, List.getElem?_set_ne hj,
      getElem?_extend_of_ne d t (Ne.symm hj)]
  · refine ⟨⟨h.clock, h.files, ?_, ?_⟩, rfl⟩
    · rw [h.transfer]
      exact (getElem?_extend_of_ne d t (Ne.symm hj)).symm
    · rw [promisesFor_welcome_owed, if_neg hj, List.append_nil, h.promises]

/-- A request comes. If it begins the transfer, it is left, and both backends are the one that is
set now. If it does not, it begins another transfer or none, and neither is seen. -/
theorem Mirrors.agrees_request (h : Mirrors j d alone) (bytes : Bytes) (sender : Address)
    (hbackend : d.begins j (.request bytes sender) = true → alone.backend = d.backend) :
    Agrees j (d.step (.request bytes sender))
      (alone.pass (d.own? j (.request bytes sender))) := by
  obtain ⟨newcomer, hrequest⟩ := exists_request d.backend d.files d.clock bytes sender
  obtain ⟨hsent, hafter⟩ := hrequest d rfl rfl rfl
  rw [own?]
  by_cases hbegins : d.begins j (.request bytes sender) = true
  · have hj : d.transfers.length = j := (of_decide_eq_true hbegins).1
    obtain ⟨hsent', hafter'⟩ := hrequest alone (hbackend hbegins) h.files h.clock
    obtain ⟨hmirrors, hsame⟩ := h.welcome hj newcomer
    rw [if_pos hbegins]
    refine ⟨?_, ?_⟩
    · rw [← hafter, ← hafter'] at hmirrors
      exact hmirrors
    · rw [← hsent, ← hsent'] at hsame
      exact hsame
  · rw [if_neg hbegins]
    have hunseen : Mirrors j (d.welcome newcomer).2 alone ∧
        sentBy j (d.welcome newcomer).1 = [] := by
      by_cases hj : d.transfers.length = j
      · -- a request for this number was not accepted
        cases newcomer with
        | none => exact ⟨h, rfl⟩
        | some newcomer =>
          subst hj
          exact absurd (begins_of_welcome hafter) hbegins
      · exact h.welcome_of_ne hj newcomer
    rw [← hsent, ← hafter] at hunseen
    exact ⟨hunseen.1, hunseen.2.symm⟩

/-! ## Promises are kept

The number of a promise is its place among all promises. In the other run the promise for the
transfer is the first and only one. -/

/-- The transfer is supplied in both of them with the same file. -/
theorem Mirrors.agrees_supply (h : Mirrors j d alone) {t : Transfer}
    (ht : d.transfers[j]? = some t) (answer : Except Fault File) :
    Agrees j (d.supply j t answer) (alone.supply 0 t answer) := by
  refine h.agrees (d.onlyTransfers_setTransfer j _) (alone.onlyTransfers_setTransfer 0 _) ?_
  have ht' : alone.transfers[0]? = some t := h.transfer.trans ht
  have hd := seen_setTransfer_self (List.getElem?_eq_some_iff.mp ht).1 (t.supply d.clock answer)
  have ha := seen_setTransfer_self (List.getElem?_eq_some_iff.mp ht').1 (t.supply d.clock answer)
  rw [supply, h.clock]
  exact ha.trans hd.symm

/-- A promise is kept to the transfer that it was made to. On its own, the transfer is owed a single
promise, and that stands first. If it was kept before, or there is no such transfer, nothing happens
on either side. -/
theorem Mirrors.agrees_fulfil_self (h : Mirrors j d alone) (hd : d.Good past)
    (hn : d.promises[n]? = some p) (hj : p.transfer = j) (fault : Option Fault) :
    Agrees j (d.step (.fulfil n fault)) (alone.step (.fulfil 0 fault)) := by
  subst hj
  have hpromises : alone.promises = [{ p with transfer := 0 }] := by
    rw [h.promises, promisesFor_eq_singleton hd.sane.nodup hn]
  have hfirst : alone.promises[0]? = some { p with transfer := 0 } := by
    rw [hpromises]
    rfl
  cases ht : d.transfers[p.transfer]? with
  | none =>
    have ht' : alone.transfers[0]? = none := h.transfer.trans ht
    simp only [step, hn, hfirst, ht, ht']
    exact h.agrees_rfl rfl rfl
  | some t =>
    have ht' : alone.transfers[0]? = some t := h.transfer.trans ht
    cases hkept : p.kept with
    | true =>
      simp only [step, hn, hfirst, ht, ht', hkept]
      exact h.agrees_rfl rfl rfl
    | false =>
      have hkeep : Mirrors p.transfer (d.keep n p) (alone.keep 0 { p with transfer := 0 }) := by
        refine ⟨h.clock, h.files, h.transfer, ?_⟩
        rw [promisesFor_keep_self hd.sane.nodup hn, keep, hpromises]
        rfl
      simp only [step, hn, hfirst, ht, ht', hkept]
      exact hkeep.agrees_supply ht _

/-- A promise is kept or broken. It is left if it was made to the transfer, and is then the only one
on the other side, with the number zero. -/
theorem Mirrors.agrees_fulfil (h : Mirrors j d alone) (hd : d.Good past) (n : Nat)
    (fault : Option Fault) :
    Agrees j (d.step (.fulfil n fault)) (alone.pass (d.own? j (.fulfil n fault))) := by
  cases hn : d.promises[n]? with
  | none =>
    simp only [step, own?, hn]
    exact h.agrees_rfl rfl rfl
  | some p =>
    by_cases hj : p.transfer = j
    · simp only [own?, hn, if_pos hj]
      exact h.agrees_fulfil_self hd hn hj fault
    · have hkeep : Mirrors j (d.keep n p) alone :=
        ⟨h.clock, h.files, h.transfer, by rw [h.promises, promisesFor_keep_of_ne hn hj]⟩
      simp only [step, own?, hn, if_neg hj]
      split
      · exact hkeep.agrees_of_unseen (onlyTransfers_setTransfer _ _ _) (seen_setTransfer_of_ne hj _)
      · exact h.agrees_rfl rfl rfl
      · exact h.agrees_rfl rfl rfl

/-! ## Both step by step -/

/-- **What is left does the same, and what is not left is not seen.** -/
theorem Mirrors.agrees_step (h : Mirrors j d alone) {past' : List Happening} (hd : d.Good past)
    (ha : alone.Good past') (input : Input)
    (hbackend : d.begins j input = true → alone.backend = d.backend) :
    Agrees j (d.step input) (alone.pass (d.own? j input)) := by
  cases input with
  | request bytes sender => exact h.agrees_request bytes sender hbackend
  | arrive i bytes sender =>
    exact h.agrees_touch_ite
      (fun t => t.connection.receive bytes (sender.getD t.connection.peer)) rfl
  | advance span => exact h.agrees_advance hd ha span
  | setBackend backend => exact ⟨⟨h.clock, h.files, h.transfer, h.promises⟩, rfl⟩
  | stop i => exact h.agrees_touch_ite (fun t => t.connection.stop) rfl
  | fail i failure =>
    exact h.agrees_touch_ite (fun t => { connection := t.connection.setFailure failure }) rfl
  | fulfil n fault => exact h.agrees_fulfil hd n fault

/-! ## Both over a run

The backend at the time of the request is the only thing that the second run has to be told
beforehand. It is found by looking ahead in the inputs (`backendFor`), and stays set on the other
side since no input that is left sets another one. -/

/-- Transfers stay where they are, and only setting another backend changes the backend. This is
read off the inputs one by one, and is all that is needed of the inputs that concern other
transfers. -/
theorem keeps_step (d : Dispatcher) (input : Input) :
    d.transfers.length ≤ (d.step input).2.transfers.length ∧
      ((d.step input).2.backend = d.backend ∨ ∃ backend, input = .setBackend backend) := by
  have hkeeps {d' : Dispatcher} (hlength : d'.transfers.length = d.transfers.length)
      (hbackend : d'.backend = d.backend) : d.transfers.length ≤ d'.transfers.length ∧
        (d'.backend = d.backend ∨ ∃ backend, input = .setBackend backend) :=
    ⟨hlength.ge, .inl hbackend⟩
  have htouch (i : Nat) (f : Transfer → Connection.Effect) :=
    hkeeps (d.onlyTransfers_touch i f).length (d.onlyTransfers_touch i f).backend
  cases input with
  | request bytes sender =>
    obtain ⟨newcomer, hrequest⟩ := exists_request d.backend d.files d.clock bytes sender
    obtain ⟨-, hafter⟩ := hrequest d rfl rfl rfl
    have hstep : (d.step (.request bytes sender)).2 = (d.welcome newcomer).2 := hafter
    rw [hstep]
    refine ⟨?_, .inl (d.backend_welcome newcomer)⟩
    cases newcomer with
    | none => exact Nat.le_refl _
    | some newcomer =>
      rw [length_welcome]
      exact Nat.le_succ _
  | arrive i bytes sender => exact htouch i _
  | advance span =>
    have hall := onlyTransfers_expireAll { d with clock := d.clock + span }
      (dueTransfers { d with clock := d.clock + span })
    exact hkeeps hall.length hall.backend
  | setBackend backend => exact ⟨Nat.le_refl _, .inr ⟨backend, rfl⟩⟩
  | stop i => exact htouch i _
  | fail i failure => exact htouch i _
  | fulfil n fault =>
    simp only [step]
    split
    · split
      · exact hkeeps List.length_set rfl
      · exact hkeeps rfl rfl
      · exact hkeeps rfl rfl
    · exact hkeeps rfl rfl

/-- What is left sets no other backend. -/
theorem own?_ne_setBackend {input input' : Input} (h : d.own? j input = some input')
    (backend : Option Backend) : input' ≠ .setBackend backend := by
  rintro rfl
  cases input with
  | advance span => cases h
  | setBackend backend => cases h
  | fulfil n fault =>
    rw [own?] at h
    split at h
    · split at h <;> cases h
    · cases h
  | _ =>
    rw [own?] at h
    split at h <;> cases h

/-- What is left of an input leads from a good dispatcher to a good one. -/
theorem Good.exists_good_pass (h : d.Good past) (input? : Option Input) :
    ∃ past', (d.pass input?).2.Good past' := by
  cases input? with
  | none => exact ⟨past, h⟩
  | some input => exact ⟨_, h.goes_step input⟩

/-- The backend that matters is the one that is set when the transfer begins. -/
theorem backend_pass_own {input : Input} {inputs : List Input}
    (h : d.transfers.length ≤ j → alone.backend = d.backendFor j (input :: inputs))
    (hlength : (d.step input).2.transfers.length ≤ j) :
    (alone.pass (d.own? j input)).2.backend = (d.step input).2.backendFor j inputs := by
  have hbegins : ¬ d.begins j input = true := fun hbegins =>
    Nat.not_lt.mpr hlength (of_decide_eq_true hbegins).2
  have hkept : (alone.pass (d.own? j input)).2.backend = alone.backend := by
    cases hown : d.own? j input with
    | none => rfl
    | some input' =>
      rcases (alone.keeps_step input').2 with hbackend | ⟨backend, hset⟩
      · exact hbackend
      · exact absurd hset (own?_ne_setBackend hown backend)
  rw [hkept, h ((d.keeps_step input).1.trans hlength), backendFor, if_neg hbegins]

/-- The induction follows the run with everything in it. On the other side an input is passed on or
left out, and both go on to have the same for the transfer. The rest of the inputs is carried along
since the backend that matters may be set long after the beginning. -/
theorem Mirrors.run (h : Mirrors j d alone) {past' : List Happening} (hd : d.Good past)
    (ha : alone.Good past') (inputs rest : List Input)
    (hbackend : d.transfers.length ≤ j → alone.backend = d.backendFor j (inputs ++ rest)) :
    Mirrors j (d.run inputs).2 (alone.run (d.concerning j inputs)).2 ∧
      sendings (alone.history (d.concerning j inputs)) 0 = sendings (d.history inputs) j := by
  induction inputs generalizing d alone past past' with
  | nil => exact ⟨h, rfl⟩
  | cons input inputs ih =>
    -- the backend that counts is set by the time the request comes
    have hstep := h.agrees_step hd ha input (by
      intro hbegins
      rw [hbackend (of_decide_eq_true hbegins).1.le, List.cons_append, backendFor, if_pos hbegins])
    obtain ⟨past'', hgood⟩ := ha.exists_good_pass (d.own? j input)
    obtain ⟨hmirrors, hsendings⟩ := ih hstep.mirrors (hd.goes_step input) hgood
      (backend_pass_own hbackend)
    rw [sendings_history_cons, ← hstep.sent, ← hstep.mirrors.clock, ← hsendings, concerning]
    -- an input that is not left makes no step on the other side
    cases hown : d.own? j input with
    | none =>
      rw [hown] at hmirrors
      exact ⟨hmirrors, rfl⟩
    | some input' =>
      rw [hown] at hmirrors
      refine ⟨hmirrors, ?_⟩
      exact sendings_history_cons alone input' _ 0

/-- **Transfers are isolated.** Whatever requests come from anyone, whatever arrives at any transfer
and however time passes, also when other backends are set, transports stop, writes fail and promises
are kept: after each of these things a transfer is what it would be, with the same timer, and it has
sent the same at the same times, if there had been nothing but its own request, with the backend
that was set when that came, what was addressed to it and the passing of time. -/
theorem isolated (backend : Option Backend) (files : FileSystem) (clock : Time)
    (inputs : List Input) (j n : Nat) :
    let d : Dispatcher := { backend, files, clock }
    let alone : Dispatcher := { backend := d.backendFor j inputs, files, clock }
    let past := inputs.take n
    let own := d.concerning j past
    own <+: d.concerning j inputs ∧
      (alone.run own).2.transfers[0]? = (d.run past).2.transfers[j]? ∧
      (alone.run own).2.armed.count 0 = (d.run past).2.armed.count j ∧
      (alone.run own).2.clock = (d.run past).2.clock ∧
      sendings (alone.history own) 0 = sendings (d.history past) j := by
  intro d alone past own
  have hsplit : past ++ inputs.drop n = inputs := List.take_append_drop n inputs
  have hgood : d.Good [] := good_new backend files clock
  have halone : alone.Good [] := good_new (d.backendFor j inputs) files clock
  have hstart : Mirrors j d alone := ⟨rfl, rfl, rfl, rfl⟩
  obtain ⟨hmirrors, hsendings⟩ := hstart.run hgood halone past (inputs.drop n) (by
    intro _
    rw [hsplit])
  refine ⟨?_, hmirrors.transfer, ?_, hmirrors.clock, hsendings⟩
  · rw [← hsplit, concerning_append]
    exact List.prefix_append _ _
  · rw [((halone.run own).sane.tidy 0 trivial).armed, ((hgood.run past).sane.tidy j trivial).armed,
      due?, due?, hmirrors.transfer]

end Dispatcher

end Tftp
