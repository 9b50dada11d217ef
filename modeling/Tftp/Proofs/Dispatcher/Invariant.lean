import Tftp.Proofs.Dispatcher.History
import Tftp.Proofs.Transfer.Rest

/-!
# The invariant of a dispatcher

Whatever happens to a dispatcher, afterwards all of its transfers rest, its timers are those of the
transfers that wait for a packet, and none of them is due.

* `Dispatcher.Promised` — a backend owes a transfer its file;
* `Dispatcher.Tidy` — what holds of one transfer at all times, except while it is resumed;
* `Dispatcher.Sane` — the transfers with some numbers are tidy, and promises go to different ones;
* `Dispatcher.Punctual` — no timer of the transfers with some numbers is due;
* `Dispatcher.Good` — both for all transfers.

While one transfer is resumed the invariant holds for all the others, which do not notice it
(`Tidy.frame`), and `Sane.update` puts it together again afterwards. `Good.goes_step` is the step of
the main induction and `Good.run` its end.
-/

namespace Tftp

namespace Dispatcher

/-- A promise for a transfer is not kept yet. A promise is kept only once, and is not taken off the
list when it is. -/
def Promised (d : Dispatcher) (i : Nat) : Prop :=
  ∃ p ∈ d.promises, p.transfer = i ∧ p.kept = false

/-- A transfer is in order: it rests, it is owed its file exactly when it has not got it, and it is
in the order of the timers exactly once if it has one. -/
structure Tidy (past : List Happening) (d : Dispatcher) (i : Nat) : Prop where
  /-- it waits for its file or for a packet, or is over -/
  rests : ∀ t, d.transfers[i]? = some t → t.Rests (trace past i)
  /-- it waits for its file exactly as long as it is owed one -/
  opening : ∀ t, d.transfers[i]? = some t → (t.session.IsOpening ↔ d.Promised i)
  /-- it is in the order of the timers once if it has one -/
  armed : d.armed.count i = if (d.due? i).isSome then 1 else 0

/-- The transfers with some numbers are in order, and no two promises are for the same one. -/
structure Sane (past : List Happening) (d : Dispatcher) (P : Nat → Prop) : Prop where
  /-- each of them is in order -/
  tidy : ∀ i, P i → d.Tidy past i
  /-- no two promises are for one transfer -/
  nodup : (d.promises.map Promise.transfer).Nodup
  /-- a promise is for a transfer that is there -/
  bound : ∀ p ∈ d.promises, p.transfer < d.transfers.length

/-- No timer of the transfers with some numbers is due. After time has passed this holds of all
transfers, since those whose time is over are resumed one by one. -/
def Punctual (d : Dispatcher) (P : Nat → Prop) : Prop :=
  ∀ i t, P i → d.transfers[i]? = some t → t.InTime d.clock

variable {past : List Happening} {d : Dispatcher} {i : Nat} {t : Transfer} {now : Time}

/-- What does not concern a transfer leaves it in order. Of the dispatcher only four things count
here: the transfer itself, the promise for it, its place in the order of the timers, and its
past. -/
theorem Tidy.frame (h : d.Tidy past i) {d' : Dispatcher} {past' : List Happening}
    (ht : d'.transfers[i]? = d.transfers[i]?) (hpromised : d'.Promised i ↔ d.Promised i)
    (harmed : d'.armed.count i = d.armed.count i) (htrace : trace past' i = trace past i) :
    d'.Tidy past' i where
  rests := by
    rw [ht, htrace]
    exact h.rests
  opening := by
    rw [ht, hpromised]
    exact h.opening
  armed := by
    rw [due?, ht, harmed]
    exact h.armed

/-- A transfer that is there is in order if it rests, is owed what it waits for, and has its timer
in the order once or not at all. -/
theorem tidy_of_getElem? (ht : d.transfers[i]? = some t) (hrests : t.Rests (trace past i))
    (hopening : t.session.IsOpening ↔ d.Promised i)
    (harmed : d.armed.count i = if t.connection.timer.isSome then 1 else 0) : d.Tidy past i where
  rests := by
    intro u hu
    rw [ht, Option.some.injEq] at hu
    rw [← hu]
    exact hrests
  opening := by
    intro u hu
    rw [ht, Option.some.injEq] at hu
    rw [← hu]
    exact hopening
  armed := by
    rw [due?, ht]
    exact harmed

/-- A transfer that is in order is in the order of the timers as often as it has one. -/
theorem Tidy.count_armed (h : d.Tidy past i) (ht : d.transfers[i]? = some t) :
    d.armed.count i = if t.connection.timer.isSome then 1 else 0 := by
  have harmed := h.armed
  rw [due?, ht] at harmed
  exact harmed

/-- If all transfers are in order, all but one of them are. -/
theorem Sane.except (h : d.Sane past fun _ => True) (i : Nat) : d.Sane past (· ≠ i) where
  tidy j _ := h.tidy j trivial
  nodup := h.nodup
  bound := h.bound

/-! ## One transfer is resumed

While a transfer is resumed it is not in order, and neither is its timer. The others are, and so the
invariant is stated for the transfers with some numbers only, until the one that was resumed rests
and joins them. -/

/-- One transfer was resumed, and rests again. What it sent is added to the history, and changes the
past of no other transfer. -/
theorem Sane.update (h : d.Sane past (· ≠ i)) (hi : i < d.transfers.length) {a : Activity}
    {u : Transfer} {armed : List Nat}
    (hu : u.Rests ((trace past i).stamp now a.sent))
    (hopening : u.session.IsOpening ↔ d.Promised i)
    (hself : armed.count i = if u.connection.timer.isSome then 1 else 0)
    (hothers : ∀ j, j ≠ i → armed.count j = d.armed.count j) :
    Sane (past ++ (Report.ofActivity i a).sendings now)
      { d with transfers := d.transfers.set i u, armed } fun _ => True where
  tidy := by
    intro j _
    by_cases hj : j = i
    · subst hj
      refine tidy_of_getElem? (List.getElem?_set_self hi) ?_ hopening hself
      rw [trace_append_sendings_self]
      exact hu
    · exact (h.tidy j hj).frame (List.getElem?_set_ne (Ne.symm hj)) Iff.rfl (hothers j hj)
        (trace_append_sendings_of_ne past hj a now)
  nodup := h.nodup
  bound := by
    intro p hp
    rw [List.length_set]
    exact h.bound p hp

/-- Setting a transfer sets its timer last, and leaves the others in their order. What is counted is
how often the number of a transfer stands in the order, and taking out one number changes no count
but its own. -/
theorem Sane.setTransfer (h : d.Sane past (· ≠ i)) (hi : i < d.transfers.length) {a : Activity}
    {u : Transfer} (hu : u.Rests ((trace past i).stamp now a.sent))
    (hopening : u.session.IsOpening ↔ d.Promised i) :
    (d.setTransfer i u).Sane (past ++ (Report.ofActivity i a).sendings now) fun _ => True := by
  refine h.update hi hu hopening ?_ ?_
  · -- its own timer is taken out of the order and put at the end again
    have hcount : (d.armed.filter (· != i)).count i = 0 := by
      rw [List.count_eq_zero]
      simp
    rw [List.count_append, hcount]
    split <;> simp
  · intro j hj
    have hcount : (d.armed.filter (· != i)).count j = d.armed.count j :=
      List.count_filter (by simpa using hj)
    rw [List.count_append, hcount]
    split
    · rw [List.count_singleton, if_neg (by simpa using Ne.symm hj), Nat.add_zero]
    · rw [List.count_nil, Nat.add_zero]

/-- A transfer that was set with a timer that is not due joins those without a due timer. -/
theorem Punctual.setTransfer {P : Nat → Prop} (h : d.Punctual P) (hi : i < d.transfers.length)
    {u : Transfer} (hu : u.InTime d.clock) :
    (d.setTransfer i u).Punctual fun j => j = i ∨ P j := by
  intro j v hj hjv
  by_cases hji : j = i
  · subst hji
    rw [Dispatcher.setTransfer, List.getElem?_set_self hi, Option.some.injEq] at hjv
    rw [← hjv]
    exact hu
  · rw [Dispatcher.setTransfer, List.getElem?_set_ne (Ne.symm hji)] at hjv
    exact h j v (hj.resolve_left hji) hjv

/-! ## Something happens to a connection

A packet arrives, a timer runs out, a transport stops or fails: each of these is an effect on one
connection, and settles the pending read or leaves it. That the transfer keeps to its rest is the
work of `Transfer.Keeps`; here only the order of the timers is added. -/

/-- Nothing that happens to a connection takes time. -/
@[simp] theorem clock_absorb (d : Dispatcher) (i : Nat) (t : Transfer) (e : Connection.Effect) :
    (d.absorb i t e).2.clock = d.clock := by
  rw [absorb]
  dsimp only
  split <;> rfl

/-- What happens to the connection of one transfer changes that transfer alone. -/
theorem transfers_absorb (d : Dispatcher) (i : Nat) (t : Transfer) (e : Connection.Effect) :
    (d.absorb i t e).2.transfers = d.transfers.set i (t.absorb d.clock e).2 := by
  rw [absorb]
  dsimp only
  split <;> rfl

/-- Something happens to the connection of one transfer. Either its read is settled, and the
transfer goes on with its timer at the end of the order; or it stays as it was with its timer in its
place. -/
theorem Sane.absorb (h : d.Sane past fun _ => True) (ht : d.transfers[i]? = some t)
    {e : Connection.Effect} (hk : t.Keeps (trace past i) d.clock e) :
    (d.absorb i t e).2.Sane (past ++ (d.absorb i t e).1.sendings d.clock) fun _ => True := by
  have hi : i < d.transfers.length := (List.getElem?_eq_some_iff.mp ht).1
  have htidy := h.tidy i trivial
  have hopening := hk.opening.trans (htidy.opening t ht)
  rw [Dispatcher.absorb]
  dsimp only
  split
  · exact (h.except i).setTransfer hi hk.rests hopening
  · next hnone =>
    -- the timer is as it was, and keeps its place among the others
    have hsettled : e.settled = none := by simpa using hnone
    refine (h.except i).update hi hk.rests hopening ?_ fun _ _ => rfl
    rw [hk.timer hsettled]
    exact htidy.count_armed ht

/-- A timer of the transfer that something happened to is not due either. -/
theorem Punctual.absorb {P : Nat → Prop} (h : d.Punctual P) (hi : i < d.transfers.length)
    {e : Connection.Effect} (hu : (t.absorb d.clock e).2.InTime d.clock) :
    (d.absorb i t e).2.Punctual fun j => j = i ∨ P j := by
  intro j u hj hju
  rw [transfers_absorb] at hju
  rw [clock_absorb]
  by_cases hji : j = i
  · subst hji
    rw [List.getElem?_set_self hi, Option.some.injEq] at hju
    rw [← hju]
    exact hu
  · rw [List.getElem?_set_ne (Ne.symm hji)] at hju
    exact h j u (hj.resolve_left hji) hju

/-! ## Time passes

The clock moves first, and then the timers that are due run out in their order. Running out may set
new timers, and these are not due: a timer is set for a time after the clock. So it is enough to go
through those that were due once. -/

/-- That a timer runs out takes no time of its own. -/
@[simp] theorem clock_expire (d : Dispatcher) (i : Nat) : (d.expire i).2.clock = d.clock := by
  rw [expire]
  split
  · exact clock_absorb d i _ _
  · rfl

/-- When the time of a transfer is over, all transfers are in order afterwards. -/
theorem Sane.expire (h : d.Sane past fun _ => True) (i : Nat) :
    (d.expire i).2.Sane (past ++ (d.expire i).1.sendings d.clock) fun _ => True := by
  rw [Dispatcher.expire]
  split
  · next t ht => exact h.absorb ht ((h.tidy i trivial).rests t ht).keeps_expire
  · rw [Report.sendings_empty, List.append_nil]
    exact h

/-- A timer whose time has come is due no longer, and no other becomes due. -/
theorem Punctual.expire (h : d.Sane past fun _ => True) {P : Nat → Prop} (hp : d.Punctual P)
    (i : Nat) : (d.expire i).2.Punctual fun j => j = i ∨ P j := by
  rw [Dispatcher.expire]
  split
  · next t ht =>
    have hrests := (h.tidy i trivial).rests t ht
    exact hp.absorb (List.getElem?_eq_some_iff.mp ht).1 hrests.inTime_expire
  · next hnone =>
    intro j u hj hju
    refine hp j u (hj.resolve_left ?_) hju
    rintro rfl
    rw [hnone] at hju
    cases hju

/-- All timers that are due at once run out at once. -/
@[simp] theorem clock_expireAll (d : Dispatcher) (is : List Nat) :
    (d.expireAll is).2.clock = d.clock := by
  induction is generalizing d with
  | nil => rfl
  | cons i is ih =>
    rw [expireAll]
    exact (ih _).trans (clock_expire d i)

/-- The times of several transfers come one after the other. -/
theorem Sane.expireAll (h : d.Sane past fun _ => True) (is : List Nat) :
    (d.expireAll is).2.Sane (past ++ (d.expireAll is).1.sendings d.clock) fun _ => True := by
  induction is generalizing d past with
  | nil =>
    rw [Dispatcher.expireAll, Report.sendings_empty, List.append_nil]
    exact h
  | cons i is ih =>
    have hrest := ih (h.expire i)
    rw [clock_expire, List.append_assoc, ← Report.sendings_append] at hrest
    exact hrest

/-- The transfers whose times are over join those without a due timer, one after the other. -/
theorem Punctual.expireAll (h : d.Sane past fun _ => True) {P : Nat → Prop} (hp : d.Punctual P)
    (is : List Nat) : (d.expireAll is).2.Punctual fun j => j ∈ is ∨ P j := by
  induction is generalizing d past P with
  | nil =>
    intro j u hj
    exact hp j u (hj.resolve_left List.not_mem_nil)
  | cons i is ih =>
    intro j u hj
    refine ih (h.expire i) (hp.expire h i) j u ?_
    rcases hj with hj | hj
    · rcases List.mem_cons.mp hj with rfl | hj
      · exact .inr (.inl rfl)
      · exact .inl hj
    · exact .inr (.inr hj)

/-- The transfers whose time is over are those with a running timer that is due. -/
theorem mem_dueTransfers : i ∈ d.dueTransfers ↔
    i ∈ d.armed ∧ ∃ due, d.due? i = some due ∧ due ≤ d.clock := by
  simp only [dueTransfers, List.mem_map, List.mem_mergeSort, List.mem_filter, List.mem_filterMap,
    Option.map_eq_some_iff, decide_eq_true_eq]
  constructor
  · rintro ⟨x, ⟨⟨j, hj, due, hdue, rfl⟩, hle⟩, rfl⟩
    exact ⟨hj, due, hdue, hle⟩
  · rintro ⟨hi, due, hdue, hle⟩
    exact ⟨(due, i), ⟨⟨i, hi, due, hdue, rfl⟩, hle⟩, rfl⟩

/-- The invariant does not depend on the clock. -/
theorem Sane.later (h : d.Sane past fun _ => True) (span : Time) :
    Sane past { d with clock := d.clock + span } fun _ => True where
  tidy j hj := (h.tidy j hj).frame rfl Iff.rfl rfl rfl
  nodup := h.nodup
  bound := h.bound

/-- Every timer that is due runs, and so it is among those whose time is over. -/
theorem Sane.punctual_dueTransfers (h : d.Sane past fun _ => True) :
    d.Punctual (· ∉ d.dueTransfers) := by
  intro j t hj ht due hdue
  have hsome : d.due? j = some due := by
    rw [due?, ht]
    exact hdue
  have hcount := (h.tidy j trivial).armed
  rw [hsome, Option.isSome_some, if_pos rfl] at hcount
  have harmed : j ∈ d.armed := by
    rw [← List.count_pos_iff, hcount]
    exact Nat.one_pos
  by_contra hlate
  exact hj (mem_dueTransfers.mpr ⟨harmed, due, hsome, Int.not_lt.mp hlate⟩)

/-- After time has passed no timer is due. -/
theorem Sane.punctual_advance (h : d.Sane past fun _ => True) (span : Time) :
    (d.advance span).2.Punctual fun _ => True := by
  have hlater := h.later span
  intro j u _ hju
  -- each timer is among those whose time is over, or it was not due before
  exact hlater.punctual_dueTransfers.expireAll hlater _ j u (Classical.em _) hju

/-! ## New transfers and promises

A request adds a transfer at the end, and a backend that will answer later adds a promise for it.
Promises go to different transfers, so that keeping one settles it for its own transfer alone. -/

/-- The dispatcher with one transfer more. -/
def extend (d : Dispatcher) (t : Transfer) : Dispatcher :=
  { d with transfers := d.transfers ++ [t] }

/-- The dispatcher with the promise of a file for its latest transfer. -/
def promiseLast (d : Dispatcher) (t : Transfer) (file : File) : Dispatcher :=
  { d.extend t with promises := d.promises ++ [⟨d.transfers.length, file, false⟩] }

/-- The dispatcher after a promise was kept or broken. -/
def keep (d : Dispatcher) (n : Nat) (p : Promise) : Dispatcher :=
  { d with promises := d.promises.set n { p with kept := true } }

/-- Nothing is owed to the transfer that comes next, since promises are for transfers that are
there. -/
theorem Sane.not_promised_length (h : d.Sane past fun _ => True) :
    ¬ d.Promised d.transfers.length := by
  rintro ⟨p, hp, hlength, -⟩
  have := h.bound p hp
  omega

/-- A new transfer has the next number. -/
theorem getElem?_extend_self (d : Dispatcher) (t : Transfer) :
    (d.extend t).transfers[d.transfers.length]? = some t :=
  List.getElem?_concat_length

/-- A new transfer leaves the other numbers as they are. -/
theorem getElem?_extend_of_ne (d : Dispatcher) (t : Transfer) {j : Nat}
    (h : j ≠ d.transfers.length) : (d.extend t).transfers[j]? = d.transfers[j]? := by
  rcases Nat.lt_or_gt_of_ne h with hlt | hgt
  · exact List.getElem?_append_left hlt
  · have hnone : d.transfers[j]? = none := List.getElem?_eq_none (Nat.le_of_lt hgt)
    rw [hnone, extend, List.getElem?_eq_none_iff, List.length_append]
    exact hgt

/-- There is one transfer more, so that the next number is in range. -/
theorem length_lt_extend (d : Dispatcher) (t : Transfer) :
    d.transfers.length < (d.extend t).transfers.length := by
  rw [extend, List.length_append]
  exact Nat.lt_succ_self _

/-- A transfer that is new leaves the others as they are. -/
theorem Sane.extend (h : d.Sane past fun _ => True) (t : Transfer) :
    (d.extend t).Sane past (· ≠ d.transfers.length) where
  tidy j hj := (h.tidy j trivial).frame (getElem?_extend_of_ne d t hj) Iff.rfl rfl rfl
  nodup := h.nodup
  bound p hp := (h.bound p hp).trans (length_lt_extend d t)

/-- A new transfer makes no timer of the others due. -/
theorem Punctual.extend (h : d.Punctual fun _ => True) (t : Transfer) :
    (d.extend t).Punctual (· ≠ d.transfers.length) := by
  intro j u hj hu
  rw [getElem?_extend_of_ne d t hj] at hu
  exact h j u trivial hu

/-- A promise for the new transfer is none for another one. -/
theorem promised_promiseLast_of_ne (t : Transfer) (file : File) {j : Nat}
    (h : j ≠ d.transfers.length) : (d.promiseLast t file).Promised j ↔ d.Promised j := by
  constructor
  · rintro ⟨p, hp, hpj, hkept⟩
    rcases List.mem_append.mp hp with hp | hp
    · exact ⟨p, hp, hpj, hkept⟩
    · rw [List.mem_singleton.mp hp] at hpj
      exact absurd hpj.symm h
  · rintro ⟨p, hp, hpj⟩
    exact ⟨p, List.mem_append_left _ hp, hpj⟩

/-- Keeping a promise settles it for its transfer, and for no other. -/
theorem promised_keep_iff {n j : Nat} {p : Promise} (hn : d.promises[n]? = some p)
    (hnodup : (d.promises.map Promise.transfer).Nodup) :
    (d.keep n p).Promised j ↔ j ≠ p.transfer ∧ d.Promised j := by
  obtain ⟨hlt, -⟩ := List.getElem?_eq_some_iff.mp hn
  constructor
  · rintro ⟨q, hq, hqj, hkept⟩
    obtain ⟨m, hm⟩ := List.mem_iff_getElem?.mp hq
    by_cases hmn : n = m
    · subst hmn
      rw [keep, List.getElem?_set_self hlt, Option.some.injEq] at hm
      rw [← hm] at hkept
      cases hkept
    · rw [keep, List.getElem?_set_ne hmn] at hm
      refine ⟨?_, q, List.mem_of_getElem? hm, hqj, hkept⟩
      -- a second promise for the same transfer would repeat its number
      rintro rfl
      have hlt' : n < (d.promises.map Promise.transfer).length := by
        rw [List.length_map]
        exact hlt
      refine hmn ((List.getElem?_inj hlt' hnodup).mp ?_)
      rw [List.getElem?_map, List.getElem?_map, hn, hm, Option.map_some, Option.map_some, hqj]
  · rintro ⟨hj, q, hq, hqj, hkept⟩
    obtain ⟨m, hm⟩ := List.mem_iff_getElem?.mp hq
    have hne : n ≠ m := by
      rintro rfl
      rw [hn, Option.some.injEq] at hm
      rw [hm] at hj
      exact hj hqj.symm
    refine ⟨q, List.mem_iff_getElem?.mpr ⟨m, ?_⟩, hqj, hkept⟩
    rw [keep, List.getElem?_set_ne hne]
    exact hm

/-- A promise that is kept is for the same transfer as before. -/
theorem map_transfer_keep {n : Nat} {p : Promise} (hn : d.promises[n]? = some p) :
    (d.keep n p).promises.map Promise.transfer = d.promises.map Promise.transfer := by
  have hget : (d.promises.map Promise.transfer)[n]? = some p.transfer := by
    rw [List.getElem?_map, hn]
    rfl
  obtain ⟨hlt, hself⟩ := List.getElem?_eq_some_iff.mp hget
  rw [keep, List.map_set, ← hself, List.set_getElem_self]

/-- Keeping a promise leaves all transfers in order but its own, which now has to be supplied. -/
theorem Sane.keep (h : d.Sane past fun _ => True) {n : Nat} {p : Promise}
    (hn : d.promises[n]? = some p) : (d.keep n p).Sane past (· ≠ p.transfer) where
  tidy := by
    intro j hj
    refine (h.tidy j trivial).frame rfl ?_ rfl rfl
    rw [promised_keep_iff hn h.nodup]
    exact and_iff_right hj
  nodup := by
    rw [map_transfer_keep hn]
    exact h.nodup
  bound := by
    intro q hq
    rcases List.mem_or_eq_of_mem_set hq with hq | rfl
    · exact h.bound q hq
    · exact h.bound p (List.mem_of_getElem? hn)

/-! ## One step

The invariant goes from one input to the next. For each input it is shown that what comes of it is
good again (`Goes`), with the datagrams that were sent added to the history. -/

/-- The invariant of all transfers, after some history. -/
structure Good (past : List Happening) (d : Dispatcher) : Prop where
  /-- all transfers are in order -/
  sane : d.Sane past fun _ => True
  /-- no timer is due -/
  punctual : d.Punctual fun _ => True

/-- What comes of something that happens is good again, after a history with what was sent just
now. -/
def Goes (past : List Happening) (r : Report × Dispatcher) : Prop :=
  r.2.Good (past ++ r.1.sendings r.2.clock)

/-- A report that sends nothing, put in front, changes nothing. -/
theorem Goes.report {report : Report} {r : Report × Dispatcher} (h : Goes past r)
    (hsent : report.sent = []) : Goes past (report ++ r.1, r.2) := by
  rw [Goes, Report.sendings_append, Report.sendings_eq_nil hsent, List.nil_append]
  exact h

/-- A dispatcher that stays as it is and sends nothing stays good. -/
theorem Good.goes (h : d.Good past) {report : Report} (hsent : report.sent = []) :
    Goes past (report, d) := by
  rw [Goes, Report.sendings_eq_nil hsent, List.append_nil]
  exact h

/-- Every transfer of a good dispatcher rests. -/
theorem Good.rests (h : d.Good past) (ht : d.transfers[i]? = some t) : t.Rests (trace past i) :=
  (h.sane.tidy i trivial).rests t ht

/-- Something happens to the connection of one transfer. -/
theorem Good.goes_absorb (h : d.Good past) (ht : d.transfers[i]? = some t)
    {e : Connection.Effect} (hk : t.Keeps (trace past i) d.clock e) :
    Goes past (d.absorb i t e) := by
  have hi : i < d.transfers.length := (List.getElem?_eq_some_iff.mp ht).1
  have hsane := h.sane.absorb ht hk
  have hpunctual := h.punctual.absorb hi (hk.inTime_absorb (h.punctual i t trivial ht))
  rw [Goes, clock_absorb]
  exact ⟨hsane, fun j u _ hju => hpunctual j u (.inr trivial) hju⟩

/-- One transfer ran and rests settled, and the others are good already. -/
theorem goes_setTransfer (h : d.Sane past (· ≠ i)) (hp : d.Punctual (· ≠ i))
    (hi : i < d.transfers.length) (hnot : ¬ d.Promised i) {r : Activity × Transfer}
    (hr : r.2.Rested ((trace past i).stamp d.clock r.1.sent) d.clock) :
    Goes past (.ofActivity i r.1, d.setTransfer i r.2) := by
  refine ⟨?_, fun j u _ hju => ?_⟩
  · exact h.setTransfer hi (.inr hr.settled) (iff_of_false hr.settled.not_isOpening hnot)
  · exact hp.setTransfer hi hr.inTime j u (Classical.em _) hju

/-- A transfer that is supplied with its file, or with the reason why there is none, runs until it
rests. -/
theorem goes_supply (h : d.Sane past (· ≠ i)) (hp : d.Punctual (· ≠ i))
    (hi : i < d.transfers.length) (hnot : ¬ d.Promised i) (ht : t.Awaits (trace past i))
    (answer : Except Fault File) : Goes past (d.supply i t answer) := by
  have hsupply : d.supply i t answer = (.ofActivity i (t.supply d.clock answer).1,
      d.setTransfer i (t.supply d.clock answer).2) := rfl
  rw [hsupply]
  exact goes_setTransfer h hp hi hnot (ht.rested_supply answer)

/-- A transfer that was promised its file, and is new, waits for it. Its number is that of no
promise before, since those are for transfers that were there, and it has no timer yet. -/
theorem Good.promiseLast (h : d.Good past) (ht : t.Awaits (trace past d.transfers.length))
    (file : File) : (d.promiseLast t file).Good past := by
  have hsane := h.sane.extend t
  have hself := d.getElem?_extend_self t
  refine ⟨⟨?_, ?_, ?_⟩, ?_⟩
  · intro j _
    by_cases hj : j = d.transfers.length
    · subst hj
      have hpromised : (d.promiseLast t file).Promised d.transfers.length :=
        ⟨_, List.mem_append_right _ (List.mem_singleton.mpr rfl), rfl, rfl⟩
      refine tidy_of_getElem? hself (.inl ht) (iff_of_true ht.opening hpromised) ?_
      have harmed := (h.sane.tidy d.transfers.length trivial).armed
      rw [due?, List.getElem?_eq_none (Nat.le_refl _)] at harmed
      rw [ht.timer]
      exact harmed
    · exact (hsane.tidy j hj).frame rfl (promised_promiseLast_of_ne t file hj) rfl rfl
  · rw [Dispatcher.promiseLast, List.map_append, List.nodup_append]
    refine ⟨h.sane.nodup, List.pairwise_singleton _ _, ?_⟩
    intro j hj k hk
    obtain ⟨p, hp, rfl⟩ := List.mem_map.mp hj
    rw [List.mem_singleton.mp hk]
    exact Nat.ne_of_lt (h.sane.bound p hp)
  · intro p hp
    rcases List.mem_append.mp hp with hp | hp
    · exact hsane.bound p hp
    · rw [List.mem_singleton.mp hp]
      exact length_lt_extend d t
  · intro j u _ hu
    by_cases hj : j = d.transfers.length
    · subst hj
      obtain rfl : t = u := Option.some.inj (hself.symm.trans hu)
      intro due hdue
      rw [ht.timer] at hdue
      cases hdue
    · exact h.punctual.extend t j u hj hu

/-- A new transfer asks for its file, gets it at once or later, or needs none. -/
theorem Good.goes_openTransfer (h : d.Good past) (hidle : t.Idle (trace past d.transfers.length))
    (hstart : t.session.IsOpening ∨ ∀ trace now, t.session.Awake trace now) :
    Goes past ((d.extend t).openTransfer d.transfers.length t) := by
  have hsane := h.sane.extend t
  have hpunctual := h.punctual.extend t
  have hnot : ¬ (d.extend t).Promised d.transfers.length := h.sane.not_promised_length
  have hi := d.length_lt_extend t
  rw [openTransfer]
  dsimp only
  split
  · next filename resume hcall =>
    have hawaits : t.Awaits (trace past d.transfers.length) :=
      ⟨hidle, Session.isOpening_of_call hcall⟩
    split
    · exact (goes_supply hsane hpunctual hi hnot hawaits _).report rfl
    · exact (goes_supply hsane hpunctual hi hnot hawaits _).report rfl
    · exact (h.promiseLast hawaits _).goes rfl
  · next hcall =>
    -- a request that needs no file is served at once
    have hawake : ∀ trace now, t.session.Awake trace now := by
      refine hstart.resolve_left ?_
      rintro ⟨filename, options, hp⟩
      exact hcall filename _ (by rw [Session.call, hp])
    have hrunning : t.Running (trace past d.transfers.length) d.clock := ⟨hidle, hawake _ _⟩
    exact goes_setTransfer hsane hpunctual hi hnot hrunning.rested_run

/-- A request gets a transfer of its own. -/
theorem Good.goes_serve (h : d.Good past) (request : Packet) (sender : Address) :
    Goes past (d.serve request sender) := by
  have hstart := Session.isOpening_or_awake_start sender request.toDraft
  exact Goes.report (h.goes_openTransfer ⟨rfl, rfl, rfl, fun _ => rfl⟩ hstart) rfl

/-- A datagram at the main socket starts a transfer, or changes nothing. -/
theorem Good.goes_request (h : d.Good past) (bytes : Bytes) (sender : Address) :
    Goes past (d.request bytes sender) := by
  rw [request]
  split
  · exact h.goes rfl
  · split
    · exact (h.goes_serve _ sender).report rfl
    · split
      · exact h.goes rfl
      · split
        · exact h.goes rfl
        · exact (h.goes_serve _ sender).report rfl
    · exact h.goes rfl

/-- A promise is kept or broken. Only its own transfer has been waiting for it. -/
theorem Good.goes_fulfil (h : d.Good past) {n : Nat} {p : Promise}
    (hn : d.promises[n]? = some p) (ht : d.transfers[p.transfer]? = some t)
    (hkept : p.kept = false) (answer : Except Fault File) :
    Goes past ((d.keep n p).supply p.transfer t answer) := by
  have htidy := h.sane.tidy p.transfer trivial
  have hopening : t.session.IsOpening :=
    (htidy.opening t ht).mpr ⟨p, List.mem_of_getElem? hn, rfl, hkept⟩
  have hawaits : t.Awaits (trace past p.transfer) :=
    (htidy.rests t ht).resolve_right fun hs => hs.not_isOpening hopening
  have hnot : ¬ (d.keep n p).Promised p.transfer := by
    rw [promised_keep_iff hn h.sane.nodup]
    exact fun hp => hp.1 rfl
  refine goes_supply (h.sane.keep hn) ?_ ?_ hnot hawaits answer
  · exact fun j u _ hu => h.punctual j u trivial hu
  · exact (List.getElem?_eq_some_iff.mp ht).1

/-- That a transport stops is no trouble for any transfer. -/
theorem Good.stop (h : d.Good past) (i : Nat) : d.Good (past ++ [.stopped i]) := by
  refine ⟨⟨?_, h.sane.nodup, h.sane.bound⟩, h.punctual⟩
  intro j _
  have htidy := h.sane.tidy j trivial
  refine ⟨?_, htidy.opening, htidy.armed⟩
  intro t ht
  by_cases hj : j = i
  · subst hj
    rw [trace_append_stopped_self]
    exact (htidy.rests t ht).stop
  · rw [trace_append_stopped_of_ne past hj]
    exact htidy.rests t ht

/-- The transport of a transfer stops. If there is no such transfer, nothing happens, and the
history has nothing to say of it. -/
theorem Good.goes_stop (h : d.Good past) (i : Nat) :
    Goes (past ++ d.stops (.stop i)) (d.step (.stop i)) := by
  cases ht : d.transfers[i]? with
  | none =>
    have hnot : ¬ i < d.transfers.length := Nat.not_lt.mpr (List.getElem?_eq_none_iff.mp ht)
    simp only [step, stops, ht, if_neg hnot, List.append_nil]
    exact h.goes rfl
  | some t =>
    simp only [step, stops, ht, if_pos (List.getElem?_eq_some_iff.mp ht).1]
    refine (h.stop i).goes_absorb ht ?_
    rw [trace_append_stopped_self]
    exact (h.rests ht).keeps_stop

/-- **Whatever happens, every transfer comes to a rest.** The cases are the inputs. Each of them
resumes one transfer at most, apart from the passing of time, which resumes those that are due one
after the other. -/
theorem Good.goes_step (h : d.Good past) (input : Input) :
    Goes (past ++ d.stops input) (d.step input) := by
  have hsame : Goes past ({}, d) := h.goes rfl
  have hnil : past ++ [] = past := List.append_nil past
  cases input with
  | stop i => exact h.goes_stop i
  | request bytes sender =>
    simp only [stops, hnil]
    exact h.goes_request bytes sender
  | arrive i bytes sender =>
    simp only [stops, hnil, step]
    split
    · next t ht => exact h.goes_absorb ht ((h.rests ht).keeps_receive _ _)
    · exact hsame
  | advance span =>
    have hall := (h.sane.later span).expireAll (dueTransfers { d with clock := d.clock + span })
    simp only [stops, hnil]
    refine ⟨?_, h.sane.punctual_advance span⟩
    simp only [step, advance, clock_expireAll]
    exact hall
  | setBackend backend =>
    have hbackend : Good past { d with backend } :=
      ⟨⟨fun j hj => (h.sane.tidy j hj).frame rfl Iff.rfl rfl rfl, h.sane.nodup, h.sane.bound⟩,
        h.punctual⟩
    simp only [stops, hnil]
    exact hbackend.goes rfl
  | fail i failure =>
    simp only [stops, hnil, step]
    split
    · next t ht => exact h.goes_absorb ht ((h.rests ht).keeps_setFailure failure)
    · exact hsame
  | fulfil n fault =>
    simp only [stops, hnil, step]
    split
    · next p hn =>
      split
      · next t ht hkept => exact h.goes_fulfil hn ht hkept _
      · exact h.goes rfl
      · exact hsame
    · exact hsame

/-- The invariant holds at the end of every run. The induction is on the inputs, with the history
before them left general, since a run goes on from where another one ended. -/
theorem Good.run (h : d.Good past) (inputs : List Input) :
    (d.run inputs).2.Good (past ++ d.history inputs) := by
  induction inputs generalizing d past with
  | nil =>
    rw [Dispatcher.history, List.append_nil]
    exact h
  | cons input inputs ih =>
    have hrest := ih (h.goes_step input)
    rw [List.append_assoc past, List.append_assoc] at hrest
    exact hrest

/-- A dispatcher without transfers is good. -/
theorem good_new (backend : Option Backend) (files : FileSystem) (clock : Time) :
    Good [] { backend, files, clock } where
  sane := by
    refine ⟨fun i _ => ⟨?_, ?_, rfl⟩, .nil, ?_⟩
    · intro t ht
      cases ht
    · intro t ht
      cases ht
    · intro p hp
      cases hp
  punctual := by
    intro i t _ ht
    cases ht

end Dispatcher

end Tftp
