import Mathlib.Data.List.Induction
import Mathlib.Data.List.Perm.Basic
import Mathlib.Data.Nat.Digits.Defs
import Tftp.Proofs.Packet.Outgoing

/-!
# Negotiation is exact

What negotiation gives for an option depends on that option alone. So neither the order of a request
nor what else it asks for makes a difference, and what was agreed on is agreed on again.

* `Bytes.Denotes` — the number that a decimal text stands for, by the places of its digits;
* `answer?` — what a single option is acknowledged with;
* `Agreement.Meets` — what an agreement has to do with the request that it comes from;
* `negotiates_exactly` — the main theorem, which also says when there is no agreement.

The accepted options are the answers to the options one by one (`accepted_of_negotiate`), and the
terms are what these announce. Everything else follows from the two.

Ranges and defaults come in only at the end. Which options are accepted, in which order, and where
negotiation fails is decided by names and by the shape of the values. A number out of range is no
fault: it is moved to the nearest bound.
-/

namespace Tftp

/-! ## Numbers

What a text stands for is said by the places of its digits. The reader goes through them from the
left and counts up, and it has to be shown that both come to the same. -/

/-- The number that digits stand for: each counts ten times as much as the one after it. -/
def Decimal.place (digits : Bytes) : Nat :=
  Nat.ofDigits 10 (digits.reverse.map fun b => b.toNat - 48)

/-- A text stands for a number: digits, leading zeros among them, with or without a sign. -/
inductive Bytes.Denotes : Bytes → Int → Prop
  /-- without a sign -/
  | plain {digits : Bytes} (h : IsDigits digits) : Denotes digits (Decimal.place digits)
  /-- with a plus -/
  | plus {digits : Bytes} (h : IsDigits digits) : Denotes (43 :: digits) (Decimal.place digits)
  /-- with a minus -/
  | minus {digits : Bytes} (h : IsDigits digits) :
      Denotes (45 :: digits) (-(Decimal.place digits : Int))

namespace Decimal

/-- Reading digits from the left comes to the number that their places give. -/
theorem value_eq_place (digits : Bytes) : value digits = place digits := by
  induction digits using List.reverseRecOn with
  | nil => rfl
  | append_singleton digits b ih =>
    rw [value_append_singleton, ih, place, place, List.reverse_concat, List.map_cons,
      Nat.ofDigits_cons, Nat.add_comm]

/-- A number below a power of ten has no more digits than the power has zeros. -/
theorem length_ofNat_le {n k : Nat} (hk : 0 < k) (h : n < 10 ^ k) : (ofNat n).length ≤ k := by
  induction n using ofNat.induct generalizing k with
  | case1 n hlt =>
    rw [ofNat, if_pos hlt]
    exact hk
  | case2 n hge ih =>
    rw [ofNat, if_neg hge, List.length_append, List.length_singleton]
    obtain ⟨k, rfl⟩ := Nat.exists_eq_add_one.mpr hk
    have hpos : 0 < k := by
      rcases Nat.eq_zero_or_pos k with rfl | hpos
      · exact absurd h hge
      · exact hpos
    refine Nat.succ_le_succ (ih hpos ?_)
    rw [Nat.pow_succ] at h
    omega

end Decimal

namespace Negotiable

/-- A value that is read is the number that it stands for. -/
theorem denotes_of_read {o : Negotiable} {raw : Bytes} {n : Int} (h : o.read raw = .ok n) :
    raw.Denotes n := by
  have hspec := o.read_spec raw
  rw [h] at hspec
  cases hspec with
  | @number digits hs hd =>
    rw [Decimal.value_eq_place]
    cases hs with
    | plus => exact .plus hd
    | minus => exact .minus hd
    | plain =>
      rw [splitSign_of_isDigits hd]
      exact .plain hd

/-- Digits are read, unless there are too many of them. -/
theorem read_of_isDigits (o : Negotiable) {s : Bytes} (h : IsDigits s)
    (hlen : s.length ≤ Numeral.maxDigits) : o.read s = .ok (Decimal.value s) := by
  have hempty : s.isEmpty = false := List.isEmpty_eq_false_iff.mpr h.1
  have hall : s.all Decimal.isDigit = true := List.all_eq_true.mpr h.2
  simp only [read, splitSign_of_isDigits h, hempty, hall, Nat.not_lt.mpr hlen, Bool.not_true,
    Bool.or_self, Bool.false_eq_true, if_false]

/-- A number in range stays where it is. -/
theorem clamp_of_mem (o : Negotiable) {n : Int} (hl : o.least ≤ n) (hg : n ≤ o.greatest) :
    o.clamp n = n := by
  rw [clamp, Int.min_eq_left hg, Int.max_eq_right hl]

end Negotiable

/-! ## One option at a time

An option is passed over, answered or at fault, and which of these it is does not depend on the
options around it or on the terms so far. -/

/-- Whether the name of an option is one that can be negotiated. -/
def isRecognised (option : Bytes × Bytes) : Bool :=
  (Negotiable.ofBytes? option.1).isSome

/-- What an option is acknowledged with, if it is. -/
def answer? (option : Bytes × Bytes) : Option (Bytes × Bytes) :=
  match Negotiable.ofBytes? option.1 with
  | none => none
  | some o =>
    match o.read option.2 with
    | .error _ => none
    | .ok n => some (option.1, Decimal.ofInt (o.clamp n))

/-- The value of an option is no number, or a number that is too long to be read. -/
def IsFaulty (option : Bytes × Bytes) : Prop :=
  IsMalformed option ∨ IsOverlong option

variable {options options' : Options} {option : Bytes × Bytes} {terms : Terms} {a : Agreement}

theorem isRecognised_iff : isRecognised option = true ↔ ∃ o, option.1 = Negotiable.bytes o := by
  rw [isRecognised, Option.isSome_iff_exists]
  constructor
  · rintro ⟨o, ho⟩
    exact ⟨o, Negotiable.eq_bytes_of_ofBytes? ho⟩
  · rintro ⟨o, ho⟩
    rw [ho]
    exact ⟨o, o.ofBytes?_bytes⟩

theorem IsMalformed.optionFault? (h : IsMalformed option) :
    ∃ reason, Tftp.optionFault? option = some (.negotiation reason) := by
  obtain ⟨o, hname, hm⟩ := h
  have hspec := o.read_spec option.2
  simp only [Tftp.optionFault?, hname, Negotiable.ofBytes?_bytes]
  generalize o.read option.2 = result at hspec
  cases hspec with
  | malformed => exact ⟨_, rfl⟩
  | tooLong hs hd => exact absurd hd (hm _ hs)
  | number hs hd => exact absurd hd (hm _ hs)

/-- An option has a fault exactly where its value is faulty. -/
theorem optionFault?_eq_none_iff : optionFault? option = none ↔ ¬ IsFaulty option := by
  constructor
  · rintro h (hm | ho)
    · obtain ⟨reason, hreason⟩ := hm.optionFault?
      rw [h] at hreason
      cases hreason
    · obtain ⟨n, hn⟩ := ho.optionFault?
      rw [h] at hn
      cases hn
  · intro h
    cases hf : optionFault? option with
    | none => rfl
    | some f =>
      rcases optionFault?_eq_some hf with ⟨hm, -⟩ | ⟨ho, -⟩
      · exact absurd (.inl hm) h
      · exact absurd (.inr ho) h

/-- There is an agreement exactly where no option is faulty. Negotiation fails with the first fault
among the options, and so without any it does not fail. -/
theorem exists_negotiate_eq_ok_iff (terms : Terms) :
    (∃ a, negotiate options terms = .ok a) ↔ ∀ p ∈ options, ¬ IsFaulty p := by
  simp only [← optionFault?_eq_none_iff, ← List.findSome?_eq_none_iff]
  constructor
  · rintro ⟨a, ha⟩
    cases hf : options.findSome? optionFault? with
    | none => rfl
    | some f =>
      have hn : negotiate options terms = .error f := negotiate_eq_error_iff.mpr hf
      rw [ha] at hn
      cases hn
  · intro h
    cases hn : negotiate options terms with
    | ok a => exact ⟨a, rfl⟩
    | error f =>
      have hf := negotiate_eq_error_iff.mp hn
      rw [h] at hf
      cases hf

/-- Negotiation fails as such exactly where the first faulty option has a value that is no
number. -/
theorem negotiate_eq_negotiation_iff (terms : Terms) :
    (∃ reason, negotiate options terms = .error (.negotiation reason)) ↔
      ∃ before option after, options = before ++ option :: after ∧ IsMalformed option ∧
        ∀ p ∈ before, ¬ IsFaulty p := by
  simp only [negotiate_eq_error_iff, List.findSome?_eq_some_iff, optionFault?_eq_none_iff]
  constructor
  · rintro ⟨reason, before, option, after, rfl, hf, hbefore⟩
    refine ⟨before, option, after, rfl, ?_, hbefore⟩
    rcases optionFault?_eq_some hf with ⟨hm, -⟩ | ⟨-, n, hn⟩
    · exact hm
    · cases hn
  · rintro ⟨before, option, after, rfl, hm, hbefore⟩
    obtain ⟨reason, hreason⟩ := hm.optionFault?
    exact ⟨reason, before, option, after, rfl, hreason, hbefore⟩

/-! ## All options

The answers to a request are the answers to its options, in order. Negotiation fails with the first
fault among them. -/

/-- **The accepted options are the answers to the options one by one.** The recursion of negotiation
carries the terms along, but an answer is put together from the option itself. -/
theorem accepted_of_negotiate (h : negotiate options terms = .ok a) :
    a.accepted = options.filterMap answer? := by
  induction options generalizing terms a with
  | nil =>
    simp only [negotiate, Except.ok.injEq] at h
    rw [← h]
    rfl
  | cons option rest ih =>
    obtain ⟨name, raw⟩ := option
    simp only [negotiate] at h
    split at h
    · next ho =>
      rw [List.filterMap_cons_none (by simp only [answer?, ho])]
      exact ih h
    · next o ho =>
      split at h
      · cases h
      · next n hr =>
        have hanswer : answer? (name, raw) = some (name, Decimal.ofInt (o.clamp n)) := by
          simp only [answer?, ho, hr]
        split at h
        · cases h
        · next a' hn =>
          simp only [Except.ok.injEq] at h
          rw [List.filterMap_cons_some hanswer, ← h, ih hn]

/-- What is not recognised makes no difference. -/
theorem negotiate_filter (options : Options) (terms : Terms) :
    negotiate (options.filter isRecognised) terms = negotiate options terms := by
  induction options generalizing terms with
  | nil => rfl
  | cons option rest ih =>
    obtain ⟨name, raw⟩ := option
    cases ho : Negotiable.ofBytes? name with
    | none =>
      rw [List.filter_cons_of_neg (by simp [isRecognised, ho]), ih]
      simp only [negotiate, ho]
    | some o =>
      rw [List.filter_cons_of_pos (by simp [isRecognised, ho])]
      simp only [negotiate, ho, ih]

theorem lookup_eq_some_of_mem {options : Options} (h : (options.map Prod.fst).Nodup)
    {name raw : Bytes} (hmem : (name, raw) ∈ options) : options.lookup name = some raw := by
  induction options with
  | nil => cases hmem
  | cons option rest ih =>
    obtain ⟨name', raw'⟩ := option
    rw [List.map_cons, List.nodup_cons] at h
    rcases List.mem_cons.mp hmem with heq | hmem
    · cases heq
      rw [List.lookup_cons, beq_self_eq_true]
    · have hne : (name == name') = false := by
        rw [beq_eq_false_iff_ne]
        intro heq
        exact h.1 (List.mem_map.mpr ⟨_, hmem, heq⟩)
      rw [List.lookup_cons, hne]
      exact ih h.2 hmem

/-- Where no option is named twice, the order of options makes no difference to what they
announce. -/
theorem announced_of_perm (h : options.Perm options') (hnodup : (options.map Prod.fst).Nodup)
    (o : Negotiable) (otherwise : Int) :
    announced options' o otherwise = announced options o otherwise := by
  have hlookup : options'.lookup o.bytes = options.lookup o.bytes := by
    cases hl : options.lookup o.bytes with
    | some raw =>
      have hnodup' := (h.map Prod.fst).nodup_iff.mp hnodup
      obtain ⟨before, after, rfl, -⟩ := List.lookup_eq_some_iff.mp hl
      refine lookup_eq_some_of_mem hnodup' (h.mem_iff.mp ?_)
      exact List.mem_append_right _ List.mem_cons_self
    | none =>
      rw [List.lookup_eq_none_iff] at hl ⊢
      exact fun p hp => hl p (h.mem_iff.mpr hp)
  rw [announced, announced, hlookup]

theorem Terms.ext_get {t u : Terms} (h : ∀ o, t.get o = u.get o) : t = u := by
  have hsize := h .blockSize
  have htimeout := h .timeout
  cases t
  cases u
  simp only [Terms.get] at hsize htimeout
  rw [hsize, htimeout]

/-! ## Agreements and requests

The terms are what the accepted options announce. With that an agreement can be compared with its
request option by option. -/

/-- What an agreement has to do with the request that it comes from, and with the terms in use
before. -/
structure Agreement.Meets (a : Agreement) (options : Options) (terms : Terms) : Prop where
  /-- what is accepted is what was asked for and can be negotiated, in the order of the request -/
  names_eq : a.accepted.map Prod.fst = (options.map Prod.fst).filter fun name =>
    name = Negotiable.blockSize.bytes ∨ name = Negotiable.timeout.bytes
  /-- a value is the number that was asked for, moved into the range of the option -/
  get_eq : ∀ o raw, (Negotiable.bytes o, raw) ∈ options →
    ∃ n, raw.Denotes n ∧ a.terms.get o = max o.least (min n o.greatest)
  /-- what was not asked for stays as it was -/
  get_kept : ∀ o, Negotiable.bytes o ∉ options.map Prod.fst → a.terms.get o = terms.get o
  /-- a value is acknowledged without a sign and without leading zeros -/
  plain : ∀ o text, (Negotiable.bytes o, text) ∈ a.accepted →
    Decimal.IsPlain text ∧ text.Denotes (a.terms.get o)
  /-- in another order the same is agreed on, and acknowledged in that order -/
  perm : ∀ options', options.Perm options' → ∃ accepted',
    negotiate options' terms = .ok ⟨a.terms, accepted'⟩ ∧ a.accepted.Perm accepted' ∧
      accepted'.map Prod.fst = (options'.map Prod.fst).filter fun name =>
        name = Negotiable.blockSize.bytes ∨ name = Negotiable.timeout.bytes
  /-- what is not recognised can be left out or added anywhere -/
  unrecognised : ∀ options', options'.filter isRecognised = options.filter isRecognised →
    negotiate options' terms = .ok a
  /-- what was accepted is accepted again, with the same values, whatever is in use before -/
  again : ∀ terms', ∃ b, negotiate a.accepted terms' = .ok b ∧ b.accepted = a.accepted ∧
    ∀ o, Negotiable.bytes o ∈ a.accepted.map Prod.fst → b.terms.get o = a.terms.get o

theorem filter_recognised_eq (names : List Bytes) :
    (names.filter fun name => (Negotiable.ofBytes? name).isSome) = names.filter fun name =>
      name = Negotiable.blockSize.bytes ∨ name = Negotiable.timeout.bytes := by
  refine List.filter_congr fun name _ => ?_
  rw [Bool.eq_iff_iff, decide_eq_true_iff]
  have hiff : isRecognised (name, []) = true ↔ ∃ o, name = Negotiable.bytes o := isRecognised_iff
  refine hiff.trans ⟨?_, ?_⟩
  · rintro ⟨o, ho⟩
    cases o with
    | blockSize => exact .inl ho
    | timeout => exact .inr ho
  · rintro (h | h)
    · exact ⟨_, h⟩
    · exact ⟨_, h⟩

/-- The accepted options in the order of the request. -/
theorem names_eq_of_negotiate (h : negotiate options terms = .ok a) :
    a.accepted.map Prod.fst = (options.map Prod.fst).filter fun name =>
      name = Negotiable.blockSize.bytes ∨ name = Negotiable.timeout.bytes :=
  (names_of_negotiate h).trans (filter_recognised_eq _)

/-- Nothing is accepted twice if nothing is asked for twice. -/
theorem nodup_accepted (h : negotiate options terms = .ok a)
    (hnodup : (options.map Prod.fst).Nodup) : (a.accepted.map Prod.fst).Nodup := by
  rw [names_of_negotiate h]
  exact hnodup.filter _

/-- An accepted option announces the value that is in use. -/
theorem get_of_mem_accepted (h : negotiate options terms = .ok a)
    (hnodup : (options.map Prod.fst).Nodup) {o : Negotiable} {text : Bytes}
    (hmem : (o.bytes, text) ∈ a.accepted) : a.terms.get o = Decimal.value text := by
  rw [get_of_negotiate hnodup h, announced, lookup_eq_some_of_mem (nodup_accepted h hnodup) hmem]

/-- The terms in use are what the request asked for, moved into the range. -/
theorem get_of_mem (h : negotiate options terms = .ok a) (hnodup : (options.map Prod.fst).Nodup)
    {o : Negotiable} {raw : Bytes} (hmem : (o.bytes, raw) ∈ options) :
    ∃ n, raw.Denotes n ∧ a.terms.get o = o.clamp n := by
  have hfault := (exists_negotiate_eq_ok_iff terms).mp ⟨a, h⟩ _ hmem
  rw [← optionFault?_eq_none_iff] at hfault
  cases hr : o.read raw with
  | error f => simp [optionFault?, Negotiable.ofBytes?_bytes, hr] at hfault
  | ok n =>
    refine ⟨n, Negotiable.denotes_of_read hr, ?_⟩
    have hanswer : answer? (o.bytes, raw) = some (o.bytes, Decimal.ofInt (o.clamp n)) := by
      simp only [answer?, Negotiable.ofBytes?_bytes, hr]
    have haccepted : (o.bytes, Decimal.ofInt (o.clamp n)) ∈ a.accepted := by
      rw [accepted_of_negotiate h]
      exact List.mem_filterMap.mpr ⟨_, hmem, hanswer⟩
    rw [get_of_mem_accepted h hnodup haccepted, value_ofInt_clamp]

/-- What was not asked for stays as it was. -/
theorem get_of_not_mem (h : negotiate options terms = .ok a)
    (hnodup : (options.map Prod.fst).Nodup) {o : Negotiable}
    (hnot : o.bytes ∉ options.map Prod.fst) : a.terms.get o = terms.get o := by
  have hnone : a.accepted.lookup o.bytes = none := by
    rw [List.lookup_eq_none_iff]
    intro p hp
    rw [bne_iff_ne]
    intro heq
    have hmem : p.1 ∈ a.accepted.map Prod.fst := List.mem_map_of_mem hp
    rw [names_of_negotiate h, ← heq] at hmem
    exact hnot (List.mem_filter.mp hmem).1
  rw [get_of_negotiate hnodup h, announced, hnone]

/-- In another order the same is agreed on. The accepted options are the answers to the options one
by one, and so they are permuted like the options. The terms are read off them by name, and without
double names it does not matter where a name stands. -/
theorem negotiate_of_perm (h : negotiate options terms = .ok a)
    (hnodup : (options.map Prod.fst).Nodup) (hperm : options.Perm options') :
    ∃ accepted', negotiate options' terms = .ok ⟨a.terms, accepted'⟩ ∧
      a.accepted.Perm accepted' := by
  have hnodup' := (hperm.map Prod.fst).nodup_iff.mp hnodup
  have hfault := (exists_negotiate_eq_ok_iff terms).mp ⟨a, h⟩
  have hfault' : ∀ p ∈ options', ¬ IsFaulty p := fun p hp => hfault p (hperm.mem_iff.mpr hp)
  obtain ⟨b, hb⟩ := (exists_negotiate_eq_ok_iff terms).mpr hfault'
  have haccepted : a.accepted.Perm b.accepted := by
    rw [accepted_of_negotiate h, accepted_of_negotiate hb]
    exact hperm.filterMap answer?
  have hterms : b.terms = a.terms := by
    refine Terms.ext_get fun o => ?_
    rw [get_of_negotiate hnodup' hb, get_of_negotiate hnodup h,
      announced_of_perm haccepted (nodup_accepted h hnodup)]
  exact ⟨b.accepted, hterms ▸ hb, haccepted⟩

/-! ## Agreeing again

An accepted value is a plain number in range, which is read as that number and moved nowhere. So
what was accepted is accepted as it is. -/

/-- A value that is acknowledged is read as it is in use. -/
theorem Negotiable.read_ofInt_clamp (o : Negotiable) (n : Int) :
    o.read (Decimal.ofInt (o.clamp n)) = .ok (o.clamp n) := by
  have hdigits := (o.announces_clamp n).isPlain.1
  have hlength : (Decimal.ofInt (o.clamp n)).length ≤ 5 := by
    have hleast := o.least_le_clamp n
    have hgreatest := o.clamp_le_greatest n
    generalize o.clamp n = m at hleast hgreatest
    obtain ⟨k, rfl⟩ : ∃ k : Nat, m = k :=
      Int.eq_ofNat_of_zero_le (by cases o <;> simp only [least] at hleast <;> omega)
    refine Decimal.length_ofNat_le (by decide) ?_
    cases o <;> simp only [greatest] at hgreatest <;> omega
  rw [o.read_of_isDigits hdigits (hlength.trans (by decide)), value_ofInt_clamp]

/-- The answer to an option is its own answer. -/
theorem answer?_of_answer? {answer : Bytes × Bytes} (h : answer? option = some answer) :
    answer? answer = some answer ∧ ¬ IsFaulty answer := by
  obtain ⟨name, raw⟩ := option
  unfold answer? at h
  split at h
  · cases h
  · next o ho =>
    split at h
    · cases h
    · next n hr =>
      obtain rfl := Option.some.inj h
      have hread := o.read_ofInt_clamp n
      have hclamp := o.clamp_of_mem (o.least_le_clamp n) (o.clamp_le_greatest n)
      constructor
      · simp only [answer?, ho, hread, hclamp]
      · rw [← optionFault?_eq_none_iff]
        simp only [optionFault?, ho, hread]

/-- What was accepted is accepted again. Each accepted option is its own answer
(`answer?_of_answer?`), and nothing in it is at fault. -/
theorem negotiate_accepted (h : negotiate options terms = .ok a)
    (hnodup : (options.map Prod.fst).Nodup) (terms' : Terms) :
    ∃ b, negotiate a.accepted terms' = .ok b ∧ b.accepted = a.accepted ∧
      ∀ o, Negotiable.bytes o ∈ a.accepted.map Prod.fst → b.terms.get o = a.terms.get o := by
  have hanswers : ∀ p ∈ a.accepted, answer? p = some p ∧ ¬ IsFaulty p := by
    intro p hp
    rw [accepted_of_negotiate h] at hp
    obtain ⟨q, -, hq⟩ := List.mem_filterMap.mp hp
    exact answer?_of_answer? hq
  obtain ⟨b, hb⟩ := (exists_negotiate_eq_ok_iff terms').mpr fun p hp => (hanswers p hp).2
  have haccepted : b.accepted = a.accepted := by
    rw [accepted_of_negotiate hb]
    calc a.accepted.filterMap answer? = a.accepted.filterMap some :=
          List.filterMap_congr fun p hp => (hanswers p hp).1
      _ = a.accepted := List.filterMap_some
  refine ⟨b, hb, haccepted, fun o ho => ?_⟩
  obtain ⟨⟨name, text⟩, hmem, rfl⟩ := List.mem_map.mp ho
  rw [get_of_mem_accepted h hnodup hmem,
    get_of_mem_accepted hb (nodup_accepted h hnodup) (haccepted ▸ hmem)]

/-! ## The main theorem

What was shown of agreements is put together, and then the two ways to fail. -/

/-- Every agreement does what is asked of it, point by point. -/
theorem meets_of_negotiate (h : negotiate options terms = .ok a)
    (hnodup : (options.map Prod.fst).Nodup) : a.Meets options terms where
  names_eq := names_eq_of_negotiate h
  get_eq _ _ hmem := get_of_mem h hnodup hmem
  get_kept _ hnot := get_of_not_mem h hnodup hnot
  plain := by
    intro o text hmem
    obtain ⟨p, hp⟩ := announces_of_negotiate h _ hmem
    rw [get_of_mem_accepted h hnodup hmem, Decimal.value_eq_place]
    exact ⟨hp.isPlain, .plain hp.isPlain.1⟩
  perm := by
    intro options' hperm
    obtain ⟨accepted', hn, haccepted⟩ := negotiate_of_perm h hnodup hperm
    exact ⟨accepted', hn, haccepted, names_eq_of_negotiate hn⟩
  unrecognised := by
    intro options' heq
    rw [← negotiate_filter, heq, negotiate_filter, h]
  again := negotiate_accepted h hnodup

/-- **Negotiation is exact, and neither the order of a request nor a second time makes a
difference.** There is an agreement exactly where no option that can be negotiated has a faulty
value, and what it has to do with the request is said by `Agreement.Meets`. Where the first faulty
value is none of a number, negotiation fails with the fault of negotiation, and only there. -/
theorem negotiates_exactly (hnodup : (options.map Prod.fst).Nodup) (terms : Terms) :
    (∀ a, negotiate options terms = .ok a → a.Meets options terms) ∧
      ((∃ a, negotiate options terms = .ok a) ↔ ∀ p ∈ options, ¬ IsFaulty p) ∧
      ((∃ reason, negotiate options terms = .error (.negotiation reason)) ↔
        ∃ before option after, options = before ++ option :: after ∧ IsMalformed option ∧
          ∀ p ∈ before, ¬ IsFaulty p) :=
  ⟨fun _ h => meets_of_negotiate h hnodup, exists_negotiate_eq_ok_iff terms,
    negotiate_eq_negotiation_iff terms⟩

/-- A block size below the range and a timeout with a sign and leading zeros, among options that are
not recognised. -/
def signedOptions : Options :=
  [([120], []), (Negotiable.timeout.bytes, [43, 48, 51, 48, 48]),
    (Negotiable.blockSize.bytes, [45, 49]), ([121], [63])]

/-- The block size comes to eight and the timeout to 255, in the order of the request. With an
underscore behind the digit of the timeout there is no agreement. -/
theorem negotiates_exactly_signedOptions :
    let a : Agreement :=
      ⟨⟨8, 255⟩, [(Negotiable.timeout.bytes, [50, 53, 53]), (Negotiable.blockSize.bytes, [56])]⟩
    let faulty : Options := [([120], []), (Negotiable.timeout.bytes, [49, 95])]
    (signedOptions.map Prod.fst).Nodup ∧ negotiate signedOptions Terms.default = .ok a ∧
      a.Meets signedOptions Terms.default ∧ (faulty.map Prod.fst).Nodup ∧
      ∃ reason, negotiate faulty Terms.default = .error (.negotiation reason) := by
  intro a faulty
  have hnodup : (signedOptions.map Prod.fst).Nodup := by decide +kernel
  have hn : negotiate signedOptions Terms.default = .ok a := by decide +kernel
  have hnodup' : (faulty.map Prod.fst).Nodup := by decide +kernel
  have hmalformed : IsMalformed (Negotiable.timeout.bytes, [49, 95]) := by
    refine ⟨.timeout, rfl, fun digits hs hd => ?_⟩
    cases hs with
    | plain =>
      have := hd.2 95 (.tail _ (.head _))
      contradiction
  have hbefore : ∀ p ∈ [(([120] : Bytes), ([] : Bytes))], ¬ IsFaulty p := by
    rintro p hp
    rw [← optionFault?_eq_none_iff, List.mem_singleton.mp hp]
    decide +kernel
  refine ⟨hnodup, hn, (negotiates_exactly hnodup _).1 a hn, hnodup', ?_⟩
  exact (negotiates_exactly hnodup' _).2.2.mpr ⟨_, _, [], rfl, hmalformed, hbefore⟩

end Tftp
