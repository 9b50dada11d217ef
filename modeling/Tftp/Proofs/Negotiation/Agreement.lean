import Mathlib.Data.List.Basic
import Mathlib.Data.List.Nodup
import Mathlib.Logic.Basic
import Tftp.Negotiation

/-!
# What options come to

Negotiation goes through the options of a request one by one. This module says what it comes to as
a whole, so that later modules need not go through the options again.

* `Signed` and `Negotiable.read_spec` — which values are numbers, and what becomes of the others;
* `negotiate_eq_error_iff` — negotiation fails with the fault of the first value that has one;
* `IsOverlong` and `exists_negotiate_eq_error_iff` — that fault is no matter of negotiation exactly
  when the value is a number of too many digits;
* `announced` and `get_of_negotiate` — the terms in use are those that the accepted options
  announce, where no option is named twice.

Negotiation goes through the options of a request from the left and keeps the terms so far. Where it
fails and what it accepts can be said without these terms, since no option looks at what another one
has set. The lemmas here are by induction on the options, and those who use them need not go through
the recursion again.
-/

namespace Tftp

/-! ## Values of options

A value is split into a sign and what follows. If that is not made of digits it is malformed. If it
is, it can still have too many of them to be read. -/

/-- A value consists of digits, with or without a sign in front of them. -/
inductive Signed (digits : Bytes) : Bytes → Prop
  /-- no sign -/
  | plain : Signed digits digits
  /-- a plus -/
  | plus : Signed digits (43 :: digits)
  /-- a minus -/
  | minus : Signed digits (45 :: digits)

/-- Digits, at least one of them. -/
def IsDigits (s : Bytes) : Prop :=
  s ≠ [] ∧ ∀ b ∈ s, Decimal.isDigit b = true

namespace Negotiable

/-- An option is known by its name. -/
theorem ofBytes?_bytes (o : Negotiable) : ofBytes? o.bytes = some o := by
  cases o <;> decide +kernel

theorem eq_bytes_of_ofBytes? {s : Bytes} {o : Negotiable} (h : ofBytes? s = some o) :
    s = o.bytes := by
  unfold ofBytes? at h
  split at h
  · next heq =>
    obtain rfl := Option.some.inj h
    exact heq
  · split at h
    · next heq =>
      obtain rfl := Option.some.inj h
      exact heq
    · cases h

/-- The sign is split off from the digits. -/
theorem signed_splitSign (raw : Bytes) : Signed (splitSign raw).2 raw := by
  unfold splitSign
  split
  · exact .minus
  · exact .plus
  · exact .plain

/-- Digits do not begin with a sign. -/
theorem splitSign_of_isDigits {s : Bytes} (h : IsDigits s) : splitSign s = (false, s) := by
  unfold splitSign
  split
  · have := h.2 45 (List.mem_cons_self ..)
    contradiction
  · have := h.2 43 (List.mem_cons_self ..)
    contradiction
  · rfl

/-- So the sign in front of digits is all that is split off. -/
theorem snd_splitSign {digits raw : Bytes} (h : Signed digits raw) (hd : IsDigits digits) :
    (splitSign raw).2 = digits := by
  cases h with
  | plus => rfl
  | minus => rfl
  | plain => rw [splitSign_of_isDigits hd]

/-- What becomes of a value. -/
inductive Read (o : Negotiable) (raw : Bytes) : Except Fault Int → Prop
  /-- it is no number -/
  | malformed (h : ∀ digits, Signed digits raw → ¬ IsDigits digits) :
      Read o raw (.error (.negotiation ("invalid " ++ o.name ++ " value - not a number")))
  /-- it is a number with too many digits -/
  | tooLong {digits : Bytes} (h : Signed digits raw) (hd : IsDigits digits)
      (hlen : Numeral.maxDigits < digits.length) :
      Read o raw (.error (.numeralTooLong digits.length))
  /-- it is a number that can be read -/
  | number {digits : Bytes} (h : Signed digits raw) (hd : IsDigits digits)
      (hlen : digits.length ≤ Numeral.maxDigits) :
      Read o raw (.ok (if (splitSign raw).1 then -(Decimal.value digits : Int)
        else Decimal.value digits))

theorem read_spec (o : Negotiable) (raw : Bytes) : Read o raw (o.read raw) := by
  have hsigned := signed_splitSign raw
  have hiff : ((splitSign raw).2.isEmpty || !(splitSign raw).2.all Decimal.isDigit) = true ↔
      ¬ IsDigits (splitSign raw).2 := by
    simp only [IsDigits, ← List.all_eq_true, Bool.or_eq_true, List.isEmpty_iff, Bool.not_eq_true',
      not_and_or, not_not, Bool.not_eq_true]
  unfold read
  dsimp only
  split
  · next h =>
    refine .malformed fun digits hs hd => hiff.mp h ?_
    rw [snd_splitSign hs hd]
    exact hd
  · next h =>
    have hd : IsDigits (splitSign raw).2 := not_not.mp (mt hiff.mpr h)
    split
    · next hlen => exact .tooLong hsigned hd hlen
    · next hlen => exact .number hsigned hd (Nat.not_lt.mp hlen)

end Negotiable

/-! ## Faults of options

The faults of a request are those of its options, and the first one counts. -/

/-- An option that can be negotiated has a value that is no number. -/
def IsMalformed (option : Bytes × Bytes) : Prop :=
  ∃ o, option.1 = Negotiable.bytes o ∧ ∀ digits, Signed digits option.2 → ¬ IsDigits digits

/-- An option that can be negotiated has a value that is a number of too many digits. -/
def IsOverlong (option : Bytes × Bytes) : Prop :=
  ∃ o digits, option.1 = Negotiable.bytes o ∧ Signed digits option.2 ∧ IsDigits digits ∧
    Numeral.maxDigits < digits.length

/-- The fault of an option, if it has one. -/
def optionFault? (option : Bytes × Bytes) : Option Fault :=
  match Negotiable.ofBytes? option.1 with
  | none => none
  | some o =>
    match o.read option.2 with
    | .error f => some f
    | .ok _ => none

/-- Negotiation fails with the fault of the first option that has one. -/
theorem negotiate_eq_error_iff {options : Options} {terms : Terms} {f : Fault} :
    negotiate options terms = .error f ↔ options.findSome? optionFault? = some f := by
  induction options generalizing terms with
  | nil => simp [negotiate]
  | cons option rest ih =>
    obtain ⟨name, raw⟩ := option
    rw [List.findSome?_cons]
    cases ho : Negotiable.ofBytes? name with
    | none => simp only [negotiate, optionFault?, ho, ih]
    | some o =>
      cases hr : o.read raw with
      | error g => simp [negotiate, optionFault?, ho, hr]
      | ok n =>
        simp only [negotiate, optionFault?, ho, hr]
        rw [← @ih (terms.set o (o.clamp n))]
        cases negotiate rest (terms.set o (o.clamp n)) <;> simp

/-- The fault of an option is that its value is no number or too long a number. An option that
cannot be negotiated has none, whatever its value. -/
theorem optionFault?_eq_some {option : Bytes × Bytes} {f : Fault}
    (h : optionFault? option = some f) :
    (IsMalformed option ∧ ∃ reason, f = .negotiation reason) ∨
      (IsOverlong option ∧ ∃ n, f = .numeralTooLong n) := by
  unfold optionFault? at h
  split at h
  · cases h
  · next o ho =>
    have hname := Negotiable.eq_bytes_of_ofBytes? ho
    have hspec := Negotiable.read_spec o option.2
    split at h
    · next g hr =>
      obtain rfl := Option.some.inj h
      rw [hr] at hspec
      cases hspec with
      | malformed hm => exact .inl ⟨⟨o, hname, hm⟩, _, rfl⟩
      | tooLong hs hd hlen => exact .inr ⟨⟨o, _, hname, hs, hd, hlen⟩, _, rfl⟩
    · cases h

/-- A number of too many digits is a fault, and not one of negotiation. -/
theorem IsOverlong.optionFault? {option : Bytes × Bytes} (h : IsOverlong option) :
    ∃ n, Tftp.optionFault? option = some (.numeralTooLong n) := by
  obtain ⟨o, digits, hname, hs, hd, hlen⟩ := h
  have hspec := Negotiable.read_spec o option.2
  generalize hr : o.read option.2 = result at hspec
  have hdigits := Negotiable.snd_splitSign hs hd
  cases hspec with
  | malformed hm => exact absurd hd (hm digits hs)
  | tooLong hs' hd' hlen' =>
    simp only [Tftp.optionFault?, hname, Negotiable.ofBytes?_bytes, hr]
    exact ⟨_, rfl⟩
  | number hs' hd' hlen' =>
    rw [← Negotiable.snd_splitSign hs' hd', hdigits] at hlen'
    omega

/-- The first fault among the options of a request is that of a number of too many digits. -/
def HasOverlong (options : Options) : Prop :=
  ∃ before option after, options = before ++ option :: after ∧ IsOverlong option ∧
    ∀ p ∈ before, ¬ IsMalformed p

/-- Negotiation fails for another reason than a value that is no number exactly where a number has
too many digits. Each option has one fault at most, and the first fault counts, so an earlier option
with a malformed value hides a number that is too long. -/
theorem exists_negotiate_eq_error_iff {options : Options} (terms : Terms) :
    (∃ f, negotiate options terms = .error f ∧ ∀ reason, f ≠ .negotiation reason) ↔
      HasOverlong options := by
  simp only [negotiate_eq_error_iff, List.findSome?_eq_some_iff]
  constructor
  · rintro ⟨f, ⟨before, option, after, rfl, hf, hbefore⟩, hne⟩
    refine ⟨before, option, after, rfl, ?_, ?_⟩
    · rcases optionFault?_eq_some hf with ⟨-, reason, hreason⟩ | ⟨hover, -⟩
      · exact absurd hreason (hne reason)
      · exact hover
    · rintro p hp ⟨o, hname, hm⟩
      have hnone := hbefore p hp
      have hspec := Negotiable.read_spec o p.2
      simp only [optionFault?, hname, Negotiable.ofBytes?_bytes] at hnone
      split at hnone
      · cases hnone
      · next hr =>
        rw [hr] at hspec
        cases hspec with
        | number hs hd => exact hm _ hs hd
  · rintro ⟨before, option, after, rfl, hover, hbefore⟩
    -- among the options before there may be one more with too many digits, and then it is the first
    induction before with
    | nil =>
      obtain ⟨n, hn⟩ := hover.optionFault?
      exact ⟨_, ⟨[], option, after, rfl, hn, nofun⟩, nofun⟩
    | cons p before ih =>
      cases hp : optionFault? p with
      | some f =>
        rcases optionFault?_eq_some hp with ⟨hm, -⟩ | ⟨-, n, rfl⟩
        · exact absurd hm (hbefore p List.mem_cons_self)
        · exact ⟨_, ⟨[], p, before ++ option :: after, rfl, hp, nofun⟩, nofun⟩
      | none =>
        obtain ⟨f, ⟨before', option', after', heq, hf, hnone⟩, hne⟩ :=
          ih fun q hq => hbefore q (List.mem_cons_of_mem _ hq)
        refine ⟨f, ⟨p :: before', option', after', ?_, hf, ?_⟩, hne⟩
        · rw [List.cons_append, heq, List.cons_append]
        · intro q hq
          rcases List.mem_cons.mp hq with rfl | hq
          · exact hp
          · exact hnone q hq

/-! ## Announcements

The terms in use are read off the accepted options, as a client would do. -/

/-- The value that options announce for one of those that can be negotiated, or else the value that
is in use without them. -/
def announced (options : Options) (o : Negotiable) (otherwise : Int) : Int :=
  match options.lookup o.bytes with
  | some raw => Decimal.value raw
  | none => otherwise

/-- The terms that options announce, and for an option that is not among them the default. -/
def Terms.announced (options : Options) : Terms where
  blockSize := Tftp.announced options .blockSize 512
  timeout := Tftp.announced options .timeout 3

/-- A number in range is written without a sign. -/
theorem value_ofInt_clamp (o : Negotiable) (n : Int) :
    (Decimal.value (Decimal.ofInt (o.clamp n)) : Int) = o.clamp n := by
  have hpos : 0 ≤ o.clamp n := by
    have := o.least_le_clamp n
    cases o <;> simp only [Negotiable.least] at this <;> omega
  obtain ⟨m, hm⟩ := Int.eq_ofNat_of_zero_le hpos
  rw [hm]
  exact congrArg Nat.cast (Decimal.value_ofNat m)

theorem Terms.get_set_self (t : Terms) (o : Negotiable) (n : Int) : (t.set o n).get o = n := by
  cases o <;> rfl

theorem Terms.get_set_of_ne (t : Terms) {o p : Negotiable} (n : Int) (h : p ≠ o) :
    (t.set o n).get p = t.get p := by
  cases o <;> cases p <;> first | rfl | exact absurd rfl h

/-- The accepted options are the ones that can be negotiated, under their names in the request. So
an announcement never has an option that the client did not ask for. -/
theorem names_of_negotiate {options : Options} {terms : Terms} {a : Agreement}
    (h : negotiate options terms = .ok a) :
    a.accepted.map Prod.fst =
      (options.map Prod.fst).filter fun name => (Negotiable.ofBytes? name).isSome := by
  induction options generalizing terms a with
  | nil =>
    simp only [negotiate, Except.ok.injEq] at h
    subst h
    rfl
  | cons option rest ih =>
    obtain ⟨name, raw⟩ := option
    simp only [negotiate] at h
    split at h
    · next ho => simpa [ho] using ih h
    · next o ho =>
      split at h
      · cases h
      · split at h
        · cases h
        · next a' hn =>
          simp only [Except.ok.injEq] at h
          subst h
          simpa [ho] using ih hn

/-- The values in use are those that the accepted options announce. Where a name stood twice the
last value would be in use and the first one found, which is why no name may stand twice. -/
theorem get_of_negotiate {options : Options} {terms : Terms} {a : Agreement}
    (hnodup : (options.map Prod.fst).Nodup) (h : negotiate options terms = .ok a)
    (o : Negotiable) : a.terms.get o = announced a.accepted o (terms.get o) := by
  induction options generalizing terms a with
  | nil =>
    simp only [negotiate, Except.ok.injEq] at h
    subst h
    rfl
  | cons option rest ih =>
    obtain ⟨name, raw⟩ := option
    rw [List.map_cons, List.nodup_cons] at hnodup
    simp only [negotiate] at h
    split at h
    · exact ih hnodup.2 h
    · next p hp =>
      have hname := Negotiable.eq_bytes_of_ofBytes? hp
      split at h
      · cases h
      · next n hr =>
        split at h
        · cases h
        · next a' hn =>
          simp only [Except.ok.injEq] at h
          subst h
          have hrest := ih hnodup.2 hn
          simp only [announced, List.lookup_cons] at hrest ⊢
          by_cases hop : o = p
          · -- the name does not come again, so this is the value in the end
            subst hop
            have hnone : a'.accepted.lookup o.bytes = none := by
              rw [List.lookup_eq_none_iff]
              intro q hq
              rw [bne_iff_ne]
              rintro heq
              have hmem : q.1 ∈ a'.accepted.map Prod.fst := List.mem_map_of_mem hq
              rw [names_of_negotiate hn] at hmem
              apply hnodup.1
              rw [hname, heq]
              exact (List.mem_filter.mp hmem).1
            rw [hnone] at hrest
            simp only [hname, beq_self_eq_true, value_ofInt_clamp]
            rw [hrest, Terms.get_set_self]
          · have hne : (o.bytes == name) = false := by
              rw [beq_eq_false_iff_ne, hname]
              intro heq
              have := Negotiable.ofBytes?_bytes o
              rw [heq, Negotiable.ofBytes?_bytes] at this
              exact hop (Option.some.inj this).symm
            rw [Terms.get_set_of_ne _ _ hop] at hrest
            rw [hne, hrest]

/-- The terms in use are those that the accepted options announce. -/
theorem terms_eq_announced {options : Options} {a : Agreement}
    (hnodup : (options.map Prod.fst).Nodup) (h : negotiate options Terms.default = .ok a) :
    a.terms = Terms.announced a.accepted := by
  have hsize := get_of_negotiate hnodup h .blockSize
  have htimeout := get_of_negotiate hnodup h .timeout
  obtain ⟨⟨blockSize, timeout⟩, accepted⟩ := a
  simp only [Terms.get] at hsize htimeout
  rw [hsize, htimeout]
  rfl

end Tftp
