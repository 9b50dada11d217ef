import Mathlib.Data.List.Basic
import Mathlib.Tactic.Ring
import Tftp.Config.Layers

/-!
# Keys of mappings

A mapping of a configuration file has values of many kinds as keys. Which of them are the same key
is a matter of their values: a whole number is the same key as a fractional number of its value, and
a time is the same key as another one for the same instant.

* `Binary64.IsCanonical` — the floating-point numbers as they are stored;
* `Value.IsKey` — the values that a mapping may have as keys;
* `Value.IsKey.same_self`, `Value.IsKey.same_comm` and `Value.IsKey.same_trans` — being the same key
  is an equivalence;
* `Value.isEqual` — equality proper, for the values that a short file is made of.

Without the one representation of each number it would be none: two mantissas with their exponents
may have the value of one whole number and not be the same.
-/

namespace Tftp

/-! ## Floating-point numbers

A finite number is a mantissa times a power of two. Many pairs have one value, and the
representation of a stored number is the one with the greatest mantissa that fits. Below, whole
numbers are what links different fractional numbers to each other, so that it must be known that no
two stored numbers are equal to one whole number. -/

namespace Binary64

/-- A number as it is stored: a finite one has a mantissa of 53 bits, or of fewer bits where the
exponent is the least. -/
def IsCanonical : Binary64 → Prop
  | .finite _ m e => m < 2 ^ 53 ∧ minExponent ≤ e ∧ (2 ^ 52 ≤ m ∨ e = minExponent)
  | _ => True

variable {x y z : Binary64} {s : Bool} {m n : Nat} {e f : Int}

/-- The mantissa and the exponent of a stored number are told from its value. The greater of two
exponents is not the least one, so that its mantissa has all its bits. -/
theorem eq_of_mul_pow_eq (hm : m < 2 ^ 53) (he : minExponent ≤ e)
    (hn : 2 ^ 52 ≤ n ∨ f = minExponent) (hef : e ≤ f)
    (h : m * 2 ^ (e.toNat + (-f).toNat) = n * 2 ^ (f.toNat + (-e).toNat)) : m = n ∧ e = f := by
  obtain ⟨d, hd⟩ : ∃ d : Nat, f = e + d := ⟨(f - e).toNat, by omega⟩
  have hexp : f.toNat + (-e).toNat = d + (e.toNat + (-f).toNat) := by omega
  rw [hexp, pow_add 2 d, ← mul_assoc] at h
  have hmn : m = n * 2 ^ d := Nat.eq_of_mul_eq_mul_right (Nat.two_pow_pos _) h
  cases d with
  | zero => exact ⟨by simpa using hmn, by omega⟩
  | succ d =>
    rcases hn with hn | hn
    · have hlow : 2 ^ 52 * 2 ^ (d + 1) ≤ n * 2 ^ (d + 1) := Nat.mul_le_mul_right _ hn
      have hhigh : 2 ^ 53 ≤ 2 ^ 52 * 2 ^ (d + 1) := by
        rw [← pow_add]
        exact Nat.pow_le_pow_right (by omega) (by omega)
      omega
    · omega

/-- What it means for a finite number to have the value of a whole number, apart from the sign:
multiplied out so that neither side has a fraction, the absolute values are equal. The sign is that
of the whole number, where zero has either. -/
theorem natAbs_of_sameInt {k : Int} (h : (finite s m e).sameInt k = true) :
    m * 2 ^ e.toNat = k.natAbs * 2 ^ (-e).toNat ∧ (if s then k ≤ 0 else 0 ≤ k) := by
  simp only [sameInt, toRatio, beq_iff_eq] at h
  have hpos : (0 : Int) < (2 ^ (-e).toNat : Nat) := by exact_mod_cast Nat.two_pow_pos _
  have hnonneg : (0 : Int) ≤ (m * Nat.pow 2 e.toNat : Nat) := Int.natCast_nonneg _
  constructor
  · have habs := congrArg Int.natAbs h
    rw [Int.natAbs_mul, Int.natAbs_natCast] at habs
    cases s <;> simpa only [Bool.false_eq_true, if_false, if_true, Int.natAbs_neg,
      Int.natAbs_natCast, Nat.pow_eq] using habs
  · cases s
    · simp only [Bool.false_eq_true, if_false] at h ⊢
      rw [h] at hnonneg
      exact Int.nonneg_of_mul_nonneg_left hnonneg hpos
    · simp only [if_true] at h ⊢
      have hneg : 0 ≤ -k * (2 ^ (-e).toNat : Nat) := by
        rw [Int.neg_mul, ← Nat.pow_eq, ← h, Int.neg_neg]
        exact hnonneg
      have := Int.nonneg_of_mul_nonneg_left hneg hpos
      omega

/-- **Two stored numbers with the value of one whole number are the same.** Multiplied out, their
mantissas are equal up to powers of two. The one with the smaller exponent has the greatest mantissa
that fits, and so the exponents are equal, too. -/
theorem IsCanonical.same_of_sameInt {k : Int} (hx : x.IsCanonical) (hy : y.IsCanonical)
    (hxk : x.sameInt k = true) (hyk : y.sameInt k = true) : x.same y = true := by
  cases x with
  | infinite | nan => cases hxk
  | finite s m e =>
    cases y with
    | infinite | nan => cases hyk
    | finite t n f =>
      obtain ⟨hm, hs⟩ := natAbs_of_sameInt hxk
      obtain ⟨hn, ht⟩ := natAbs_of_sameInt hyk
      have hmn : m * 2 ^ (e.toNat + (-f).toNat) = n * 2 ^ (f.toNat + (-e).toNat) := by
        rw [pow_add, pow_add, ← mul_assoc, ← mul_assoc, hm, hn]
        ring
      obtain ⟨rfl, rfl⟩ : m = n ∧ e = f := by
        rcases le_total e f with hef | hfe
        · exact eq_of_mul_pow_eq hx.1 hx.2.1 hy.2.2 hef hmn
        · obtain ⟨hnm, hfe⟩ := eq_of_mul_pow_eq hy.1 hy.2.1 hx.2.2 hfe hmn.symm
          exact ⟨hnm.symm, hfe.symm⟩
      simp only [same, beq_self_eq_true, Bool.true_and, Bool.or_eq_true, beq_iff_eq]
      by_cases hst : s = t
      · exact .inl hst
      · -- numbers of opposite signs are zero
        have hzero : k = 0 := by
          cases s <;> cases t <;> simp_all <;> omega
        rw [hzero] at hm
        exact .inr (by simpa using hm)

theorem same_comm (x y : Binary64) : x.same y = y.same x := by
  cases x <;> cases y <;> try rfl
  · rw [Bool.eq_iff_iff]
    simp only [same, Bool.and_eq_true, Bool.or_eq_true, beq_iff_eq]
    grind
  · rw [same, same, Bool.beq_comm]

theorem same_trans (hxy : x.same y = true) (hyz : y.same z = true) : x.same z = true := by
  cases x <;> cases y <;> cases z <;>
    simp only [same, Bool.and_eq_true, Bool.or_eq_true, beq_iff_eq, Bool.false_eq_true] at *
  · grind
  · rw [hxy, hyz]

/-- Numbers that are the same have the value of the same whole numbers. -/
theorem sameInt_congr (h : x.same y = true) (k : Int) : x.sameInt k = y.sameInt k := by
  cases x <;> cases y <;>
    simp only [same, Bool.and_eq_true, Bool.or_eq_true, beq_iff_eq, Bool.false_eq_true] at h
  · obtain ⟨⟨rfl, rfl⟩, rfl | rfl⟩ := h
    · rfl
    · simp [sameInt, toRatio]
  · rfl

/-- A number has the value of one whole number at most. -/
theorem eq_of_sameInt {k l : Int} (hk : x.sameInt k = true) (hl : x.sameInt l = true) : k = l := by
  cases x with
  | infinite | nan => cases hk
  | finite s m e =>
    simp only [sameInt, toRatio, beq_iff_eq] at hk hl
    have hpos : (0 : Int) < (Nat.pow 2 (-e).toNat : Nat) := by exact_mod_cast Nat.two_pow_pos _
    exact Int.eq_of_mul_eq_mul_right (ne_of_gt hpos) (hk.symm.trans hl)

end Binary64

/-! ## Times -/

namespace Moment

theorem same_self (m : Moment) : m.same m = true := by
  cases hm : m.offset <;> simp [same, hm]

theorem same_comm (m n : Moment) : m.same n = n.same m := by
  cases hm : m.offset <;> cases hn : n.offset <;> simp only [same, hm, hn]
  · exact Bool.beq_comm
  · rw [Bool.beq_comm, Bool.beq_comm (a := m.microsecond)]

theorem same_trans {l m n : Moment} (hlm : l.same m = true) (hmn : m.same n = true) :
    l.same n = true := by
  cases hl : l.offset <;> cases hm : m.offset <;> cases hn : n.offset <;> simp_all [same]

end Moment

namespace Value

/-! ## Numbers of either kind -/

/-- A number as it is stored. -/
def IsStored : Int ⊕ Binary64 → Prop
  | .inl _ => True
  | .inr x => x.IsCanonical

/-- Two fractional numbers are the same by value, or both of them are no number. The second case is
its own, since what is no number has no value to compare. -/
theorem sameNumber_inr {x y : Binary64} :
    sameNumber (.inr x) (.inr y) = true ↔ (x = .nan ∧ y = .nan) ∨ x.same y = true := by
  cases x <;> cases y <;> simp [sameNumber, Binary64.same]

/-- Every number is the same as itself, also what is no number. -/
theorem sameNumber_self (m : Int ⊕ Binary64) : sameNumber m m = true := by
  cases m with
  | inl m => exact beq_self_eq_true m
  | inr x => cases x <;> simp [sameNumber, Binary64.same]

/-- It does not matter which of two numbers is compared with the other. -/
theorem sameNumber_comm (m n : Int ⊕ Binary64) : sameNumber m n = sameNumber n m := by
  cases m with
  | inl m =>
    cases n with
    | inl n => exact Bool.beq_comm
    | inr y => rfl
  | inr x =>
    cases n with
    | inl n => rfl
    | inr y => rw [Bool.eq_iff_iff, sameNumber_inr, sameNumber_inr, Binary64.same_comm, and_comm]

/-- Numbers that are the same as a third one are the same. The outer numbers must be stored ones: in
the middle a whole number may stand, and only stored fractional numbers are known from the whole
number that they are equal to. -/
theorem sameNumber_trans {m n p : Int ⊕ Binary64} (hm : IsStored m) (hp : IsStored p)
    (hmn : sameNumber m n = true) (hnp : sameNumber n p = true) : sameNumber m p = true := by
  cases m with
  | inl m =>
    cases n with
    | inl n =>
      obtain rfl : m = n := beq_iff_eq.mp hmn
      exact hnp
    | inr y =>
      cases p with
      | inl p => exact beq_iff_eq.mpr (Binary64.eq_of_sameInt hmn hnp)
      | inr z =>
        rcases sameNumber_inr.mp hnp with ⟨rfl, -⟩ | hyz
        · cases hmn
        · exact (Binary64.sameInt_congr hyz m).symm.trans hmn
  | inr x =>
    cases n with
    | inl n =>
      cases p with
      | inl p =>
        obtain rfl : n = p := beq_iff_eq.mp hnp
        exact hmn
      | inr z => exact sameNumber_inr.mpr (.inr (hm.same_of_sameInt hp hmn hnp))
    | inr y =>
      cases p with
      | inl p =>
        rcases sameNumber_inr.mp hmn with ⟨-, rfl⟩ | hxy
        · cases hnp
        · exact (Binary64.sameInt_congr hxy p).trans hnp
      | inr z =>
        rw [sameNumber_inr] at hmn hnp ⊢
        rcases hmn with ⟨rfl, rfl⟩ | hxy
        · rcases hnp with ⟨-, rfl⟩ | hyz
          · exact .inl ⟨rfl, rfl⟩
          · cases z <;> cases hyz
        · rcases hnp with ⟨rfl, -⟩ | hyz
          · cases x <;> cases hxy
          · exact .inr (Binary64.same_trans hxy hyz)

/-! ## Keys

The relation is shown to be an equivalence for the kinds of values one after the other: for the
exact kinds it is equality, for numbers it is that of their values, and for tuples it goes item by
item, so that the induction is on the key. -/

/-- The values that a mapping may have as keys: collections that can be changed are none. -/
inductive IsKey : Value → Prop
  | null : IsKey null
  | bool (b : Bool) : IsKey (bool b)
  | int (n : Int) : IsKey (int n)
  | float {x : Binary64} (h : x.IsCanonical) : IsKey (float x)
  | text (s : String) : IsKey (text s)
  | codes (cs : Codes) : IsKey (codes cs)
  | bytes (s : Bytes) : IsKey (bytes s)
  | date (d : Date) : IsKey (date d)
  | moment (m : Moment) : IsKey (moment m)
  | tuple {items : List Value} (h : ∀ x ∈ items, IsKey x) : IsKey (tuple items)

/-- The kinds of values that are the same key as no other value. -/
def IsExact : Value → Prop
  | null | text _ | codes _ | bytes _ | date _ => True
  | _ => False

variable {x y z : Value} {m : Int ⊕ Binary64}

/-- A value of an exact kind is the same key as no other value. -/
theorem eq_of_same_of_isExact (h : x.same y = true) (hx : x.IsExact) : y = x := by
  cases x <;> cases hx <;> cases y <;> simp_all [same, number?]

/-- A text is the same key as no other value. -/
theorem text_same_of_ne {name : String} (h : x ≠ text name) : (text name).same x = false := by
  rw [Bool.eq_false_iff]
  exact fun hsame => h (eq_of_same_of_isExact hsame trivial)

/-- A number that is a key is stored in its one representation. -/
theorem IsKey.isStored (h : x.IsKey) (hm : number? x = some m) : IsStored m := by
  cases h <;> cases hm
  · trivial
  · trivial
  · next h => exact h

/-- Whether two numbers are the same key is a matter of their values alone. -/
theorem same_of_number? {n : Int ⊕ Binary64} (hx : number? x = some m) (hy : number? y = some n) :
    x.same y = sameNumber m n := by
  cases x <;> cases hx <;> cases y <;> cases hy <;> simp [same, number?]

/-- Only a number is the same key as a number. -/
theorem exists_of_same_of_number? (hx : number? x = some m) (h : x.same y = true) :
    ∃ n, number? y = some n ∧ sameNumber m n = true := by
  cases x <;> cases hx <;> cases y <;> simp_all [same, number?]

/-- A number is the same key as a value where the value is the same key as the number. If the value
is no number, both are false. -/
theorem same_comm_of_number? (hx : number? x = some m) (y : Value) : x.same y = y.same x := by
  cases hy : number? y with
  | some n => rw [same_of_number? hx hy, same_of_number? hy hx, sameNumber_comm]
  | none => cases x <;> cases hx <;> cases y <;> cases hy <;> simp [same, number?]

/-- Being the same key is transitive where it starts with a number, since it then never leaves the
numbers. -/
theorem same_trans_of_number? (hx : number? x = some m) (hxkey : x.IsKey) (hzkey : z.IsKey)
    (hxy : x.same y = true) (hyz : y.same z = true) : x.same z = true := by
  obtain ⟨n, hy, hmn⟩ := exists_of_same_of_number? hx hxy
  obtain ⟨p, hz, hnp⟩ := exists_of_same_of_number? hy hyz
  rw [same_of_number? hx hz]
  exact sameNumber_trans (hxkey.isStored hx) (hzkey.isStored hz) hmn hnp

/-- Items are the same as themselves if each of them is. -/
theorem sameItems_self {xs : List Value} (h : ∀ x ∈ xs, x.same x = true) :
    sameItems xs xs = true := by
  induction xs with
  | nil => rfl
  | cons x xs ih =>
    rw [sameItems, h x List.mem_cons_self, ih fun x hx => h x (List.mem_cons_of_mem _ hx)]
    rfl

/-- Items may be compared in either direction if each of them may. -/
theorem sameItems_comm {xs ys : List Value} (h : ∀ x ∈ xs, ∀ y, x.same y = y.same x) :
    sameItems xs ys = sameItems ys xs := by
  induction xs generalizing ys with
  | nil => cases ys <;> rfl
  | cons x xs ih =>
    cases ys with
    | nil => rfl
    | cons y ys =>
      rw [sameItems, sameItems, h x List.mem_cons_self y,
        ih fun x hx => h x (List.mem_cons_of_mem _ hx)]

/-- Items are the same as those of a third list if this holds item by item. The middle list may be
of any values, as in `sameNumber_trans`. -/
theorem sameItems_trans {xs ys zs : List Value}
    (h : ∀ x ∈ xs, ∀ y, ∀ z ∈ zs, x.same y = true → y.same z = true → x.same z = true)
    (hxy : sameItems xs ys = true) (hyz : sameItems ys zs = true) : sameItems xs zs = true := by
  induction xs generalizing ys zs with
  | nil =>
    cases ys with
    | nil => exact hyz
    | cons => cases hxy
  | cons x xs ih =>
    cases ys with
    | nil => cases hxy
    | cons y ys =>
      cases zs with
      | nil => cases hyz
      | cons z zs =>
        rw [sameItems, Bool.and_eq_true] at hxy hyz ⊢
        have hrest : ∀ x ∈ xs, ∀ y, ∀ z ∈ zs,
            x.same y = true → y.same z = true → x.same z = true := fun x hx y z hz =>
          h x (List.mem_cons_of_mem _ hx) y z (List.mem_cons_of_mem _ hz)
        exact ⟨h x List.mem_cons_self y z List.mem_cons_self hxy.1 hyz.1, ih hrest hxy.2 hyz.2⟩

/-- **A key is the same key as itself.** -/
theorem IsKey.same_self (h : x.IsKey) : x.same x = true := by
  induction h with
  | null | text | codes | bytes | date => simp [same]
  | bool | int | float => exact (same_of_number? rfl rfl).trans (sameNumber_self _)
  | moment m => simpa only [same] using m.same_self
  | tuple _ ih => simpa only [same] using sameItems_self ih

/-- **It does not matter which of two keys is compared with the other.** -/
theorem IsKey.same_comm (h : x.IsKey) (y : Value) : x.same y = y.same x := by
  induction h generalizing y with
  | bool | int | float => exact same_comm_of_number? rfl y
  | null => cases y <;> simp [same, number?]
  | text | codes | bytes | date => cases y <;> simp [same, number?, Bool.beq_comm]
  | moment m => cases y <;> simp [same, number?, Moment.same_comm]
  | tuple _ ih =>
    cases y with
    | tuple ys => simpa only [same] using sameItems_comm ih
    | _ => simp [same, number?]

/-- **Keys that are the same as a third value are the same.** The induction is on the first key,
which may be a tuple of keys. Numbers are taken together, since whole and fractional ones can be the
same; of every other kind the third value has to be of the same kind. -/
theorem IsKey.same_trans (hx : x.IsKey) (hz : z.IsKey) (hxy : x.same y = true)
    (hyz : y.same z = true) : x.same z = true := by
  induction hx generalizing y z with
  | bool b => exact same_trans_of_number? rfl (.bool b) hz hxy hyz
  | int n => exact same_trans_of_number? rfl (.int n) hz hxy hyz
  | float h => exact same_trans_of_number? rfl (.float h) hz hxy hyz
  | null | text | codes | bytes | date =>
    obtain rfl := eq_of_same_of_isExact hxy trivial
    exact hyz
  | moment l =>
    cases y with
    | moment m =>
      cases z with
      | moment n =>
        rw [same] at hxy hyz ⊢
        exact Moment.same_trans hxy hyz
      | _ => simp [same, number?] at hyz
    | _ => simp [same, number?] at hxy
  | tuple _ ih =>
    cases y with
    | tuple ys =>
      cases hz with
      | tuple hz =>
        rw [same] at hxy hyz ⊢
        exact sameItems_trans (fun x hx y z hmem => ih x hx (hz z hmem)) hxy hyz
      | _ => simp [same, number?] at hyz
    | _ => simp [same, number?] at hxy

/-! ## Equality

Equality of all values cannot be derived, since a value holds lists of values. For the values of a
short file it is enough to compare four kinds, and no other kind is told to be equal to anything. -/

mutual

/-- Whether two values are equal, which is more than that they are the same key: here no whole
number is a fraction. Only texts, numbers and mappings of these are told to be equal. -/
def isEqual : Value → Value → Bool
  | text s, text t => s == t
  | int m, int n => m == n
  | float x, float y => x == y
  | map es, map fs => isEqualEntries es fs
  | _, _ => false

/-- `isEqual` on two lists of entries, key by key and value by value. -/
def isEqualEntries : List (Value × Value) → List (Value × Value) → Bool
  | [], [] => true
  | (k, v) :: es, (l, w) :: fs => isEqual k l && isEqual v w && isEqualEntries es fs
  | _, _ => false

end

/-- What is told to be equal is. The induction is that of `isEqual`, whose last case on either side
is that of two values of different kinds. -/
theorem eq_of_isEqual {v w : Value} : v.isEqual w = true → v = w := by
  refine isEqual.induct (fun v w => v.isEqual w = true → v = w)
    (fun es fs => isEqualEntries es fs = true → es = fs) ?_ ?_ ?_ ?_ ?_ ?_ ?_ ?_ v w
  · intro s t h
    rw [isEqual, beq_iff_eq] at h
    rw [h]
  · intro m n h
    rw [isEqual, beq_iff_eq] at h
    rw [h]
  · intro x y h
    rw [isEqual, beq_iff_eq] at h
    rw [h]
  · intro es fs ih h
    rw [isEqual] at h
    rw [ih h]
  · intro v w _ _ _ _ h
    rw [isEqual] at h
    · cases h
    all_goals assumption
  · exact fun _ => rfl
  · intro k v es l w fs hk hv hes h
    rw [isEqualEntries, Bool.and_eq_true, Bool.and_eq_true] at h
    rw [hk h.1.1, hv h.1.2, hes h.2]
  · intro es fs _ _ h
    rw [isEqualEntries] at h
    · cases h
    all_goals assumption

end Value

end Tftp
