import Tftp.Bytes

/-!
# Decimal numbers in byte strings

Option values are numbers written in ASCII digits. `Decimal.ofNat` writes a number with no
leading zero and `Decimal.value` reads digits, leading zeros included; reading what was written
gives the number back.
-/

namespace Tftp.Decimal

/-- Whether a byte is an ASCII digit. -/
def isDigit (b : UInt8) : Bool :=
  48 ≤ b && b ≤ 57

/-- The ASCII digit for a number below ten. -/
def digit (n : Nat) : UInt8 :=
  UInt8.ofNat (48 + n)

/-- The number that a string of digits denotes. -/
def value (s : Bytes) : Nat :=
  s.foldl (fun n b => 10 * n + (b.toNat - 48)) 0

/-- A number in decimal digits, with no leading zero. -/
def ofNat (n : Nat) : Bytes :=
  if n < 10 then [digit n] else ofNat (n / 10) ++ [digit (n % 10)]

/-- A number in decimal digits, after a minus sign when it is negative. -/
def ofInt : Int → Bytes
  | .ofNat n => ofNat n
  | .negSucc n => 45 :: ofNat (n + 1)

@[simp] theorem value_nil : value [] = 0 := rfl

theorem value_append_singleton (s : Bytes) (b : UInt8) :
    value (s ++ [b]) = 10 * value s + (b.toNat - 48) := by
  simp [value]

theorem toNat_digit {n : Nat} (h : n < 10) : (digit n).toNat = 48 + n := by
  rw [digit, UInt8.toNat_ofNat']
  omega

theorem isDigit_digit {n : Nat} (h : n < 10) : isDigit (digit n) = true := by
  simp only [isDigit, Bool.and_eq_true, decide_eq_true_eq, UInt8.le_iff_toNat_le, toNat_digit h]
  simp
  omega

/-- Reading a written number gives it back. -/
@[simp] theorem value_ofNat (n : Nat) : value (ofNat n) = n := by
  induction n using ofNat.induct with
  | case1 n h => rw [ofNat, if_pos h]; simp [value, toNat_digit h]
  | case2 n h ih =>
    rw [ofNat, if_neg h, value_append_singleton, ih, toNat_digit (Nat.mod_lt n (by decide))]
    omega

/-- A written number consists of digits. -/
theorem isDigit_of_mem_ofNat (n : Nat) : ∀ b ∈ ofNat n, isDigit b = true := by
  induction n using ofNat.induct with
  | case1 n h => rw [ofNat, if_pos h]; simpa using isDigit_digit h
  | case2 n h ih =>
    rw [ofNat, if_neg h]
    simp only [List.mem_append, List.mem_singleton]
    rintro b (hb | rfl)
    · exact ih b hb
    · exact isDigit_digit (Nat.mod_lt n (by decide))

end Tftp.Decimal
