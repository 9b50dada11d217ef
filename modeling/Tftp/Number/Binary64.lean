import Tftp.Number.Numeral

/-!
# Binary floating-point numbers of 64 bits

The fractional numbers of a configuration file. A finite number is a sign, a mantissa and a
power of two, so that every question about it is one about natural numbers:

* `Binary64.ofRatio` — the number nearest to a quotient, with ties to the even mantissa, where
  the mantissa has at most 53 bits and the exponent is at least -1074;
* `Binary64.toRatio` — the exact value back, as a quotient;
* `Binary64.truncate` — the whole number toward zero, which the infinities and nan lack;
* `Binary64.read?` — the number nearest to a decimal text.
-/

namespace Tftp

/-- A floating-point number: `mantissa * 2 ^ exponent` under a sign, an infinity or nan. -/
inductive Binary64 where
  | finite (negative : Bool) (mantissa : Nat) (exponent : Int)
  | infinite (negative : Bool)
  | nan
  deriving DecidableEq, Repr, Inhabited

namespace Binary64

/-- The quotient of two numbers rounded to the nearest whole number, ties to the even one. -/
def roundDiv (num den : Nat) : Nat :=
  let q := num / den
  let r := num % den
  if 2 * r < den then q
  else if den < 2 * r then q + 1
  else if q % 2 = 0 then q else q + 1

/-- A quotient times two to the power `-e`, as a quotient. -/
def scale (num den : Nat) (e : Int) : Nat × Nat :=
  (num * Nat.pow 2 (-e).toNat, den * Nat.pow 2 e.toNat)

/-- The greatest power of two that is at most a positive quotient. -/
def log2Ratio (num den : Nat) : Int :=
  let l : Int := (num.log2 : Int) - den.log2
  let (n, d) := scale num den l
  if n < d then l - 1 else l

/-- The least exponent of a number. -/
def minExponent : Int := -1074

/-- The greatest exponent of a number. -/
def maxExponent : Int := 971

/-- The number nearest to a quotient under a sign. -/
def ofRatio (negative : Bool) (num den : Nat) : Binary64 :=
  if num = 0 then .finite negative 0 minExponent
  else
    let e := max (log2Ratio num den - 52) minExponent
    let (n, d) := scale num den e
    let m := roundDiv n d
    let (m, e) := if m = Nat.pow 2 53 then (Nat.pow 2 52, e + 1) else (m, e)
    if maxExponent < e then .infinite negative else .finite negative m e

/-- The number nearest to a whole number. -/
def ofInt (n : Int) : Binary64 :=
  ofRatio (n < 0) n.natAbs 1

/-- The number nearest to `digits * 10 ^ exponent`. Exponents far outside the range of the
numbers are answered without computing the power. -/
def ofDecimal (negative : Bool) (digits : Nat) (exponent : Int) : Binary64 :=
  if digits = 0 then .finite negative 0 minExponent
  else if 400 < exponent then .infinite negative
  else if exponent + digits.log2 < -400 then .finite negative 0 minExponent
  else ofRatio negative (digits * Nat.pow 10 exponent.toNat) (Nat.pow 10 (-exponent).toNat)

/-- The exact value of a finite number as a signed numerator over a denominator. -/
def toRatio : Binary64 → Option (Int × Nat)
  | .finite negative m e =>
    let n : Int := (m * Nat.pow 2 e.toNat : Nat)
    some (if negative then -n else n, Nat.pow 2 (-e).toNat)
  | _ => none

/-- The whole number toward zero. -/
def truncate (x : Binary64) : Option Int :=
  x.toRatio.map fun (n, d) => n.tdiv d

/-- Whether a number is zero, of either sign. -/
def isZero : Binary64 → Bool
  | .finite _ m _ => m == 0
  | _ => false

/-- Numeric equality: the two zeros are equal, and nan equals nothing. -/
def same : Binary64 → Binary64 → Bool
  | .finite s m e, .finite t n f => m == n && e == f && (s == t || m == 0)
  | .infinite s, .infinite t => s == t
  | _, _ => false

/-- Whether a number has the value of a whole number. -/
def sameInt (x : Binary64) (n : Int) : Bool :=
  match x.toRatio with
  | some (num, den) => num == n * den
  | none => false

/-- Whether a number has a minus sign. -/
def isNegative : Binary64 → Bool
  | .finite s _ _ => s
  | .infinite s => s
  | .nan => false

/-- The number of the opposite sign. -/
def neg : Binary64 → Binary64
  | .finite s m e => .finite (!s) m e
  | .infinite s => .infinite (!s)
  | .nan => .nan

/-- The number nearest to a signed quotient; an exact zero is positive. -/
def ofSignedRatio (num : Int) (den : Nat) : Binary64 :=
  ofRatio (num < 0) num.natAbs den

/-- The number nearest to the sum of two finite numbers. -/
def add (x y : Binary64) : Binary64 :=
  match x.toRatio, y.toRatio with
  | some (n, d), some (m, e) => ofSignedRatio (n * e + m * d) (d * e)
  | some _, none => y
  | none, some _ => x
  | none, none => if x = y then x else .nan

/-- The number nearest to the product of two numbers. -/
def mul (x y : Binary64) : Binary64 :=
  match x, y with
  | .finite s m e, .finite t n f =>
    ofRatio (s != t) (m * n * Nat.pow 2 (e + f).toNat) (Nat.pow 2 (-(e + f)).toNat)
  | .nan, _ => .nan
  | _, .nan => .nan
  | .infinite s, y => if y.isZero then .nan else .infinite (s != y.isNegative)
  | x, .infinite t => if x.isZero then .nan else .infinite (x.isNegative != t)

/-! ## Reading -/

/-- A run of digits of any script, and the rest of the text. -/
def spanDigits (cs : List Char) : List Nat × List Char :=
  ((cs.takeWhile fun c => (Text.digit? c).isSome).filterMap Text.digit?,
    cs.dropWhile fun c => (Text.digit? c).isSome)

/-- The exponent part of a decimal text: nothing, or a mark, an optional sign and digits. -/
def readExponent? : List Char → Option Int
  | [] => some 0
  | c :: cs => do
    guard (c = 'e' ∨ c = 'E')
    let (negative, body) := Numeral.splitSign cs
    let (ds, rest) := spanDigits body
    guard (!ds.isEmpty && rest.isEmpty)
    let n := Numeral.ofDigits 10 ds
    return if negative then -(n : Int) else n

/-- The number nearest to an unsigned decimal text. -/
def readUnsigned? (negative : Bool) (cs : List Char) : Option Binary64 :=
  let word := cs.map Char.toLower
  if word = "inf".toList ∨ word = "infinity".toList then some (.infinite negative)
  else if word = "nan".toList then some .nan
  else do
    let (whole, rest) := spanDigits cs
    let (fraction, rest) := match rest with
      | '.' :: rest => spanDigits rest
      | rest => ([], rest)
    guard (!(whole ++ fraction).isEmpty)
    let exponent ← readExponent? rest
    return ofDecimal negative (Numeral.ofDigits 10 (whole ++ fraction)) (exponent - fraction.length)

/-- The number nearest to a decimal text with blanks around it and an optional sign. -/
def read? (cs : List Char) : Option Binary64 :=
  let (negative, body) := Numeral.splitSign (Numeral.trim cs)
  readUnsigned? negative body

example : read? "1.5".toList = some (.finite false (3 * 2 ^ 51) (-52)) := by decide +kernel

example : read? "1e400".toList = some (.infinite false) := by decide +kernel

example : (read? "-69.9".toList).bind truncate = some (-69) := by decide +kernel

end Binary64

end Tftp
