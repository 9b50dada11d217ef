import Tftp.Number.Binary64

/-!
# The shortest decimal text of a floating-point number

A finite number is written with the fewest significant digits that read back as the same number,
and of those with the digits nearest to it. The digits are found by trying one count after the
other: for each count the two neighbours of the number on that decimal grid are read back.

`Binary64.text` lays the digits out: positionally while the point stands between four places
before and sixteen places after the first digit, with at least one digit after the point, and
otherwise with an exponent of at least two digits.
-/

namespace Tftp.Binary64

/-- How a number is laid out in text. -/
structure TextFormat where
  /-- the least power of ten of the first digit that is written positionally -/
  leastPositional : Int
  /-- the power of ten of the first digit from which on an exponent is written -/
  leastScientific : Int
  /-- the least count of digits of an exponent -/
  exponentWidth : Nat

/-- Numbers from `1e-4` to just below `1e16` are written positionally; an exponent has two digits
or more. -/
def textFormat : TextFormat := ⟨-4, 16, 2⟩

/-- The power of ten of the first digit of a positive quotient. The estimate from the power of
two is at most two too low. -/
def log10Ratio (num den : Nat) : Int :=
  let estimate := (log2Ratio num den * 30103).fdiv 100000 - 1
  let reaches (k : Int) : Bool := den * Nat.pow 10 k.toNat ≤ num * Nat.pow 10 (-k).toNat
  if reaches (estimate + 2) then estimate + 2
  else if reaches (estimate + 1) then estimate + 1
  else estimate

/-- The decimal of a count of digits that reads back as the number `x`, if there is one: a whole
number and a power of ten. Of two candidates the nearer one is taken, and of two equally near
ones the even one. -/
def ofCount? (x : Binary64) (num den count : Nat) : Option (Nat × Int) :=
  let k := log10Ratio num den - count + 1
  let n := num * Nat.pow 10 (-k).toNat
  let d := den * Nat.pow 10 k.toNat
  let low := n / d
  let readsBack (m : Nat) : Bool := ofDecimal false m k == x
  match readsBack low, readsBack (low + 1) with
  | true, true => some (roundDiv n d, k)
  | true, false => some (low, k)
  | false, true => some (low + 1, k)
  | false, false => none

/-- The shortest decimal of a positive number. Seventeen digits always read back. -/
def shortest (mantissa : Nat) (exponent : Int) : Nat × Int :=
  let num := mantissa * Nat.pow 2 exponent.toNat
  let den := Nat.pow 2 (-exponent).toNat
  let x := finite false mantissa exponent
  ((List.range 17).findSome? fun i => ofCount? x num den (i + 1)).getD (0, 0)

/-- A text of digits with a given least width, filled with zeros in front. -/
def padded (width n : Nat) : String :=
  let s := toString n
  String.ofList (List.replicate (width - s.length) '0') ++ s

/-- The text of a whole number of digits times a power of ten. -/
def layout (format : TextFormat) (digits : Nat) (k : Int) : String :=
  let ds := (toString digits).toList
  let stripped := (ds.reverse.dropWhile (· == '0')).reverse
  let first : Int := ds.length - 1 + k
  if format.leastPositional ≤ first ∧ first < format.leastScientific then
    if first < 0 then
      "0." ++ String.ofList (List.replicate (-first - 1).toNat '0' ++ stripped)
    else
      let whole := first.toNat + 1
      let left := stripped.take whole
      let right := stripped.drop whole
      String.ofList (left ++ List.replicate (whole - left.length) '0') ++ "." ++
        (if right.isEmpty then "0" else String.ofList right)
  else
    let (left, right) := stripped.splitAt 1
    let point := if right.isEmpty then "" else "."
    let sign := if first < 0 then "-" else "+"
    String.ofList left ++ point ++ String.ofList right ++ "e" ++ sign ++
      padded format.exponentWidth first.natAbs

/-- The text of a number. -/
def text : Binary64 → String
  | .nan => "nan"
  | .infinite negative => if negative then "-inf" else "inf"
  | .finite negative m e =>
    let body := if m = 0 then "0.0" else
      let (digits, k) := shortest m e
      layout textFormat digits k
    if negative then "-" ++ body else body

end Tftp.Binary64
