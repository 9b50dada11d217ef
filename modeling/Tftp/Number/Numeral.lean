import Tftp.Text.Digit

/-!
# Whole numbers in text

A whole number is read from a text in this form: blanks, an optional sign, digits of any script
with single underscores between them, blanks. `Numeral.read?` gives the number, and none for a
text of another form. A numeral of more than `Numeral.maxDigits` digits is refused, whatever
number it denotes: leading zeros count.
-/

namespace Tftp.Numeral

/-- The greatest count of decimal digits in which a number is read or written. -/
def maxDigits : Nat := 4300

/-- A text without the blanks around it. -/
def trim (cs : List Char) : List Char :=
  ((cs.dropWhile Text.isBlank).reverse.dropWhile Text.isBlank).reverse

/-- The digits of a group between two underscores, which must not be empty. -/
def group? (cs : List Char) : Option (List Nat) :=
  if cs.isEmpty then none else cs.mapM Text.digit?

/-- The digits of a numeral without its sign. -/
def digits? (cs : List Char) : Option (List Nat) :=
  ((cs.splitOn '_').mapM group?).map List.flatten

/-- A sign in front of a text, as whether it is a minus, and the rest of the text. -/
def splitSign : List Char → Bool × List Char
  | '-' :: cs => (true, cs)
  | '+' :: cs => (false, cs)
  | cs => (false, cs)

/-- The number that digits denote in a base, the highest digit first. -/
def ofDigits (base : Nat) (ds : List Nat) : Nat :=
  ds.foldl (fun n d => base * n + d) 0

/-- The whole number that a text denotes. -/
def read? (cs : List Char) : Option Int := do
  let (negative, body) := splitSign (trim cs)
  let ds ← digits? body
  if ds.length ≤ maxDigits then
    let n := ofDigits 10 ds
    return if negative then -(n : Int) else n
  else none

/-- Whether a number is short enough to be written in decimal digits. -/
def isWritable (n : Int) : Bool :=
  n.natAbs < Nat.pow 10 maxDigits

example : read? " 6_9 ".toList = some 69 ∧ read? "-0069".toList = some (-69) := by decide +kernel

example : read? "6__9".toList = none ∧ read? "+ 69".toList = none ∧ read? "".toList = none := by
  decide +kernel

end Tftp.Numeral
