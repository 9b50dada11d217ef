import Tftp.Number.Binary64
import Tftp.Yaml.Problem

/-!
# Numbers

Numbers may be written in several bases, with underscores anywhere after the first digit, and in
groups of sixty as times are: `0b101`, `017`, `0x1f`, `1_000`, `1:30`, `1:30.5`, `.inf`.

* `isWhole`, `isFractional` — the texts that are numbers by their form;
* `whole`, `fractional` — the number of a text, which is also asked of texts that are said to be
  numbers and have another form.
-/

namespace Tftp.Yaml.Number

/-! ## Forms -/

/-- Whether a character is a digit or an underscore. -/
def isDigitOrLow (c : Char) : Bool := c.isDigit || c == '_'

/-- A text without a sign in front of it. -/
def unsigned (cs : List Char) : List Char := (Numeral.splitSign cs).2

/-- Whether a text is a digit and further digits and underscores. -/
def isDigits : List Char → Bool
  | [] => false
  | c :: cs => c.isDigit && cs.all isDigitOrLow

/-- Whether a text is a number less than sixty in one or two digits. -/
def isSixtieth : List Char → Bool
  | [d] => d.isDigit
  | [t, d] => t.isDigit && t ≤ '5' && d.isDigit
  | _ => false

/-- Whether a text is digits and at least one group of sixtieths after a colon. -/
def isSexagesimal (cs : List Char) : Bool :=
  match cs.splitOn ':' with
  | first :: second :: groups => isDigits first && (second :: groups).all isSixtieth
  | _ => false

/-- Whether a text without its sign is a whole number. -/
def isUnsignedWhole : List Char → Bool
  | [] => false
  | ['0'] => true
  | '0' :: 'b' :: ds => !ds.isEmpty && ds.all fun d => d == '0' || d == '1' || d == '_'
  | '0' :: 'x' :: ds =>
    !ds.isEmpty && ds.all fun d =>
      d.isDigit || d == '_' || ('a' ≤ d && d ≤ 'f') || ('A' ≤ d && d ≤ 'F')
  | '0' :: ds => ds.all fun d => ('0' ≤ d && d ≤ '7') || d == '_'
  | cs => isDigits cs || isSexagesimal cs

/-- Whether a text is a whole number by its form. -/
def isWhole (cs : List Char) : Bool := isUnsignedWhole (unsigned cs)

/-- Whether a text is an exponent, which may be left out. -/
def isExponent : List Char → Bool
  | [] => true
  | e :: sign :: ds =>
    (e == 'e' || e == 'E') && (sign == '-' || sign == '+') && !ds.isEmpty && ds.all (·.isDigit)
  | _ => false

/-- Whether a text is a fractional number by its form. -/
def isFractional (cs : List Char) : Bool :=
  let body := unsigned cs
  let whole := body.takeWhile (· != '.')
  match body.drop whole.length with
  | [] => false
  | _ :: fraction =>
    let exponent := fraction.dropWhile isDigitOrLow
    let word := String.ofList fraction
    if whole.isEmpty then
      word == "inf" || word == "Inf" || word == "INF" ||
        (body.length == cs.length &&
          (word == "nan" || word == "NaN" || word == "NAN" ||
            (isDigits (fraction.takeWhile isDigitOrLow) && isExponent exponent)))
    else (isDigits whole && isExponent exponent) || (isSexagesimal whole && exponent.isEmpty)

/-! ## Values -/

/-- The value of a digit in bases up to sixteen. -/
def digitValue? (c : Char) : Option Nat :=
  (Text.digit? c).or <|
    if 'a' ≤ c ∧ c ≤ 'f' then some (c.toNat - 87)
    else if 'A' ≤ c ∧ c ≤ 'F' then some (c.toNat - 55)
    else none

/-- A text without the mark of a base. -/
def afterMark (mark : Char) : List Char → List Char
  | '0' :: c :: cs => if c.toLower = mark then cs else '0' :: c :: cs
  | cs => cs

/-- The number of a text in a base that is a power of two, of which the mark may be given. -/
def inBase (base : Nat) (mark : Char) (cs : List Char) : Except Problem Int :=
  let (negative, body) := Numeral.splitSign (Numeral.trim cs)
  let ds := afterMark mark body
  match ds.mapM digitValue? with
  | none => .error .badNumber
  | some values =>
    if values.isEmpty || values.any (base ≤ ·) then .error .badNumber
    else
      let n : Int := Numeral.ofDigits base values
      .ok (if negative then -n else n)

/-- The number of a text in decimal digits. -/
def inDecimal (cs : List Char) : Except Problem Int :=
  match Numeral.read? cs with
  | some n => .ok n
  | none => .error .badNumber

/-- A sum of groups, each worth sixty times the next. -/
def sumSixtieths (groups : List Int) : Int :=
  groups.foldl (fun n group => 60 * n + group) 0

/-- The sign in front of a number and the text after it. -/
def signed (cs : List Char) : Except Problem (Bool × List Char) :=
  match cs.filter (· != '_') with
  | [] => .error .emptyNumber
  | cs => .ok (Numeral.splitSign cs)

/-- The whole number of a text. -/
def whole (cs : List Char) : Except Problem Int := do
  let (negative, body) ← signed cs
  let n ← match body with
    | [] => .error .emptyNumber
    | ['0'] => .ok 0
    | '0' :: 'b' :: ds => inBase 2 'b' ds
    | '0' :: 'x' :: ds => inBase 16 'x' ds
    | '0' :: _ => inBase 8 'o' body
    | _ =>
      if body.contains ':' then sumSixtieths <$> (body.splitOn ':').mapM inDecimal
      else inDecimal body
  return if negative then -n else n

/-- The number of a decimal text. -/
def decimal (cs : List Char) : Except Problem Binary64 :=
  match Binary64.read? cs with
  | some x => .ok x
  | none => .error .badNumber

/-- A sum of groups, the last one first, each worth sixty times the one before. It is rounded after
every product and every sum. The worth of a group must not be out of range. -/
def addSixtieths (unit : Int) (sum : Binary64) : List Binary64 → Except Problem Binary64
  | [] => .ok sum
  | group :: groups =>
    match Binary64.ofInt unit with
    | .infinite _ => .error .tooLarge
    | worth => addSixtieths (60 * unit) (sum.add (group.mul worth)) groups

/-- Whether a text is the word for what is not a number. -/
def isNanWord (cs : List Char) : Bool :=
  match signed (cs.map Char.toLower) with
  | .ok (_, body) => body == ".nan".toList
  | .error _ => false

/-- The fractional number of a text. -/
def fractional (cs : List Char) : Except Problem Binary64 := do
  let (negative, body) ← signed (cs.map Char.toLower)
  let x ←
    if body = ".inf".toList then .ok (.infinite false)
    else if body = ".nan".toList then .ok .nan
    else if body.contains ':' then do
      let groups ← (body.splitOn ':').mapM decimal
      addSixtieths 1 (Binary64.ofInt 0) groups.reverse
    else decimal body
  return if negative then x.neg else x

example : isWhole "0x1B39".toList ∧ isWhole "1:30".toList ∧ !isWhole "08".toList := by
  decide +kernel

example : isFractional "1.0e+3".toList ∧ isFractional "69.".toList ∧
    !isFractional "1.0e3".toList := by
  decide +kernel

example : (whole "1_069".toList).toOption = some 1069 ∧ (whole "-010".toList).toOption = some (-8) ∧
    (whole "1:30".toList).toOption = some 90 := by
  decide +kernel

end Tftp.Yaml.Number
