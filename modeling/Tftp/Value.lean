import Tftp.Calendar
import Tftp.Text.Quoted

/-!
# Configuration values

The value of a configuration entry may be of any kind that a configuration file can express, and
it stays what it was until an entry is checked. The address of a client is of the same type: it
is whatever the transport hands over, and it is only compared and shown.

* `Value.same` — equality of keys and addresses, where numbers are compared by value;
* `Value.isTruthy` — what counts as a yes;
* `Value.literal` — the text of a value in messages, with texts in quotes;
* `Value.display` — the text of a value where it stands alone, with texts as they are.

A collection may lead to itself. It is then given as one of a whole of collections that stand for
one another by number (`Value.cyclic`), and `Value.opened` brings its items into view. In a message
dots stand for a collection inside itself.
-/

namespace Tftp

/-- A configuration value or an address. -/
inductive Value where
  | null
  | bool (b : Bool)
  | int (n : Int)
  | float (x : Binary64)
  | text (s : String)
  /-- a text with unpaired halves of surrogate pairs -/
  | codes (cs : Codes)
  | bytes (s : Bytes)
  | date (d : Date)
  | moment (m : Moment)
  | list (items : List Value)
  | tuple (items : List Value)
  | set (items : List Value)
  | map (entries : List (Value × Value))
  /-- a collection that leads to itself: the numbered collections of a whole, in which they stand
  for one another by their numbers, and the number of this one -/
  | cyclic (whole : List (Nat × Value)) (number : Nat)
  /-- a collection of the same whole -/
  | part (number : Nat)
  deriving Inhabited

namespace Value

/-! ## Equality -/

/-- The number that a value is, with the truth values as one and zero. -/
def number? : Value → Option (Int ⊕ Binary64)
  | bool b => some (.inl b.toInt)
  | int n => some (.inl n)
  | float x => some (.inr x)
  | _ => none

/-- Equality of two numbers by value. What is not a number is the same as itself. -/
def sameNumber : Int ⊕ Binary64 → Int ⊕ Binary64 → Bool
  | .inl m, .inl n => m == n
  | .inl m, .inr y => y.sameInt m
  | .inr x, .inl n => x.sameInt n
  | .inr .nan, .inr .nan => true
  | .inr x, .inr y => x.same y

mutual

/-- Whether two values are the same key or address. Numbers are compared by value, whatever their
kind, and collections item by item. -/
def same : Value → Value → Bool
  | null, null => true
  | text s, text t => s == t
  | codes s, codes t => s == t
  | bytes s, bytes t => s == t
  | date d, date e => d == e
  | moment m, moment n => m.same n
  | list xs, list ys => sameItems xs ys
  | tuple xs, tuple ys => sameItems xs ys
  | set xs, set ys => sameItems xs ys
  | map xs, map ys => sameEntries xs ys
  | x, y =>
    match number? x, number? y with
    | some m, some n => sameNumber m n
    | _, _ => false

/-- `same` on two lists of equal length, item by item. -/
def sameItems : List Value → List Value → Bool
  | [], [] => true
  | x :: xs, y :: ys => same x y && sameItems xs ys
  | _, _ => false

/-- `same` on two lists of entries, key by key and value by value. -/
def sameEntries : List (Value × Value) → List (Value × Value) → Bool
  | [], [] => true
  | (k, v) :: xs, (l, w) :: ys => same k l && same v w && sameEntries xs ys
  | _, _ => false

end

/-- Two texts are the same key exactly when they are equal. -/
@[simp] theorem same_text (s t : String) : same (text s) (text t) = (s == t) := by
  simp [same]

/-- Only a text is the same key as a text. -/
theorem eq_text_of_same {v : Value} {s : String} (h : v.same (text s) = true) : v = text s := by
  cases v <;> simp_all [same, number?]

/-! ## Texts -/

/-- The value of a text that may have unpaired halves. -/
def ofCodes (cs : Codes) : Value :=
  match cs.toChars? with
  | some chars => text (String.ofList chars)
  | none => codes cs

/-- The code points of a text. -/
def codes? : Value → Option Codes
  | text s => some (.ofChars s.toList)
  | codes cs => some cs
  | _ => none

/-! ## Collections that lead to themselves -/

/-- An item with what its part stands for. -/
def closeItem (meaning : Nat → Value) : Value → Value
  | part i => meaning i
  | tuple xs => tuple (xs.map fun | part i => meaning i | x => x)
  | x => x

/-- A collection with what the parts in it stand for. -/
def close (meaning : Nat → Value) : Value → Value
  | list xs => list (xs.map (closeItem meaning))
  | map es => map (es.map fun (k, v) => (k, closeItem meaning v))
  | v => v

/-- The numbers of the parts in an item. -/
def itemParts : Value → List Nat
  | part i => [i]
  | tuple xs => xs.filterMap fun | part i => some i | _ => none
  | _ => []

/-- The numbers of the parts in a collection. -/
def parts : Value → List Nat
  | list xs => xs.flatMap itemParts
  | map es => es.flatMap fun e => itemParts e.2
  | _ => []

/-- The value with its items in view: a collection that leads to itself is opened. -/
def opened : Value → Value
  | cyclic whole i => ((whole.lookup i).getD null).close (cyclic whole)
  | v => v

/-! ## Truth -/

/-- Whether a value counts as a yes: it is not null, false, a zero or empty. -/
def isTruthy (v : Value) : Bool :=
  match v.opened with
  | null => false
  | bool b => b
  | int n => n != 0
  | float x => !x.isZero
  | text s => s != ""
  | bytes s => !s.isEmpty
  | list xs | tuple xs | set xs => !xs.isEmpty
  | map es => !es.isEmpty
  | codes _ | date _ | moment _ | cyclic .. | part _ => true

/-! ## Text -/

/-- What stands for a collection inside itself. -/
def ellipsis : Value → String
  | list _ => "[...]"
  | tuple _ => "(...)"
  | _ => "\x7b...\x7d"

/-- The text of a collection of a whole, for each the text inside itself and the text around its
parts. The path has the collections around this one. -/
def wholeLiteral? (whole : List (Nat × String × ((Nat → Option String) → Option String))) :
    Nat → List Nat → Nat → Option String
  | fuel, path, i =>
    match whole.lookup i with
    | none => none
    | some (inside, around) =>
      if path.contains i then some inside
      else
        match fuel with
        | 0 => some inside
        | fuel + 1 => around (wholeLiteral? whole fuel (i :: path))

mutual

/-- The text of a value in a message, with the texts of the parts in it. A whole number that is too
long has none. -/
def literalWith (part? : Nat → Option String) : Value → Option String
  | null => some "None"
  | bool b => some (if b then "True" else "False")
  | int n => if Numeral.isWritable n then some (toString n) else none
  | float x => some x.text
  | text s => some (Text.quoted s)
  | codes cs => some (Text.quotedCodes cs)
  | bytes s => some (Text.quotedBytes s)
  | date d => some d.literal
  | moment m => some m.literal
  | list xs => (literalsWith part? xs).map fun ts => "[" ++ ", ".intercalate ts ++ "]"
  | tuple [x] => (literalWith part? x).map fun t => "(" ++ t ++ ",)"
  | tuple xs => (literalsWith part? xs).map fun ts => "(" ++ ", ".intercalate ts ++ ")"
  | set [] => some "set()"
  | set xs => (literalsWith part? xs).map fun ts => "\x7b" ++ ", ".intercalate ts ++ "\x7d"
  | map es => (entryLiteralsWith part? es).map fun ts => "\x7b" ++ ", ".intercalate ts ++ "\x7d"
  | cyclic whole i => wholeLiteral? (partLiterals whole) whole.length [] i
  | part i => part? i

/-- The literals of the items of a collection. -/
def literalsWith (part? : Nat → Option String) : List Value → Option (List String)
  | [] => some []
  | x :: xs => do
    let t ← literalWith part? x
    return t :: (← literalsWith part? xs)

/-- The literals of the entries of a mapping. -/
def entryLiteralsWith (part? : Nat → Option String) :
    List (Value × Value) → Option (List String)
  | [] => some []
  | (k, v) :: es => do
    let k ← literalWith part? k
    let v ← literalWith part? v
    return (k ++ ": " ++ v) :: (← entryLiteralsWith part? es)

/-- The texts of the collections of a whole inside themselves and around their parts. -/
def partLiterals :
    List (Nat × Value) → List (Nat × String × ((Nat → Option String) → Option String))
  | [] => []
  | (i, v) :: vs => (i, ellipsis v, fun part? => literalWith part? v) :: partLiterals vs

end

/-- The text of a value in a message, unless it has a whole number that is too long. -/
def literal? (v : Value) : Option String :=
  v.literalWith fun _ => none

/-- The text of a value in a message. -/
def literal (v : Value) : String := v.literal?.getD ""

/-- The text of a value where it stands alone: texts and times are shown as they are. -/
def display : Value → String
  | text s => s
  | date d => d.text
  | moment m => m.text
  | v => v.literal

example : literal (tuple [text "192.0.2.1", int 41000]) = "('192.0.2.1', 41000)" := by
  decide +kernel

example : literal (list [null, bool true, text "it's"]) = "[None, True, \"it's\"]" := by
  decide +kernel

end Value

/-- The address of a client: compared and shown, never taken apart. -/
abbrev Address := Value

end Tftp
