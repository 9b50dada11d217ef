/-!
# Byte strings

Datagrams, file contents and the fields of a packet are byte strings. They are lists, so that
the field structure of a packet can be stated with `splitOn` and `++`:

* `Bytes.toLower` — the ASCII letter case that mode and option names are compared in;
* `Bytes.ofWord` and `Bytes.toWord?` — sixteen-bit numbers, high byte first, inverse to each other;
* `Bytes.toText` and `Bytes.ofText` — the ASCII text of a byte string and back, with a
  replacement character for everything that has no counterpart on the other side.
-/

namespace Tftp

/-- A byte string. -/
abbrev Bytes := List UInt8

namespace Bytes

/-! ## Letter case -/

/-- The lower-case form of an ASCII capital; every other byte stays as it is. -/
def lowerByte (b : UInt8) : UInt8 :=
  if 65 ≤ b ∧ b ≤ 90 then b + 32 else b

/-- A byte string with its ASCII capitals made lower case. -/
def toLower (s : Bytes) : Bytes :=
  s.map lowerByte

@[simp] theorem toLower_nil : toLower [] = [] := rfl

@[simp] theorem toLower_cons (b : UInt8) (s : Bytes) :
    toLower (b :: s) = lowerByte b :: toLower s := rfl

/-- Lower case is a fixed point: folding twice is folding once. -/
theorem lowerByte_lowerByte (b : UInt8) : lowerByte (lowerByte b) = lowerByte b := by
  simp only [lowerByte, UInt8.le_iff_toNat_le]
  split
  · next h =>
    rw [if_neg]
    have := UInt8.toNat_add b 32
    simp at h this ⊢
    omega
  · rfl

@[simp] theorem toLower_toLower (s : Bytes) : s.toLower.toLower = s.toLower := by
  simp [toLower, lowerByte_lowerByte]

/-! ## Sixteen-bit numbers -/

/-- The two bytes of a sixteen-bit number, high byte first. -/
def ofWord (w : UInt16) : Bytes :=
  [UInt8.ofNat (w.toNat / 256), UInt8.ofNat (w.toNat % 256)]

/-- The number that two bytes stand for, high byte first; any other length stands for none. -/
def toWord? : Bytes → Option UInt16
  | [hi, lo] => some (UInt16.ofNat (hi.toNat * 256 + lo.toNat))
  | _ => none

@[simp] theorem length_ofWord (w : UInt16) : (ofWord w).length = 2 := rfl

/-- Reading the two bytes of a number gives the number back. -/
@[simp] theorem toWord?_ofWord (w : UInt16) : toWord? (ofWord w) = some w := by
  have hw : w.toNat < 65536 := w.toNat_lt
  simp only [ofWord, toWord?, Option.some.injEq]
  apply UInt16.toNat_inj.mp
  rw [UInt16.toNat_ofNat', UInt8.toNat_ofNat', UInt8.toNat_ofNat']
  omega

/-- A byte string stands for a number exactly when it has two bytes. -/
theorem isSome_toWord? (s : Bytes) : s.toWord?.isSome = (s.length == 2) := by
  match s with
  | [] => rfl
  | [_] => rfl
  | [_, _] => rfl
  | _ :: _ :: _ :: r => simp [toWord?]

/-- The sixteen-bit number equal to `n`, for the `n` that has one. -/
def word? (n : Int) : Option UInt16 :=
  if 0 ≤ n ∧ n ≤ 65535 then some (UInt16.ofNat n.toNat) else none

/-! ## Text -/

/-- The text of a byte string: ASCII bytes stand for themselves, and each other byte is shown as
the replacement character. -/
def toText (s : Bytes) : String :=
  String.ofList (s.map fun b => if b < 128 then Char.ofNat b.toNat else '\uFFFD')

/-- The byte that stands for a character in ASCII text, a question mark when it has none. -/
def byteOfChar (c : Char) : UInt8 :=
  if c.toNat < 128 then UInt8.ofNat c.toNat else 63

/-- A text as ASCII bytes, each character outside ASCII turned into a question mark. -/
def ofText (s : String) : Bytes :=
  s.toList.map byteOfChar

end Bytes

end Tftp
