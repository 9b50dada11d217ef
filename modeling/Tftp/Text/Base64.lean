import Tftp.Bytes

/-!
# Bytes in base 64

Four characters of an alphabet of 64 stand for three bytes, and at the end two or three characters
and an equals sign for each one that is missing. All other characters are passed over.
-/

namespace Tftp.Text.Base64

/-- The value of a character of the alphabet. -/
def digit? (c : Char) : Option Nat :=
  if 'A' ≤ c ∧ c ≤ 'Z' then some (c.toNat - 65)
  else if 'a' ≤ c ∧ c ≤ 'z' then some (c.toNat - 71)
  else if c.isDigit then some (c.toNat + 4)
  else if c = '+' then some 62
  else if c = '/' then some 63
  else none

/-- The bytes of a text, after the digits of an unfinished group and the equals signs behind them.
An unfinished group is a fault, unless enough equals signs complete it. -/
def bytes? (group : List Nat) (signs : Nat) : List Char → Option Bytes
  | [] => if group.isEmpty then some [] else none
  | c :: cs =>
    let finish (group : List Nat) : Bytes :=
      match group with
      | [a, b] => [UInt8.ofNat (4 * a + b / 16)]
      | [a, b, d] => [UInt8.ofNat (4 * a + b / 16), UInt8.ofNat (16 * (b % 16) + d / 4)]
      | _ => []
    if c = '=' then
      if 2 ≤ group.length then
        if 4 ≤ group.length + signs + 1 then some (finish group) else bytes? group (signs + 1) cs
      else bytes? group signs cs
    else
      match digit? c, group with
      | none, _ => bytes? group signs cs
      | some d, [x, y, z] =>
        (bytes? [] 0 cs).map (finish [x, y, z] ++ UInt8.ofNat (64 * (z % 4) + d) :: ·)
      | some d, _ => bytes? (group ++ [d]) 0 cs

/-- The bytes of a text. -/
def read? (cs : List Char) : Option Bytes := bytes? [] 0 cs

example : read? "aGk=".toList = some [104, 105] ∧ read? "aGkh".toList = some [104, 105, 33] ∧
    read? "a".toList = none := by
  decide +kernel

end Tftp.Text.Base64
