import Tftp.Bytes
import Tftp.Text.Codes
import Tftp.Text.Printable

/-!
# Quoted texts

Messages and log lines show the texts and byte strings of a request in quotes, on one line and
with every character that cannot be seen written as an escape:

* the quote is a single one, unless the text holds a single quote and no double quote;
* the backslash and the quote in use are escaped with a backslash;
* line feed, carriage return and tab are `\n`, `\r` and `\t`;
* any other character that is not printable, and half of a surrogate pair, is `\x`, `\u` or `\U`
  with two, four or eight hexadecimal digits.
-/

namespace Tftp.Text

/-- The last `width` hexadecimal digits of a number, lower case. -/
def hexDigits (width n : Nat) : List Char :=
  match width with
  | 0 => []
  | w + 1 => hexDigits w (n / 16) ++ [Nat.digitChar (n % 16)]

/-- The quote for a text: single, unless only single quotes occur in it. -/
def quoteFor (cs : List Char) : Char :=
  if cs.contains '\x27' && !cs.contains '\x22' then '\x22' else '\x27'

/-- The escapes that do not depend on what is printable. -/
def shortEscape? (quote c : Char) : Option (List Char) :=
  if c = '\\' ∨ c = quote then some ['\\', c]
  else if c = '\n' then some ['\\', 'n']
  else if c = '\r' then some ['\\', 'r']
  else if c = '\t' then some ['\\', 't']
  else none

/-- A character as it is written between the quotes. -/
def quoteChar (quote c : Char) : List Char :=
  match shortEscape? quote c with
  | some cs => cs
  | none =>
    if isPrintable c then [c]
    else if c.toNat < 0x100 then '\\' :: 'x' :: hexDigits 2 c.toNat
    else if c.toNat < 0x10000 then '\\' :: 'u' :: hexDigits 4 c.toNat
    else '\\' :: 'U' :: hexDigits 8 c.toNat

/-- A text in quotes. -/
def quoted (s : String) : String :=
  let cs := s.toList
  let q := quoteFor cs
  String.ofList (q :: cs.flatMap (quoteChar q) ++ [q])

/-- A code point as it is written between the quotes. -/
def quoteCode (quote : Char) (n : Nat) : List Char :=
  match Codes.char? n with
  | some c => quoteChar quote c
  | none => '\\' :: 'u' :: hexDigits 4 n

/-- A text in quotes that may have unpaired halves. -/
def quotedCodes (cs : Codes) : String :=
  let q := quoteFor (cs.filterMap Codes.char?)
  String.ofList (q :: cs.flatMap (quoteCode q) ++ [q])

/-- A byte as it is written between the quotes: bytes outside printable ASCII are escaped. -/
def quoteByte (quote : Char) (b : UInt8) : List Char :=
  let c := Char.ofNat b.toNat
  match shortEscape? quote c with
  | some cs => cs
  | none => if 32 ≤ b ∧ b < 127 then [c] else '\\' :: 'x' :: hexDigits 2 b.toNat

/-- A byte string in quotes, marked as such by a letter in front. -/
def quotedBytes (s : Bytes) : String :=
  let q := quoteFor (s.map fun b => Char.ofNat b.toNat)
  String.ofList ('b' :: q :: s.flatMap (quoteByte q) ++ [q])

end Tftp.Text
