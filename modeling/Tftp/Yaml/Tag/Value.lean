import Tftp.Text.Base64
import Tftp.Text.Lower
import Tftp.Yaml.Tag

/-!
# The values of scalars

The value of a scalar is what its text means under its tag (`Tag.value`). A text need not have the
form that its tag asks for; each tag has its own problem then.
-/

namespace Tftp.Yaml.Tag

/-- Whether the tag gives a meaning to texts. -/
def isScalar : Tag → Bool
  | null | bool | int | float | binary | timestamp | text => true
  | _ => false

/-- The truth value of a word, in letters of any size. -/
def truth (word : Codes) : Except Problem Bool :=
  let word := Text.lower word
  match truths.find? fun e => Codes.ofChars e.1.toList == word with
  | some e => .ok e.2
  | none => .error (.badTruth word)

/-- The number of a text, as which a text with unpaired halves cannot be read. -/
def number {α : Type} (ofChars : List Char → Except Problem α) (s : Codes) : Except Problem α :=
  match s.toChars? with
  | some cs => ofChars cs
  | none => .error .badNumber

/-- The bytes of a text in base 64, which must be ASCII. -/
def bytes (s : Codes) : Except Problem Bytes :=
  match s.toChars?.bind fun cs => if cs.all (·.toNat < 128) then Text.Base64.read? cs else none with
  | some bs => .ok bs
  | none => .error .refused

/-- The time of a text. -/
def time (s : Codes) : Except Problem Value :=
  match s.toChars?.bind Timestamp.read? with
  | some t => t.toValue
  | none => .error .badTime

/-- The value of a text under a tag. -/
def value (tag : Tag) (s : Codes) : Except Problem Value :=
  match tag with
  | null => .ok .null
  | bool => Value.bool <$> truth s
  | int => Value.int <$> number Number.whole s
  | float => Value.float <$> number Number.fractional s
  | binary => Value.bytes <$> bytes s
  | timestamp => time s
  | text => .ok (.ofCodes s)
  | _ => .error .refused

end Tftp.Yaml.Tag
