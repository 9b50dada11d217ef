import Tftp.Bytes
import Tftp.Number.Numeral
import Tftp.Yaml.Scalar

/-!
# Tokens

A text is a sequence of tokens: marks that open and close collections and documents, names, and
scalars. Some tokens stand for no character: where blocks start and end is told by indentation,
and that a scalar is a key is told by the colon after it. `Tftp.Yaml.Layout` finds these.

This module has the tokens and the readers of those that hold a name: anchors, tags and
directives.
-/

namespace Tftp.Yaml

/-- A tag as it is written: a handle, which stands for the start of the tag, and the rest. -/
structure TagName where
  handle : Option String
  suffix : String
  deriving DecidableEq, Repr, Inhabited

/-- A line in front of a document that says how to read it. -/
inductive Directive where
  /-- the version, of which the first number counts -/
  | version (major : Nat)
  /-- what a tag handle stands for -/
  | handle (name stem : String)
  /-- a directive that is passed over -/
  | reserved
  deriving DecidableEq, Repr, Inhabited

/-- A token. -/
inductive Token where
  | directive (d : Directive)
  | documentStart
  | documentEnd
  | textEnd
  | blockSequenceStart
  | blockMappingStart
  | blockEnd
  | blockEntry
  | flowSequenceStart
  | flowSequenceEnd
  | flowMappingStart
  | flowMappingEnd
  | flowEntry
  | key
  | value
  /-- a name for the node that follows -/
  | anchor (name : String)
  /-- the node of a name -/
  | reference (name : String)
  | tag (name : TagName)
  | scalar (text : Codes) (plain : Bool)
  /-- the rest of the text, which cannot be read -/
  | unreadable (problem : Problem)
  deriving DecidableEq, Repr, Inhabited

namespace Cursor

/-- A run of word characters, which must not be empty. -/
def word (c : Cursor) : Except Problem (String × Cursor) :=
  let (cs, c) := c.span isWordChar
  if cs.isEmpty then .error .refused else .ok (String.ofList cs, c)

/-- The digits of a number. -/
def number (c : Cursor) : Except Problem (Nat × Cursor) :=
  let (cs, c) := c.span (·.isDigit)
  if cs.isEmpty then .error .refused
  else if cs.length > Numeral.maxDigits then .error .badNumber
  else .ok (Numeral.ofDigits 10 (cs.map fun d => d.toNat - 48), c)

/-- The cursor, if the character there passes a test. -/
def expect (c : Cursor) (p : Char → Bool) : Except Problem Cursor :=
  if p c.peek then .ok c else .error .refused

end Cursor

namespace Token

/-- The name of an anchor or a reference, after the sign in front of it. -/
def anchorName (c : Cursor) : Except Problem (String × Cursor) := do
  let (name, c) ← c.next.word
  let c ← c.expect fun x => isBlankOrEnd x || "?:,]\x7d%@\x60".toList.contains x
  return (name, c)

/-! ## Tags -/

/-- The characters of the suffix of a tag, apart from escapes. -/
def isSuffixChar (x : Char) : Bool :=
  x.isAlphanum || "-;/?:@&=+$,_.!~*\x27()[]".toList.contains x

/-- The bytes of a run of escapes. -/
def escapedBytes : Nat → Cursor → Except Problem (Bytes × Cursor)
  | 0, _ => .error .refused
  | fuel + 1, c =>
    if c.peek == '%' then
      match hexValue? (c.peek 1), hexValue? (c.peek 2) with
      | some h, some l => do
        let (bytes, c) ← escapedBytes fuel (c.skip 3)
        return (UInt8.ofNat (16 * h + l) :: bytes, c)
      | _, _ => .error .refused
    else .ok ([], c)

/-- The characters of the suffix of a tag, with escapes for the bytes of any others. -/
def suffixChars : Nat → Cursor → Scalar.Read
  | 0, _ => .error .refused
  | fuel + 1, c => do
    if c.peek == '%' then
      let (bytes, c) ← escapedBytes (c.rest.length + 1) c
      match String.fromUTF8? ⟨bytes.toArray⟩ with
      | none => .error .refused
      | some s =>
        let (cs, c) ← suffixChars fuel c
        return (s.toList ++ cs, c)
    else
      let (front, c) := c.span isSuffixChar
      if front.isEmpty then return ([], c)
      else
        let (cs, c) ← suffixChars fuel c
        return (front ++ cs, c)

/-- The suffix of a tag, which is given by at least one character or escape. -/
def suffix (c : Cursor) : Except Problem (String × Cursor) := do
  let (cs, after) ← suffixChars (c.rest.length + 1) c
  if after.index == c.index then .error .refused
  else return (String.ofList cs, after)

/-- The handle of a tag: an exclamation mark, or a word that may be empty between two of them. In
front of a space one mark is enough. -/
def handle (c : Cursor) : Except Problem (String × Cursor) :=
  if c.peek != '!' then .error .refused
  else
    let after := c.next
    if after.peek == ' ' then .ok ("!", after)
    else
      let (cs, after) := after.span isWordChar
      if after.peek == '!' then .ok (String.ofList ('!' :: cs ++ ['!']), after.next)
      else .error .refused

/-- The tag at the cursor: one between angle brackets, a single exclamation mark, or a handle and
a suffix. -/
def tagName (c : Cursor) : Except Problem (TagName × Cursor) := do
  let x := c.peek 1
  let (name, c) ←
    if x == '<' then do
      let (s, c) ← suffix (c.skip 2)
      let c ← c.expect (· == '>')
      pure ({ handle := none, suffix := s : TagName }, c.next)
    else if isBlankOrEnd x then
      pure ({ handle := none, suffix := "!" : TagName }, c.next)
    else if (c.next.rest.takeWhile (!isGap ·)).contains '!' then do
      let (h, c) ← handle c
      let (s, c) ← suffix c
      pure ({ handle := some h, suffix := s : TagName }, c)
    else do
      let (s, c) ← suffix c.next
      pure ({ handle := some "!", suffix := s : TagName }, c)
  let c ← c.expect isGap
  return (name, c)

/-! ## Directives -/

/-- The two numbers of a version, of which the first counts. -/
def versionNumber (c : Cursor) : Except Problem (Directive × Cursor) := do
  let (major, c) ← (c.skipWhile (· == ' ')).number
  let c ← c.expect (· == '.')
  let (_, c) ← c.next.number
  let c ← c.expect isGap
  return (.version major, c)

/-- A tag handle and what it stands for. -/
def handleMeaning (c : Cursor) : Except Problem (Directive × Cursor) := do
  let (name, c) ← handle (c.skipWhile (· == ' '))
  let c ← c.expect (· == ' ')
  let (stem, c) ← suffix (c.skipWhile (· == ' '))
  let c ← c.expect isGap
  return (.handle name stem, c)

/-- The directive at the cursor, up to the end of its line, which may hold a comment. -/
def directiveLine (c : Cursor) : Except Problem (Directive × Cursor) := do
  let (name, c) ← c.next.word
  let c ← c.expect isGap
  let (d, c) ←
    if name == "YAML" then versionNumber c
    else if name == "TAG" then handleMeaning c
    else pure (.reserved, c.skipWhile (!isLineEnd ·))
  let c := c.skipWhile (· == ' ')
  let c := if c.peek == '#' then c.skipWhile (!isLineEnd ·) else c
  let c ← c.expect isLineEnd
  return (d, c.lineBreak.2)

end Token

end Tftp.Yaml
