/-!
# Reading a text character by character

A cursor is a place in a text: what is still to be read, and the line and column of it. The end of
the text reads as the null character, which a text never holds.

A line break is a carriage return, a line feed, both in this order, or one of three characters
beyond ASCII. The ordinary breaks are read as a line feed; the line and the paragraph separator
are read as themselves.
-/

namespace Tftp.Yaml

/-- A place in a text. -/
structure Cursor where
  rest : List Char
  index : Nat := 0
  line : Nat := 0
  column : Nat := 0
  deriving Repr, Inhabited

/-- Whether a character ends a line. -/
def isBreak (c : Char) : Bool :=
  c == '\r' || c == '\n' || c == '\u0085' || c == '\u2028' || c == '\u2029'

/-- Whether a character ends a line or the text. -/
def isLineEnd (c : Char) : Bool := c == '\x00' || isBreak c

/-- Whether a character is a space or ends a line or the text. -/
def isGap (c : Char) : Bool := c == ' ' || isLineEnd c

/-- Whether a character is a space or a tab or ends a line or the text. -/
def isBlankOrEnd (c : Char) : Bool := c == '\t' || isGap c

/-- Whether a text may hold a character. -/
def isAllowed (c : Char) : Bool :=
  let n := c.toNat
  n == 9 || n == 10 || n == 13 || (0x20 ≤ n && n ≤ 0x7e) || n == 0x85 ||
    (0xa0 ≤ n && n ≤ 0xd7ff) || (0xe000 ≤ n && n ≤ 0xfffd) || 0x10000 ≤ n

/-- The characters of the names of anchors, directives and tag handles. -/
def isWordChar (c : Char) : Bool := c.isAlphanum || c == '-' || c == '_'

/-- A text without the line feed at its end. -/
def withoutBreak (cs : List Char) : List Char :=
  if cs.getLast? = some '\n' then cs.dropLast else cs

/-- The hexadecimal value of a digit. -/
def hexValue? (c : Char) : Option Nat :=
  if c.isDigit then some (c.toNat - 48)
  else if 'a' ≤ c ∧ c ≤ 'f' then some (c.toNat - 87)
  else if 'A' ≤ c ∧ c ≤ 'F' then some (c.toNat - 55)
  else none

namespace Cursor

/-- The character some places ahead. -/
def peek (c : Cursor) (n : Nat := 0) : Char := c.rest.getD n '\x00'

/-- The next characters, as many as there are. -/
def ahead (c : Cursor) (n : Nat) : List Char := c.rest.take n

/-- The cursor after the next character. The byte order mark takes no column. -/
def next (c : Cursor) : Cursor :=
  match c.rest with
  | [] => c
  | x :: rest =>
    if isBreak x && !(x == '\r' && rest.head? == some '\n') then
      { rest, index := c.index + 1, line := c.line + 1, column := 0 }
    else
      { rest, index := c.index + 1, line := c.line,
        column := if x == '\uFEFF' then c.column else c.column + 1 }

/-- The cursor after some characters. -/
def skip (c : Cursor) : Nat → Cursor
  | 0 => c
  | n + 1 => c.next.skip n

/-- The characters up to the first that a test refuses, and the cursor before that one. -/
def span (c : Cursor) (p : Char → Bool) : List Char × Cursor :=
  let cs := c.rest.takeWhile p
  (cs, c.skip cs.length)

/-- The cursor before the first character that a test refuses. -/
def skipWhile (c : Cursor) (p : Char → Bool) : Cursor := (c.span p).2

/-- The line break at the cursor, which may be absent, and the cursor after it. -/
def lineBreak (c : Cursor) : List Char × Cursor :=
  let x := c.peek
  if x == '\r' && c.peek 1 == '\n' then (['\n'], c.skip 2)
  else if x == '\r' || x == '\n' || x == '\u0085' then (['\n'], c.next)
  else if x == '\u2028' || x == '\u2029' then ([x], c.next)
  else ([], c)

/-- Whether three equal characters stand here, in front of a blank or an end. -/
def isMarker (c : Cursor) (x : Char) : Bool :=
  c.ahead 3 == [x, x, x] && isBlankOrEnd (c.peek 3)

/-- Whether a document starts or ends here. -/
def isDocumentMarker (c : Cursor) : Bool := c.isMarker '-' || c.isMarker '.'

end Cursor

end Tftp.Yaml
