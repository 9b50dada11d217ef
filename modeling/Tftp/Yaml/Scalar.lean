import Tftp.Yaml.Cursor
import Tftp.Yaml.Problem

/-!
# The text of scalars

A scalar stands in a file in one of three forms, each with rules of its own for line breaks:

* block scalars after `|` or `>`, whose lines are indented;
* flow scalars in quotes;
* plain scalars without either.

Each reader takes the cursor at the start of the scalar and gives the text of it and the cursor
after it. Only a scalar in quotes can hold halves of surrogate pairs.
-/

namespace Tftp.Yaml

namespace Scalar

/-- A scanner's answer: a text and the cursor after it. -/
abbrev Read := Except Problem (List Char × Cursor)

/-! ## Block scalars -/

/-- The header of a block scalar: whether to keep the final line breaks, and how far the lines are
indented, if it says so. -/
structure Header where
  keep : Option Bool := none
  indent : Option Nat := none

/-- The sign for the final line breaks. -/
def chomping? (x : Char) : Option Bool :=
  if x == '+' then some true else if x == '-' then some false else none

/-- The digit for the indentation, which cannot be zero. -/
def indentation (c : Cursor) : Except Problem (Option Nat × Cursor) :=
  let x := c.peek
  if x == '0' then .error .refused
  else if x.isDigit then .ok (some (x.toNat - 48), c.next)
  else .ok (none, c)

/-- The header of a block scalar: sign and digit in either order, then maybe a comment, and the end
of the line. -/
def header (c : Cursor) : Except Problem (Header × Cursor) := do
  let (h, c) ← match chomping? c.peek with
    | some keep => do
      let (indent, c) ← indentation c.next
      pure ({ keep := some keep, indent : Header }, c)
    | none => do
      let (indent, c) ← indentation c
      match indent, chomping? c.peek with
      | some _, some keep => pure ({ keep := some keep, indent : Header }, c.next)
      | _, _ => pure ({ indent : Header }, c)
  if !isGap c.peek then .error .refused
  else do
    let c := c.skipWhile (· == ' ')
    let c := if c.peek == '#' then c.skipWhile (!isLineEnd ·) else c
    if !isLineEnd c.peek then .error .refused
    else return (h, c.lineBreak.2)

/-- Spaces in front of a line, up to a column. -/
def skipIndent (c : Cursor) (indent : Nat) : Cursor :=
  let spaces := (c.rest.takeWhile (· == ' ')).length
  c.skip (min spaces (indent - c.column))

/-- Empty lines in front of a line with an indentation. -/
def emptyLines (indent : Nat) : Nat → Cursor → List Char × Cursor
  | 0, c => ([], c)
  | fuel + 1, c =>
    let c := skipIndent c indent
    if isBreak c.peek then
      let (b, c) := c.lineBreak
      let (bs, c) := emptyLines indent fuel c
      (b ++ bs, c)
    else ([], c)

/-- Empty lines in front of the first line, and the widest column that the spaces in them and in
front of the first line reach. -/
def leadingLines (widest : Nat) : Nat → Cursor → List Char × Nat × Cursor
  | 0, c => ([], widest, c)
  | fuel + 1, c =>
    let c := c.skipWhile (· == ' ')
    let widest := max widest c.column
    if isBreak c.peek then
      let (b, c) := c.lineBreak
      let (bs, widest, c) := leadingLines widest fuel c
      (b ++ bs, widest, c)
    else ([], widest, c)

/-- Whether a line starts with a blank, which keeps the line breaks around it. -/
def startsBlank (c : Cursor) : Bool := c.peek == ' ' || c.peek == '\t'

/-- The lines of a block scalar. The empty lines in front of the first line are given, and the
text comes with the last line break and the empty lines after it. -/
def blockLines (folded : Bool) (indent : Nat) :
    Nat → List Char → Cursor → List Char × List Char × List Char × Cursor
  | 0, empty, c => ([], [], empty, c)
  | fuel + 1, empty, c =>
    if c.column == indent && !c.rest.isEmpty then
      let blank := startsBlank c
      let (line, c) := c.span (!isLineEnd ·)
      let (b, c) := c.lineBreak
      let (empty', c) := emptyLines indent (c.rest.length + 1) c
      if c.column == indent && !c.rest.isEmpty then
        let join :=
          if folded && b == ['\n'] && !blank && !startsBlank c then
            if empty'.isEmpty then [' '] else []
          else b
        let (text, last, trailing, c) := blockLines folded indent fuel empty' c
        (empty ++ line ++ join ++ text, last, trailing, c)
      else (empty ++ line, b, empty', c)
    else ([], [], empty, c)

/-- The block scalar at the cursor, inside a block of a given indentation. -/
def block (folded : Bool) (outer : Int) (c : Cursor) : Read := do
  let (h, c) ← header c.next
  let least := (max (outer + 1) 1).toNat
  let (empty, indent, c) := match h.indent with
    | some n =>
      let indent := least + n - 1
      let (empty, c) := emptyLines indent (c.rest.length + 1) c
      (empty, indent, c)
    | none =>
      let (empty, widest, c) := leadingLines 0 (c.rest.length + 1) c
      (empty, max least widest, c)
  let (text, last, trailing, c) := blockLines folded indent (c.rest.length + 1) empty c
  let last := if h.keep = some false then [] else last
  let trailing := if h.keep = some true then trailing else []
  return (text ++ last ++ trailing, c)

/-! ## Flow scalars -/

/-- The escapes of one character. -/
def escape? : Char → Option Char
  | '0' => some '\x00'
  | 'a' => some '\x07'
  | 'b' => some '\x08'
  | 't' | '\t' => some '\t'
  | 'n' => some '\n'
  | 'v' => some '\x0b'
  | 'f' => some '\x0c'
  | 'r' => some '\r'
  | 'e' => some '\x1b'
  | ' ' => some ' '
  | '\x22' => some '\x22'
  | '\\' => some '\\'
  | '/' => some '/'
  | 'N' => some '\u0085'
  | '_' => some '\u00a0'
  | 'L' => some '\u2028'
  | 'P' => some '\u2029'
  | _ => none

/-- The number of digits of an escape that gives the number of a character. -/
def escapeWidth? : Char → Option Nat
  | 'x' => some 2
  | 'u' => some 4
  | 'U' => some 8
  | _ => none

/-- The code point of a number, which may be half of a surrogate pair. -/
def codeOfNumber (n : Nat) : Except Problem Nat :=
  if 0x7fffffff < n then .error .tooLarge
  else if 0x10ffff < n then .error .badNumber
  else .ok n

/-- The code point of an escape with digits. -/
def numberedCode (c : Cursor) (width : Nat) : Except Problem (Nat × Cursor) := do
  let digits := c.ahead width
  match digits.mapM hexValue? with
  | none => .error .refused
  | some ds =>
    if ds.length < width then .error .refused
    else
      let x ← codeOfNumber (ds.foldl (fun n d => 16 * n + d) 0)
      return (x, c.skip width)

/-- The empty lines after a line break in quotes. A document cannot start or end there. -/
def quotedBreaks : Nat → Cursor → Read
  | 0, c => .ok ([], c)
  | fuel + 1, c =>
    if c.isDocumentMarker then .error .refused
    else
      let c := c.skipWhile fun x => x == ' ' || x == '\t'
      if isBreak c.peek then do
        let (b, c) := c.lineBreak
        let (bs, c) ← quotedBreaks fuel c
        return (b ++ bs, c)
      else .ok ([], c)

/-- Blanks and line breaks in quotes. One line break is a space, and more are one fewer. -/
def quotedBlanks (c : Cursor) : Read :=
  let (blanks, c) := c.span fun x => x == ' ' || x == '\t'
  if c.rest.isEmpty then .error .refused
  else if isBreak c.peek then do
    let (b, c) := c.lineBreak
    let (bs, c) ← quotedBreaks (c.rest.length + 1) c
    let first := if b != ['\n'] then b else if bs.isEmpty then [' '] else []
    return (first ++ bs, c)
  else .ok (blanks, c)

/-- The rest of a scalar in quotes, and the cursor after the closing quote. -/
def quotedRest (quote : Char) : Nat → Cursor → Except Problem (Codes × Cursor)
  | 0, _ => .error .refused
  | fuel + 1, c => do
    let x := c.peek
    let goOn (front : Codes) (c : Cursor) : Except Problem (Codes × Cursor) := do
      let (text, c) ← quotedRest quote fuel c
      return (front ++ text, c)
    if x == quote then
      if quote == '\x27' && c.peek 1 == '\x27' then goOn [x.toNat] (c.skip 2)
      else return ([], c.next)
    else if quote == '\x22' && x == '\\' then
      let c := c.next
      let e := c.peek
      match escape? e, escapeWidth? e with
      | some y, _ => goOn [y.toNat] c.next
      | none, some width => do
        let (n, c) ← numberedCode c.next width
        goOn [n] c
      | none, none =>
        if isBreak e then do
          let (bs, c) ← quotedBreaks (c.rest.length + 1) c.lineBreak.2
          goOn (.ofChars bs) c
        else .error .refused
    else if isBlankOrEnd x then do
      let (blanks, c) ← quotedBlanks c
      goOn (.ofChars blanks) c
    else
      let (front, c) := c.span fun y =>
        !(y == '\x27' || y == '\x22' || y == '\\' || isBlankOrEnd y)
      if front.isEmpty then goOn [x.toNat] c.next else goOn (.ofChars front) c

/-- The scalar in quotes at the cursor. -/
def quoted (c : Cursor) : Except Problem (Codes × Cursor) :=
  quotedRest c.peek (c.rest.length + 1) c.next

/-! ## Plain scalars -/

/-- Whether a character cannot start a plain scalar on its own. -/
def isIndicator (x : Char) : Bool :=
  isBlankOrEnd x || "-?:,[]\x7b\x7d#&*!|>\x27\x22%@\x60".toList.contains x

/-- Whether a plain scalar starts at the cursor. -/
def startsPlain (c : Cursor) (inFlow : Bool) : Bool :=
  let x := c.peek
  !isIndicator x ||
    (!isBlankOrEnd (c.peek 1) && (x == '-' || (!inFlow && (x == '?' || x == ':'))))

/-- Whether a plain scalar ends in front of a character, which stands in front of another one. -/
def endsPlain (inFlow : Bool) (x y : Char) : Bool :=
  isBlankOrEnd x ||
    (x == ':' && (isBlankOrEnd y || (inFlow && ",[]\x7b\x7d".toList.contains y))) ||
    (inFlow && ",?[]\x7b\x7d".toList.contains x)

/-- The characters of a plain scalar up to the next blank or its end. -/
def plainWord (inFlow : Bool) : List Char → List Char
  | [] => []
  | [x] => if endsPlain inFlow x '\x00' then [] else [x]
  | x :: y :: rest => if endsPlain inFlow x y then [] else x :: plainWord inFlow (y :: rest)

/-- What stands between two words of a plain scalar. -/
structure PlainGap where
  text : List Char
  cursor : Cursor
  /-- whether there was a line break -/
  broken : Bool := false
  /-- whether a document starts or ends after it -/
  marker : Bool := false

/-- The empty lines and the spaces after a line break in a plain scalar. -/
def plainBreaks : Nat → Cursor → List Char × Cursor × Bool
  | 0, c => ([], c, false)
  | fuel + 1, c =>
    let c := c.skipWhile (· == ' ')
    if isBreak c.peek then
      let (b, c) := c.lineBreak
      if c.isDocumentMarker then (b, c, true)
      else
        let (bs, c, marker) := plainBreaks fuel c
        (b ++ bs, c, marker)
    else ([], c, false)

/-- The blanks and line breaks after a word of a plain scalar. -/
def plainGap (c : Cursor) : PlainGap :=
  let (spaces, c) := c.span (· == ' ')
  if isBreak c.peek then
    let (b, c) := c.lineBreak
    if c.isDocumentMarker then { text := [], cursor := c, broken := true, marker := true }
    else
      let (bs, c, marker) := plainBreaks (c.rest.length + 1) c
      let first := if b != ['\n'] then b else if bs.isEmpty then [' '] else []
      { text := first ++ bs, cursor := c, broken := true, marker }
  else { text := spaces, cursor := c }

/-- What reading a plain scalar gives. -/
structure Plain where
  text : List Char
  cursor : Cursor
  /-- whether the cursor is on another line than the last word -/
  broken : Bool

/-- The words of a plain scalar from the cursor on, in a block of a given indentation, after a gap
that is dropped when no word follows. -/
def plainWords (inFlow : Bool) (indent : Int) : Nat → List Char → Bool → Cursor → Plain
  | 0, _, broken, c => ⟨[], c, broken⟩
  | fuel + 1, gap, broken, c =>
    let word := if c.peek == '#' then [] else plainWord inFlow c.rest
    if word.isEmpty then ⟨[], c, broken⟩
    else
      let g := plainGap (c.skip word.length)
      if g.marker || g.text.isEmpty || g.cursor.peek == '#' ||
          (!inFlow && decide ((g.cursor.column : Int) < indent)) then
        ⟨gap ++ word, g.cursor, g.broken⟩
      else
        let p := plainWords inFlow indent fuel g.text g.broken g.cursor
        { p with text := gap ++ word ++ p.text }

/-- The plain scalar at the cursor, inside a block of a given indentation. -/
def plain (inFlow : Bool) (outer : Int) (c : Cursor) : Plain :=
  plainWords inFlow (outer + 1) (c.rest.length + 1) [] false c

end Scalar

end Tftp.Yaml
