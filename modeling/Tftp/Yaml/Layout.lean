import Tftp.Yaml.Token

/-!
# Layout

The tokens of a text, with those that indentation and colons stand for.

* **Blocks.** A block is a column. A key or an entry to the right of the innermost block opens one,
  and a token to the left of it closes it. Nothing of this holds between brackets.
* **Keys.** A token that may start a key is noted down; when a colon follows on the same line, and
  not far behind, a mark is put in front of that token. Inside a block, a token in the column of
  the block must turn out to be a key.

`Layout.step` reads one token of the text, and `tokens` reads all of them. Where the text cannot be
read, the last token says why.
-/

namespace Tftp.Yaml

/-- The start of what may turn out to be a key. -/
structure PendingKey where
  /-- how many brackets are open around it -/
  depth : Nat
  /-- its place among the tokens -/
  position : Nat
  /-- whether it cannot be anything else -/
  required : Bool
  index : Nat
  line : Nat
  column : Nat
  deriving Repr, Inhabited

/-- A text that is read up to a cursor. -/
structure Layout where
  cursor : Cursor
  /-- how many brackets are open -/
  depth : Nat := 0
  /-- the column of the innermost block, which is -1 outside of every block -/
  indent : Int := -1
  /-- the columns of the blocks around it, the inner ones first -/
  outer : List Int := []
  /-- whether a key can start here -/
  allowKey : Bool := true
  pending : List PendingKey := []
  tokens : Array Token := #[]
  deriving Inhabited

namespace Layout

/-- A step of reading. -/
abbrev Step := Except Problem Layout

/-- How far behind its start the colon of a key may stand. -/
def maxKeyLength : Nat := 1024

/-- A token is added. -/
def push (l : Layout) (t : Token) : Layout :=
  { l with tokens := l.tokens.push t }

/-- A mark of one character is added. -/
def pushMark (l : Layout) (t : Token) (width : Nat := 1) : Layout :=
  { l.push t with cursor := l.cursor.skip width }

/-! ## Blanks -/

/-- Spaces, comments and line breaks are passed over. After a line break outside brackets a key can
start. -/
def skipBlanks (l : Layout) : Nat → Layout
  | 0 => l
  | fuel + 1 =>
    let c := l.cursor.skipWhile (· == ' ')
    let c := if c.peek == '#' then c.skipWhile (!isLineEnd ·) else c
    if isBreak c.peek then
      skipBlanks { l with cursor := c.lineBreak.2, allowKey := l.allowKey || l.depth == 0 } fuel
    else { l with cursor := c }

/-- The place of the next token. A byte order mark in front of the text is passed over. -/
def toNextToken (l : Layout) : Layout :=
  let c := l.cursor
  let c := if c.index == 0 && c.peek == '\uFEFF' then c.next else c
  skipBlanks { l with cursor := c } (c.rest.length + 1)

/-! ## Keys -/

/-- Whether a key that starts at a place can still be followed by its colon. -/
def isFresh (l : Layout) (k : PendingKey) : Bool :=
  k.line == l.cursor.line && l.cursor.index - k.index ≤ maxKeyLength

/-- The keys that have waited too long are dropped. One of them that had to be a key is a fault. -/
def dropStale (l : Layout) : Step :=
  if l.pending.any fun k => !l.isFresh k && k.required then .error .refused
  else .ok { l with pending := l.pending.filter l.isFresh }

/-- The key of the innermost brackets that waits for its colon. -/
def waiting? (l : Layout) : Option PendingKey :=
  l.pending.find? (·.depth == l.depth)

/-- The key that waits is dropped. -/
def dropWaiting (l : Layout) : Step :=
  match l.waiting? with
  | none => .ok l
  | some k =>
    if k.required then .error .refused
    else .ok { l with pending := l.pending.filter (·.depth != l.depth) }

/-- The next token is noted down as the start of a key, if a key can start here. -/
def noteKey (l : Layout) : Step := do
  if l.allowKey then
    let l ← l.dropWaiting
    let c := l.cursor
    let k : PendingKey :=
      { depth := l.depth
        position := l.tokens.size
        required := l.depth == 0 && l.indent == (c.column : Int)
        index := c.index
        line := c.line
        column := c.column }
    return { l with pending := k :: l.pending }
  else return l

/-! ## Blocks -/

/-- The blocks to the right of a column are closed, unless brackets are open. -/
def closeBlocks (l : Layout) (column : Int) : Layout :=
  if l.depth != 0 then l
  else
    let columns := l.indent :: l.outer
    let closed := (columns.takeWhile (column < ·)).length
    match columns.drop closed with
    | [] => l
    | indent :: outer =>
      { l with
        indent
        outer
        tokens := l.tokens ++ (Array.replicate closed Token.blockEnd) }

/-- A block is opened in a column to the right of the innermost one, with a mark at a place among
the tokens. -/
def openBlock (l : Layout) (column : Nat) (mark : Token) (position : Nat) : Layout :=
  if l.indent < (column : Int) then
    { l with
      indent := column
      outer := l.indent :: l.outer
      tokens := l.tokens.insertIdxIfInBounds position mark }
  else l

/-- Outside brackets, a block is opened here where a key can start; elsewhere that is a fault. -/
def openHere (l : Layout) (mark : Token) : Step :=
  if l.depth != 0 then .ok l
  else if !l.allowKey then .error .refused
  else .ok (l.openBlock l.cursor.column mark l.tokens.size)

/-- All blocks are closed, and no key waits or can start. -/
def closeAll (l : Layout) : Step := do
  let l ← (l.closeBlocks (-1)).dropWaiting
  return { l with allowKey := false }

/-! ## Tokens -/

/-- A token that may start a key, with the cursor after it. -/
def node (l : Layout) (read : Cursor → Except Problem (Token × Cursor)) : Step := do
  let l ← l.noteKey
  let (t, c) ← read l.cursor
  return { l.push t with cursor := c, allowKey := false }

/-- An opening bracket. -/
def openBracket (l : Layout) (t : Token) : Step := do
  let l ← l.noteKey
  return { l.pushMark t with depth := l.depth + 1, allowKey := true }

/-- A closing bracket. -/
def closeBracket (l : Layout) (t : Token) : Step := do
  let l ← l.dropWaiting
  if l.depth == 0 then .error .refused
  else return { l.pushMark t with depth := l.depth - 1, allowKey := false }

/-- The comma between two entries. -/
def comma (l : Layout) : Step := do
  let l ← l.dropWaiting
  return { l.pushMark .flowEntry with allowKey := true }

/-- The dash in front of an entry. -/
def dash (l : Layout) : Step := do
  let l ← l.openHere .blockSequenceStart
  let l ← l.dropWaiting
  return { l.pushMark .blockEntry with allowKey := true }

/-- The question mark in front of a key. -/
def question (l : Layout) : Step := do
  let l ← l.openHere .blockMappingStart
  let l ← l.dropWaiting
  return { l.pushMark .key with allowKey := l.depth == 0 }

/-- The colon between a key and its value. What waits for it becomes a key. -/
def colon (l : Layout) : Step := do
  match l.waiting? with
  | some k =>
    let l := { l with
      pending := l.pending.filter (·.depth != l.depth)
      tokens := l.tokens.insertIdxIfInBounds k.position .key }
    let l := if l.depth == 0 then l.openBlock k.column .blockMappingStart k.position else l
    return { l.pushMark .value with allowKey := false }
  | none =>
    let l ← l.openHere .blockMappingStart
    return { l.pushMark .value with allowKey := l.depth == 0 }

/-- A block scalar. -/
def blockScalar (l : Layout) (folded : Bool) : Step := do
  let l ← l.dropWaiting
  let (text, c) ← Scalar.block folded l.indent l.cursor
  return { l.push (.scalar (.ofChars text) false) with cursor := c, allowKey := true }

/-- A scalar in quotes. -/
def quotedScalar (l : Layout) : Step :=
  l.node fun c => do
    let (text, c) ← Scalar.quoted c
    return (.scalar text false, c)

/-- A plain scalar. When the line ends after it, a key can start. -/
def plainScalar (l : Layout) : Step := do
  let l ← l.noteKey
  let p := Scalar.plain (l.depth != 0) l.indent l.cursor
  return { l.push (.scalar (.ofChars p.text) true) with
    cursor := p.cursor
    allowKey := p.broken }

/-- One token of the text. The answer is whether it was the end. -/
def step (l : Layout) : Except Problem (Bool × Layout) := do
  let l ← l.toNextToken.dropStale
  let c := l.cursor
  let l := l.closeBlocks c.column
  let x := c.peek
  let goOn (s : Step) : Except Problem (Bool × Layout) := s.map fun l => (false, l)
  let inBlock := l.depth == 0
  let isMark := !inBlock || isBlankOrEnd (c.peek 1)
  if x == '\x00' then
    let l ← l.closeAll
    return (true, l.push .textEnd)
  else if x == '%' && c.column == 0 then goOn do
    let l ← l.closeAll
    let (d, c) ← Token.directiveLine c
    return { l.push (.directive d) with cursor := c }
  else if c.column == 0 && c.isMarker '-' then goOn do
    let l ← l.closeAll
    return l.pushMark .documentStart 3
  else if c.column == 0 && c.isMarker '.' then goOn do
    let l ← l.closeAll
    return l.pushMark .documentEnd 3
  else if x == '[' then goOn (l.openBracket .flowSequenceStart)
  else if x == '\x7b' then goOn (l.openBracket .flowMappingStart)
  else if x == ']' then goOn (l.closeBracket .flowSequenceEnd)
  else if x == '\x7d' then goOn (l.closeBracket .flowMappingEnd)
  else if x == ',' then goOn l.comma
  else if x == '-' && isBlankOrEnd (c.peek 1) then goOn l.dash
  else if x == '?' && isMark then goOn l.question
  else if x == ':' && isMark then goOn l.colon
  else if x == '*' then goOn <| l.node fun c => do
    let (name, c) ← Token.anchorName c
    return (.reference name, c)
  else if x == '&' then goOn <| l.node fun c => do
    let (name, c) ← Token.anchorName c
    return (.anchor name, c)
  else if x == '!' then goOn <| l.node fun c => do
    let (name, c) ← Token.tagName c
    return (.tag name, c)
  else if x == '|' && inBlock then goOn (l.blockScalar false)
  else if x == '>' && inBlock then goOn (l.blockScalar true)
  else if x == '\x27' || x == '\x22' then goOn l.quotedScalar
  else if Scalar.startsPlain c (!inBlock) then goOn l.plainScalar
  else .error .refused

/-- The tokens in front of a problem. A token that may still turn out to be the start of a key is
not settled, and what follows it neither. -/
def stopped (l : Layout) (problem : Problem) : List Token :=
  let settled := ((l.pending.filter l.isFresh).map (·.position)).foldl min l.tokens.size
  l.tokens.toList.take settled ++ [.unreadable problem]

/-- The tokens up to the end of the text or a problem. Every token but the last takes a
character. -/
def run : Nat → Layout → List Token
  | 0, l => l.stopped .refused
  | fuel + 1, l =>
    match l.step with
    | .error problem => l.stopped problem
    | .ok (true, l) => l.tokens.toList
    | .ok (false, l) => run fuel l

end Layout

/-- The tokens of a text. -/
def tokens (text : List Char) : List Token :=
  Layout.run (text.length + 1) { cursor := { rest := text } }

end Tftp.Yaml
