import Tftp.Yaml.Number
import Tftp.Yaml.Timestamp

/-!
# Tags

The tag of a node says what its value is. It may be written in front of the node. If it is not, it
follows from the kind of the node, and for plain scalars from the form of the text.

* `Tag.ofName` — the tag of a full name;
* `Tag.ofText` — the tag of a plain scalar.
-/

namespace Tftp.Yaml

/-- What the value of a node is. -/
inductive Tag where
  | null
  | bool
  | int
  | float
  | binary
  | timestamp
  | orderedMap
  | pairs
  | set
  | text
  | sequence
  | map
  /-- a key whose value is a mapping with more entries -/
  | merge
  /-- a key whose value stands for the whole mapping -/
  | default
  /-- a tag without a meaning -/
  | unknown (name : String)
  deriving DecidableEq, Repr, Inhabited

namespace Tag

/-- The start of the names of the tags with a meaning. -/
def stem : String := "tag:yaml.org,2002:"

/-- The tags by the ends of their names. -/
def names : List (String × Tag) :=
  [("null", null), ("bool", bool), ("int", int), ("float", float), ("binary", binary),
   ("timestamp", timestamp), ("omap", orderedMap), ("pairs", pairs), ("set", set), ("str", text),
   ("seq", sequence), ("map", map), ("merge", merge), ("value", default)]

/-- The tag of a full name. -/
def ofName (name : String) : Tag :=
  match names.find? fun e => stem ++ e.1 == name with
  | some e => e.2
  | none => unknown name

/-- Whether the tag is one of a collection. -/
def isCollection : Tag → Bool
  | orderedMap | pairs | set | sequence | map => true
  | _ => false

/-- The words for truth values. -/
def truths : List (String × Bool) :=
  [("yes", true), ("true", true), ("on", true), ("no", false), ("false", false), ("off", false)]

/-- The spellings of a word: in small letters, with a capital, and in capitals. -/
def spellings (word : String) : List String :=
  [word, word.capitalize, word.toUpper]

/-- The spellings of the words for truth values. -/
def truthWords : List String :=
  truths.flatMap fun e => spellings e.1

/-- The texts for null. -/
def nullWords : List String :=
  "" :: "~" :: spellings "null"

/-- Whether a text is a time by its form. A day alone has all its digits. -/
def isTimestamp (cs : List Char) : Bool :=
  match Timestamp.readLine? cs with
  | some t => t.time.isSome || cs.length == 10
  | none => false

/-- The marks that are reserved, and have no meaning as scalars. -/
def reservedMarks : List String :=
  ["!", "&", "*"]

/-- The tag of a line of text by its form. -/
def ofLine (cs : List Char) : Tag :=
  let s := String.ofList cs
  if truthWords.contains s then bool
  else if Number.isFractional cs then float
  else if Number.isWhole cs then int
  else if s == "<<" then merge
  else if nullWords.contains s then null
  else if isTimestamp cs then timestamp
  else if s == "=" then default
  else if reservedMarks.contains s then ofName (stem ++ "yaml")
  else text

/-- The tag of a scalar by its form. A line break at its end does not count, but alone it is a
text. -/
def ofText (cs : Codes) : Tag :=
  match cs.toChars? with
  | none | some ['\n'] => text
  | some cs => ofLine (withoutBreak cs)

end Tag

end Tftp.Yaml
