/-!
# Paths

Paths are texts with components between slashes.

* `Path.normalise` — a path without empty and `.` components, where each `..` cancels the name
  before it. Exactly two leading slashes stay; any other number of them is one slash.
* `Path.absoluteFrom` and `Path.absolute` — the normal form of a path seen from a current directory,
  and from the root.
* `Path.resolve?` — where a requested file is under a directory, if it is under it.
-/

namespace Tftp.Path

/-- The components of a path, the empty ones included. -/
def components (path : List Char) : List (List Char) :=
  path.splitOn '/'

/-- Components with slashes between them. -/
def join (parts : List (List Char)) : List Char :=
  ['/'].intercalate parts

/-- The component that stands for the directory itself. -/
def here : List Char := ['.']

/-- The component that stands for the parent directory. -/
def parent : List Char := ['.', '.']

/-- Whether a component names something: the empty one and the directory itself do not. -/
def isName (part : List Char) : Bool :=
  !(part.isEmpty || part == here)

/-- The number of slashes that a normal form starts with: those of the path, but one for more than
two. -/
def leadingSlashes : List Char → Nat
  | '/' :: '/' :: '/' :: _ => 1
  | '/' :: '/' :: _ => 2
  | '/' :: _ => 1
  | _ => 0

/-- One more component on a stack of components, the last one on top. A `..` cancels the name
below it; at the bottom it stays on a relative path and is dropped on a rooted one. -/
def push (rooted : Bool) (stack : List (List Char)) (part : List Char) : List (List Char) :=
  if part ≠ parent then part :: stack
  else
    match stack with
    | [] => if rooted then [] else [part]
    | top :: below => if top = parent then part :: stack else below

/-- The components of a normal form. -/
def collapse (rooted : Bool) (parts : List (List Char)) : List (List Char) :=
  ((parts.filter isName).foldl (push rooted) []).reverse

/-- The normal form of a path. -/
def normalise (path : List Char) : List Char :=
  let slashes := leadingSlashes path
  let body := join (collapse (slashes != 0) (components path))
  let whole := List.replicate slashes '/' ++ body
  if whole.isEmpty then here else whole

/-- A path below a directory; the second path must not start with a slash. -/
def append (directory path : List Char) : List Char :=
  if directory.isEmpty || directory.getLast? == some '/' then directory ++ path
  else directory ++ '/' :: path

/-- The normal form of a path seen from a current directory. -/
def absoluteFrom (current path : List Char) : List Char :=
  if path.head? = some '/' then normalise path else normalise (append current path)

/-- The normal form of a path seen from the root directory. -/
def absolute (path : List Char) : List Char :=
  absoluteFrom ['/'] path

/-- The components that two lists have in common at the front. -/
def commonFront : List (List Char) → List (List Char) → List (List Char)
  | x :: xs, y :: ys => if x = y then x :: commonFront xs ys else []
  | _, _ => []

/-- The deepest directory that two absolute paths have in common. -/
def commonDirectory (a b : List Char) : List Char :=
  '/' :: join (commonFront ((components a).filter isName) ((components b).filter isName))

/-- Where a requested file is under a directory in normal form: slashes in front of the request
do not count, and a file outside the directory is nowhere. -/
def resolve? (directory request : List Char) : Option (List Char) :=
  let path := normalise (append directory (request.dropWhile (· == '/')))
  if commonDirectory directory path = directory then some path else none

example : normalise "//a/./b/../..//c".toList = "//c".toList := by decide

example : normalise "a/../..".toList = "..".toList := by decide

example : resolve? "/srv".toList "/../srv/x".toList = some "/srv/x".toList := by decide

example : resolve? "/srv".toList "../srv2".toList = none := by decide

end Tftp.Path
