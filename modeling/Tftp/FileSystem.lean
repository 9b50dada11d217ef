import Tftp.Fault

/-!
# File systems

The part of a file system that the server looks at: the content of files, which paths are
directories, the names in a directory, and the current directory. `FileSystem.ofEntries` is the file
system of a table.

Opening a file may fail. Listing a directory may not: it is assumed that a directory that is found
can be listed.
-/

namespace Tftp

/-- What can be asked of a file system that does not change. -/
structure FileSystem where
  /-- the content of a file -/
  read : String → Except SystemError Bytes
  /-- whether a path is a directory -/
  isDirectory : String → Bool
  /-- the names in a directory, in no particular order; a directory whose names cannot be had is
  left out of account -/
  list : String → List String
  /-- the directory that a path without a slash in front is seen from -/
  current : List Char := ['/']
  /-- the current directory is given from the root -/
  head?_current : current.head? = some '/' := by rfl

namespace FileSystem

/-- A file system without any file. -/
def empty : FileSystem where
  read path := .error (.numbered (some SystemError.noEntry) (some "No such file or directory")
    (some path))
  isDirectory _ := false
  list _ := []

/-- What a table says of a path: its content, or the number and the words of the failure to open
it. -/
inductive Entry where
  | content (bytes : Bytes)
  | failure (number : Int) (reason : String)
  deriving DecidableEq, Repr, Inhabited

/-- A path without its last component, and that component. -/
def splitLast (path : String) : String × String :=
  let cs := path.toList
  let name := (cs.reverse.takeWhile (· != '/')).reverse
  let directory := cs.take (cs.length - name.length)
  let trimmed := (directory.reverse.dropWhile (· == '/')).reverse
  (String.ofList (if trimmed.isEmpty then directory else trimmed), String.ofList name)

/-- The file system of a table of files and a list of directories. -/
def ofEntries (entries : List (String × Entry)) (directories : List String) : FileSystem where
  read path :=
    if directories.contains path then
      .error (.numbered (some SystemError.isDirectory) (some "Is a directory") (some path))
    else
      match entries.lookup path with
      | some (.content bytes) => .ok bytes
      | some (.failure number reason) => .error (.numbered (some number) (some reason) (some path))
      | none => empty.read path
  isDirectory path := directories.contains path
  list path :=
    (entries.map Prod.fst ++ directories).filterMap fun p =>
      let (directory, name) := splitLast p
      if directory = path then some name else none

end FileSystem

end Tftp
