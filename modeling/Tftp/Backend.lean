import Tftp.Event
import Tftp.File
import Tftp.FileSystem
import Tftp.Path

/-!
# Backends

A backend supplies the files that are served. `Backend.openFile` asks it for one; the answer is a
fault, a file, or the promise of a file for later.

* `Backend.refusing` answers every request with the same fault;
* `Backend.constant` has the same content under every name;
* `Backend.directory` serves the files under a directory of a file system, and refuses a name
  that leads out of it;
* `Backend.hook` and `Backend.logged` look at a request and pass it on;
* `Backend.scripted` gives one answer to every request.
-/

namespace Tftp

/-- What a backend answers. -/
inductive Backend.Answer where
  | failure (fault : Fault)
  | file (file : File)
  | later (file : File)
  deriving Inhabited

/-- Where a logging backend writes its lines. -/
inductive Backend.Log where
  /-- to whoever watches the backend -/
  | observer
  /-- to the log of the server -/
  | server
  deriving DecidableEq, Repr, Inhabited

/-- A supplier of files. -/
inductive Backend where
  | refusing (fault : Fault)
  | constant (content : Bytes)
  | directory (path : List Char)
  | hook (inner : Backend)
  | logged (log : Backend.Log) (inner : Backend)
  | scripted (answer : Backend.Answer)
  deriving Inhabited

namespace Backend

/-- The verdict on every request for writing. -/
def writeRefusal : Fault := .backend .other "not supported"

/-- The backend of the files under a directory, which is seen from a current directory. -/
def ofDirectory (root : String) (current : List Char := ['/']) : Backend :=
  .directory (Path.absoluteFrom current root.toList)

/-- What comes of asking a backend. -/
structure Opening where
  events : List Event := []
  notices : List Notice := []
  answer : Answer

/-- The line that a logging backend writes for a request. -/
def logLine (peer : Address) (filename : String) : String :=
  "TFTP request from " ++ peer.literal ++ " - filename '" ++ filename ++ "'"

/-- An opening after the line of a logging backend. -/
def Opening.log (o : Opening) (log : Log) (line : String) : Opening :=
  match log with
  | .observer => { o with events := .logged line :: o.events }
  | .server => { o with notices := .requestLogged line :: o.notices }

/-- The answer for a file under a directory. -/
def openUnder (files : FileSystem) (directory : List Char) (filename : String) : Opening :=
  match Path.resolve? directory filename.toList with
  | none => { answer := .failure (.backend .permissionDenied "Invalid filename") }
  | some path =>
    let path := String.ofList path
    let answer := match files.read path with
      | .ok content => .file (.ofBytes content)
      | .error e => .failure (.ofSystemError e)
    { events := [.opened path], answer }

/-- A backend is asked for a file. -/
def openFile (files : FileSystem) (peer : Address) (filename : String) : Backend → Opening
  | refusing fault => { answer := .failure fault }
  | constant content => { answer := .file (.ofBytes content) }
  | directory path => openUnder files path filename
  | hook inner => inner.openFile files peer filename
  | logged log inner => (inner.openFile files peer filename).log log (logLine peer filename)
  | scripted answer => { events := [.asked peer filename], answer }

/-- A backend is asked to store a file, which every backend refuses. -/
def storeFile (peer : Address) (filename : String) : Backend → Opening
  | hook inner => inner.storeFile peer filename
  | logged log inner => (inner.storeFile peer filename).log log (logLine peer filename)
  | _ => { answer := .failure writeRefusal }

/-- The answer where there may be no backend. -/
def openFile? (files : FileSystem) (peer : Address) (filename : String) : Option Backend → Opening
  | some b => b.openFile files peer filename
  | none => { answer := .failure .noBackend }

end Backend

end Tftp
