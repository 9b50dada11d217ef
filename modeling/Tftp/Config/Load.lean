import Tftp.Config
import Tftp.FileSystem

/-!
# Loading a configuration

The configuration files are read one after the other: the main file, and then the files of a
directory in the order of their names. A file that is not there is passed over, and the first one
that cannot be read ends the loading. A later file has a higher priority, and the command line has
the highest.

How the text of a file is understood is a parameter: a `Config.Format`.
-/

namespace Tftp.Config

/-- What the text of a file means. -/
abbrev Format := String → Except Yaml.Problem Value

/-- What came of reading files: the files that were opened, and what was noted. -/
structure Reading (α : Type) where
  opened : List String := []
  notices : List Notice := []
  result : Except ConfigError α

/-- The entries that the bytes of a file mean. A file that means null has no entries. -/
def understand (format : Format) (path : String) (bytes : Bytes) : Except ConfigError Entries :=
  match String.fromUTF8? ⟨bytes.toArray⟩ with
  | none => .error (.notText path)
  | some text =>
    match (format text).map Value.opened with
    | .error .refused => .error (.refused path)
    | .error problem => .error (.noValue problem)
    | .ok .null => .ok []
    | .ok (.map es) => .ok es
    | .ok _ => .error (.notMapping path)

/-- The entries of a file. -/
def readFile (files : FileSystem) (format : Format) (path : String) : Reading Entries :=
  match files.read path with
  | .ok bytes => { opened := [path], result := understand format path bytes }
  | .error e =>
    if e.number? = some SystemError.noEntry then
      { opened := [path], notices := [.missingConfigFile path], result := .ok [] }
    else { opened := [path], result := .error (.unreadable path e) }

/-- The entries of some files, in the order in which they are read. -/
def readFiles (files : FileSystem) (format : Format) : List String → Reading (List Entries)
  | [] => { result := .ok [] }
  | path :: paths =>
    let r := readFile files format path
    match r.result with
    | .error e => { r with result := .error e }
    | .ok es =>
      let rs := readFiles files format paths
      { opened := r.opened ++ rs.opened
        notices := r.notices ++ rs.notices
        result := rs.result.map (es :: ·) }

/-- Whether a file of the directory is read: its name has the right ending and is not hidden. -/
def isConfigName (name : String) : Bool :=
  name.toList.head? != some '.' && ".yml".toList.isSuffixOf name.toList

/-- The files of the directory that are read, in the order of their names. The directory can be
listed if it is found. -/
def extraFiles (files : FileSystem) (directory : String) : List String :=
  if files.isDirectory directory then
    let names := (files.list directory).mergeSort fun a b => decide (a ≤ b)
    (names.filter isConfigName).map fun name =>
      String.ofList (Path.append directory.toList name.toList)
  else []

/-- The main configuration file. -/
def mainFile (s : CommandLine.Settings) : String :=
  s.configFile.getD defaultFile

/-- The layers of a configuration, the highest priority first, from the entries of the files in the
order in which they were read. -/
def layers (s : CommandLine.Settings) (fromFiles : List Entries) : List Entries :=
  ofSettings s :: fromFiles.reverse ++ [defaults]

/-- The configuration that layers make. Its root directory is seen from a current directory. -/
def ofLayers (current : List Char) (ls : List Entries) : Except ConfigError Config :=
  match merge ls with
  | .error e => .error (.badSection e)
  | .ok c => do
    let general ← check c.general current
    return { c with general }

/-- The configuration of a command line. -/
def load (files : FileSystem) (format : Format) (s : CommandLine.Settings) : Reading Config :=
  let r := readFiles files format (mainFile s :: extraFiles files extraDirectory)
  { r with result := r.result.bind fun fromFiles => ofLayers files.current (layers s fromFiles) }

end Tftp.Config
