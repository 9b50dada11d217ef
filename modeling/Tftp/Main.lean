import Tftp.Service
import Tftp.Yaml.Meaning

/-!
# The command

The command sets the daemon up as its arguments and the configuration files say, and writes the log
of it. What goes over the network is not its work: the datagrams of a socket are the inputs of
`Tftp.Daemon.dispatch`, and the answers to them are in its report.
-/

namespace Tftp.Command

/-- The number and the words of a failed call of the operating system. -/
def failure : IO.Error → Int × String
  | .noFileOrDirectory .. => (SystemError.noEntry, "No such file or directory")
  | .permissionDenied .. => (SystemError.accessDenied, "Permission denied")
  | .inappropriateType .. => (SystemError.isDirectory, "Is a directory")
  | e => (0, toString e)

/-- What the disk says of a path. -/
def entry (path : String) : IO (String × FileSystem.Entry) := do
  try
    let bytes ← IO.FS.readBinFile path
    return (path, .content bytes.toList)
  catch e =>
    let (number, reason) := failure e
    return (path, .failure number reason)

/-- The names in a directory of the disk, if it is one. -/
def names? (path : String) : IO (Option (List String)) := do
  try
    let items ← (← IO.FS.realPath path).readDir
    return some (items.toList.map (·.fileName))
  catch _ => return none

/-- The configuration files on the disk. -/
def configFiles (s : CommandLine.Settings) : IO FileSystem := do
  let directory := Config.extraDirectory
  let names ← names? directory
  let extra := (names.getD []).map fun name =>
    String.ofList (Path.append directory.toList name.toList)
  let entries ← (Config.mainFile s :: extra).mapM entry
  let files := FileSystem.ofEntries entries (if names.isSome then [directory] else [])
  let current := (← IO.currentDir).toString.toList
  if h : current.head? = some '/' then
    return { files with current, head?_current := h }
  else return files

/-- The name of a level in the log. -/
def levelName : Level → String
  | .debug => "DEBUG"
  | .info => "INFO"
  | .warning => "WARNING"
  | .error => "ERROR"

/-- A line of the log. -/
def line (n : Notice) : String :=
  "(" ++ levelName n.level ++ "): " ++ n.text

/-- The lines of an outcome are written where the daemon logs to. -/
def write (d : Daemon) (o : Daemon.Outcome) : IO Unit := do
  let lines := String.join (o.shown.map fun n => line n ++ "\n")
  match d.handlers.getLast? with
  | some (.file (.text path)) => IO.FS.withFile path .append fun h => h.putStr lines
  | _ => IO.eprint lines

/-- The reason for a failure, in words. -/
def reason : Daemon.Failure → String
  | .usage e => e.message
  | .config e => e.message
  | .notBound => "no port is bound"

/-- How to call the command. -/
def usage : String :=
  let option (f : CommandLine.Flag) : String :=
    "  --" ++ f.name ++ if f.takesArgument then "=" else ""
  "\n".intercalate ("Options:" :: CommandLine.Flag.all.map option)

/-- A service is made, bound and started. -/
def serve (s : CommandLine.Settings) : IO UInt32 := do
  let (made, d) := Daemon.make { files := ← configFiles s } Yaml.read s
  write d made
  match made.failure with
  | some f =>
    IO.eprintln (reason f)
    return 1
  | none =>
    let (bound, d) := d.bind
    write d bound
    let (started, d) := d.start
    write d started
    return 0

end Tftp.Command

/-- The command line. -/
def main (arguments : List String) : IO UInt32 := do
  match Tftp.CommandLine.parse arguments with
  | .error e =>
    IO.eprintln e.message
    return 1
  | .ok .inform =>
    IO.println Tftp.Command.usage
    return 0
  | .ok (.serve s) => Tftp.Command.serve s
