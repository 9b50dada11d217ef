import Tftp.Config.Load
import Tftp.Dispatcher

/-!
# The service

A daemon sets up the service that its configuration describes, and starts and stops it:

* `Daemon.make` reads the configuration, sets up the log and makes a service;
* `Daemon.bind` binds the port, which needs privileges that are dropped later;
* `Daemon.start` lets the service serve the files under the root directory;
* `Daemon.stop` makes it refuse requests and releases the port.

Requests that arrive in between go to the dispatcher of the service. The log shows the notices of
its level and of those above.
-/

namespace Tftp

/-- Where the log goes. -/
inductive Handler where
  | errorStream
  | file (path : Value)
  deriving Inhabited

/-- What the daemon asks of its surroundings. -/
inductive Call where
  /-- a log file is opened -/
  | openLog (path : Value)
  /-- a server is made for a port of an interface -/
  | makeServer (port : Int) (interface : Value)
  | startServer
  | stopServer
  deriving Inhabited

/-- A service. -/
structure Service where
  config : Config
  dispatcher : Dispatcher
  /-- whether there is a server that was bound -/
  bound : Bool := false
  running : Bool := false

/-- A daemon with the service that it made last. -/
structure Daemon where
  files : FileSystem
  /-- the level of the log -/
  level : Level := .debug
  /-- where the log goes, in the order in which the handlers were added -/
  handlers : List Handler := []
  service : Option Service := none

/-- Why a command to the daemon fails. -/
inductive Daemon.Failure where
  | usage (error : CommandLine.UsageError)
  | config (error : ConfigError)
  /-- there is no service, or none that was bound -/
  | notBound

/-- What comes of a command to the daemon. -/
structure Daemon.Outcome where
  calls : List Call := []
  /-- the notices that the log shows -/
  shown : List Notice := []
  /-- the paths that were opened -/
  opened : List String := []
  /-- what the dispatcher reports -/
  report : Report := {}
  failure : Option Daemon.Failure := none

namespace Level

/-- Whether a log of the level shows a notice. -/
def shows (l : Level) (n : Notice) : Bool :=
  l.rank ≤ n.level.rank

end Level

namespace Event

/-- The path of the file that an event says was opened. -/
def openedPath? : Event → Option String
  | .opened path => some path
  | _ => none

end Event

namespace Service

/-- The backend of a service: the files under the root directory, with every request logged. A
request cannot be looked up under a directory whose name is in bytes. -/
def backend (c : Config) (current : List Char) : Backend :=
  .logged .server <|
    match c.root with
    | .text root => .ofDirectory root current
    | _ => .refusing (.internal "Can't mix strings and bytes in path components")

end Service

namespace Daemon

/-- The notices that the log shows. -/
def shown (d : Daemon) (ns : List Notice) : List Notice :=
  ns.filter d.level.shows

/-- The log is set up. -/
def configureLog (d : Daemon) (s : CommandLine.Settings) (c : Config) : Daemon :=
  { d with
    handlers := d.handlers ++ [if s.stderr then .errorStream else .file c.logFile]
    level := if s.verbose then .debug else .info }

/-- A service is made as a command line and the configuration files say. -/
def make (d : Daemon) (format : Config.Format) (s : CommandLine.Settings) : Outcome × Daemon :=
  let r := Config.load d.files format s
  let seen := d.shown r.notices
  match r.result with
  | .error e => ({ shown := seen, opened := r.opened, failure := some (.config e) }, d)
  | .ok c =>
    let d := d.configureLog s c
    let outcome : Outcome :=
      { calls := if s.stderr then [] else [.openLog c.logFile]
        shown := seen ++ d.shown [.configurationRead c.file]
        opened := r.opened }
    let service : Service := { config := c, dispatcher := { files := d.files } }
    (outcome,
      { d with service := some service, level := if c.isVerbose then .debug else d.level })

/-- A service is made as the arguments of a command line say, unless they only ask for help. -/
def makeFrom (d : Daemon) (format : Config.Format) (arguments : List String) :
    Option (Outcome × Daemon) :=
  match CommandLine.parse arguments with
  | .error e => some ({ failure := some (.usage e) }, d)
  | .ok .inform => none
  | .ok (.serve s) => some (d.make format s)

/-- The port of the service is bound. -/
def bind (d : Daemon) : Outcome × Daemon :=
  match d.service with
  | none => ({ failure := some .notBound }, d)
  | some s =>
    let c := s.config
    ({ calls := [.makeServer c.port c.interface, .startServer]
       shown := d.shown [.binding c.interface c.port] },
      { d with service := some { s with bound := true } })

/-- The service serves files from now on. -/
def start (d : Daemon) : Outcome × Daemon :=
  match d.service with
  | none => ({ failure := some .notBound }, d)
  | some s =>
    let backend := Service.backend s.config d.files.current
    ({ shown := d.shown [.servingFiles s.config.root] },
      { d with
        service := some
          { s with running := true, dispatcher := { s.dispatcher with backend := some backend } } })

/-- The service refuses requests from now on, and its port is released. That needs a port that was
bound. -/
def stop (d : Daemon) : Outcome × Daemon :=
  match d.service with
  | none => ({ failure := some .notBound }, d)
  | some s =>
    let stopped :=
      { s with running := false, dispatcher := { s.dispatcher with backend := none } }
    (if s.bound then { calls := [.stopServer] } else { failure := some .notBound },
      { d with service := some stopped })

/-- Something happens to the dispatcher of the service. -/
def dispatch (d : Daemon) (input : Dispatcher.Input) : Outcome × Daemon :=
  match d.service with
  | none => ({}, d)
  | some s =>
    let (report, dispatcher) := s.dispatcher.step input
    ({ shown := d.shown report.notices
       opened := report.events.filterMap Event.openedPath?
       report },
      { d with service := some { s with dispatcher } })

end Daemon

end Tftp
