import Tftp.CommandLine
import Tftp.Config.Layers
import Tftp.Notice
import Tftp.Path.Codes
import Tftp.Yaml.Problem

/-!
# Configuration

A configuration has entries of its own and a section of general entries. It is made from layers:
the command line, the files, and the defaults.

* `Config.ofSettings` — the layer of a command line;
* `Config.merge` — one configuration from layers, the highest priority first. The general sections
  are merged entry by entry, and a section that is null or empty hides nothing.
* `Config.check` — the general section with a port number, a truth value and an absolute path where
  these are needed.
-/

namespace Tftp

/-- Why there is no configuration. Some of the reasons are configuration errors, which are raised on
purpose. The others are errors of another kind, which are met on the way and let through. -/
inductive ConfigError where
  /-- a file that cannot be opened: a configuration error -/
  | unreadable (path : String) (error : SystemError)
  /-- a file that is no text: an error of decoding, let through -/
  | notText (path : String)
  /-- a file that is refused: a configuration error -/
  | refused (path : String)
  /-- a file with a number, a time or a word that has no value, let through: a key error for a word,
  an index error for a number without a character, an attribute error for a text that is no time,
  a type error for a mapping that is none, an overflow error for a number far out of range, a
  recursion error for nodes too deep in one another, and a value error otherwise -/
  | noValue (problem : Yaml.Problem)
  /-- a file with a value that is no mapping: a configuration error -/
  | notMapping (path : String)
  /-- a general section that is no mapping, let through: an index error for an item that is not
  there, and a type error otherwise -/
  | badSection (error : LayerError)
  /-- a general section without an entry that is needed: a key error, let through. The defaults have
  these entries, so that a configuration that is loaded does not fail in this way. -/
  | missing (key : String)
  /-- a port that is no number: a configuration error -/
  | badPort (value : Value)
  /-- a port out of range: a configuration error -/
  | portOutOfRange (port : Int)
  /-- an infinite port: an overflow error, let through -/
  | infinitePort
  /-- a refused port with too many digits to be shown: a value error, met while the configuration
  error is put in words, and let through -/
  | tooLongToShow
  /-- a root directory that is no path: a type error, let through -/
  | badRoot
  deriving Inhabited

/-- The error in words. The words of a configuration error are those that are shown. Where an error
is let through, they are those of a run for a key, an index, an infinite port, nodes that are too
deep, and a number that is too long to be shown. For a file that is no text, a value that is out of
range, a section of a wrong kind and a root that is no path the words of a run depend on more than
is kept here, and those below are a summary. What is wrong with a file that is refused is left
out. -/
def ConfigError.message : ConfigError → String
  | unreadable path error => "Could not read config file \"" ++ path ++ "\": " ++ error.text
  | notText path => "Config file \"" ++ path ++ "\" is not a text"
  | refused path => "Could not read config file \"" ++ path ++ "\": "
  | noValue (.badTruth word) => Text.quotedCodes word
  | noValue .emptyNumber => "string index out of range"
  | noValue .tooDeep => "maximum recursion depth exceeded"
  | noValue _ => "value out of range"
  | notMapping path => "Config file \"" ++ path ++ "\" is not a mapping"
  | badSection .noSuchItem => "list index out of range"
  | badSection .noSuchByte => "index out of range"
  | badSection .wrongKind => "section \"general\" is not a mapping"
  | missing key => Text.quoted key
  | badPort value => "Invalid value for \"tftp_port\": " ++ value.literal
  | portOutOfRange port => "Invalid value for \"tftp_port\": " ++ toString port
  | infinitePort => "cannot convert float infinity to integer"
  | tooLongToShow => "Exceeds the limit (" ++ toString Numeral.maxDigits ++
      " digits) for integer string conversion; " ++
      "use sys.set_int_max_str_digits() to increase the limit"
  | badRoot => "root_dir is not a path"

/-- A configuration. -/
structure Config where
  /-- the entries apart from the general section -/
  entries : Entries
  /-- the entries of the general section -/
  general : Entries
  deriving Inhabited

namespace Config

/-- The key of the general section. -/
def sectionKey : String := "general"

/-- The entries with the general section among them. -/
def toEntries (c : Config) : Entries :=
  c.entries.set sectionKey (.map c.general)

/-! ## Layers -/

/-- The entries that are given, each under its key. -/
def given (xs : List (String × Option Value)) : Entries :=
  xs.filterMap fun (key, value) => value.map fun v => (.text key, v)

/-- The layer of a command line. -/
def ofSettings (s : CommandLine.Settings) : Entries :=
  let general := given
    [("root_dir", s.rootDirectory.map .text), ("tftp_port", s.port.map .text),
     ("listen_interface", s.interface.map .text),
     ("verbose", if s.verbose then some (.bool true) else none)]
  given [(sectionKey, some (.map general)), ("config_file", s.configFile.map .text)]

/-- The configuration file that is read by default. -/
def defaultFile : String := "/etc/wazo-tftpd/config.yml"

/-- The directory of further configuration files. -/
def extraDirectory : String := "/etc/wazo-tftpd/conf.d"

/-- The layer of the defaults. -/
def defaults : Entries :=
  let general := given
    [("listen_interface", some (.text "")), ("tftp_port", some (.int 69)),
     ("root_dir", some (.text "/var/lib/wazo-tftpd/tftpboot")),
     ("log_file", some (.text "/var/log/wazo-tftpd.log")), ("verbose", some (.bool false))]
  given
    [("config_file", some (.text defaultFile)), ("extra_config_files", some (.text extraDirectory)),
     (sectionKey, some (.map general))]

/-- The general section of a layer. One that is missing, null, zero or empty has no entries. -/
def sectionOf (layer : Entries) : Value :=
  match layer.get? sectionKey with
  | some v => if v.isTruthy then v.opened else .map []
  | none => .map []

/-- One configuration from layers, the highest priority first. -/
def merge (layers : List Entries) : Except LayerError Config := do
  let entries ← Layer.merge (layers.map .map)
  let general ← Layer.merge (layers.map sectionOf)
  return { entries := entries.erase sectionKey, general }

/-! ## Checks -/

/-- The value of a key that is needed. -/
def required (es : Entries) (key : String) : Except ConfigError Value :=
  match es.get? key with
  | some v => .ok v
  | none => .error (.missing key)

/-- The number that a value stands for: a fraction is cut off, and a text is read. -/
def number? : Value → Except ConfigError (Option Int)
  | .int n => .ok (some n)
  | .bool b => .ok (some b.toInt)
  | .float (.infinite _) => .error .infinitePort
  | .float x => .ok x.truncate
  | .text s => .ok (Numeral.read? s.toList)
  | .bytes s => .ok (Numeral.read? s.toText.toList)
  | _ => .ok none

/-- The greatest port number. -/
def maxPort : Int := 65535

/-- The port number that a value stands for. -/
def portOf (v : Value) : Except ConfigError Int := do
  match ← number? v with
  | none => .error (if v.literal?.isSome then .badPort v else .tooLongToShow)
  | some n =>
    if 0 ≤ n ∧ n ≤ maxPort then return n
    else .error (if Numeral.isWritable n then .portOutOfRange n else .tooLongToShow)

/-- The character that stands for a byte of a path. -/
def charOf (b : UInt8) : Char := Char.ofNat b.toNat

/-- The absolute path of a directory, seen from a current directory. A path in bytes is seen from
the bytes of that directory. -/
def rootOf (current : List Char) : Value → Except ConfigError Value
  | .codes cs => .ok (.ofCodes (Path.absoluteCodes current cs))
  | .text s => .ok (.text (String.ofList (Path.absoluteFrom current s.toList)))
  | .bytes s =>
    let current : Bytes := (String.ofList current).toUTF8.data.toList
    let path := Path.absoluteFrom (current.map charOf) (s.map charOf)
    .ok (.bytes (path.map fun c => UInt8.ofNat c.toNat))
  | _ => .error .badRoot

/-- The general section with its port, verbosity and root directory checked in this order. -/
def check (general : Entries) (current : List Char := ['/']) : Except ConfigError Entries := do
  let port ← portOf (← required general "tftp_port")
  let verbose ← required general "verbose"
  let root ← rootOf current (← required general "root_dir")
  return ((general.set "tftp_port" (.int port)).set "verbose" (.bool verbose.isTruthy)).set
    "root_dir" root

/-! ## Entries of a checked configuration -/

/-- The value of a key of the general section. -/
def get (c : Config) (key : String) : Value :=
  (c.general.get? key).getD .null

/-- The port to listen on. -/
def port (c : Config) : Int :=
  match c.get "tftp_port" with
  | .int n => n
  | _ => 0

/-- The interface to listen on. -/
def interface (c : Config) : Value := c.get "listen_interface"

/-- The directory of the files to serve. -/
def root (c : Config) : Value := c.get "root_dir"

/-- The file to log to. -/
def logFile (c : Config) : Value := c.get "log_file"

/-- Whether to log everything. -/
def isVerbose (c : Config) : Bool := (c.get "verbose").isTruthy

/-- The path of the configuration file, as the configuration says. -/
def file (c : Config) : Value := (c.entries.get? "config_file").getD .null

end Config

end Tftp
