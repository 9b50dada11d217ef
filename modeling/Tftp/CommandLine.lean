/-!
# The command line

The options of the server are long ones, which may be shortened to a unique beginning, and short
ones, which may stand together in one argument. Options end at the first argument that is none,
or after `--`, and nothing may be left over then.

* `CommandLine.scan` — the options of a command line in order, and what is left over;
* `CommandLine.parse` — the settings that they make, or the reason to stop.

The whole line is scanned before the first option takes effect.
-/

namespace Tftp.CommandLine

/-- The options. -/
inductive Flag where
  | stderr
  | verbose
  | configFile
  | rootDirectory
  | port
  | interface
  | version
  | help
  deriving DecidableEq, Repr, Inhabited

namespace Flag

/-- All options. -/
def all : List Flag :=
  [stderr, verbose, configFile, rootDirectory, port, interface, version, help]

/-- The long name of an option. -/
def name : Flag → String
  | stderr => "stderr"
  | verbose => "verbose"
  | configFile => "config-file"
  | rootDirectory => "root-dir"
  | port => "tftp-port"
  | interface => "listen"
  | version => "version"
  | help => "help"

/-- The letter of a short option. -/
def letter? : Flag → Option Char
  | stderr => some 's'
  | verbose => some 'v'
  | configFile => some 'f'
  | rootDirectory => some 'r'
  | _ => none

/-- Whether an option has an argument. -/
def takesArgument : Flag → Bool
  | configFile | rootDirectory | port | interface => true
  | _ => false

end Flag

/-- Why a command line is refused. -/
inductive UsageError where
  | unknown (option : String)
  | ambiguous (option : String)
  | missingArgument (option : String)
  | unwantedArgument (option : String)
  | leftOver
  deriving DecidableEq, Repr, Inhabited

/-- The refusal in words. -/
def UsageError.message : UsageError → String
  | unknown option => "option " ++ option ++ " not recognized"
  | ambiguous option => "option " ++ option ++ " not a unique prefix"
  | missingArgument option => "option " ++ option ++ " requires argument"
  | unwantedArgument option => "option " ++ option ++ " must not have an argument"
  | leftOver => "Wrong number of arguments."

/-- The option of a long name or of a unique beginning of one. An exact name always wins. -/
def long? (name : List Char) : Except UsageError Flag :=
  let shown := "--" ++ String.ofList name
  let candidates := Flag.all.filter fun f => name.isPrefixOf f.name.toList
  match candidates.find? fun f => f.name.toList == name with
  | some f => .ok f
  | none =>
    match candidates with
    | [] => .error (.unknown shown)
    | [f] => .ok f
    | _ => .error (.ambiguous shown)

/-- The option of a letter. -/
def short? (letter : Char) : Except UsageError Flag :=
  match Flag.all.find? fun f => f.letter? == some letter with
  | some f => .ok f
  | none => .error (.unknown ("-" ++ String.singleton letter))

/-- An option with its argument, which is empty for an option that has none. -/
structure Item where
  flag : Flag
  argument : String := ""
  deriving DecidableEq, Repr, Inhabited

/-- The options in one argument of the command line. The last of them may still await its argument,
and is then given with the words to call it by. -/
structure Group where
  items : List Item
  awaiting : Option (Flag × String) := none

/-- The option in an argument that started with two dashes. -/
def longGroup (body : List Char) : Except UsageError Group := do
  let name := body.takeWhile (· != '=')
  let argument := body.drop (name.length + 1)
  let given := name.length < body.length
  let flag ← long? name
  let shown := "--" ++ flag.name
  if flag.takesArgument then
    if given then return { items := [⟨flag, String.ofList argument⟩] }
    else return { items := [], awaiting := some (flag, shown) }
  else if given then .error (.unwantedArgument shown)
  else return { items := [⟨flag, ""⟩] }

/-- The options in an argument that started with one dash. The letters after one that takes an
argument are its argument. -/
def shortGroup : List Char → Except UsageError Group
  | [] => .ok { items := [] }
  | c :: cs => do
    let flag ← short? c
    if flag.takesArgument then
      if cs.isEmpty then return { items := [], awaiting := some (flag, "-" ++ String.singleton c) }
      else return { items := [⟨flag, String.ofList cs⟩] }
    else do
      let rest ← shortGroup cs
      return { rest with items := ⟨flag, ""⟩ :: rest.items }

/-- The options of a command line in order, and the arguments that are left over. -/
def scan (awaiting : Option (Flag × String)) :
    List String → Except UsageError (List Item × List String)
  | [] =>
    match awaiting with
    | some (_, shown) => .error (.missingArgument shown)
    | none => .ok ([], [])
  | a :: as =>
    match awaiting with
    | some (flag, _) => do
      let (items, rest) ← scan none as
      return (⟨flag, a⟩ :: items, rest)
    | none =>
      match a.toList with
      | ['-', '-'] => .ok ([], as)
      | '-' :: '-' :: body => do
        let group ← longGroup body
        let (items, rest) ← scan group.awaiting as
        return (group.items ++ items, rest)
      | '-' :: c :: body => do
        let group ← shortGroup (c :: body)
        let (items, rest) ← scan group.awaiting as
        return (group.items ++ items, rest)
      | _ => .ok ([], a :: as)

/-- What the options of a command line set. -/
structure Settings where
  configFile : Option String := none
  rootDirectory : Option String := none
  port : Option String := none
  interface : Option String := none
  /-- whether to log to the standard error stream -/
  stderr : Bool := false
  verbose : Bool := false
  deriving DecidableEq, Repr, Inhabited

/-- What a command line asks for. -/
inductive Request where
  /-- to run with some settings -/
  | serve (settings : Settings)
  /-- to show the help or the version and to stop -/
  | inform
  deriving DecidableEq, Repr, Inhabited

/-- The settings after the options of a list, or the wish to be informed, which ends the list. -/
def apply (s : Settings) : List Item → Request
  | [] => .serve s
  | ⟨flag, argument⟩ :: items =>
    match flag with
    | .stderr => apply { s with stderr := true } items
    | .verbose => apply { s with verbose := true } items
    | .configFile => apply { s with configFile := some argument } items
    | .rootDirectory => apply { s with rootDirectory := some argument } items
    | .port => apply { s with port := some argument } items
    | .interface => apply { s with interface := some argument } items
    | .version | .help => .inform

/-- What a command line asks for, or why it is refused. -/
def parse (arguments : List String) : Except UsageError Request :=
  match scan none arguments with
  | .error e => .error e
  | .ok (items, rest) =>
    match apply {} items with
    | .inform => .ok .inform
    | .serve s => if rest.isEmpty then .ok (.serve s) else .error .leftOver

end Tftp.CommandLine
