import Tftp.Fault
import Tftp.Value

/-!
# Notices

What the server reports while it works, for its log. A notice is kept as what it says, and three
functions turn it into a log entry: `Notice.level`, `Notice.source` and `Notice.text`.

`Noted` is a value together with the notices given on the way to it.
-/

namespace Tftp

/-- How urgent a notice is. -/
inductive Level where
  | debug
  | info
  | warning
  | error
  deriving DecidableEq, Repr, Inhabited

/-- The rank of a level, the greater the more urgent. -/
def Level.rank : Level → Nat
  | debug => 0
  | info => 1
  | warning => 2
  | error => 3

/-- The part of the server that gives a notice. -/
inductive Source where
  | configuration
  | negotiation
  | session
  | connection
  | dispatcher
  | service
  deriving DecidableEq, Repr, Inhabited

/-- How a session may end. -/
inductive Outcome where
  | completed
  | abortedByError
  | abortedByTimeout
  deriving DecidableEq, Repr, Inhabited

/-- The name of an outcome. -/
def Outcome.name : Outcome → String
  | completed => "completed"
  | abortedByError => "aborted by error"
  | abortedByTimeout => "aborted by timeout"

/-- Something the server reports. -/
inductive Notice where
  | missingConfigFile (path : String)
  | ignoredOption (name : Bytes)
  | sendingError (peer : Address) (message : Bytes)
  | resending (peer : Address) (attempt : Nat)
  | unreadablePacket (peer : Address) (reason : String)
  | discardedPacket (peer : Address)
  | sessionEnded (peer : Address) (outcome : Outcome)
  | writeNotSupported
  | backendFailed
  | requestAccepted (filename : String)
  | requestRejected (kind : BackendKind) (reason : String)
  | negotiationFailed (reason : String)
  | usingTerms (blockSize timeout : Int)
  | unreadableFile (reason : String)
  | transferTimedOut (peer : Address)
  | wrongTransferId
  | invalidDatagram (reason : String)
  | invalidRequest (peer : Address) (reason : String)
  | readRequested (peer : Address)
  | writeRequested (peer : Address)
  | notARequest (peer : Address)
  | modeNotSupported (mode : Bytes)
  | sessionFailed (peer : Address) (reason : String)
  | configurationRead (path : Value)
  | binding (interface : Value) (port : Int)
  | servingFiles (root : Value)
  | requestLogged (text : String)
  deriving Inhabited

namespace Notice

/-- How urgent the notice is. -/
def level : Notice → Level
  | missingConfigFile _ | ignoredOption _ | discardedPacket _ | usingTerms .. => .debug
  | unreadableFile _ | modeNotSupported _ => .warning
  | backendFailed | sessionFailed .. => .error
  | _ => .info

/-- The part of the server that gives the notice. -/
def source : Notice → Source
  | missingConfigFile _ => .configuration
  | ignoredOption _ => .negotiation
  | wrongTransferId | invalidDatagram _ => .connection
  | invalidRequest .. | readRequested _ | writeRequested _ | notARequest _ | modeNotSupported _
  | sessionFailed .. => .dispatcher
  | configurationRead _ | binding .. | servingFiles _ | requestLogged _ => .service
  | _ => .session

/-- The notice in words. -/
def text : Notice → String
  | missingConfigFile path => "Config file " ++ path ++ " does not exist"
  | ignoredOption name => "Ignoring unsupported option " ++ Text.quotedBytes name
  | sendingError peer message =>
    "Sending error to " ++ peer.display ++ ": " ++ Text.quotedBytes message
  | resending peer attempt =>
    "Timeout expired, sending packet to " ++ peer.display ++ " again (attempt " ++
      toString attempt ++ ")"
  | unreadablePacket peer reason => "Could not read packet from " ++ peer.display ++ ": " ++ reason
  | discardedPacket peer => "Discarding unexpected packet from " ++ peer.display
  | sessionEnded peer outcome =>
    "TFTP session with " ++ peer.display ++ " terminated: " ++ outcome.name
  | writeNotSupported => "TFTP write request not supported"
  | backendFailed => "Unexpected error from backend"
  | requestAccepted filename => "TFTP read request accepted: " ++ filename
  | requestRejected kind reason =>
    "TFTP read request rejected (" ++ kind.name ++ "): " ++ reason
  | negotiationFailed reason => "TFTP option negotiation failed: " ++ reason
  | usingTerms blockSize timeout =>
    "Using TFTP blksize of " ++ toString blockSize ++ " and timeout of " ++ toString timeout
  | unreadableFile reason => "Error while reading file: " ++ reason
  | transferTimedOut peer => "TFTP transfer to " ++ peer.display ++ " timed out"
  | wrongTransferId => "Datagram received with wrong TID"
  | invalidDatagram reason => "Received an invalid datagram: " ++ reason
  | invalidRequest peer reason =>
    "Received invalid TFTP datagram from " ++ peer.display ++ ": " ++ reason
  | readRequested peer => "TFTP read request from " ++ peer.display
  | writeRequested peer => "TFTP write request from " ++ peer.display
  | notARequest peer => "Ignoring non-request packet from " ++ peer.display
  | modeNotSupported mode => "TFTP mode not supported: " ++ Text.quotedBytes mode
  | sessionFailed peer reason =>
    "Unexpected error during TFTP session with " ++ peer.display ++ ": " ++ reason
  | configurationRead path => "Configuration read from " ++ path.display
  | binding interface port =>
    "Binding TFTP service to \"" ++ interface.display ++ ":" ++ toString port ++ "\""
  | servingFiles root => "Serving files from " ++ root.display
  | requestLogged text => text

end Notice

/-- A value and the notices given on the way to it, the earliest first. -/
structure Noted (α : Type) where
  notices : List Notice := []
  value : α

namespace Noted

/-- A value without a notice. -/
def silent {α : Type} (a : α) : Noted α := ⟨[], a⟩

/-- A value that goes on from a noted one. -/
def andThen {α β : Type} (m : Noted α) (f : α → Noted β) : Noted β :=
  let n := f m.value
  ⟨m.notices ++ n.notices, n.value⟩

@[simp] theorem value_silent {α : Type} (a : α) : (silent a).value = a := rfl

@[simp] theorem notices_silent {α : Type} (a : α) : (silent a).notices = [] := rfl

@[simp] theorem value_andThen {α β : Type} (m : Noted α) (f : α → Noted β) :
    (m.andThen f).value = (f m.value).value := rfl

@[simp] theorem notices_andThen {α β : Type} (m : Noted α) (f : α → Noted β) :
    (m.andThen f).notices = m.notices ++ (f m.value).notices := rfl

end Noted

end Tftp
