import Tftp.Number.Numeral
import Tftp.Packet.Decode
import Tftp.Packet.Encode
import Tftp.Text.Quoted

/-!
# Faults

What can go wrong while a request is served, sorted by cause. A fault says three things:

* `Fault.text` — the fault in words, for log lines;
* `Fault.code` — the code of the error packet that reports it to the client;
* `Fault.message` — the words as they are sent: ASCII, and without a null byte.
-/

namespace Tftp

/-- Why a backend does not supply a file. -/
inductive BackendKind where
  | notFound
  | permissionDenied
  | other
  deriving DecidableEq, Repr, Inhabited

/-- The name of the kind in log lines. -/
def BackendKind.name : BackendKind → String
  | notFound => "not_found"
  | permissionDenied => "permission_denied"
  | other => "other"

/-- A failed call of the operating system: with a number and a reason, or in words only. -/
inductive SystemError where
  | described (text : String)
  | numbered (number : Option Int) (reason : Option String) (path : Option String)
  deriving DecidableEq, Repr, Inhabited

namespace SystemError

/-- No such file or directory. -/
def noEntry : Int := 2

/-- Operation not permitted. -/
def notPermitted : Int := 1

/-- Permission denied. -/
def accessDenied : Int := 13

/-- Not a directory. -/
def notDirectory : Int := 20

/-- Is a directory. -/
def isDirectory : Int := 21

/-- The number of a failed call. -/
def number? : SystemError → Option Int
  | described _ => none
  | numbered n _ _ => n

/-- The failed call in words. -/
def text : SystemError → String
  | described s => s
  | numbered number reason path =>
    "[Errno " ++ ((number.map toString).getD "None") ++ "] " ++ reason.getD "None" ++
      (path.map fun p => ": " ++ Text.quoted p).getD ""

/-- The reason alone, or everything when there is no reason or an empty one. -/
def reason : SystemError → String
  | described s => s
  | numbered number reason path =>
    match reason with
    | none | some "" => text (numbered number reason path)
    | some r => r

/-- What a failed call means for a request: files that are not there and directories are not
found, refused access is denied, all else is a failure of its own. -/
def kind (e : SystemError) : BackendKind :=
  match e.number? with
  | none => .other
  | some n =>
    if n = noEntry ∨ n = notDirectory ∨ n = isDirectory then .notFound
    else if n = accessDenied ∨ n = notPermitted then .permissionDenied
    else .other

end SystemError

/-- What went wrong while a request was served. -/
inductive Fault where
  /-- a datagram that is no packet, or a packet that is no datagram -/
  | malformed (text : String)
  /-- a packet could not be sent or received -/
  | transport (text : String)
  /-- no valid packet came in time -/
  | timedOut (text : String)
  /-- an option has a value that cannot be used -/
  | negotiation (text : String)
  /-- a request of a kind that is not served -/
  | unsupported (text : String)
  /-- the backend does not supply the file -/
  | backend (kind : BackendKind) (text : String)
  /-- another failure of the protocol -/
  | protocol (text : String)
  /-- a call of the operating system failed -/
  | system (error : SystemError)
  /-- a value is out of the range of what can be computed with -/
  | badValue (text : String)
  /-- a failure inside a backend or a file -/
  | internal (text : String)
  /-- a packet lacks a field -/
  | missingField (field : Field)
  /-- a block number that is not two bytes -/
  | badBlock
  /-- there is no backend to ask -/
  | noBackend
  /-- there is no transport to send with -/
  | noTransport
  /-- a promise was kept before -/
  | alreadyKept
  deriving DecidableEq, Repr, Inhabited

namespace Fault

/-- The fault of a packet that cannot be encoded: a missing field is a fault of its own. -/
def ofEncodeError : EncodeError → Fault
  | .missing field => missingField field
  | .unknownOpcode => malformed "invalid opcode"
  | .badBlock => malformed "invalid blkno length"
  | .badCode => malformed "invalid errcode length"
  | .nullInRequest => malformed "null byte in request field"
  | .nullInMessage => malformed "null byte in errmsg"
  | .nullInOption => malformed "null byte in option/value"

/-- The fault of a datagram that cannot be decoded. -/
def ofDecodeError (e : DecodeError) : Fault :=
  malformed e.message

/-- The fault of a numeral that is too long to be read. -/
def numeralTooLong (digits : Nat) : Fault :=
  badValue ("Exceeds the limit (" ++ toString Numeral.maxDigits ++
    " digits) for integer string conversion: value has " ++ toString digits ++
    " digits; use sys.set_int_max_str_digits() to increase the limit")

/-- The fault in words. -/
def text : Fault → String
  | malformed s | transport s | timedOut s | negotiation s | unsupported s | backend _ s
  | protocol s | badValue s | internal s => s
  | system e => e.text
  | missingField field => Text.quoted field.name
  | badBlock => "unpack requires a buffer of 2 bytes"
  | noBackend => "'NoneType' object has no attribute 'read_file'"
  | noTransport => "'NoneType' object has no attribute 'write'"
  | alreadyKept => ""

/-- The code that reports the fault to the client. -/
def code : Fault → ErrorCode
  | backend .notFound _ => .fileNotFound
  | backend .permissionDenied _ => .accessViolation
  | negotiation _ => .optionRefused
  | unsupported _ => .illegalOperation
  | _ => .undefined

/-- A text as the message of an error packet: in ASCII, with a question mark for every other
character, and without null bytes. -/
def messageOfText (s : String) : Bytes :=
  (Bytes.ofText s).filter (· != 0)

/-- The words of the fault as they are sent to the client. -/
def message (f : Fault) : Bytes :=
  messageOfText f.text

/-- The fault of a backend whose call of the operating system failed. -/
def ofSystemError (e : SystemError) : Fault :=
  backend e.kind e.reason

/-- What a fault that a backend answers with means for the request: its own verdict, that of a
failed call of the operating system, or a failure in the words of the fault. -/
def rejection : Fault → BackendKind × String
  | system e => (e.kind, e.reason)
  | backend kind s => (kind, s)
  | f => (.other, f.text)

/-- Whether a backend foresees the fault. -/
def isForeseen : Fault → Bool
  | system _ | backend .. => true
  | _ => false

/-- Whether the fault means that a packet was there and could not be read, or could not be
written. -/
def isUnreadable : Fault → Bool
  | malformed _ | transport _ => true
  | _ => false

/-- Whether the fault means that nothing came in time. -/
def isTimeout : Fault → Bool
  | timedOut _ => true
  | _ => false

end Fault

end Tftp
