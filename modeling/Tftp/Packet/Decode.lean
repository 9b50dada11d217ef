import Tftp.Packet.Basic

/-!
# Reading a datagram

`Packet.decode` gives the packet of a datagram or the reason why it has none. The rest of the
datagram after the two bytes of its kind is, for each kind that a server receives:

* a request — an even number, at least two, of fields that each end in a null byte: the file
  name, the mode, and names and values of options, where no name is given twice;
* data — two bytes of block number, then the payload;
* an acknowledgement — two bytes of block number and nothing else;
* an error — two bytes of code, the message, and a null byte.

Letter case does not count in the mode and in the names of options: both are given in lower case.
-/

namespace Tftp

/-- Why a datagram is no packet. -/
inductive DecodeError where
  | unknownOpcode
  | tooSmall
  | wrongSize
  | unterminatedRequest
  | unterminatedError
  | oddFieldCount
  | repeatedOption
  deriving DecidableEq, Repr, Inhabited

/-- The reason in words. -/
def DecodeError.message : DecodeError → String
  | unknownOpcode => "invalid opcode"
  | tooSmall => "too small"
  | wrongSize => "incorrect size"
  | unterminatedRequest => "last dgram byte not null"
  | unterminatedError => "last datagram byte not null"
  | oddFieldCount => "invalid number of field"
  | repeatedOption => "same option specified more than once"

namespace Packet

/-- The options in a list of alternating names and values, with the names in lower case. A name
that stood before, in any letter case, is refused. -/
def pairOptions (seen : List Bytes) : List Bytes → Except DecodeError Options
  | name :: value :: rest =>
    let name := Bytes.toLower name
    if name ∈ seen then .error .repeatedOption
    else (pairOptions (name :: seen) rest).map ((name, value) :: ·)
  | _ => .ok []

/-- The request in the rest of a datagram. The pieces between null bytes are the fields and, after
the last null byte, one piece that must be empty. -/
def decodeRequest (body : Bytes) : Except DecodeError Request :=
  let pieces := body.splitOn 0
  if pieces.length < 3 then .error .tooSmall
  else if body.getLast? ≠ some 0 then .error .unterminatedRequest
  else if pieces.length % 2 = 0 then .error .oddFieldCount
  else
    match pieces.dropLast with
    | filename :: mode :: fields =>
      (pairOptions [] fields).map fun options => ⟨filename, Bytes.toLower mode, options⟩
    | _ => .error .tooSmall

/-- The data packet in the rest of a datagram. -/
def decodeData (body : Bytes) : Except DecodeError Packet :=
  if body.length < 2 then .error .tooSmall
  else .ok (.data (body.take 2) (body.drop 2))

/-- The acknowledgement in the rest of a datagram. -/
def decodeAck (body : Bytes) : Except DecodeError Packet :=
  if body.length ≠ 2 then .error .wrongSize
  else .ok (.ack body)

/-- The error packet in the rest of a datagram. -/
def decodeError (body : Bytes) : Except DecodeError Packet :=
  if body.length < 3 then .error .tooSmall
  else if body.getLast? ≠ some 0 then .error .unterminatedError
  else .ok (.error (body.take 2) (body.drop 2).dropLast)

/-- The packet of a datagram. A server never receives an acknowledgement of options, which is
refused like an unknown kind. -/
def decode (datagram : Bytes) : Except DecodeError Packet :=
  let body := datagram.drop 2
  match Opcode.ofBytes? (datagram.take 2) with
  | some .readRequest => (decodeRequest body).map .readRequest
  | some .writeRequest => (decodeRequest body).map .writeRequest
  | some .data => decodeData body
  | some .ack => decodeAck body
  | some .error => decodeError body
  | some .optionAck | none => .error .unknownOpcode

end Packet

end Tftp
