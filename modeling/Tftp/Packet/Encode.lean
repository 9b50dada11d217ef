import Tftp.Packet.Basic

/-!
# Writing a datagram

`Draft.encode` gives the datagram of a draft or the reason why it has none. Fields are looked up
one after the other, so that the first thing wrong decides: the kind, and then for

* a request — file name, mode and options, none of which may hold a null byte;
* data and acknowledgements — a block number of two bytes, and then the payload;
* an error — a code of two bytes, and then a message without a null byte;
* an acknowledgement of options — names and values without a null byte. With no option at all the
  datagram still ends in a null byte.
-/

namespace Tftp

/-- Why a draft has no datagram. -/
inductive EncodeError where
  | missing (field : Field)
  | unknownOpcode
  | badBlock
  | badCode
  | nullInRequest
  | nullInMessage
  | nullInOption
  deriving DecidableEq, Repr, Inhabited

namespace Draft

/-- The value of a field that must be there. -/
def require {α : Type} (field : Field) (value : Option α) : Except EncodeError α :=
  match value with
  | some a => .ok a
  | none => .error (.missing field)

/-- The names and values of options, one after the other. -/
def optionFields (options : Options) : List Bytes :=
  options.flatMap fun (name, value) => [name, value]

/-- Fields that each end in a null byte, of which there is one even if there is no field. -/
def joinFields (fields : List Bytes) : Bytes :=
  [(0 : UInt8)].intercalate fields ++ [0]

/-- The rest of the datagram of a request. -/
def encodeRequest (d : Draft) : Except EncodeError Bytes := do
  let filename ← require .filename d.filename
  let mode ← require .mode d.mode
  let options ← require .options d.options
  let fields := filename :: mode :: optionFields options
  if fields.any (·.contains 0) then .error .nullInRequest
  else .ok (joinFields fields)

/-- The block number of a packet that has one. -/
def blockField (d : Draft) : Except EncodeError Bytes := do
  let block ← require .block d.block
  if block.length ≠ 2 then .error .badBlock else .ok block

/-- The rest of the datagram of a data packet. -/
def encodeData (d : Draft) : Except EncodeError Bytes := do
  let block ← d.blockField
  let payload ← require .payload d.payload
  return block ++ payload

/-- The rest of the datagram of an error packet. -/
def encodeError (d : Draft) : Except EncodeError Bytes := do
  let code ← require .code d.code
  if code.length ≠ 2 then .error .badCode
  else do
    let message ← require .message d.message
    if message.contains 0 then .error .nullInMessage
    else .ok (code ++ message ++ [0])

/-- The rest of the datagram of an acknowledgement of options. -/
def encodeOptionAck (d : Draft) : Except EncodeError Bytes := do
  let options ← require .options d.options
  let fields := optionFields options
  if fields.any (·.contains 0) then .error .nullInOption
  else .ok (joinFields fields)

/-- The rest of the datagram of a packet of a given kind. -/
def encodeBody (d : Draft) : Opcode → Except EncodeError Bytes
  | .readRequest | .writeRequest => d.encodeRequest
  | .data => d.encodeData
  | .ack => d.blockField
  | .error => d.encodeError
  | .optionAck => d.encodeOptionAck

/-- The datagram of a draft. -/
def encode (d : Draft) : Except EncodeError Bytes := do
  let opcode ← require .opcode d.opcode
  match Opcode.ofBytes? opcode with
  | none => .error .unknownOpcode
  | some kind => do
    let body ← d.encodeBody kind
    return opcode ++ body

/-- A request of a given kind. -/
def request (opcode filename : Bytes) (mode : Bytes := octetMode) (options : Options := []) :
    Draft :=
  { opcode := some opcode, filename := some filename, mode := some mode, options := some options }

end Draft

end Tftp
