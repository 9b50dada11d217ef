import Tftp.Bytes

/-!
# Packets

A TFTP datagram starts with two bytes that say what kind of packet it is, and the rest depends on
the kind. Two types hold what a datagram says:

* `Packet` — a packet with all the fields of its kind, which is what decoding gives and what a
  session sends;
* `Draft` — a packet as a caller may hand it over, with any field missing and any two bytes, or
  other bytes, for its kind.

Every packet is a draft (`Packet.toDraft`); encoding is defined on drafts.
-/

namespace Tftp

/-- The options of a request or of an acknowledgement of options: names and values, in order. -/
abbrev Options := List (Bytes × Bytes)

/-- The kinds of packet. -/
inductive Opcode where
  | readRequest
  | writeRequest
  | data
  | ack
  | error
  | optionAck
  deriving DecidableEq, Repr, Inhabited

namespace Opcode

/-- The two bytes that a datagram of this kind starts with. -/
def bytes : Opcode → Bytes
  | readRequest => [0, 1]
  | writeRequest => [0, 2]
  | data => [0, 3]
  | ack => [0, 4]
  | error => [0, 5]
  | optionAck => [0, 6]

/-- The kind of packet that two bytes stand for. -/
def ofBytes? : Bytes → Option Opcode
  | [0, 1] => some readRequest
  | [0, 2] => some writeRequest
  | [0, 3] => some data
  | [0, 4] => some ack
  | [0, 5] => some error
  | [0, 6] => some optionAck
  | _ => none

@[simp] theorem ofBytes?_bytes (o : Opcode) : ofBytes? o.bytes = some o := by
  cases o <;> rfl

/-- Only the bytes of a kind stand for it. -/
theorem ofBytes?_eq_some {s : Bytes} {o : Opcode} (h : ofBytes? s = some o) : s = o.bytes := by
  unfold ofBytes? at h
  split at h <;> simp_all <;> subst h <;> rfl

@[simp] theorem length_bytes (o : Opcode) : o.bytes.length = 2 := by
  cases o <;> rfl

end Opcode

/-- The codes of an error packet that this server sends. -/
inductive ErrorCode where
  | undefined
  | fileNotFound
  | accessViolation
  | illegalOperation
  | unknownTransferId
  | optionRefused
  deriving DecidableEq, Repr, Inhabited

/-- The two bytes of an error code. -/
def ErrorCode.bytes : ErrorCode → Bytes
  | undefined => [0, 0]
  | fileNotFound => [0, 1]
  | accessViolation => [0, 2]
  | illegalOperation => [0, 4]
  | unknownTransferId => [0, 5]
  | optionRefused => [0, 8]

@[simp] theorem ErrorCode.length_bytes (c : ErrorCode) : c.bytes.length = 2 := by
  cases c <;> rfl

/-- A request to read or to write a file. -/
structure Request where
  filename : Bytes
  mode : Bytes
  options : Options
  deriving DecidableEq, Repr, Inhabited

/-- The only transfer mode that is served. -/
def octetMode : Bytes := Bytes.ofText "octet"

/-- A packet with the fields of its kind. Block numbers and error codes are bytes as they stand in
the datagram. -/
inductive Packet where
  | readRequest (request : Request)
  | writeRequest (request : Request)
  | data (block payload : Bytes)
  | ack (block : Bytes)
  | error (code message : Bytes)
  | optionAck (options : Options)
  deriving DecidableEq, Repr, Inhabited

/-- The fields that a packet may have. -/
inductive Field where
  | opcode
  | filename
  | mode
  | options
  | block
  | payload
  | code
  | message
  deriving DecidableEq, Repr, Inhabited

/-- The name of a field in messages. -/
def Field.name : Field → String
  | opcode => "opcode"
  | filename => "filename"
  | mode => "mode"
  | options => "options"
  | block => "blkno"
  | payload => "data"
  | code => "errcode"
  | message => "errmsg"

/-- A packet as a caller hands it over: any field may be missing, and nothing is checked. -/
structure Draft where
  opcode : Option Bytes := none
  filename : Option Bytes := none
  mode : Option Bytes := none
  options : Option Options := none
  block : Option Bytes := none
  payload : Option Bytes := none
  code : Option Bytes := none
  message : Option Bytes := none
  deriving DecidableEq, Repr, Inhabited

namespace Packet

/-- The kind of a packet. -/
def opcode : Packet → Opcode
  | readRequest _ => .readRequest
  | writeRequest _ => .writeRequest
  | data .. => .data
  | ack _ => .ack
  | error .. => .error
  | optionAck _ => .optionAck

/-- A packet as a draft with exactly the fields of its kind. -/
def toDraft : Packet → Draft
  | readRequest r =>
    ⟨some [0, 1], some r.filename, some r.mode, some r.options, none, none, none, none⟩
  | writeRequest r =>
    ⟨some [0, 2], some r.filename, some r.mode, some r.options, none, none, none, none⟩
  | data block payload => ⟨some [0, 3], none, none, none, some block, some payload, none, none⟩
  | ack block => ⟨some [0, 4], none, none, none, some block, none, none, none⟩
  | error code message => ⟨some [0, 5], none, none, none, none, none, some code, some message⟩
  | optionAck options => ⟨some [0, 6], none, none, some options, none, none, none, none⟩

@[simp] theorem opcode_toDraft (p : Packet) : p.toDraft.opcode = some p.opcode.bytes := by
  cases p <;> rfl

/-- Packets that are the same draft are the same packet. -/
theorem toDraft_inj {p q : Packet} (h : p.toDraft = q.toDraft) : p = q := by
  cases p <;> cases q <;> simp_all [toDraft]
  all_goals
    rename_i r s
    cases r
    cases s
    simp_all

end Packet

end Tftp
