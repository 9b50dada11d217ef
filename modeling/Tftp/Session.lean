import Tftp.Exchange
import Tftp.Negotiation

/-!
# A session

A session serves one request. Like the exchanges that it is made of it is a state machine, over
five effects: a file is opened, read and closed, and packets are sent and received.

* `Session.start` — the session of a request;
* `Session.call` — what a session asks for next, and how it goes on with the answer;
* `Session.Phase` — where a session stands, up to the result.

A read request opens the file, negotiates the options and sends the blocks one by one, each in an
exchange of its own. A block shorter than the block size is the last one. Whatever happens, a file
that was opened is closed before the session ends, and the block size and the timeout change at
most once, before the first block.
-/

namespace Tftp

/-- What an exchange is for. -/
inductive Session.Goal where
  /-- the options are acknowledged -/
  | agreement
  /-- a block of the file is transferred -/
  | block (number : UInt16) (last : Bool)
  deriving DecidableEq, Repr, Inhabited

/-- Where a session stands. -/
inductive Session.Phase where
  /-- the backend is asked for the file -/
  | opening (filename : String) (options : Option Options)
  /-- a packet is exchanged -/
  | exchanging (goal : Session.Goal) (exchange : Exchange)
  /-- the payload of a block is read from the file -/
  | fetching (number : UInt16)
  /-- an error is reported, with the file open or not -/
  | reporting (code : ErrorCode) (message : Bytes) (fileOpen : Bool)
  /-- the file is closed, and then the session has this result -/
  | closing (result : Except Fault Outcome)
  /-- the session is over -/
  | ended (result : Except Fault Outcome)
  deriving Inhabited

/-- The session of one request. -/
structure Session where
  peer : Address
  terms : Terms := Terms.default
  phase : Session.Phase
  valid : terms.Valid := by exact Terms.valid_default

namespace Session

/-- What a session asks of its surroundings, and how it goes on with the answer. -/
inductive Call where
  | openFile (filename : String) (resume : Except Fault Unit → Noted Session)
  | readFile (size : Int) (resume : Except Fault Bytes → Noted Session)
  | closeFile (resume : Except Fault Unit → Noted Session)
  | send (packet : Draft) (resume : Except Fault Time → Noted Session)
  | receive (wait : Time) (resume : Reception → Noted Session)
  | finished (result : Except Fault Outcome)

/-- The session in another phase. -/
def enter (s : Session) (phase : Phase) : Session :=
  { s with phase }

/-- The session ends. An outcome is noted, a fault is left to whoever runs the session. -/
def finish (s : Session) (result : Except Fault Outcome) : Noted Session :=
  match result with
  | .ok outcome => ⟨[.sessionEnded s.peer outcome], s.enter (.ended result)⟩
  | .error _ => .silent (s.enter (.ended result))

/-- The session closes the file and has a result then. -/
def close (s : Session) (result : Except Fault Outcome) : Noted Session :=
  .silent (s.enter (.closing result))

/-- The session reports an error to the client. -/
def report (s : Session) (code : ErrorCode) (message : Bytes) (fileOpen : Bool) : Noted Session :=
  ⟨[.sendingError s.peer message], s.enter (.reporting code message fileOpen)⟩

/-- A packet is exchanged under the terms of the session. -/
def exchange (s : Session) (goal : Goal) (packet : Packet) (block : Int) : Session :=
  s.enter (.exchanging goal (.start s.peer packet.toDraft block (.ofSeconds s.terms.timeout)))

/-- The session of a request as it was handed over. Only read requests are served. -/
def start (peer : Address) (request : Draft) : Noted Session :=
  let s (phase : Phase) : Session := { peer, phase }
  match request.opcode with
  | none => .silent (s (.ended (.error (.missingField .opcode))))
  | some opcode =>
    if opcode = Opcode.readRequest.bytes then
      match request.filename with
      | none => .silent (s (.ended (.error (.missingField .filename))))
      | some filename => .silent (s (.opening filename.toText request.options))
    else if opcode = Opcode.writeRequest.bytes then
      let message := Bytes.ofText "not supported"
      ⟨[.writeNotSupported, .sendingError peer message], s (.reporting .undefined message false)⟩
    else
      let fault := Fault.unsupported "illegal operation"
      ⟨[.sendingError peer fault.message], s (.reporting fault.code fault.message false)⟩

/-- The session goes on after a report: it was aborted by an error, unless the report itself could
not be sent. -/
def reported (s : Session) (fileOpen : Bool) (answer : Except Fault Time) : Noted Session :=
  let result := answer.map fun _ => Outcome.abortedByError
  if fileOpen then s.close result else s.finish result

/-- The options of a request are negotiated, and those agreed on are acknowledged. -/
def agree (s : Session) (requested : Options) : Noted Session :=
  let ignored := (passedOver requested).map Notice.ignoredOption
  match h : negotiate requested s.terms with
  | .error f =>
    Noted.andThen ⟨ignored, ()⟩ fun _ =>
      match f with
      | .negotiation reason =>
        Noted.andThen ⟨[.negotiationFailed reason], ()⟩ fun _ => s.report f.code f.message true
      | f => s.close (.error f)
  | .ok agreement =>
    let s : Session := { s with terms := agreement.terms, valid := valid_of_negotiate s.valid h }
    ⟨ignored ++ [.usingTerms s.terms.blockSize s.terms.timeout],
      if agreement.accepted.isEmpty then s.enter (.fetching 1)
      else s.exchange .agreement (.optionAck agreement.accepted) 0⟩

/-- The session goes on after the backend was asked for the file. -/
def opened (s : Session) (filename : String) (options : Option Options) :
    Except Fault Unit → Noted Session
  | .error f =>
    let (kind, reason) := f.rejection
    let fault := Fault.backend kind reason
    let unforeseen := if f.isForeseen then [] else [Notice.backendFailed]
    Noted.andThen ⟨unforeseen ++ [.requestRejected kind reason], ()⟩ fun _ =>
      s.report fault.code fault.message false
  | .ok () =>
    Noted.andThen ⟨[.requestAccepted filename], ()⟩ fun _ =>
      match options with
      | none => s.close (.error (.missingField .options))
      | some [] => .silent (s.enter (.fetching 1))
      | some requested => s.agree requested

/-- The session goes on after a read from the file: what was read is sent as a block. -/
def fetched (s : Session) (number : UInt16) : Except Fault Bytes → Noted Session
  | .error f =>
    Noted.andThen ⟨[.unreadableFile f.text], ()⟩ fun _ => s.report .undefined f.message true
  | .ok payload =>
    .silent (s.exchange (.block number (payload.length < s.terms.blockSize))
      (.data (Bytes.ofWord number) payload) number.toNat)

/-- The session goes on after an exchange without an answer. -/
def unanswered (s : Session) (goal : Goal) (f : Fault) : Noted Session :=
  if f.isTimeout then
    match goal with
    | .agreement => s.close (.ok .abortedByTimeout)
    | .block .. =>
      Noted.andThen ⟨[.transferTimedOut s.peer], ()⟩ fun _ => s.close (.ok .abortedByTimeout)
  else if f.isUnreadable then s.close (.ok .abortedByError)
  else s.close (.error f)

/-- The session goes on after a packet was acknowledged. -/
def acknowledged (s : Session) : Goal → Noted Session
  | .agreement => .silent (s.enter (.fetching 1))
  | .block _ true => s.close (.ok .completed)
  | .block number false => .silent (s.enter (.fetching (number + 1)))

/-- The session goes on with its exchange, or from the end of it. -/
def follow (s : Session) (goal : Goal) : Exchange.Next → Noted Session
  | .going x => .silent (s.enter (.exchanging goal x))
  | .ended (.ok _) => s.acknowledged goal
  | .ended (.error f) => s.unanswered goal f

/-- The session goes on after the file was closed. A fault of the closing replaces the result. -/
def closed (s : Session) (result : Except Fault Outcome) : Except Fault Unit → Noted Session
  | .error f => s.finish (.error f)
  | .ok () => s.finish result

/-- What a session asks for next. -/
def call (s : Session) : Call :=
  match s.phase with
  | .opening filename options => .openFile filename (s.opened filename options)
  | .exchanging goal x =>
    match x.call with
    | .send packet resume => .send packet fun a => (resume a).andThen (s.follow goal)
    | .receive wait resume => .receive wait fun r => (resume r).andThen (s.follow goal)
  | .fetching number => .readFile s.terms.blockSize (s.fetched number)
  | .reporting code message fileOpen =>
    .send (Packet.report code message).toDraft (s.reported fileOpen)
  | .closing result => .closeFile (s.closed result)
  | .ended result => .finished result

end Session

end Tftp
