import Tftp.Transfer

/-!
# A transfer in time

A transfer and a clock, with all that can happen to them: datagrams from anywhere, the passing of
time, the end of the connection or of its transport, writes that fail or work again, and the file
from the backend. What a transfer is next depends on nothing else.

* `Transfer.Live.step` — what comes of one input;
* `Transfer.Live.log` and `Transfer.Live.last` — a run over some inputs, and where it leads;
* `Transfer.reads` — the reads that are settled at once while a transfer runs.

A connection belongs to the same client all the time (`Transfer.Live.client_step`).
-/

namespace Tftp

namespace Transfer

/-! ## Reads

A transfer that runs may settle several reads at once, each of which finds a packet in the queue.
They are not part of what a transfer does, and so they are computed here along the run. -/

/-- The read that the next step settles, if it settles one. -/
def read? (t : Transfer) (now : Time) : Option (Nat × Except Fault Packet) :=
  match t.session.call with
  | .receive wait _ => (t.connection.read now wait).settled
  | _ => none

/-- The reads that are settled while a transfer runs, with their results. -/
def reads (t : Transfer) (now : Time) : List (Nat × Except Fault Packet) :=
  match _h : t.step now with
  | none => []
  | some (_, u) => (t.read? now).toList ++ u.reads now
termination_by t.progress
decreasing_by exact step_lt _h

/-- The reads that are settled when something happens to the connection: first the pending one, and
then those of the run that follows. -/
def absorbReads (t : Transfer) (now : Time) (e : Connection.Effect) :
    List (Nat × Except Fault Packet) :=
  match e.settled with
  | none => []
  | some (number, outcome) =>
    (number, outcome) ::
      match t.session.call with
      | .receive _ resume =>
        ({ t with connection := e.connection }.next
          (resume ⟨outcome.map Packet.toDraft, now⟩)).2.reads now
      | _ => []

/-- The reads that are settled when a transfer gets its file, or the fault of opening it. -/
def supplyReads (t : Transfer) (now : Time) (answer : Except Fault File) :
    List (Nat × Except Fault Packet) :=
  match t.session.call with
  | .openFile _ resume =>
    match answer with
    | .ok file => ({ t with file }.next (resume (.ok ()))).2.reads now
    | .error f => (t.next (resume (.error f))).2.reads now
  | _ => []

/-! ## Inputs

What may happen to a transfer is what its dispatcher may do with it. One at a time, and each of them
runs the transfer until it rests. -/

/-- What happens to a transfer. -/
inductive Input where
  /-- a datagram at its socket -/
  | receive (bytes : Bytes) (sender : Address)
  /-- time passes -/
  | advance (span : Time)
  /-- its connection is closed -/
  | close
  /-- its transport stops -/
  | stop
  /-- its writes fail from now on, or work again -/
  | fail (failure : Option String)
  /-- the backend gives the file, or the fault of opening it -/
  | supply (answer : Except Fault File)

/-- A transfer and a clock. -/
structure Live where
  transfer : Transfer
  clock : Time := 0

namespace Live

/-- What comes of an input. -/
structure Change where
  activity : Activity
  /-- the reads that were settled, with their results -/
  reads : List (Nat × Except Fault Packet)
  after : Live

/-- Something happens to the connection. -/
def absorb (l : Live) (e : Connection.Effect) : Change where
  activity := (l.transfer.absorb l.clock e).1
  reads := l.transfer.absorbReads l.clock e
  after := ⟨(l.transfer.absorb l.clock e).2, l.clock⟩

/-- The backend answers. -/
def supply (l : Live) (answer : Except Fault File) : Change where
  activity := (l.transfer.supply l.clock answer).1
  reads := l.transfer.supplyReads l.clock answer
  after := ⟨(l.transfer.supply l.clock answer).2, l.clock⟩

/-- What comes of something that happens. -/
def step (l : Live) : Input → Change
  | .receive bytes sender => l.absorb (l.transfer.connection.receive bytes sender)
  | .advance span =>
    absorb { l with clock := l.clock + span } (l.transfer.connection.expire (l.clock + span))
  | .close => l.absorb l.transfer.connection.close
  | .stop => l.absorb l.transfer.connection.stop
  | .fail failure => l.absorb { connection := l.transfer.connection.setFailure failure }
  | .supply answer => l.supply answer

/-! ## Runs

A run over some inputs is told by its turns, each of which has what was there before it. -/

/-- Something happens to a transfer as it is. -/
structure Turn where
  before : Live
  input : Input

/-- What comes of a turn. -/
def Turn.change (x : Turn) : Change :=
  x.before.step x.input

/-- When a turn is taken. -/
def Turn.time (x : Turn) : Time :=
  x.change.after.clock

/-- The turns that are taken over some inputs. -/
def log (l : Live) : List Input → List Turn
  | [] => []
  | input :: inputs => ⟨l, input⟩ :: (l.step input).after.log inputs

/-- The transfer and the clock after some inputs. -/
def last (l : Live) : List Input → Live
  | [] => l
  | input :: inputs => (l.step input).after.last inputs

/-- The client of the transfer. -/
def client (l : Live) : Address :=
  l.transfer.connection.peer

end Live

end Transfer

/-! ## The client stays the same

A connection belongs to one client from the beginning to the end. Everything that is sent is sent to
that one, apart from the answers to strangers. -/

namespace Connection

/-- A read leaves the client as it is. -/
@[simp] theorem peer_read (c : Connection) (now wait : Time) :
    (c.read now wait).connection.peer = c.peer := by
  rw [read]
  split
  · rfl
  · split
    · rfl
    · split <;> rfl

@[simp] theorem peer_deliver (c : Connection) (arrival : Arrival) :
    (c.deliver arrival).connection.peer = c.peer := by
  rw [deliver]
  split <;> rfl

@[simp] theorem peer_receive (c : Connection) (bytes : Bytes) (sender : Address) :
    (c.receive bytes sender).connection.peer = c.peer := by
  rw [receive]
  split
  · rfl
  · split
    · rw [connection_refuseSender]
    · split
      · exact peer_deliver c _
      · exact peer_deliver c _

@[simp] theorem peer_expire (c : Connection) (now : Time) :
    (c.expire now).connection.peer = c.peer := by
  rw [expire]
  split <;> rfl

@[simp] theorem peer_close (c : Connection) : c.close.connection.peer = c.peer := by
  rw [close]
  split <;> rfl

end Connection

namespace Transfer

variable {t : Transfer} {now : Time}

/-- No step of a run changes the client. There is one case for each call of the session, and a
connection keeps its client in all of them. -/
theorem peer_step {a : Activity} {u : Transfer} (h : t.step now = some (a, u)) :
    u.connection.peer = t.connection.peer := by
  rw [step] at h
  split at h
  · cases h
  · cases h
    rfl
  · cases h
    rfl
  · next packet resume hcall =>
    rw [send] at h
    split at h <;> cases h <;> rfl
  · next wait resume hcall =>
    split at h
    · cases h
    · rw [receive] at h
      split at h <;> cases h <;> exact Connection.peer_read _ _ _
  · split at h
    · cases h
    · cases h
      exact Connection.peer_close _

/-- A run keeps the client. The induction is on the steps of the run. -/
@[simp] theorem peer_run (t : Transfer) (now : Time) :
    (t.run now).2.connection.peer = t.connection.peer := by
  fun_induction run t now with
  | case1 => rfl
  | case2 t a u hs b r hrun ih =>
    rw [hrun] at ih
    exact ih.trans (peer_step hs)

@[simp] theorem peer_runAfter (now : Time) (r : Activity × Transfer) :
    (runAfter now r).2.connection.peer = r.2.connection.peer :=
  peer_run r.2 now

theorem peer_resume (t : Transfer) (now : Time) (outcome : Except Fault Packet) :
    (t.resume now outcome).2.connection.peer = t.connection.peer := by
  rw [resume]
  split
  · exact peer_runAfter _ _
  · rfl

/-- What happens to a connection keeps the client of the transfer, if it keeps that of the
connection. -/
theorem peer_absorb {e : Connection.Effect} (h : e.connection.peer = t.connection.peer) :
    (t.absorb now e).2.connection.peer = t.connection.peer := by
  rw [absorb]
  split
  · exact (peer_resume _ _ _).trans h
  · exact h

/-- The answer of the backend keeps the client, whether it is a file or a fault. -/
theorem peer_supply (t : Transfer) (now : Time) (answer : Except Fault File) :
    (t.supply now answer).2.connection.peer = t.connection.peer := by
  rw [supply]
  split
  · split
    · exact peer_runAfter _ _
    · exact peer_runAfter _ _
  · rfl

/-- **A transfer has the same client all the time.** -/
theorem Live.client_step (l : Live) (input : Input) : (l.step input).after.client = l.client := by
  cases input with
  | receive bytes sender => exact peer_absorb (Connection.peer_receive _ _ _)
  | advance span => exact peer_absorb (Connection.peer_expire _ _)
  | close => exact peer_absorb (Connection.peer_close _)
  | stop => exact peer_absorb rfl
  | fail failure => exact peer_absorb rfl
  | supply answer => exact peer_supply _ _ _

end Transfer

end Tftp
