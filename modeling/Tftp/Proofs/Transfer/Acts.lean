import Tftp.Proofs.Session.Acts
import Tftp.Proofs.Transfer.Live
import Tftp.Proofs.Transfer.Run

/-!
# The acts of a transfer

What the session of a transfer does while the transfer runs, and when something happens to it.

* `Transfer.acts` — what the session does while the transfer runs;
* `Transfer.absorbActs` and `Transfer.supplyActs` — what it does when something happens to the
  connection, and when the backend has answered;
* `Transfer.Stepped` — what a step does, with the deed of the session;
* `Log.sendings` — what the deeds of a log send, and when.

The acts lead from the session before to the session after (`course_acts`, `course_absorbActs`,
`course_supplyActs`), and what they send is what the transfer sends (`sendings_acts` and its
companions). A run from an empty queue reads no packet and leaves the queue empty, so that a packet
is read in the first act after something happened or not at all (`absorbActs_of_queue`).

A transfer is a session together with a connection, and what was proved of sessions is about runs
with logs. The acts are the way from the one to the other: the deeds of the acts are such a log, and
with the sessions beside them it can be said at which deed something was the case.
-/

namespace Tftp

/-! ## Connections

Two things about a connection are used below: that a read takes packets from the queue only, and
that what is sent is the packet, encoded. -/

/-- From an empty queue a read gives no packet, and the queue stays empty. -/
theorem Connection.read_of_queue {c : Connection} (hq : c.queue = []) (now wait : Time) :
    (c.read now wait).connection.queue = [] ∧
      ∀ number p, (c.read now wait).settled ≠ some (number, .ok p) := by
  rw [read]
  split
  · refine ⟨hq, fun number p h => ?_⟩
    cases h
  · split
    · refine ⟨hq, fun number p h => ?_⟩
      cases h
    · simp only [hq]
      refine ⟨trivial, fun number p h => ?_⟩
      cases h

theorem Connection.queue_close (c : Connection) : c.close.connection.queue = c.queue := by
  rw [close]
  split <;> rfl

/-- What can be sent is the packet, and goes to the client. -/
theorem Connection.exists_of_datagram {c : Connection} {packet : Draft} {d : Datagram}
    (h : c.datagram packet = .ok d) : ∃ bytes, packet.encode = .ok bytes ∧ d = ⟨bytes, c.peer⟩ := by
  refine ⟨d.bytes, encode_of_datagram h, ?_⟩
  rw [datagram] at h
  split at h
  · cases h
  · split at h
    · cases h
    · split at h
      · cases h
      · split at h
        · cases h
        · cases h
          rfl

/-! ## Sendings

A deed does not say to whom a packet goes. It goes to the client of the connection, and never to
anyone else. -/

/-- What a deed sends to a client, and when. -/
def Deed.sending? (client : Address) : Deed → Option (Time × Datagram)
  | .sent packet (.ok now) =>
    match packet.encode with
    | .ok bytes => some (now, ⟨bytes, client⟩)
    | .error _ => none
  | _ => none

/-- What the deeds of a log send to a client. -/
def Log.sendings (client : Address) (log : Log) : List (Time × Datagram) :=
  log.filterMap (Deed.sending? client)

theorem Log.sendings_append (client : Address) (l m : Log) :
    Log.sendings client (l ++ m) = Log.sendings client l ++ Log.sendings client m :=
  List.filterMap_append

namespace Transfer

/-! ## Acts

A run of a transfer is some activity and a transfer, and does not tell what the session did
meanwhile. That is computed here next to it, by the same recursion. -/

/-- The deed of the next step, if the session goes on with one. -/
def deed? (t : Transfer) (now : Time) : Option Deed :=
  match t.session.call with
  | .openFile .. => none
  | .readFile size _ => some (.fetched size (t.file.read size).1)
  | .closeFile _ => some (.closed t.file.close)
  | .send packet _ => some (.sent packet ((t.connection.datagram packet).map fun _ => now))
  | .receive wait _ => (t.connection.read now wait).settled.map fun x =>
      .received wait ⟨x.2.map Packet.toDraft, now⟩
  | .finished _ => none

/-- What the session of a transfer does while the transfer runs. -/
def acts (t : Transfer) (now : Time) : List Session.Act :=
  match _h : t.step now with
  | none => []
  | some (_, u) =>
    ((t.deed? now).map fun d => ⟨t.session, d, u.session⟩).toList ++ u.acts now
termination_by t.progress
decreasing_by exact step_lt _h

/-- What it does when something happens to the connection: it goes on with the read that is
settled. -/
def absorbActs (t : Transfer) (now : Time) (e : Connection.Effect) : List Session.Act :=
  match e.settled, t.session.call with
  | some (_, outcome), .receive wait resume =>
    let r : Reception := ⟨outcome.map Packet.toDraft, now⟩
    let u := ({ t with connection := e.connection }.next (resume r)).2
    ⟨t.session, .received wait r, u.session⟩ :: u.acts now
  | _, _ => []

/-- What it does when the backend has answered. -/
def supplyActs (t : Transfer) (now : Time) (answer : Except Fault File) : List Session.Act :=
  match t.session.call with
  | .openFile filename resume =>
    let u := match answer with
      | .ok file => ({ t with file }.next (resume (.ok ()))).2
      | .error f => (t.next (resume (.error f))).2
    ⟨t.session, .opened filename (answer.map fun _ => ()), u.session⟩ :: u.acts now
  | _ => []

variable {t u : Transfer} {now : Time} {a : Activity}

/-- What a step does: its deed, what is sent with it, and where it leads. -/
inductive Stepped (t : Transfer) (now : Time) : Option Deed → List Datagram → Transfer → Prop
  /-- the file is read from -/
  | fetched {size : Int} {resume : Except Fault Bytes → Noted Session}
      (hc : t.session.call = .readFile size resume) :
      Stepped t now (some (.fetched size (t.file.read size).1)) []
        { t with session := (resume (t.file.read size).1).value, file := (t.file.read size).2 }
  /-- the file is closed -/
  | closed {resume : Except Fault Unit → Noted Session} (hc : t.session.call = .closeFile resume) :
      Stepped t now (some (.closed t.file.close)) []
        { t with session := (resume t.file.close).value }
  /-- a packet is sent -/
  | sent {packet : Draft} {resume : Except Fault Time → Noted Session} {d : Datagram}
      (hc : t.session.call = .send packet resume) (hd : t.connection.datagram packet = .ok d) :
      Stepped t now (some (.sent packet (.ok now))) [d]
        { t with session := (resume (.ok now)).value }
  /-- a packet cannot be sent -/
  | failed {packet : Draft} {resume : Except Fault Time → Noted Session} {f : Fault}
      (hc : t.session.call = .send packet resume) :
      Stepped t now (some (.sent packet (.error f))) []
        { t with session := (resume (.error f)).value }
  /-- a read is settled at once -/
  | received {wait : Time} {resume : Reception → Noted Session} {number : Nat}
      {outcome : Except Fault Packet} (hc : t.session.call = .receive wait resume)
      (hsettled : (t.connection.read now wait).settled = some (number, outcome)) :
      Stepped t now (some (.received wait ⟨outcome.map Packet.toDraft, now⟩)) []
        { t with
          session := (resume ⟨outcome.map Packet.toDraft, now⟩).value
          connection := (t.connection.read now wait).connection }
  /-- a read is left pending -/
  | asked (wait : Time) :
      Stepped t now none [] { t with connection := (t.connection.read now wait).connection }
  /-- the session is over, and the connection is closed -/
  | finished :
      Stepped t now none [] { t with connection := t.connection.close.connection, ended := true }

/-- Every step is one of these. The deed and the activity of a step are computed apart from each
other, and this says that they fit. -/
theorem stepped (h : t.step now = some (a, u)) : t.Stepped now (t.deed? now) a.sent u := by
  cases hc : t.session.call with
  | openFile filename resume =>
    simp only [step, hc] at h
    cases h
  | readFile size resume =>
    simp only [step, hc] at h
    cases h
    simp only [deed?, hc]
    exact .fetched hc
  | closeFile resume =>
    simp only [step, hc] at h
    cases h
    simp only [deed?, hc]
    exact .closed hc
  | send packet resume =>
    simp only [step, hc, send] at h
    simp only [deed?, hc]
    split at h
    · next d hd =>
      cases h
      rw [hd]
      exact .sent hc hd
    · next f hd =>
      cases h
      rw [hd]
      exact .failed hc
  | receive wait resume =>
    simp only [step, hc, receive] at h
    simp only [deed?, hc]
    split at h
    · cases h
    · split at h
      · next number outcome hsettled =>
        cases h
        rw [hsettled]
        exact .received hc hsettled
      · next hsettled =>
        cases h
        rw [hsettled]
        exact .asked wait
  | finished result =>
    simp only [step, hc] at h
    simp only [deed?, hc]
    split at h
    · cases h
    · cases h
      exact .finished

/-- A run goes on from each step. -/
theorem run_of_step (h : t.step now = some (a, u)) :
    t.run now = (a ++ (u.run now).1, (u.run now).2) := by
  rw [run]
  split
  · next hs =>
    rw [h] at hs
    cases hs
  · next hs =>
    rw [h] at hs
    cases hs
    rfl

/-! ## Where the acts lead

The acts are a course of the session, so that whatever holds of all runs of a session holds of what
it does in a transfer. -/

/-- The session of a step does its deed, or nothing. -/
theorem course_step (h : t.step now = some (a, u)) :
    Session.Course t.session
      ((t.deed? now).map fun d => (⟨t.session, d, u.session⟩ : Session.Act)).toList u.session := by
  have one {d : Deed} (hs : t.session.Step d u.session) :
      Session.Course t.session [⟨t.session, d, u.session⟩] u.session :=
    .cons hs (.nil _)
  have hstepped := stepped h
  generalize t.deed? now = deed, a.sent = sent at hstepped
  cases hstepped with
  | fetched hc => exact one (.fetched hc _)
  | closed hc => exact one (.closed hc _)
  | sent hc => exact one (.sent hc _)
  | failed hc => exact one (.sent hc _)
  | received hc => exact one (.received hc _)
  | asked => exact .nil _
  | finished => exact .nil _

/-- **The acts of a run lead to the session after it.** -/
theorem course_acts (t : Transfer) (now : Time) :
    Session.Course t.session (t.acts now) (t.run now).2.session := by
  fun_induction acts t now with
  | case1 t hs =>
    rw [run_of_step_eq_none hs]
    exact .nil _
  | case2 t a u hs ih =>
    rw [run_of_step hs]
    exact (course_step hs).append ih

/-- So do the acts when something happens to the connection. -/
theorem course_absorbActs (t : Transfer) (now : Time) (e : Connection.Effect) :
    Session.Course t.session (t.absorbActs now e) (t.absorb now e).2.session := by
  rw [absorb]
  cases hsettled : e.settled with
  | none =>
    simp only [absorbActs, hsettled]
    exact .nil _
  | some settled =>
    cases hc : t.session.call with
    | receive wait resume =>
      simp only [absorbActs, hsettled, hc, Transfer.resume]
      exact .cons (.received hc _) (course_acts _ now)
    | _ =>
      simp only [absorbActs, hsettled, hc, Transfer.resume]
      exact .nil _

theorem course_supplyActs (t : Transfer) (now : Time) (answer : Except Fault File) :
    Session.Course t.session (t.supplyActs now answer) (t.supply now answer).2.session := by
  rw [supply, supplyActs]
  cases hc : t.session.call with
  | openFile filename resume =>
    cases answer with
    | ok file => exact .cons (.opened hc (.ok ())) (course_acts _ now)
    | error f => exact .cons (.opened hc (.error f)) (course_acts _ now)
  | _ => exact .nil _

/-! ## What the acts send

What leaves a transfer is what its session writes, except for the answers to strangers, which come
from the connection. -/

/-- A step sends what its deed sends. -/
theorem sendings_step (h : t.step now = some (a, u)) :
    Log.sendings t.connection.peer (t.deed? now).toList = a.sent.map fun d => (now, d) := by
  have hstepped := stepped h
  generalize t.deed? now = deed, a.sent = sent at hstepped
  cases hstepped with
  | @sent packet _ d _ hd =>
    obtain ⟨bytes, hencode, rfl⟩ := Connection.exists_of_datagram hd
    simp only [Option.toList, Log.sendings, List.filterMap, Deed.sending?, hencode, List.map]
  | _ => rfl

/-- **A run sends what its acts send**, at its time and to its client. The client of a connection
does not change in a run, and so each datagram can be compared with the client at the beginning. -/
theorem sendings_acts (t : Transfer) (now : Time) :
    Log.sendings t.connection.peer ((t.acts now).map Session.Act.deed) =
      (t.run now).1.sent.map fun d => (now, d) := by
  fun_induction acts t now with
  | case1 t hs =>
    rw [run_of_step_eq_none hs]
    rfl
  | case2 t a u hs ih =>
    have hdeed : ((t.deed? now).map fun d =>
        (⟨t.session, d, u.session⟩ : Session.Act)).toList.map Session.Act.deed =
          (t.deed? now).toList := by
      cases t.deed? now <;> rfl
    rw [List.map_append, Log.sendings_append, hdeed, sendings_step hs, ← peer_step hs, ih,
      run_of_step hs, sent_append, List.map_append]

/-- What happens to the connection may send something itself, before the session acts. That is the
answer to a stranger, and then no read is settled and the session does nothing. -/
theorem sendings_absorbActs {e : Connection.Effect}
    (hpeer : e.connection.peer = t.connection.peer) (now : Time) :
    ((t.absorb now e).1.sent.map fun d => (now, d)) = (e.sent.map fun d => (now, d)) ++
      Log.sendings t.connection.peer ((t.absorbActs now e).map Session.Act.deed) := by
  rw [absorb]
  cases hsettled : e.settled with
  | none =>
    simp only [absorbActs, hsettled]
    exact (List.append_nil _).symm
  | some settled =>
    cases hc : t.session.call with
    | receive wait resume =>
      simp only [absorbActs, hsettled, hc, Transfer.resume, runAfter, sent_append, List.map_append]
      exact congrArg _ (hpeer ▸ (sendings_acts _ now).symm)
    | _ =>
      simp only [absorbActs, hsettled, hc, Transfer.resume, sent_append, List.map_append]
      rfl

theorem sendings_supplyActs (t : Transfer) (now : Time) (answer : Except Fault File) :
    ((t.supply now answer).1.sent.map fun d => (now, d)) =
      Log.sendings t.connection.peer ((t.supplyActs now answer).map Session.Act.deed) := by
  rw [supply, supplyActs]
  cases hc : t.session.call with
  | openFile filename resume =>
    cases answer with
    | ok file => exact (sendings_acts _ now).symm
    | error f => exact (sendings_acts _ now).symm
  | _ => rfl

/-! ## From an empty queue

While a transfer waits for a packet its queue is empty. Then at most one packet can be read for each
thing that happens, which is the one that has just come. -/

/-- A step from an empty queue reads no packet, and the queue stays empty. A read on a closed
connection is settled at once, but with a fault. -/
theorem step_of_queue (h : t.step now = some (a, u)) (hq : t.connection.queue = []) :
    u.connection.queue = [] ∧ ∀ d, t.deed? now = some d → d.reply? = none := by
  have hstepped := stepped h
  generalize t.deed? now = deed, a.sent = sent at hstepped
  cases hstepped with
  | fetched | closed | sent | failed =>
    refine ⟨hq, fun d hd => ?_⟩
    cases hd
    rfl
  | @received wait _ number outcome _ hsettled =>
    obtain ⟨hread, hnot⟩ := Connection.read_of_queue hq now wait
    refine ⟨hread, fun d hd => ?_⟩
    cases hd
    cases outcome with
    | error f => rfl
    | ok p => exact absurd hsettled (hnot number p)
  | asked wait =>
    refine ⟨(Connection.read_of_queue hq now wait).1, fun d hd => ?_⟩
    cases hd
  | finished =>
    refine ⟨(Connection.queue_close _).trans hq, fun d hd => ?_⟩
    cases hd

/-- **A run from an empty queue reads no packet**, and the queue stays empty. A run takes no time,
and so nothing can arrive while it lasts. -/
theorem acts_of_queue (hq : t.connection.queue = []) (now : Time) :
    (t.run now).2.connection.queue = [] ∧ ∀ act ∈ t.acts now, act.deed.reply? = none := by
  fun_induction acts t now with
  | case1 t hs =>
    rw [run_of_step_eq_none hs]
    exact ⟨hq, List.forall_mem_nil _⟩
  | case2 t a u hs ih =>
    obtain ⟨hqueue, hdeed⟩ := step_of_queue hs hq
    obtain ⟨hrest, hacts⟩ := ih hqueue
    rw [run_of_step hs]
    refine ⟨hrest, fun act hact => ?_⟩
    rcases List.mem_append.mp hact with hact | hact
    · obtain ⟨d, hd, rfl⟩ := Option.map_eq_some_iff.mp (Option.mem_toList.mp hact)
      exact hdeed d hd
    · exact hacts act hact

/-- The session of a transfer whose queue is empty reads what is settled, and no packet after
that. -/
theorem absorbActs_of_queue {e : Connection.Effect} (hq : e.connection.queue = [])
    (t : Transfer) (now : Time) :
    (t.absorb now e).2.connection.queue = [] ∧ (t.absorbActs now e = [] ∨
      ∃ number outcome wait act acts, e.settled = some (number, outcome) ∧
        t.absorbActs now e = act :: acts ∧
        act.deed = .received wait ⟨outcome.map Packet.toDraft, now⟩ ∧
        ∀ act ∈ acts, act.deed.reply? = none) := by
  rw [absorb]
  cases hsettled : e.settled with
  | none =>
    simp only [absorbActs, hsettled]
    exact ⟨hq, .inl trivial⟩
  | some settled =>
    cases hc : t.session.call with
    | receive wait resume =>
      simp only [absorbActs, hsettled, hc, Transfer.resume]
      have hrun := acts_of_queue (t := ({ t with connection := e.connection }.next
        (resume ⟨settled.2.map Packet.toDraft, now⟩)).2) hq now
      exact ⟨hrun.1, .inr ⟨_, _, _, _, _, rfl, rfl, rfl, hrun.2⟩⟩
    | _ =>
      simp only [absorbActs, hsettled, hc, Transfer.resume]
      exact ⟨hq, .inl trivial⟩

/-- With its file, or with the fault of opening it, it reads no packet. -/
theorem supplyActs_of_queue (hq : t.connection.queue = []) (now : Time)
    (answer : Except Fault File) : (t.supply now answer).2.connection.queue = [] ∧
      ∀ act ∈ t.supplyActs now answer, act.deed.reply? = none := by
  cases hc : t.session.call with
  | openFile filename resume =>
    cases answer with
    | ok file =>
      simp only [supply, supplyActs, hc]
      have hrun := acts_of_queue (t := ({ t with file }.next (resume (.ok ()))).2) hq now
      exact ⟨hrun.1, List.forall_mem_cons.mpr ⟨rfl, hrun.2⟩⟩
    | error f =>
      simp only [supply, supplyActs, hc]
      have hrun := acts_of_queue (t := (t.next (resume (.error f))).2) hq now
      exact ⟨hrun.1, List.forall_mem_cons.mpr ⟨rfl, hrun.2⟩⟩
  | _ =>
    simp only [supply, supplyActs, hc]
    exact ⟨hq, List.forall_mem_nil _⟩

end Transfer

end Tftp
