import Tftp.Rehearsal
import Tftp.Proofs.Session.Run

/-!
# The course of a rehearsal

A rehearsal is run by recursion on what is left of it, and a proof about a run goes the other way,
from one scene to the next. A scene is what matters of a rehearsal for the scenes after it, and the
packets that were sent up to it:

* `Transcript.sent` — the packets that were sent, the earliest first;
* `Rehearsal.Scene` and `Rehearsal.scene` — the session, the channel, the open file and the packets;
* `Scene.Leads` — from a rehearsal with the first scene one comes to another with the second, and
  they run to the same end.

`Scene.leads_read` and its companions are the steps. A course is put together from them with
`Scene.Leads.trans`. The other way round, `stepped` says what a step is.
-/

namespace Tftp

/-- The packet that is seen in an event. -/
def Event.sent? : Event → Option Draft
  | sent packet _ => some packet
  | _ => none

/-- An event is a read from the file. -/
def Event.isRead : Event → Bool
  | fileRead .. => true
  | _ => false

/-- The packets that were sent, the earliest first. -/
def Transcript.sent (t : Transcript) : List Draft :=
  t.events.reverse.filterMap Event.sent?

@[simp] theorem Transcript.sent_empty : Transcript.sent {} = [] := rfl

/-- A transcript is written backwards, and read forwards. -/
@[simp] theorem Transcript.sent_add (t : Transcript) (events : List Event) (notices : List Notice) :
    (t.add events notices).sent = t.sent ++ events.filterMap Event.sent? := by
  simp [Transcript.sent, Transcript.add]

/-- A channel shows a packet as sent exactly when its writing succeeds. -/
theorem Channel.sent?_send (c : Channel) (packet : Draft) :
    [(c.send packet).2.1].filterMap Event.sent? =
      Log.packets [.sent packet (c.send packet).1] := by
  rw [send]
  split <;> rfl

theorem Channel.sent?_receive (c : Channel) (wait : Time) :
    [(c.receive wait).2.1].filterMap Event.sent? = [] := by
  rw [receive]
  split <;> rfl

namespace Rehearsal

/-- A step does not change what a rehearsal runs to. -/
theorem run_of_step {r t : Rehearsal} (h : r.step = some t) : r.run = t.run := by
  rw [run]
  split
  · next hn => rw [h] at hn; cases hn
  · next u hu =>
    rw [h, Option.some.injEq] at hu
    rw [hu]

/-- Without a step a rehearsal is over. -/
theorem run_of_step_eq_none {r : Rehearsal} (h : r.step = none) : r.run = r := by
  rw [run]
  split
  · rfl
  · next u hu => rw [h] at hu; cases hu

/-- What matters of a rehearsal: its session, its channel and its open file, and the packets that
were sent. -/
structure Scene where
  /-- where the session stands -/
  session : Session
  /-- what is under way, and the time -/
  channel : Channel
  /-- what is left to be read -/
  file : File
  /-- the packets so far -/
  sent : List Draft

/-- The scene of a rehearsal. -/
def scene (r : Rehearsal) : Scene :=
  ⟨r.session, r.channel, r.file, r.transcript.sent⟩

namespace Scene

/-- A rehearsal of one scene comes to one of the other on its way to the end. -/
def Leads (a b : Scene) : Prop :=
  ∀ r : Rehearsal, r.scene = a → ∃ t : Rehearsal, t.scene = b ∧ r.run = t.run

theorem Leads.refl (a : Scene) : Leads a a :=
  fun r h => ⟨r, h, rfl⟩

theorem Leads.trans {a b c : Scene} (h : Leads a b) (h' : Leads b c) : Leads a c := by
  intro r hr
  obtain ⟨t, ht, hrun⟩ := h r hr
  obtain ⟨u, hu, hrun'⟩ := h' t ht
  exact ⟨u, hu, hrun.trans hrun'⟩

/-- One step of every rehearsal of a scene. -/
theorem leads_of_step {a b : Scene}
    (h : ∀ r : Rehearsal, r.scene = a → ∃ t : Rehearsal, r.step = some t ∧ t.scene = b) :
    Leads a b := by
  intro r hr
  obtain ⟨t, hstep, ht⟩ := h r hr
  exact ⟨t, ht, run_of_step hstep⟩

variable {s : Session} (c : Channel) (file : File) (sent : List Draft)

/-- The payload of a block is read. -/
theorem leads_read {number : UInt16} (hp : s.phase = .fetching number) :
    Leads ⟨s, c, file, sent⟩
      ⟨(s.fetched number (file.read s.terms.blockSize).1).value, c,
        (file.read s.terms.blockSize).2, sent⟩ := by
  refine leads_of_step fun r hr => ?_
  cases hr
  refine ⟨_, by simp only [step, Session.call, hp]; rfl, ?_⟩
  simp [scene, next, Event.sent?]

/-- The file is closed. -/
theorem leads_close {result : Except Fault Outcome} (hp : s.phase = .closing result) :
    Leads ⟨s, c, file, sent⟩ ⟨(s.closed result file.close).value, c, file, sent⟩ := by
  refine leads_of_step fun r hr => ?_
  cases hr
  refine ⟨_, by simp only [step, Session.call, hp]; rfl, ?_⟩
  simp [scene, next, Event.sent?]

/-- A copy of a packet is written. -/
theorem leads_send {goal : Session.Goal} {x : Exchange} (hp : s.phase = .exchanging goal x)
    (hx : x.phase = .sending) (hc : c.refuse c.writes = none) :
    Leads ⟨s, c, file, sent⟩
      ⟨(s.follow goal (x.await c.clock (c.clock + x.timeout)).value).value,
        { c with queue := c.queue ++ c.respond c.writes x.packet, writes := c.writes + 1 }, file,
        sent ++ [x.packet]⟩ := by
  refine leads_of_step fun r hr => ?_
  cases hr
  refine ⟨_, by simp only [step, Session.call, hp, Exchange.call, hx]; rfl, ?_⟩
  simp [scene, next, Channel.send, hc, Event.sent?, Exchange.sent]

/-- A packet is waited for. -/
theorem leads_receive {goal : Session.Goal} {x : Exchange} {now deadline : Time}
    (hp : s.phase = .exchanging goal x) (hx : x.phase = .waiting now deadline) :
    Leads ⟨s, c, file, sent⟩
      ⟨(s.follow goal (x.received deadline (c.receive (deadline - now)).1).value).value,
        (c.receive (deadline - now)).2.2, file, sent⟩ := by
  refine leads_of_step fun r hr => ?_
  cases hr
  refine ⟨_, by simp only [step, Session.call, hp, Exchange.call, hx]; rfl, ?_⟩
  cases hq : r.channel.queue <;>
    simp [scene, next, Channel.receive, hq, Event.sent?]

end Scene

/-- What a backend does is no sending of a packet, and no read from the file. -/
theorem quiet_openFile (files : FileSystem) (peer : Address) (filename : String) (b : Backend) :
    ∀ e ∈ (b.openFile files peer filename).events, e.sent? = none ∧ e.isRead = false := by
  -- a backend around another adds at most a note of what it was asked for
  induction b with
  | hook inner ih => exact ih
  | logged log inner ih =>
    cases log with
    | observer => exact List.forall_mem_cons.mpr ⟨⟨rfl, rfl⟩, ih⟩
    | server => exact ih
  | directory path =>
    simp only [Backend.openFile, Backend.openUnder]
    split
    · exact List.forall_mem_nil _
    · exact List.forall_mem_singleton.mpr ⟨rfl, rfl⟩
  | scripted answer => exact List.forall_mem_singleton.mpr ⟨rfl, rfl⟩
  | _ => exact List.forall_mem_nil _

theorem quiet_openFile? (files : FileSystem) (peer : Address) (filename : String)
    (b : Option Backend) : ∀ e ∈ (Backend.openFile? files peer filename b).events,
      e.sent? = none ∧ e.isRead = false := by
  cases b with
  | none => exact List.forall_mem_nil _
  | some b => exact quiet_openFile files peer filename b

theorem sent?_openFile? (files : FileSystem) (peer : Address) (filename : String)
    (b : Option Backend) :
    (Backend.openFile? files peer filename b).events.filterMap Event.sent? = [] :=
  List.filterMap_eq_nil_iff.mpr fun e he => (quiet_openFile? files peer filename b e he).1

/-- What a step of a rehearsal is, one case for each call of its session: a deed, what becomes of
the channel, and what is sent. -/
inductive Stepped (r t : Rehearsal) : Prop
  /-- the backend will answer later -/
  | promised {filename : String} {resume : Except Fault Unit → Noted Session}
      (hc : r.session.call = .openFile filename resume) (hsession : t.session = r.session)
      (hchannel : t.channel = r.channel) (hsent : t.transcript.sent = r.transcript.sent)
  /-- the backend has answered -/
  | opened {filename : String} {resume : Except Fault Unit → Noted Session}
      {answer : Except Fault Unit} (hc : r.session.call = .openFile filename resume)
      (hstep : r.session.Step (.opened filename answer) t.session)
      (hchannel : t.channel = r.channel) (hsent : t.transcript.sent = r.transcript.sent)
  /-- the file was read from -/
  | fetched {size : Int} {resume : Except Fault Bytes → Noted Session}
      {answer : Except Fault Bytes} (hc : r.session.call = .readFile size resume)
      (hstep : r.session.Step (.fetched size answer) t.session)
      (hchannel : t.channel = r.channel) (hsent : t.transcript.sent = r.transcript.sent)
  /-- the file was closed -/
  | closed {resume : Except Fault Unit → Noted Session} {answer : Except Fault Unit}
      (hc : r.session.call = .closeFile resume) (hstep : r.session.Step (.closed answer) t.session)
      (hchannel : t.channel = r.channel) (hsent : t.transcript.sent = r.transcript.sent)
  /-- a packet was written, or the channel refused it -/
  | sent {packet : Draft} {resume : Except Fault Time → Noted Session}
      (hc : r.session.call = .send packet resume)
      (hstep : r.session.Step (.sent packet (r.channel.send packet).1) t.session)
      (hchannel : t.channel = (r.channel.send packet).2.2)
      (hsent : t.transcript.sent =
        r.transcript.sent ++ Log.packets [.sent packet (r.channel.send packet).1])
  /-- a packet was waited for -/
  | received {wait : Time} {resume : Reception → Noted Session}
      (hc : r.session.call = .receive wait resume)
      (hstep : r.session.Step (.received wait (r.channel.receive wait).1) t.session)
      (hchannel : t.channel = (r.channel.receive wait).2.2)
      (hsent : t.transcript.sent = r.transcript.sent)

/-- The backend gives a file or a fault, or it will answer later. -/
theorem stepped_openFile (r : Rehearsal) {filename : String}
    {resume : Except Fault Unit → Noted Session} (hc : r.session.call = .openFile filename resume) :
    Stepped r (r.openFile filename resume) := by
  rw [openFile]
  dsimp only
  split
  · next f _ =>
    exact .opened hc (.opened hc (.error f)) rfl (by simp [next, sent?_openFile?])
  · exact .opened hc (.opened hc (.ok ())) rfl (by simp [next, sent?_openFile?])
  · exact .promised hc rfl rfl (by simp [sent?_openFile?])

/-- Every step is one of these. What it does to the channel and what is sent in it can be read off
the case, and no later proof has to open the step itself. -/
theorem stepped {r t : Rehearsal} (h : r.step = some t) : Stepped r t := by
  rw [step] at h
  split at h
  · next hc =>
    split at h
    · cases h
    · obtain rfl := Option.some.inj h
      exact r.stepped_openFile hc
  · next size resume hc =>
    obtain rfl := Option.some.inj h
    exact .fetched hc (.fetched hc (r.file.read size).1) rfl (by simp [next, Event.sent?])
  · next resume hc =>
    obtain rfl := Option.some.inj h
    exact .closed hc (.closed hc r.file.close) rfl (by simp [next, Event.sent?])
  · next packet resume hc =>
    simp only [Option.some.injEq] at h
    subst h
    refine .sent hc (.sent hc (r.channel.send packet).1) rfl ?_
    simp only [next, Transcript.sent_add, Channel.sent?_send]
  · next wait resume hc =>
    simp only [Option.some.injEq] at h
    subst h
    refine .received hc (.received hc (r.channel.receive wait).1) rfl ?_
    simp only [next, Transcript.sent_add, Channel.sent?_receive, List.append_nil]
  · cases h

/-- A read request for a file that is there at once: the first step. Nothing is sent in it, and the
session goes on from the answer of its backend. -/
theorem exists_step_start {peer : Address} {q : Request} {backend : Option Backend}
    {files : FileSystem} {file : File} (channel : Channel)
    (hfile : (Backend.openFile? files peer q.filename.toText backend).answer = .file file) :
    ∃ t : Rehearsal,
      (start peer (Packet.readRequest q).toDraft backend files channel).step = some t ∧
      t.scene = ⟨((Session.start peer (Packet.readRequest q).toDraft).value.opened q.filename.toText
        (some q.options) (.ok ())).value, channel, file, []⟩ := by
  have hstep : (start peer (Packet.readRequest q).toDraft backend files channel).step =
      some ((start peer (Packet.readRequest q).toDraft backend files channel).openFile
        q.filename.toText ((Session.start peer (Packet.readRequest q).toDraft).value.opened
          q.filename.toText (some q.options))) := rfl
  refine ⟨_, hstep, ?_⟩
  have hanswer : (Backend.openFile? (start peer (Packet.readRequest q).toDraft backend files
      channel).files (start peer (Packet.readRequest q).toDraft backend files channel).session.peer
        q.filename.toText (start peer (Packet.readRequest q).toDraft backend files
          channel).backend).answer = .file file := hfile
  simp only [openFile, hanswer]
  simp [scene, next, start, sent?_openFile?]

end Rehearsal

end Tftp
