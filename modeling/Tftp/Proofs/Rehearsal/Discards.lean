import Mathlib.Data.List.Nodup
import Tftp.Proofs.Rehearsal.Clock

/-!
# Discarded replies leave no trace

A reply that is no acknowledgement of what was sent is discarded, and as long as no time has passed
with it, nothing but the waiting for it tells that it was there. So take any of the replies that
were read and discarded in a rehearsal out of its channel: what is rehearsed without them is the
same.

* `Place` — which reply is meant: the write that triggered it, and which of the replies to that;
* `Channel.without` — a channel that some replies are taken out of;
* `Rehearsal.Discards` — a rehearsal reads the reply of a place, and discards it;
* `Rehearsal.ignores_discarded` — the main theorem.

The two rehearsals are related by `Rehearsal.thin`, step by step: where the one reads a reply that
the other does not have, the other stays as it is.
-/

namespace Tftp

/-! ## What is seen

How often a session waits depends on what it discards. That is seen by nobody but the session
itself. -/

/-- All but the waiting for a packet is seen by others. -/
def Event.isVisible : Event → Bool
  | awaited .. => false
  | _ => true

/-- What was seen by others, the earliest first. -/
def Transcript.visible (t : Transcript) : List Event :=
  t.events.reverse.filter Event.isVisible

@[simp] theorem Transcript.visible_add (t : Transcript) (events : List Event)
    (notices : List Notice) :
    (t.add events notices).visible = t.visible ++ events.filter Event.isVisible := by
  simp [visible, add]

/-! ## Places

A reply is told from others by its place and not by what it says, since a client may repeat itself.
Replies have places of their own: two have the same only if they are the same one. -/

/-- The place of a reply: the write that triggered it, or none if it was there from the beginning,
and its index among the replies to that. -/
structure Place where
  /-- the index of the write -/
  write : Option Nat
  /-- the index among the replies to it -/
  index : Nat
  deriving DecidableEq

namespace Place

/-- The places of so many replies to a write. -/
def all (write : Option Nat) (n : Nat) : List Place :=
  (List.range n).map (Place.mk write)

@[simp] theorem length_all (write : Option Nat) (n : Nat) : (all write n).length = n := by
  simp [all]

theorem write_of_mem_all {write : Option Nat} {n : Nat} {p : Place} (h : p ∈ all write n) :
    p.write = write := by
  obtain ⟨i, -, rfl⟩ := List.mem_map.mp h
  rfl

/-- No two of them have the same place. -/
theorem nodup_all (write : Option Nat) (n : Nat) : (all write n).Nodup := by
  refine List.Nodup.map ?_ List.nodup_range
  intro i j h
  exact congrArg Place.index h

end Place

namespace Channel

/-- The replies that are left, given their places, when some places are taken away. -/
def keep (gone places : List Place) (replies : List Delivery) : List Delivery :=
  ((replies.zip places).filter fun q => q.2 ∉ gone).map Prod.fst

/-- The places of what is in the queue from the beginning. -/
def places (c : Channel) : List Place :=
  Place.all none c.queue.length

/-- The channel that some replies are taken out of, given the places of those in its queue. -/
def without (c : Channel) (gone places : List Place) : Channel :=
  { c with
    respond := fun i packet =>
      keep gone (Place.all (some i) (c.respond i packet).length) (c.respond i packet)
    queue := keep gone places c.queue }

/-- The replies to the next write. -/
def replies (c : Channel) (packet : Draft) : List Delivery :=
  match c.refuse c.writes with
  | some _ => []
  | none => c.respond c.writes packet

/-- The reply is to a write that is still to come. -/
def Ahead (c : Channel) (p : Place) : Prop :=
  ∃ i, p.write = some i ∧ c.writes ≤ i

variable {gone places : List Place}

/-- The channel after a write. -/
theorem snd_send (c : Channel) (packet : Draft) : (c.send packet).2.2 =
    { c with queue := c.queue ++ c.replies packet, writes := c.writes + 1 } := by
  simp only [send, replies]
  cases c.refuse c.writes with
  | some f => simp
  | none => rfl

theorem queue_receive (c : Channel) (wait : Time) :
    (c.receive wait).2.2.queue = c.queue.tail := by
  cases hq : c.queue <;> simp [receive, hq]

theorem writes_receive (c : Channel) (wait : Time) :
    (c.receive wait).2.2.writes = c.writes := by
  cases hq : c.queue <;> simp [receive, hq]

theorem keep_cons_of_mem {p : Place} (h : p ∈ gone) (d : Delivery) (queue : List Delivery) :
    keep gone (p :: places) (d :: queue) = keep gone places queue := by
  simp [keep, h]

theorem keep_cons_of_not_mem {p : Place} (h : p ∉ gone) (d : Delivery) (queue : List Delivery) :
    keep gone (p :: places) (d :: queue) = d :: keep gone places queue := by
  simp [keep, h]

/-- Replies and places that fit can be parted, and each part be thinned out by itself. -/
theorem keep_append {queue : List Delivery} (h : places.length = queue.length)
    (places' : List Place) (queue' : List Delivery) :
    keep gone (places ++ places') (queue ++ queue') =
      keep gone places queue ++ keep gone places' queue' := by
  simp [keep, List.zip_append h.symm]

/-- What is left after a write is what was left before it and what is left of the replies to it. -/
theorem send_without (c : Channel) (gone : List Place) (packet : Draft)
    (h : places.length = c.queue.length) :
    (c.without gone places).send packet = ((c.send packet).1, (c.send packet).2.1,
      (c.send packet).2.2.without gone
        (places ++ Place.all (some c.writes) (c.replies packet).length)) := by
  simp only [send, replies, without]
  cases c.refuse c.writes with
  | some f => simp [Place.all]
  | none => simp [keep_append h]

/-- A read of a reply that is left, or of nothing. -/
theorem receive_without (c : Channel) (wait : Time) (h : places.length = c.queue.length)
    (hkept : ∀ p ∈ places.head?, p ∉ gone) :
    (c.without gone places).receive wait = ((c.receive wait).1, (c.receive wait).2.1,
      (c.receive wait).2.2.without gone places.tail) := by
  obtain ⟨respond, refuse, queue, writes, clock⟩ := c
  cases queue with
  | nil =>
    obtain rfl := List.length_eq_zero_iff.mp h
    rfl
  | cons d queue =>
    cases places with
    | nil => cases h
    | cons p places =>
      have hp : p ∉ gone := hkept p rfl
      simp only [receive, without, keep_cons_of_not_mem hp]
      rfl

end Channel

/-! ## Discarding

A rehearsal is thinned out in its channel alone. The session, the file and the backend stay, so that
every step that does not read a reply which was taken out is a step of both. -/

namespace Rehearsal

/-- What is read next is discarded, and no time has passed with it. -/
def DiscardsNext (r : Rehearsal) : Prop :=
  ∃ goal x now deadline reply queue, r.session.phase = .exchanging goal x ∧
    x.phase = .waiting now deadline ∧ r.channel.queue = ⟨0, .ok reply⟩ :: queue ∧
    reply.acknowledges x.block = .ok false

/-- The places of the replies in the queue after the next step, from those before it. -/
def placesAfter (r : Rehearsal) (places : List Place) : List Place :=
  match r.session.call with
  | .send packet _ =>
    places ++ Place.all (some r.channel.writes) (r.channel.replies packet).length
  | .receive .. => places.tail
  | _ => places

/-- The place of the reply that is read next, if there is one. -/
def reads (r : Rehearsal) (places : List Place) : Option Place :=
  match r.session.call with
  | .receive .. => places.head?
  | _ => none

/-- The rehearsal reads the reply of a place on its way to the end, and discards it. -/
inductive Discards : Rehearsal → List Place → Place → Prop
  /-- it is read now -/
  | next {r : Rehearsal} {p : Place} {places : List Place} (h : r.DiscardsNext) :
      Discards r (p :: places) p
  /-- it is read after this step -/
  | later {r t : Rehearsal} {p : Place} {places : List Place} (h : r.step = some t)
      (hd : Discards t (r.placesAfter places) p) : Discards r places p

/-- The rehearsal without some of the replies, and with a transcript of its own. -/
def thin (r : Rehearsal) (gone places : List Place) (transcript : Transcript) : Rehearsal :=
  { r with channel := r.channel.without gone places, transcript }

variable {r t : Rehearsal} {p : Place} {gone places : List Place} {T : Transcript}

/-- The backend and the file do not know of the replies. -/
theorem openFile_thin (gone places : List Place) (filename : String)
    (resume : Except Fault Unit → Noted Session) (hT : T.visible = r.transcript.visible) :
    ∃ U, (r.thin gone places T).openFile filename resume =
      (r.openFile filename resume).thin gone places U ∧
      U.visible = (r.openFile filename resume).transcript.visible := by
  simp only [openFile, thin]
  split <;> exact ⟨_, rfl, by simp [next, hT]⟩

/-- Where the next reply is left, both rehearsals go on in the same way. -/
theorem step_thin (h : r.step = some t) (hlen : places.length = r.channel.queue.length)
    (hT : T.visible = r.transcript.visible) (hkept : ∀ p ∈ r.reads places, p ∉ gone) :
    ∃ U, (r.thin gone places T).step = some (t.thin gone (r.placesAfter places) U) ∧
      U.visible = t.transcript.visible := by
  -- the session is the same in both, so they make the same call
  have hcall : (r.thin gone places T).session.call = r.session.call := rfl
  rw [step] at h ⊢
  rw [hcall]
  rw [reads] at hkept
  rw [placesAfter]
  cases hc : r.session.call with
  | openFile filename resume =>
    simp only [hc] at h
    split at h
    · cases h
    · next hw =>
      obtain rfl := Option.some.inj h
      obtain ⟨U, hU, hvisible⟩ := openFile_thin gone places filename resume hT
      refine ⟨U, ?_, hvisible⟩
      rw [← hU]
      exact if_neg hw
  | readFile size resume =>
    simp only [hc, Option.some.injEq] at h
    subst h
    exact ⟨_, rfl, by simp [next, thin, hT]⟩
  | closeFile resume =>
    simp only [hc, Option.some.injEq] at h
    subst h
    exact ⟨_, rfl, by simp [next, thin, hT]⟩
  | send packet resume =>
    simp only [hc, Option.some.injEq] at h
    subst h
    have hsend := r.channel.send_without gone packet hlen
    simp only [thin, hsend]
    exact ⟨_, rfl, by simp [next, hT]⟩
  | receive wait resume =>
    simp only [hc, Option.some.injEq] at h hkept
    subst h
    have hreceive := r.channel.receive_without wait hlen hkept
    simp only [thin, hreceive]
    exact ⟨_, rfl, by simp [next, hT]⟩
  | finished result =>
    simp only [hc] at h
    cases h

/-- Both rehearsals are over together. -/
theorem step_thin_eq_none (h : r.step = none) : (r.thin gone places T).step = none := by
  have hcall : (r.thin gone places T).session.call = r.session.call := rfl
  rw [step] at h ⊢
  rw [hcall]
  cases hc : r.session.call with
  | openFile filename resume =>
    simp only [hc] at h
    split at h
    · next hw => exact if_pos hw
    · cases h
  | finished result => rfl
  | _ => simp only [hc] at h; cases h

/-! ## Discarded replies

The step that discards a reply in time does one thing, which is to take the reply out of the queue.
In the other rehearsal it is out already. -/

/-- A reply that is discarded in time leaves the session as it was. -/
theorem value_received_of_discarded {s : Session} {goal : Session.Goal} {x : Exchange}
    {now deadline : Time} {reply : Draft} (hp : s.phase = .exchanging goal x)
    (hx : x.phase = .waiting now deadline) (hlt : now < deadline)
    (hreply : reply.acknowledges x.block = .ok false) :
    ((x.received deadline ⟨.ok reply, now⟩).andThen (s.follow goal)).value = s := by
  -- the exchange waits on as it did before, since no time has passed
  have hstays : { x with phase := .waiting now deadline } = x := by
    rw [← hx]
  have hreceived : (x.received deadline ⟨.ok reply, now⟩).value = .going x := by
    simp only [Exchange.received, hreply, Noted.value_andThen]
    rw [Exchange.value_await_of_lt x hlt, hstays]
  rw [Noted.value_andThen, hreceived]
  simp only [Session.follow, Session.enter, Noted.value_silent, ← hp]

/-- A reply that is discarded in time is gone from the queue, and nothing else was done. -/
theorem DiscardsNext.step_eq (h : r.DiscardsNext) (hr : r.InTime) :
    ∃ U, r.step = some { r with
        channel := { r.channel with queue := r.channel.queue.tail }, transcript := U } ∧
      U.visible = r.transcript.visible := by
  obtain ⟨goal, x, now, deadline, reply, queue, hp, hx, hq, hreply⟩ := h
  obtain ⟨rfl, hlt⟩ := hr goal x now deadline hp hx
  have hvalue := value_received_of_discarded hp hx hlt hreply
  simp only [step, Session.call, hp, Exchange.call, hx, Channel.receive, hq, Int.add_zero, next,
    hvalue]
  exact ⟨_, rfl, by simp [Event.isVisible]⟩

/-- The other rehearsal does not have the reply, and stays as it is. -/
theorem thin_of_mem (hp : p ∈ gone) {d : Delivery} {queue : List Delivery}
    (hq : r.channel.queue = d :: queue) (U : Transcript) :
    ({ r with channel := { r.channel with queue := r.channel.queue.tail }, transcript := U }
      : Rehearsal).thin gone places T = r.thin gone (p :: places) T := by
  simp only [thin, Channel.without, hq, List.tail_cons, Channel.keep_cons_of_mem hp]

/-! ## Replies that are read once

It was assumed of the replies which are taken out that they are read and discarded at some time.
That this time has come when one of them is about to be read is shown here: it is in the queue, and
it is in the queue only once. -/

/-- What a step does to the channel, and to the places in its queue. -/
theorem channel_step (h : r.step = some t) :
    (∃ packet resume, r.session.call = .send packet resume ∧
        t.channel = (r.channel.send packet).2.2) ∨
      (∃ wait resume, r.session.call = .receive wait resume ∧
        t.channel = (r.channel.receive wait).2.2) ∨
      t.channel = r.channel ∧ ∀ places, r.placesAfter places = places := by
  simp only [placesAfter]
  cases stepped h with
  | promised hc _ hchannel | opened hc _ hchannel | fetched hc _ hchannel
  | closed hc _ hchannel => exact .inr (.inr ⟨hchannel, fun places => by rw [hc]⟩)
  | sent hc _ hchannel => exact .inl ⟨_, _, hc, hchannel⟩
  | received hc _ hchannel => exact .inr (.inl ⟨_, _, hc, hchannel⟩)

/-- The places are those of the replies in the queue: each has one of its own, and none is of a
reply to a write that is still to come. -/
structure Placed (r : Rehearsal) (places : List Place) : Prop where
  /-- there are as many places as replies -/
  length_eq : places.length = r.channel.queue.length
  /-- no place is there twice -/
  nodup : places.Nodup
  /-- no reply is there before its write -/
  not_ahead : ∀ p ∈ places, ¬ r.channel.Ahead p

/-- What is ahead after a step was ahead before it. -/
theorem ahead_of_step (h : r.step = some t) (hp : t.channel.Ahead p) : r.channel.Ahead p := by
  obtain ⟨i, hi, hle⟩ := hp
  refine ⟨i, hi, ?_⟩
  rcases channel_step h with ⟨packet, _, -, ht⟩ | ⟨wait, _, -, ht⟩ | ⟨ht, -⟩
  · rw [ht, Channel.snd_send] at hle
    exact Nat.le_of_succ_le hle
  · rw [ht, Channel.writes_receive] at hle
    exact hle
  · rw [ht] at hle
    exact hle

/-- What is in the queue after a step was there or ahead before it. -/
theorem mem_of_mem_placesAfter (h : p ∈ r.placesAfter places) :
    p ∈ places ∨ r.channel.Ahead p := by
  rw [placesAfter] at h
  split at h
  · rcases List.mem_append.mp h with h | h
    · exact .inl h
    · exact .inr ⟨_, Place.write_of_mem_all h, Nat.le_refl _⟩
  · exact .inl (List.mem_of_mem_tail h)
  · exact .inl h

/-- A step keeps the places in order: a write adds new ones, and a read takes the first one away. -/
theorem Placed.step (h : Placed r places) (hstep : r.step = some t) :
    Placed t (r.placesAfter places) := by
  rcases channel_step hstep with ⟨packet, _, hc, ht⟩ | ⟨wait, _, hc, ht⟩ | ⟨ht, hplaces⟩
  · simp only [placesAfter, hc]
    constructor
    · rw [ht, Channel.snd_send, List.length_append, List.length_append, h.length_eq,
        Place.length_all]
    · refine List.nodup_append'.mpr ⟨h.nodup, Place.nodup_all _ _, ?_⟩
      intro q hq hq'
      exact h.not_ahead q hq ⟨_, Place.write_of_mem_all hq', Nat.le_refl _⟩
    · rintro q hq ⟨i, hi, hle⟩
      rw [ht, Channel.snd_send] at hle
      rcases List.mem_append.mp hq with hq | hq
      · exact h.not_ahead q hq ⟨i, hi, Nat.le_of_succ_le hle⟩
      · rw [Place.write_of_mem_all hq] at hi
        cases hi
        exact Nat.not_succ_le_self _ hle
  · simp only [placesAfter, hc]
    constructor
    · rw [ht, Channel.queue_receive, List.length_tail, List.length_tail, h.length_eq]
    · exact h.nodup.sublist (List.tail_sublist _)
    · intro q hq hahead
      exact h.not_ahead q (List.mem_of_mem_tail hq) (ahead_of_step hstep hahead)
  · rw [hplaces]
    constructor
    · rw [ht, h.length_eq]
    · exact h.nodup
    · rw [ht]
      exact h.not_ahead

/-- A reply that will be discarded is in the queue or ahead. -/
theorem Discards.mem (h : Discards r places p) : p ∈ places ∨ r.channel.Ahead p := by
  induction h with
  | next => exact .inl List.mem_cons_self
  | later hstep hd ih =>
    rcases ih with hmem | hahead
    · exact mem_of_mem_placesAfter hmem
    · exact .inr (ahead_of_step hstep hahead)

/-- A reply that is read is not in the queue any more, nor does it come again. -/
theorem Placed.not_again {wait : Time} {resume : Reception → Noted Session}
    (h : Placed r (p :: places)) (hc : r.session.call = .receive wait resume)
    (hstep : r.step = some t) :
    ¬ (p ∈ r.placesAfter (p :: places) ∨ t.channel.Ahead p) := by
  rintro (hmem | hahead)
  · simp only [placesAfter, hc, List.tail_cons] at hmem
    exact (List.nodup_cons.mp h.nodup).1 hmem
  · exact h.not_ahead p List.mem_cons_self (ahead_of_step hstep hahead)

theorem DiscardsNext.exists_call_eq (h : r.DiscardsNext) :
    ∃ wait resume, r.session.call = .receive wait resume := by
  obtain ⟨goal, x, now, deadline, -, -, hp, hx, -⟩ := h
  simp only [Session.call, hp, Exchange.call, hx]
  exact ⟨_, _, rfl⟩

/-- The replies of some places are discarded, if they were not read before. -/
def Due (gone : List Place) (r : Rehearsal) (places : List Place) : Prop :=
  ∀ p ∈ gone, p ∈ places ∨ r.channel.Ahead p → Discards r places p

/-- What is due is still due after a step, or it was read in it. -/
theorem Due.step (h : Due gone r places) (hplaced : Placed r places) (hstep : r.step = some t) :
    Due gone t (r.placesAfter places) := by
  intro p hp hmem
  have hbefore : p ∈ places ∨ r.channel.Ahead p := by
    rcases hmem with hmem | hahead
    · exact mem_of_mem_placesAfter hmem
    · exact .inr (ahead_of_step hstep hahead)
  cases h p hp hbefore with
  | later hstep' hd =>
    rw [hstep] at hstep'
    obtain rfl := Option.some.inj hstep'
    exact hd
  | next hnext =>
    -- this step reads the reply, after which nothing is asked of it any more
    obtain ⟨wait, resume, hc⟩ := hnext.exists_call_eq
    exact absurd hmem (hplaced.not_again hc hstep)

/-- A reply that is read and taken away in the other rehearsal is discarded. -/
theorem Due.discardsNext (h : Due gone r places) (hplaced : Placed r places)
    (hreads : p ∈ r.reads places) (hp : p ∈ gone) : r.DiscardsNext := by
  rw [reads] at hreads
  split at hreads
  · next wait resume hc =>
    obtain ⟨rest, rfl⟩ := List.head?_eq_some_iff.mp hreads
    cases h p hp (.inl List.mem_cons_self) with
    | next hnext => exact hnext
    | later hstep hd => exact absurd hd.mem (hplaced.not_again hc hstep)
  · cases hreads

/-! ## Both rehearsals

The induction is on the steps of the rehearsal with all replies. Either both take a step, or only
this one does and the other waits. -/

/-- A rehearsal without replies that are discarded goes the way of the one with them. The
transcripts differ in the waits, so that the other one has a transcript of its own all the way. -/
theorem run_thin (hplaced : Placed r places) (htime : r.InTime) (hdue : Due gone r places)
    (hT : T.visible = r.transcript.visible) :
    ∃ places' U, (r.thin gone places T).run = r.run.thin gone places' U ∧
      U.visible = r.run.transcript.visible := by
  fun_induction run r generalizing places T with
  | case1 r h => exact ⟨places, T, run_of_step_eq_none (step_thin_eq_none h), hT⟩
  | case2 r t h ih =>
    have hplaced' := hplaced.step h
    have hdue' := hdue.step hplaced h
    by_cases hgone : ∃ p ∈ r.reads places, p ∈ gone
    · -- only the one has the reply, and discards it while the other stays as it is
      obtain ⟨p, hreads, hp⟩ := hgone
      have hnext := hdue.discardsNext hplaced hreads hp
      obtain ⟨wait, resume, hc⟩ := hnext.exists_call_eq
      obtain ⟨U, hU, hvisible⟩ := hnext.step_eq htime
      rw [h] at hU
      obtain rfl := Option.some.inj hU
      obtain ⟨places', V, hrun, hV⟩ := ih hplaced' (htime.step h) hdue' (hT.trans hvisible.symm)
      simp only [reads, hc] at hreads
      obtain ⟨rest, rfl⟩ := List.head?_eq_some_iff.mp hreads
      obtain ⟨_, _, _, _, _, _, _, _, hq, _⟩ := hnext
      simp only [placesAfter, hc, List.tail_cons] at hrun
      rw [thin_of_mem hp hq] at hrun
      exact ⟨places', V, hrun, hV⟩
    · -- the next reply is left, or none is read: both take the step
      obtain ⟨U, hU, hvisible⟩ := step_thin h hplaced.length_eq hT fun p hp hmem =>
        hgone ⟨p, hp, hmem⟩
      obtain ⟨places', V, hrun, hV⟩ := ih hplaced' (htime.step h) hdue' hvisible
      exact ⟨places', V, (run_of_step hU).trans hrun, hV⟩

variable {peer : Address} {request : Draft} {backend : Option Backend} {files : FileSystem}

/-- At the beginning only the replies that were there from the first are in the queue. -/
theorem placed_start (c : Channel) :
    Placed (start peer request backend files c) c.places where
  length_eq := Place.length_all _ _
  nodup := Place.nodup_all _ _
  not_ahead := by
    rintro p hp ⟨i, hi, -⟩
    rw [Place.write_of_mem_all hp] at hi
    cases hi

/-- **Discarded replies leave no trace.** Take any replies out of a channel that a rehearsal on it
reads and discards without time passing. The rehearsal without them shows the same to others: the
same packets at the same times, the same reads from the file and its closing. It ends at the same
time, with the same result. -/
theorem ignores_discarded {c : Channel} {gone : List Place}
    (h : ∀ p ∈ gone, Discards (start peer request backend files c) c.places p) :
    let r := (start peer request backend files c).run
    let r' := (start peer request backend files (c.without gone c.places)).run
    r'.transcript.visible = r.transcript.visible ∧ r'.channel.clock = r.channel.clock ∧
      r'.result? = r.result? ∧ r'.file = r.file := by
  intro r r'
  obtain ⟨places', U, hrun, hvisible⟩ := run_thin (placed_start c) (inTime_start c)
    (fun p hp _ => h p hp) rfl
  have hr' : r' = r.thin gone places' U := hrun
  rw [hr']
  exact ⟨hvisible, rfl, rfl, rfl⟩

/-- The client acknowledges what came before the first block once more, and then the first block. -/
def repeating : Channel where
  respond _ _ := [⟨0, .ok (Packet.ack [0, 0]).toDraft⟩, ⟨0, .ok (Packet.ack [0, 1]).toDraft⟩]

/-- The old acknowledgement is the first of the replies to the first write. It is read after the
session has opened its file, read the block and written it. -/
theorem ignores_discarded_repeating :
    let request := (Packet.readRequest ⟨[102], octetMode, []⟩).toDraft
    let backend := some (Backend.constant [1, 2, 3])
    let gone : List Place := [⟨some 0, 0⟩]
    let r := (start .null request backend .empty repeating).run
    let r' := (start .null request backend .empty (repeating.without gone [])).run
    (∀ p ∈ gone, Discards (start .null request backend .empty repeating) [] p) ∧
      r'.transcript.visible = r.transcript.visible ∧ r'.channel.clock = r.channel.clock ∧
      r'.result? = r.result? := by
  intro request backend gone r r'
  have h : ∀ p ∈ gone, Discards (start .null request backend .empty repeating) [] p := by
    intro p hp
    obtain rfl := List.mem_singleton.mp hp
    exact .later rfl (.later rfl (.later rfl (.next ⟨_, _, _, _, _, _, rfl, rfl, rfl, rfl⟩)))
  obtain ⟨hvisible, hclock, hresult, -⟩ := ignores_discarded h
  exact ⟨h, hvisible, hclock, hresult⟩

end Rehearsal

end Tftp
