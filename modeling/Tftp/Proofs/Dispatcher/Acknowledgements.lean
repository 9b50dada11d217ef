import Tftp.Proofs.Dispatcher.Timeline

/-!
# Acknowledgements come after what they acknowledge

A connection keeps what it cannot deliver, and a session that asks for a packet later gets what was
kept. Where all backends answer at once nothing is ever kept: a session that is not over waits for a
packet whenever a datagram can arrive. So no acknowledgement that came early is used later on.

* `Backend.IsPrompt` — a backend that answers at once;
* `Dispatcher.JustArrived` and `Dispatcher.Attentive` — the packet that is read has just arrived,
  and nothing is kept;
* `Dispatcher.ReadInTime` — it has arrived after the first sending of what the session exchanges;
* `Dispatcher.InOrder` — so it is with all packets, and only acknowledgements lead on.

The main theorem is `Dispatcher.reads_in_order`. That the queue is empty after each turn is what
carries the induction over a run (`Turn.attentive`, `Good.attentive_run`). The order of sendings and
arrivals then comes from the trail of the session.
-/

namespace Tftp

/-- A backend, if there is one, that answers at once with a file or with a fault. -/
def Backend.IsPrompt (backend : Option Backend) : Prop :=
  ∀ files peer filename file,
    (Backend.openFile? files peer filename backend).answer ≠ .later file

/-! ## A connection that delivers at once

What arrives at a connection is kept in a queue if there is no read to give it to. A connection that
is open and has a pending read gives it on at once, and so does one that is closed and drops it. -/

/-- A connection that is closed, or has a pending read. -/
def Connection.Delivers (c : Connection) : Prop :=
  c.closed = true ∨ c.pending.isSome = true

/-- A transfer that has settled reads nothing or has nothing queued, so that its connection delivers
at once. -/
theorem Transfer.Settled.delivers {trace : Trace} {t : Transfer} (h : t.Settled trace) :
    t.connection.Delivers := by
  cases h with
  | waiting _ _ _ _ _ hpending => exact .inr hpending
  | finished _ hclosed => exact .inl hclosed

/-- What arrives there is not kept, and a packet that is read is the one that arrives. A stranger
settles nothing, and a datagram that is no packet settles the pending read with a fault. -/
theorem Connection.Delivers.receive {c : Connection} (h : c.Delivers) (hq : c.queue = [])
    (bytes : Bytes) (sender : Address) :
    (c.receive bytes sender).connection.queue = [] ∧
      ∀ number p, (c.receive bytes sender).settled = some (number, .ok p) →
        sender.same c.peer = true ∧ Packet.decode bytes = .ok p := by
  have hdeliver (hopen : ¬ c.closed = true) (arrival : Arrival) :
      c.deliver arrival = c.settle arrival.outcome := by
    rw [deliver, if_pos (h.resolve_left hopen)]
  rw [Connection.receive]
  split
  · refine ⟨hq, fun number p h => ?_⟩
    cases h
  · next hopen =>
    split
    · refine ⟨?_, fun number p hsettled => ?_⟩
      · rw [connection_refuseSender]
        exact hq
      · rw [settled_refuseSender] at hsettled
        cases hsettled
    · next hsame =>
      split
      · next packet hdecode =>
        rw [hdeliver hopen]
        refine ⟨hq, fun number p hsettled => ?_⟩
        obtain rfl : p = packet := Except.ok.inj (eq_of_settled_settle hsettled)
        exact ⟨by simpa using hsame, hdecode⟩
      · rw [hdeliver hopen]
        exact ⟨hq, fun number p hsettled => absurd hsettled (settled_settle_error _ _)⟩

namespace Dispatcher

/-! ## Packets that have just arrived

An act that reads a packet comes right after the arrival of the datagram, with nothing in between.
It is this that a queue would spoil: a packet that was kept may be read long after it came. -/

/-- A packet came in the datagram that has just arrived, from the client. -/
def JustArrived (client : Address) (past : List Occurrence) (reply : Draft) : Prop :=
  ∃ earlier bytes sender p, past = earlier ++ [.arrived bytes sender] ∧
    sender.same client = true ∧ Packet.decode bytes = .ok p ∧ reply = p.toDraft

/-- Every packet that is read has just arrived. -/
def ReadsAtOnce (client : Address) (life : List Occurrence) : Prop :=
  ∀ past act later, life = past ++ .did act :: later →
    ∀ reply, act.deed.reply? = some reply → JustArrived client past reply

variable {client : Address} {life : List Occurrence}

theorem readsAtOnce_nil (client : Address) : ReadsAtOnce client [] := by
  intro past act later h
  simp at h

/-- One thing more may happen, if it reads nothing but what has just arrived. -/
theorem ReadsAtOnce.concat (h : ReadsAtOnce client life) {o : Occurrence}
    (ho : ∀ act, o = .did act → ∀ reply, act.deed.reply? = some reply →
      JustArrived client life reply) : ReadsAtOnce client (life ++ [o]) := by
  intro past act later hlife
  rcases List.eq_nil_or_concat later with rfl | ⟨later, x, rfl⟩
  · obtain ⟨rfl, heq⟩ := List.append_inj' hlife rfl
    exact ho act (List.singleton_injective heq)
  · rw [List.concat_eq_append, ← List.cons_append, ← List.append_assoc] at hlife
    exact h past act later (List.append_inj' hlife rfl).1

/-- Acts that read nothing can be added. -/
theorem ReadsAtOnce.append {acts : List Session.Act} (h : ReadsAtOnce client life)
    (hacts : ∀ act ∈ acts, act.deed.reply? = none) :
    ReadsAtOnce client (life ++ acts.map .did) := by
  induction acts generalizing life with
  | nil =>
    rw [List.map_nil, List.append_nil]
    exact h
  | cons act acts ih =>
    obtain ⟨hact, hrest⟩ := List.forall_mem_cons.mp hacts
    have hlife : life ++ (act :: acts).map .did = life ++ [.did act] ++ acts.map .did := by
      simp
    rw [hlife]
    refine ih (h.concat ?_) hrest
    rintro _ ⟨⟩ reply hreply
    rw [hact] at hreply
    cases hreply

/-! ## Transfers that keep nothing

A transfer that is resumed reads what has just arrived, or a fault, or nothing, and after that it
waits again or is over. So it keeps its queue empty, as long as it is never resumed in any other
way. -/

/-- A transfer keeps nothing of what arrived, and has read at once what it has read. -/
structure Attentive (life : List Occurrence) (t : Transfer) : Prop where
  queue : t.connection.queue = []
  reads : ReadsAtOnce t.connection.peer life

variable {past : List Happening} {d : Dispatcher} {i : Nat} {done : List Input}

/-- After acts that read nothing a transfer is as attentive as before. -/
theorem Attentive.append {t u : Transfer} {acts : List Session.Act} (h : Attentive life t)
    (hpeer : u.connection.peer = t.connection.peer) (hu : u.connection.queue = [] ∧
      ∀ act ∈ acts, act.deed.reply? = none) : Attentive (life ++ acts.map .did) u := by
  refine ⟨hu.1, ?_⟩
  rw [hpeer]
  exact h.reads.append hu.2

/-- A new transfer has received nothing, and keeps nothing. -/
theorem attentive_newcomer (request : Packet) (sender : Address) :
    Attentive [] (newcomer request sender) :=
  ⟨rfl, readsAtOnce_nil _⟩

/-- A datagram that arrives is read, or nothing is. If it settles the pending read, that read is the
first act after it, so that nothing comes between the arrival and the reading. -/
theorem Attentive.arrive {t : Transfer} (h : Attentive life t) (hd : t.connection.Delivers)
    (now : Time) (bytes : Bytes) (sender : Address) :
    Attentive
      (life ++ .arrived bytes sender ::
        (t.absorbActs now (t.connection.receive bytes sender)).map .did)
      (t.absorb now (t.connection.receive bytes sender)).2 := by
  obtain ⟨hq, hsettled⟩ := hd.receive h.queue bytes sender
  obtain ⟨hqueue, hacts⟩ := Transfer.absorbActs_of_queue hq t now
  refine ⟨hqueue, ?_⟩
  rw [Transfer.peer_absorb (Connection.peer_receive _ _ _)]
  have harrived : ReadsAtOnce t.connection.peer (life ++ [.arrived bytes sender]) := by
    refine h.reads.concat fun act hact => ?_
    cases hact
  rcases hacts with hnil | ⟨number, outcome, wait, act, acts, hout, hcons, hdeed, hrest⟩
  · rw [hnil]
    exact harrived
  · -- the first act may read the packet, and the others read none
    have hlife : life ++ .arrived bytes sender :: (act :: acts).map .did =
        life ++ [.arrived bytes sender] ++ [.did act] ++ acts.map .did := by
      simp
    rw [hcons, hlife]
    refine (harrived.concat ?_).append hrest
    rintro _ ⟨⟩ reply hreply
    rw [hdeed] at hreply
    cases outcome with
    | error f => cases hreply
    | ok p =>
      cases hreply
      obtain ⟨hsame, hdecode⟩ := hsettled number p hout
      exact ⟨life, bytes, sender, p, rfl, hsame, hdecode, rfl⟩

/-- **A transfer stays attentive** in each turn, if its backend answers at once. Of the ways of a
turn, one would be that a file is owed, which is excluded by that. In all others but the arrival of
a datagram nothing is read. -/
theorem Turn.attentive {now : Time} {input : Input} {part : List Occurrence}
    {t : Option Transfer} {s : List Datagram × Option Transfer} (h : Turn d now input t part s)
    (hprompt : Backend.IsPrompt d.backend) (hl : Lived done life t)
    (hdelivers : ∀ v, t = some v → v.connection.Delivers)
    (ha : ∀ v, t = some v → Attentive life v) :
    ∀ v, s.2 = some v → Attentive (life ++ part) v := by
  cases h with
  | unseen =>
    rw [List.append_nil]
    exact ha
  | owed _ hanswer => exact absurd hanswer (hprompt _ _ _ _)
  | answered _ answer =>
    cases hl
    rintro _ ⟨⟩
    exact (attentive_newcomer _ _).append (Transfer.peer_supply _ _ _)
      (Transfer.supplyActs_of_queue rfl _ _)
  | began =>
    cases hl
    rintro _ ⟨⟩
    exact (attentive_newcomer _ _).append (Transfer.peer_run _ _) (Transfer.acts_of_queue rfl _)
  | @arrived _ bytes _ t sender =>
    rintro _ ⟨⟩
    exact (ha t rfl).arrive (hdelivers t rfl) now bytes sender
  | @touched _ t e hpeer hqueue hsettled =>
    rintro _ ⟨⟩
    have hat := ha t rfl
    obtain ⟨hq, hacts⟩ := Transfer.absorbActs_of_queue (hqueue.trans hat.queue) t now
    refine hat.append (Transfer.peer_absorb hpeer) ⟨hq, ?_⟩
    rcases hacts with hnil | ⟨number, outcome, wait, act, acts, hout, hcons, hdeed, hrest⟩
    · rw [hnil]
      exact List.forall_mem_nil _
    · rw [hcons]
      refine List.forall_mem_cons.mpr ⟨?_, hrest⟩
      cases outcome with
      | error f => rw [hdeed]; rfl
      | ok p => exact absurd hout (hsettled number p)
  | supplied t answer =>
    rintro _ ⟨⟩
    have hat := ha t rfl
    exact hat.append (Transfer.peer_supply _ _ _) (Transfer.supplyActs_of_queue hat.queue _ _)

/-! ## Backends that owe nothing

A transfer that waits for its file has no pending read, and keeps what arrives. Where all backends
answer at once there is no such transfer, which is what the condition of the main theorem is for. -/

/-- Where its backend answers at once a dispatcher is owed nothing. -/
theorem Opens.promises_welcome {t : Transfer} {acts : List Session.Act} {s : Start}
    (h : (d.extend t).Opens t acts s) (hprompt : Backend.IsPrompt d.backend) :
    (d.welcome (some (t, s))).2.promises = d.promises := by
  cases h with
  | answered => rfl
  | owed hanswer => exact absurd hanswer (hprompt _ _ _ _)
  | began => rfl

/-- As long as the backend answers at once, nothing is owed to any transfer. A new promise is made
only for a new transfer, and only by a backend that will answer later. -/
theorem promises_step (hprompt : Backend.IsPrompt d.backend) (hnil : d.promises = [])
    (input : Input) : (d.step input).2.promises = [] := by
  have htouch (i : Nat) (f : Transfer → Connection.Effect) : (d.touch i f).2.promises = [] :=
    (d.onlyTransfers_touch i f).promises.trans hnil
  cases input with
  | request bytes sender =>
    rw [step]
    rcases d.request_spec bytes sender with ⟨-, hsame⟩ | ⟨request, s, -, hopens, -, hafter⟩
    · rw [hsame, hnil]
    · rw [hafter]
      exact (hopens.promises_welcome hprompt).trans hnil
  | arrive j bytes sender => exact htouch j _
  | advance span => exact (onlyTransfers_expireAll _ _).promises.trans hnil
  | setBackend backend => exact hnil
  | stop j => exact htouch j _
  | fail j failure => exact htouch j _
  | fulfil n fault =>
    simp only [step, hnil, List.getElem?_nil]

/-- A transfer that is owed nothing delivers what arrives. -/
theorem Good.delivers (h : d.Good past) (hnil : d.promises = []) {t : Transfer}
    (ht : d.transfers[i]? = some t) : t.connection.Delivers := by
  refine ((h.rests ht).resolve_left fun hawaits => ?_).delivers
  obtain ⟨p, hp, -⟩ := ((h.sane.tidy i trivial).opening t ht).mp hawaits.opening
  rw [hnil] at hp
  cases hp

/-- If all backends that will be set answer at once, this is so after each step, too. -/
theorem isPrompt_step {input : Input} {inputs : List Input}
    (h : ∀ backend, backend = d.backend ∨ .setBackend backend ∈ input :: inputs →
      Backend.IsPrompt backend) :
    ∀ backend, backend = (d.step input).2.backend ∨ .setBackend backend ∈ inputs →
      Backend.IsPrompt backend := by
  rintro backend (rfl | hmem)
  · rcases (d.keeps_step input).2 with hsame | ⟨backend, rfl⟩
    · exact h _ (.inl hsame)
    · exact h _ (.inr (.head _))
  · exact h _ (.inr (.tail _ hmem))

/-- Transfers stay attentive over a run, if all backends answer at once. -/
theorem Good.attentive_run (h : d.Good past) (hnil : d.promises = [])
    (hl : Lived done life d.transfers[i]?)
    (ha : ∀ t, d.transfers[i]? = some t → Attentive life t) (inputs : List Input)
    (hprompt : ∀ backend, backend = d.backend ∨ .setBackend backend ∈ inputs →
      Backend.IsPrompt backend) :
    ∀ t, (d.run inputs).2.transfers[i]? = some t → Attentive (life ++ d.life i inputs) t := by
  induction inputs generalizing d past done life with
  | nil =>
    rw [Dispatcher.life, List.append_nil]
    exact ha
  | cons input inputs ih =>
    have hnow := hprompt _ (.inl rfl)
    have hturn := h.turn i input
    have hstep := hturn.attentive hnow hl (fun t ht => h.delivers hnil ht) ha
    have hrest := ih (h.goes_step input) (promises_step hnow hnil input) (hturn.lived hl) hstep
      (isPrompt_step hprompt)
    rw [List.append_assoc] at hrest
    exact hrest

/-! ## In order

A packet that is read has just arrived, and an exchange reads only after it has sent. Both together
say that no acknowledgement is read which came before the packet was sent for the first time. -/

/-- A packet is read in time: it came in the datagram that has just arrived from the client, and
before that the packet that the session exchanges had been sent for the first time. -/
def ReadInTime (client : Address) (request : Draft) (past : List Occurrence) (act : Session.Act)
    (reply : Draft) : Prop :=
  ∃ before sending since bytes sender p,
    past = before ++ .did sending :: (since ++ [.arrived bytes sender]) ∧
    Session.SentFirst request (deeds before) sending.deed (deeds since) act.before ∧
    sender.same client = true ∧ Packet.decode bytes = .ok p ∧ reply = p.toDraft

/-- The life of a transfer goes on from its request, and in order. -/
structure InOrder (client : Address) (request : Draft) (life : List Occurrence)
    (sent : List (Time × Datagram)) (t : Transfer) : Prop where
  /-- the acts lead from the session of the request to that of the transfer -/
  course : Session.Course (Session.start client request).value (acts life) t.session
  /-- what the acts send was sent to the client, at the same time and in the same order -/
  sends : (Log.sendings client (deeds life)).Sublist sent
  /-- nothing is kept for later -/
  queue : t.connection.queue = []
  /-- every packet is read in time -/
  read : ∀ past act later, life = past ++ .did act :: later → ∀ reply,
    act.deed.reply? = some reply → ReadInTime client request past act reply
  /-- what leads on is an acknowledgement of what is exchanged -/
  acknowledged : ∀ past act later, life = past ++ .did act :: later → act.GoesOn →
    ∃ goal x reply, act.before.phase = .exchanging goal x ∧ act.deed.reply? = some reply ∧
      reply.IsAck x.block

/-- Where the deeds are split, the life can be split. -/
theorem exists_of_deeds_eq {before since : Log} {d : Deed}
    (h : deeds life = before ++ d :: since) :
    ∃ l act m, life = l ++ .did act :: m ∧ deeds l = before ∧ act.deed = d ∧ deeds m = since := by
  obtain ⟨l, m, hacts, rfl, hm⟩ := List.map_eq_append_iff.mp h
  obtain ⟨act, m', rfl, rfl, rfl⟩ := List.map_eq_cons_iff.mp hm
  obtain ⟨l₁, l₂, rfl, rfl, hl₂⟩ := List.filterMap_eq_append_iff.mp hacts
  obtain ⟨l₃, o, l₄, rfl, hnone, ho, rfl⟩ := List.filterMap_eq_cons_iff.mp hl₂
  have hdid : o = .did act := by
    cases o with
    | arrived => cases ho
    | did act' =>
      cases ho
      rfl
  refine ⟨l₁ ++ l₃, act, l₄, ?_, ?_, rfl, rfl⟩
  · rw [hdid, List.append_assoc]
  · rw [deeds, acts_append, acts, acts, List.filterMap_eq_nil_iff.mpr hnone, List.append_nil]

/-- Each act of a life is a step of the session, from where the acts before it led. -/
theorem run_of_course {s t : Session} {before later : List Occurrence} {act : Session.Act}
    (h : Session.Course s (acts (before ++ .did act :: later)) t) :
    Session.Run s (deeds before) act.before ∧ act.before.Step act.deed act.after := by
  rw [acts_append] at h
  obtain ⟨hcourse, hstep⟩ := h.of_append_cons
  exact ⟨hcourse.run, hstep⟩

/-- A packet that has just arrived is read in time. -/
theorem JustArrived.readInTime {request reply : Draft} {peer : Address}
    {before : List Occurrence} {act : Session.Act} (h : JustArrived client before reply)
    (run : Session.Run (Session.start peer request).value (deeds before) act.before)
    (hstep : act.before.Step act.deed act.after) (hreply : act.deed.reply? = some reply) :
    ReadInTime client request before act reply := by
  obtain ⟨earlier, bytes, sender, p, rfl, hsame, hdecode, rfl⟩ := h
  obtain ⟨wait, now, hdeed⟩ := Deed.exists_received hreply
  rw [hdeed] at hstep
  obtain ⟨log, d, since, hdeeds, hfirst⟩ := run.exists_sentFirst hstep
  have hearlier : deeds earlier = log ++ d :: since := by
    rw [← hdeeds, deeds, deeds, acts_append, acts_arrived, acts_nil, List.append_nil]
  obtain ⟨l, sending, m, rfl, rfl, rfl, rfl⟩ := exists_of_deeds_eq hearlier
  refine ⟨l, sending, m, bytes, sender, p, ?_, hfirst, hsame, hdecode, rfl⟩
  rw [List.append_assoc]
  rfl

/-- **Acknowledgements are read in order.** Let all backends answer at once, and let whatever
requests and datagrams come from anyone at any time, also while transports stop, writes fail and
other backends are set. Then every packet that the session of a transfer reads came in a datagram
that has just arrived from its client, and the packet that the session exchanges had been sent for
the first time before that. An act that leads from there to the next block or to the completion has
read the acknowledgement of that packet. Nothing that arrived is kept for later. -/
theorem reads_in_order (backend : Option Backend) (files : FileSystem) (clock : Time)
    (inputs : List Input) (hprompt : ∀ b, b = backend ∨ .setBackend b ∈ inputs →
      Backend.IsPrompt b) {i : Nat} {t : Transfer}
    (ht : (run { backend, files, clock } inputs).2.transfers[i]? = some t) :
    ∃ bytes request, .request bytes t.connection.peer ∈ inputs ∧
      Packet.decode bytes = .ok request ∧
      InOrder t.connection.peer request.toDraft
        (Dispatcher.life { backend, files, clock } i inputs)
        (sendings (history { backend, files, clock } inputs) i) t := by
  have hgood : Good [] { backend, files, clock } := good_new backend files clock
  have hunborn : Lived [] [] ({ backend, files, clock } : Dispatcher).transfers[i]? := .unborn
  have hlived := hgood.lived_run hunborn inputs
  have hattentive := hgood.attentive_run rfl hunborn (fun t ht => by cases ht) inputs hprompt t ht
  rw [ht] at hlived
  obtain ⟨bytes, request, hmem, hdecode, hcourse⟩ := hlived.exists_request
  refine ⟨bytes, request, hmem, hdecode, hcourse, hgood.sendings_life inputs ht,
    hattentive.queue, ?_, ?_⟩
  · intro past act later hlife reply hreply
    rw [List.nil_append, hlife] at hcourse
    obtain ⟨run, hstep⟩ := run_of_course hcourse
    exact (hattentive.reads past act later hlife reply hreply).readInTime run hstep hreply
  · intro past act later hlife hon
    rw [List.nil_append, hlife] at hcourse
    obtain ⟨run, hstep⟩ := run_of_course hcourse
    exact run.isAck_of_goesOn hstep hon

/-- The acknowledgement of the second block comes before that of the first. -/
theorem reads_in_order_tooEarly :
    let d : Dispatcher := { backend := some (.constant (List.replicate 513 0)) }
    let inputs : List Input :=
      [.request [0, 1, 102, 0, 111, 99, 116, 101, 116, 0] (.text "client"),
        .arrive 0 [0, 4, 0, 2] none, .arrive 0 [0, 4, 0, 1] none]
    (∀ b, b = d.backend ∨ .setBackend b ∈ inputs → Backend.IsPrompt b) ∧
      ∃ t, (d.run inputs).2.transfers[0]? = some t ∧
        ∃ bytes request, .request bytes t.connection.peer ∈ inputs ∧
          Packet.decode bytes = .ok request ∧
          InOrder t.connection.peer request.toDraft (d.life 0 inputs)
            (sendings (d.history inputs) 0) t := by
  intro d inputs
  have hprompt : ∀ b, b = d.backend ∨ .setBackend b ∈ inputs → Backend.IsPrompt b := by
    intro b hb
    obtain rfl : b = d.backend := by simpa [inputs] using hb
    intro files peer filename file h
    cases h
  -- the transfer is there after the request, and stays
  let first := inputs.take 1
  have hlength : 0 < (d.run first).2.transfers.length := by
    let t := newcomer (.readRequest ⟨[102], octetMode, []⟩) (.text "client")
    obtain ⟨s, -, -, hafter⟩ := exists_opens (d.extend t) 0 t
    have hwelcome : (d.run first).2 = (d.welcome (some (t, s))).2 := hafter
    rw [hwelcome, length_welcome]
    exact Nat.one_pos
  obtain ⟨t, ht, -⟩ := ((good_new d.backend d.files d.clock).run first).exists_run
    (List.getElem?_eq_getElem hlength) (inputs.drop 1)
  exact ⟨hprompt, t, ht, reads_in_order _ _ _ inputs hprompt ht⟩

end Dispatcher

end Tftp
