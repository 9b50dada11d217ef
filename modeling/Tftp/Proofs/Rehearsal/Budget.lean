import Tftp.Proofs.Rehearsal.Run
import Tftp.Proofs.Session.Budget

/-!
# Rehearsals end within their budget

A rehearsal is over whatever its channel answers, and a file with some content is read from and sent
in no more than the reads and packets that its session may spend on it.

* `Backend.Answer.Supplies` — the file that is asked for has a content, or it is not there;
* `Transcript.reads` — how often a file was seen to be read from;
* `Rehearsal.Plays` — a rehearsal on its way, with the log of its session;
* `Rehearsal.ends_within_budget` — the main theorem.

What a session spends is bounded by what it reads in all (`Session.Trail.within`). What is added
here is that it cannot read more than there is.

The rehearsal itself is a recursion that ends by definition, so that it is no question whether it
comes to an end. What has to be shown is that at its end there is a result, which needs that the
backend has answered, and that little was read and sent on the way.
-/

namespace Tftp

/-- How often a file was read from. -/
def Transcript.reads (t : Transcript) : Nat :=
  t.events.countP Event.isRead

@[simp] theorem Transcript.reads_empty : Transcript.reads {} = 0 := rfl

@[simp] theorem Transcript.reads_add (t : Transcript) (events : List Event)
    (notices : List Notice) :
    (t.add events notices).reads = t.reads + events.countP Event.isRead := by
  simp [reads, add, Nat.add_comm]

/-- A backend answers at once: it fails, or it opens a file with a content. The file may fail as
well. -/
inductive Backend.Answer.Supplies (content : Bytes) : Backend.Answer → Prop
  /-- the file is not there -/
  | failure (f : Fault) : Supplies content (.failure f)
  /-- the file has the content -/
  | file {file : File} (h : file.source = .content content) : Supplies content (.file file)

/-- A content is parted by a read. -/
theorem File.Source.exists_take_content (n : Int) (rest : Bytes) :
    ∃ front back, take n (content rest) = (front, content back) ∧ front ++ back = rest := by
  rw [take]
  split
  · exact ⟨rest, [], rfl, List.append_nil rest⟩
  · rw [List.splitAt_eq]
    exact ⟨rest.take n.toNat, rest.drop n.toNat, rfl, List.take_append_drop n.toNat rest⟩

/-- A read gives the front of what is left, or it fails and leaves everything. So what was read so
far and what is left are always the content, or a front of it. -/
theorem File.exists_left_of_read {file : File} {rest : Bytes} (h : file.source = .content rest)
    (n : Int) : ∃ left, (file.read n).2.source = .content left ∧
      (Deed.fetched n (file.read n).1).payload ++ left = rest := by
  obtain ⟨front, back, htake, hrest⟩ := Source.exists_take_content n rest
  rw [read]
  split
  · exact ⟨rest, h, rfl⟩
  · simp only [h, htake]
    exact ⟨back, rfl, hrest⟩

namespace Session

/-- Only the session of a request with a file name asks for a file. -/
theorem exists_filename_of_start {peer : Address} {request : Draft} {filename : String}
    {options : Option Options} (hp : (start peer request).value.phase = .opening filename options) :
    ∃ name ∈ request.filename, filename = Bytes.toText name := by
  rw [start] at hp
  split at hp
  · cases hp
  · dsimp only at hp
    split at hp
    · split at hp
      · cases hp
      · next name hname =>
        cases hp
        exact ⟨name, hname, rfl⟩
    · split at hp <;> cases hp

theorem peer_start (peer : Address) (request : Draft) : (start peer request).value.peer = peer := by
  rw [start]
  split
  · rfl
  · dsimp only
    split
    · split <;> rfl
    · split <;> rfl

end Session

/-! ## What a transcript shows

A transcript has more than a log, such as what a backend has noted down. What it has in common with
the log are the packets and the reads. -/

/-- Events show a deed: a packet that it wrote, and a read from the file. -/
structure Deed.IsShown (d : Deed) (events : List Event) : Prop where
  sent_eq : events.filterMap Event.sent? = Log.packets [d]
  reads_eq : events.countP Event.isRead = Log.reads [d]

theorem Channel.isShown_send (c : Channel) (packet : Draft) :
    (Deed.sent packet (c.send packet).1).IsShown [(c.send packet).2.1] where
  sent_eq := c.sent?_send packet
  reads_eq := by
    rw [send]
    split <;> rfl

theorem Channel.isShown_receive (c : Channel) (wait : Time) :
    (Deed.received wait (c.receive wait).1).IsShown [(c.receive wait).2.1] where
  sent_eq := c.sent?_receive wait
  reads_eq := by
    rw [receive]
    split <;> rfl

namespace Rehearsal

/-- The answer of a backend is no read, and nothing is sent for it. -/
theorem isShown_openFile? (files : FileSystem) (peer : Address) (filename : String)
    (backend : Option Backend) (answer : Except Fault Unit) :
    (Deed.opened filename answer).IsShown
      (Backend.openFile? files peer filename backend).events where
  sent_eq := sent?_openFile? files peer filename backend
  reads_eq := by
    rw [List.countP_eq_zero.mpr]
    · rfl
    · intro e he
      rw [(quiet_openFile? files peer filename backend e he).2]
      exact Bool.false_ne_true

/-! ## Rehearsals on their way

The invariant is about the log: it is that of the session, its packets and reads are those of the
transcript, and what it read is the front of the content of which the file has the rest. -/

/-- A rehearsal on its way, with the log of its session. -/
structure Plays (request : Draft) (content : Bytes) (log : Log) (r : Rehearsal) : Prop where
  trail : Session.Trail request log r.session
  supplies : ∀ filename options, r.session.phase = .opening filename options →
    (Backend.openFile? r.files r.session.peer filename r.backend).answer.Supplies content
  waiting_eq : r.waiting = false
  -- an empty file stands in for the one that is not opened yet, so this is no equation
  exists_left : ∃ left, r.file.source = .content left ∧ log.content ++ left <+: content
  sent_eq : r.transcript.sent = log.packets
  reads_eq : r.transcript.reads = log.reads

variable {peer : Address} {request : Draft} {content : Bytes} {log : Log} {r t : Rehearsal}
  {d : Deed}

/-- A rehearsal is played from the beginning, where nothing was done. -/
theorem plays_start {backend : Option Backend} {files : FileSystem} (channel : Channel)
    (h : ∀ name ∈ request.filename,
      (Backend.openFile? files peer (Bytes.toText name) backend).answer.Supplies content) :
    (start peer request backend files channel).Plays request content [] where
  trail := Session.trail_start peer request
  supplies := by
    intro filename options hp
    obtain ⟨name, hname, rfl⟩ := Session.exists_filename_of_start hp
    have hpeer : (start peer request backend files channel).session.peer = peer :=
      Session.peer_start peer request
    rw [hpeer]
    exact h name hname
  waiting_eq := rfl
  exists_left := ⟨[], rfl, List.nil_prefix⟩
  sent_eq := by simp [start, Log.packets, Log.writings]
  reads_eq := by simp [start, Log.reads]

/-- A rehearsal goes on with a deed that its transcript shows. The file is not asked for again. -/
theorem Plays.of_deed (h : r.Plays request content log) (hs : r.session.Step d t.session)
    {events : List Event} (hevents : t.transcript.events = events.reverse ++ r.transcript.events)
    (hshown : d.IsShown events) (hwaiting : t.waiting = false)
    (hleft : ∃ left, t.file.source = .content left ∧ log.content ++ d.payload ++ left <+: content) :
    t.Plays request content (log ++ [d]) where
  trail := h.trail.step hs
  supplies := by
    intro filename options hp
    have hlog := (h.trail.step hs).log_eq_nil hp
    simp at hlog
  waiting_eq := hwaiting
  exists_left := by
    have hcontent : Log.content [d] = d.payload := List.append_nil _
    rw [Log.content_append, hcontent]
    exact hleft
  sent_eq := by
    rw [Log.packets_append, ← h.sent_eq, ← hshown.sent_eq, Transcript.sent, hevents]
    simp [Transcript.sent]
  reads_eq := by
    rw [Log.reads_append, ← h.reads_eq, ← hshown.reads_eq, Transcript.reads, hevents]
    simp [Transcript.reads, Nat.add_comm]

/-- A deed other than a read leaves the file as it is. -/
theorem Plays.left_of_payload (h : r.Plays request content log) (hd : d.payload = []) :
    ∃ left, r.file.source = .content left ∧ log.content ++ d.payload ++ left <+: content := by
  rw [hd, List.append_nil]
  exact h.exists_left

/-- The backend answers at once, and a file that it opens has the content. -/
theorem Plays.openFile (h : r.Plays request content log) {filename : String}
    {resume : Except Fault Unit → Noted Session} (hc : r.session.call = .openFile filename resume) :
    ∃ d, (r.openFile filename resume).Plays request content (log ++ [d]) := by
  obtain ⟨options, hp⟩ := Session.exists_phase_of_openFile hc
  have hsupplies := h.supplies filename options hp
  have hshown := isShown_openFile? r.files r.session.peer filename r.backend
  rw [Rehearsal.openFile]
  generalize Backend.openFile? r.files r.session.peer filename r.backend = o at hsupplies hshown ⊢
  obtain ⟨events, notices, answer⟩ := o
  cases hsupplies with
  | failure f =>
    exact ⟨_, h.of_deed (.opened hc (.error f)) rfl (hshown _) h.waiting_eq (h.left_of_payload rfl)⟩
  | @file file hfile =>
    refine ⟨_, h.of_deed (.opened hc (.ok ())) rfl (hshown _) h.waiting_eq ⟨content, hfile, ?_⟩⟩
    -- nothing was read before the file was there
    rw [h.trail.log_eq_nil hp]
    exact List.prefix_rfl

/-- Every step is a deed, and only a read takes from what is left of the file. There is one case
for each call of the session; where the backend is asked, the file that it gives has the whole
content. -/
theorem Plays.step (h : r.Plays request content log) (ht : r.step = some t) :
    ∃ d, t.Plays request content (log ++ [d]) := by
  rw [Rehearsal.step] at ht
  split at ht
  · next hc =>
    rw [if_neg (h.waiting_eq ▸ Bool.false_ne_true)] at ht
    obtain rfl := Option.some.inj ht
    exact h.openFile hc
  · next size resume hc =>
    obtain rfl := Option.some.inj ht
    obtain ⟨left, hsource, hleft⟩ := h.exists_left
    obtain ⟨left', hsource', hread⟩ := File.exists_left_of_read hsource size
    refine ⟨_, h.of_deed (.fetched hc (r.file.read size).1) rfl ⟨rfl, rfl⟩ h.waiting_eq
      ⟨left', hsource', ?_⟩⟩
    rw [List.append_assoc, hread]
    exact hleft
  · next resume hc =>
    obtain rfl := Option.some.inj ht
    exact ⟨_, h.of_deed (.closed hc r.file.close) rfl ⟨rfl, rfl⟩ h.waiting_eq
      (h.left_of_payload rfl)⟩
  · next packet resume hc =>
    simp only [Option.some.injEq] at ht
    subst ht
    exact ⟨_, h.of_deed (.sent hc (r.channel.send packet).1) rfl (r.channel.isShown_send packet)
      h.waiting_eq (h.left_of_payload rfl)⟩
  · next wait resume hc =>
    simp only [Option.some.injEq] at ht
    subst ht
    exact ⟨_, h.of_deed (.received hc (r.channel.receive wait).1) rfl
      (r.channel.isShown_receive wait) h.waiting_eq (h.left_of_payload rfl)⟩
  · cases ht

/-- A rehearsal that can do nothing more has a result. -/
theorem Plays.exists_result (h : r.Plays request content log) (ht : r.step = none) :
    ∃ result, r.result? = some result := by
  rw [Rehearsal.step] at ht
  split at ht
  · rw [if_neg (h.waiting_eq ▸ Bool.false_ne_true)] at ht
    cases ht
  case h_6 result hc =>
    refine ⟨result, ?_⟩
    rw [result?, Session.phase_of_finished hc]
  all_goals cases ht

/-- **A rehearsal is played to its end.** The induction is that of the run itself, which stops where
there is no next step. -/
theorem Plays.run (h : r.Plays request content log) :
    ∃ log', r.run.Plays request content log' ∧ ∃ result, r.run.result? = some result := by
  fun_induction Rehearsal.run r generalizing log with
  | case1 r ht => exact ⟨log, h, h.exists_result ht⟩
  | case2 r t ht ih =>
    obtain ⟨d, hd⟩ := h.step ht
    exact ih hd

/-- **A rehearsal ends within its budget**, whatever is asked for and whatever the channel answers.
It reads a file with some content no more often than there are full blocks in it, and once. It
exchanges a packet for each read and one before, in three copies at most, and reports one error. -/
theorem ends_within_budget {backend : Option Backend} {files : FileSystem} (channel : Channel)
    (h : ∀ name ∈ request.filename,
      (Backend.openFile? files peer (Bytes.toText name) backend).answer.Supplies content) :
    let r := (start peer request backend files channel).run
    (∃ result, r.result? = some result) ∧
      r.transcript.reads ≤ content.length / r.session.size + 1 ∧
      r.transcript.sent.countP (fun packet => !packet.isError) ≤
        3 * (content.length / r.session.size + 2) ∧
      r.transcript.sent.countP Draft.isError ≤ 1 := by
  intro r
  obtain ⟨log, hplays, hresult⟩ := (plays_start channel h).run
  have hwithin := hplays.trail.within
  obtain ⟨left, -, hleft⟩ := hplays.exists_left
  have hlength : log.content.length ≤ content.length :=
    ((List.prefix_append _ left).trans hleft).length_le
  have hreads : log.reads ≤ content.length / r.session.size + 1 :=
    hwithin.reads_le_div r.session.size_pos hlength
  refine ⟨hresult, ?_, ?_, ?_⟩
  · rw [hplays.reads_eq]
    exact hreads
  · rw [hplays.sent_eq]
    exact hwithin.transferred_le.trans (Nat.mul_le_mul_left _ (Nat.add_le_add_right hreads 1))
  · rw [hplays.sent_eq]
    exact hwithin.reported_le

/-- Every packet comes back many times, and is never acknowledged. -/
def flooding : Channel where
  respond _ packet := List.replicate 100 ⟨0, .ok packet⟩

/-- With a hundred replies to each write there is much to discard, and no more to send. -/
theorem ends_within_budget_flooding :
    let request := (Packet.readRequest ⟨[102], octetMode, []⟩).toDraft
    let backend := some (Backend.constant [1, 2, 3])
    let r := (start .null request backend .empty flooding).run
    (∀ name ∈ request.filename,
      (Backend.openFile? .empty .null (Bytes.toText name) backend).answer.Supplies [1, 2, 3]) ∧
      (∃ result, r.result? = some result) ∧ r.transcript.reads ≤ 1 ∧
      r.transcript.sent.countP (fun packet => !packet.isError) ≤ 6 ∧
      r.transcript.sent.countP Draft.isError ≤ 1 := by
  intro request backend r
  have h : ∀ name ∈ request.filename,
      (Backend.openFile? .empty .null (Bytes.toText name) backend).answer.Supplies [1, 2, 3] :=
    fun _ _ => .file rfl
  obtain ⟨hresult, hreads, hsent, hreported⟩ := ends_within_budget flooding h
  -- a block has eight bytes at least, so there is no full one
  have hsize : 8 ≤ r.session.size := by
    have := (r.session.valid .blockSize).1
    simp only [Negotiable.least, Terms.get] at this
    rw [Session.size]
    omega
  have hdiv : 3 / r.session.size ≤ 0 :=
    Nat.le_of_eq (Nat.div_eq_of_lt (Nat.lt_of_lt_of_le (by decide) hsize))
  refine ⟨h, hresult, hreads.trans (Nat.add_le_add_right hdiv 1), hsent.trans ?_, hreported⟩
  exact Nat.mul_le_mul_left 3 (Nat.add_le_add_right hdiv 2)

end Rehearsal

end Tftp
