import Tftp.Proofs.Session.Copies

/-!
# What a read request delivers

A session serves a read request from a file that is read to its end. Nothing is assumed of the
backend, of the writer and of what is received. Whenever one looks, the data packets that were
written are the first blocks of the content, each written some times in a row.

* `Session.Delivers` — the invariant, one case for each phase of the session;
* `Session.Delivers.step` — each step keeps it, and begins a block only after the acknowledgement of
  the block before;
* `Session.Run.delivers` — so it holds at the end of every run.

The main theorem is `Session.delivers_blocks`. An exchange counts the copies of its packet, and the
invariant ties that count to the block that stands there.

What is received plays a part in one place only: an exchange ends with a reply only if that is the
acknowledgement of its block. A reply that is stale, doubled or no acknowledgement leaves the
exchange waiting, and what comes of a timeout is one copy more of the same block. So the blocks of a
file cannot get out of order, however the channel treats them.
-/

namespace Tftp

/-! ## The invariant

The number of a block is its place in the content plus one, and on the wire that number wraps
around. The invariant counts blocks by the list of their copies, which does not wrap, and so has no
trouble with files of more than 65535 blocks. -/

namespace Session

/-- A session that is to end as a completed transfer. -/
def Phase.Completed (p : Phase) : Prop :=
  p = .closing (.ok .completed) ∨ p = .ended (.ok .completed)

/-- How the log of a session and its phase hang together while a content is transferred. -/
inductive Delivers (content : Bytes) (log : Log) (s : Session) : Prop where
  /-- nothing was written -/
  | opening {filename : String} {options : Option Options}
      (hp : s.phase = .opening filename options) (hdata : log.data = [])
      (hrest : log.rest content = content)
  /-- the options are acknowledged, with no data packet -/
  | agreeing {packet : Draft} {x : Exchange} {n : Nat} (hp : s.phase = .exchanging .agreement x)
      (hx : x.Tried packet 0 n) (hpacket : packet.opcode ≠ some Opcode.data.bytes)
      (hdata : log.data = []) (hrest : log.rest content = content)
  /-- the blocks so far were acknowledged, and there is one more -/
  | fetching {counts : List Nat} (hp : s.phase = .fetching (.ofNat (counts.length + 1)))
      (hcopies : log.Copies s.size content counts) (hle : counts.length ≤ content.length / s.size)
      (hrest : log.rest content = content.drop (counts.length * s.size))
      (hacked : 1 ≤ counts.length → log.Acked counts.length)
  /-- the next block was read and not written yet -/
  | beginning {counts : List Nat} {last : Bool} {x : Exchange}
      (hp : s.phase = .exchanging (.block (.ofNat (counts.length + 1)) last) x)
      (hx : x.Tried (Bytes.block s.size content (counts.length + 1))
        ((counts.length + 1) % 65536 : Nat) 0)
      (hcopies : log.Copies s.size content counts)
      (hread : log.HasRead s.size content counts.length last)
      (hacked : 1 ≤ counts.length → log.Acked counts.length)
  /-- the next block was written, so many times -/
  | repeating {counts : List Nat} {last : Bool} {x : Exchange} {n : Nat}
      {before : Log} {d : Deed} {between : Log}
      (hp : s.phase = .exchanging (.block (.ofNat (counts.length + 1)) last) x)
      (hx : x.Tried (Bytes.block s.size content (counts.length + 1))
        ((counts.length + 1) % 65536 : Nat) n)
      (hcopies : log.Copies s.size content (counts ++ [n]))
      (hread : log.HasRead s.size content counts.length last)
      (hlog : log = before ++ d :: between) (hbegins : Log.Begins (counts.length + 1) before d)
  /-- nothing is written any more -/
  | finished {counts : List Nat} (hp : s.phase.stage = 0)
      (hcopies : log.Copies s.size content counts)
      (hdone : s.phase.Completed → counts.length = content.length / s.size + 1)

variable {content : Bytes} {log : Log} {s t : Session} {d : Deed}

/-- A session without a block written, on its way to an end that is no completion. -/
theorem delivers_abandoned {p : Phase} (hstage : p.stage = 0) (hp : ¬ p.Completed)
    {counts : List Nat} (h : log.Copies s.size content counts) :
    Delivers content log (s.enter p) :=
  .finished hstage h fun hc => absurd hc hp

theorem not_completed_reporting (code : ErrorCode) (message : Bytes) (fileOpen : Bool) :
    ¬ (Phase.reporting code message fileOpen).Completed := by
  rintro (h | h) <;> cases h

/-- A session that closes its file is to complete only if that is its result. -/
theorem not_completed_closing {result : Except Fault Outcome} (h : result ≠ .ok .completed) :
    ¬ (Phase.closing result).Completed := by
  rintro (hc | hc)
  · injection hc with hc
    exact h hc
  · cases hc

/-- Without an answer to its packet a session does not complete. -/
theorem Followed.delivers_of_error {goal : Goal} {f : Fault} {counts : List Nat}
    (h : Followed s goal (.ended (.error f)) t) (hcopies : log.Copies s.size content counts) :
    Delivers content log t := by
  cases h with
  | timedOut => exact delivers_abandoned rfl (not_completed_closing nofun) hcopies
  | unreadable => exact delivers_abandoned rfl (not_completed_closing nofun) hcopies
  | failed => exact delivers_abandoned rfl (not_completed_closing nofun) hcopies

/-- While an exchange goes on the session waits for its end, and without an answer the session does
not complete. -/
theorem Followed.delivers_of_tried {goal : Goal} {next : Exchange.Next} {packet : Draft}
    {block : Int} {n : Nat} {counts : List Nat} (h : Followed s goal next t)
    (hnext : next.Tried packet block n) (hcopies : log.Copies s.size content counts)
    (hgoing : ∀ x : Exchange, x.Tried packet block n →
      Delivers content log (s.enter (.exchanging goal x))) : Delivers content log t := by
  cases hnext with
  | going hx =>
    cases h
    exact hgoing _ hx
  | failed f => exact h.delivers_of_error hcopies

/-- After the answer of the backend nothing was written still. -/
theorem Opened.delivers {options : Option Options} {answer : Except Fault Unit}
    (h : Opened s options answer t) (hdata : log.data = []) (hrest : log.rest content = content) :
    Delivers content log t := by
  have hcopies (n : Nat) : log.Copies n content [] := Log.copies_of_data_eq_nil n content hdata
  cases h with
  | refused => exact delivers_abandoned rfl (not_completed_reporting _ _ _) (hcopies _)
  | incomplete => exact delivers_abandoned rfl (not_completed_closing nofun) (hcopies _)
  | rejected => exact delivers_abandoned rfl (not_completed_reporting _ _ _) (hcopies _)
  | failed => exact delivers_abandoned rfl (not_completed_closing nofun) (hcopies _)
  | passedOver =>
    refine @Delivers.fetching _ _ _ [] rfl (hcopies _) (Nat.zero_le _) ?_ ?_
    · simpa using hrest
    · intro hpos
      cases hpos
  -- the first packet is no data packet
  | agreed =>
    refine .agreeing rfl (Exchange.tried_start ..) ?_ hdata hrest
    simp [Packet.opcode, Opcode.bytes]

/-! ## One step

Only a data packet that is new can begin a block, so in every other case the second half of a step
lemma is `Log.ackedFirst_of_begun`. -/

/-- While the options are acknowledged no data packet is written. So the first block is still to be
begun when the exchange ends, and the whole content is still to be read. -/
theorem delivers_agreeing {packet : Draft} {x : Exchange} {n : Nat} {next : Exchange.Next}
    (hx : x.Tried packet 0 n) (hpacket : packet.opcode ≠ some Opcode.data.bytes)
    (hdata : log.data = []) (hrest : log.rest content = content) (h : x.Step d next)
    (hf : Followed s .agreement next t) :
    Delivers content (log ++ [d]) t ∧ log.AckedFirst d := by
  have hd : d.data? = none := by
    cases h.tries hx with
    | copied => simp [Deed.data?, hpacket]
    | quiet hd => exact hd
    | answered => rfl
  have hdata' : (log ++ [d]).data = [] := by
    rw [Log.data_append, hdata]
    simp [Log.data, hd]
  have hrest' : (log ++ [d]).rest content = content := by
    rw [Log.rest_concat, hrest, h.rest]
  have hcopies (n : Nat) := Log.copies_of_data_eq_nil n content hdata'
  refine ⟨?_, Log.ackedFirst_of_begun (Log.begun_concat_of_none hd)⟩
  cases h.tries hx with
  | copied _ hnext =>
    refine hf.delivers_of_tried hnext (hcopies _) ?_
    exact fun y hy => .agreeing rfl hy hpacket hdata' hrest'
  | quiet _ hnext =>
    refine hf.delivers_of_tried hnext (hcopies _) ?_
    exact fun y hy => .agreeing rfl hy hpacket hdata' hrest'
  | answered =>
    cases hf
    refine @Delivers.fetching _ _ _ [] rfl (hcopies _) (Nat.zero_le _) ?_ ?_
    · simpa using hrest'
    · intro hpos
      cases hpos

/-- What is read for a block is written as that block. The read gives the front of what is left of
the content, which is the payload of the next block, and it is shorter than a full block just for
the last one. -/
theorem delivers_fetched {counts : List Nat} {answer : Except Fault Bytes}
    (hcopies : log.Copies s.size content counts) (hle : counts.length ≤ content.length / s.size)
    (hrest : log.rest content = content.drop (counts.length * s.size))
    (hacked : 1 ≤ counts.length → log.Acked counts.length)
    (hreads : answer = .ok ((log.rest content).take s.size)) :
    Delivers content (log ++ [.fetched s.terms.blockSize answer])
      (s.fetched (.ofNat (counts.length + 1)) answer).value := by
  have hnumber : ((UInt16.ofNat (counts.length + 1)).toNat : Int) =
      ((counts.length + 1) % 65536 : Nat) := by
    rw [UInt16.toNat_ofNat']
  subst hreads
  rw [hrest]
  -- the exchange starts with no copy written
  refine .beginning rfl ?_ (hcopies.quiet rfl) ⟨hle, ?_, ?_⟩ ?_
  · rw [← hnumber]
    exact Bytes.block_succ s.size content counts.length ▸ Exchange.tried_start ..
  · rw [decide_eq_true_eq, s.blockSize_eq, Int.ofNat_lt]
    exact Bytes.length_take_drop_lt_iff s.size_pos hle
  · rw [Log.rest_concat, hrest, Nat.add_mul, Nat.one_mul]
    exact List.drop_drop
  · intro hpos
    exact (hacked hpos).concat _

/-- The exchange of a block that was not written yet. Its first copy begins the block, and for this
one step it matters that the block before was acknowledged. What was received since then has not
ended the exchange, for there was none to end. -/
theorem delivers_beginning {counts : List Nat} {last : Bool} {x : Exchange} {next : Exchange.Next}
    (hx : x.Tried (Bytes.block s.size content (counts.length + 1))
      ((counts.length + 1) % 65536 : Nat) 0)
    (hcopies : log.Copies s.size content counts)
    (hread : log.HasRead s.size content counts.length last)
    (hacked : 1 ≤ counts.length → log.Acked counts.length) (h : x.Step d next)
    (hf : Followed s (.block (.ofNat (counts.length + 1)) last) next t) :
    Delivers content (log ++ [d]) t ∧ log.AckedFirst d := by
  have hread' := hread.exchanged h
  have hlog : log ++ [d] = log ++ d :: [] := rfl
  cases h.tries hx with
  | @copied now _ hn hnext =>
    have hcopies' := hcopies.begin hread.le (Deed.data?_block s.size content _ now)
    have hbegun := hcopies'.begun_eq
    rw [List.length_append, List.length_singleton] at hbegun
    have hbegins : Log.Begins (counts.length + 1) log _ :=
      ⟨Nat.lt_succ_of_le hcopies.begun_eq.le, hbegun⟩
    constructor
    · refine hf.delivers_of_tried hnext hcopies' fun y hy => ?_
      exact .repeating rfl hy hcopies' hread' hlog hbegins
    · -- this copy begins the block, and the one before was acknowledged since it was begun
      rintro k hpos ⟨-, hk⟩
      obtain rfl : counts.length = k := by omega
      exact hacked hpos
  | quiet hd hnext =>
    have hcopies' := hcopies.quiet hd
    refine ⟨?_, Log.ackedFirst_of_begun (Log.begun_concat_of_none hd)⟩
    refine hf.delivers_of_tried hnext hcopies' fun y hy => ?_
    exact .beginning rfl hy hcopies' hread' fun hpos => (hacked hpos).concat d
  | answered hpos => cases hpos

/-- The exchange of a block that was written already. A copy more counts for the same block and
begins none. The acknowledgement ends the exchange, and then the block was the last or there is one
after it. -/
theorem delivers_repeating {counts : List Nat} {last : Bool} {x : Exchange} {n : Nat}
    {next : Exchange.Next} {before : Log} {e : Deed} {between : Log}
    (hx : x.Tried (Bytes.block s.size content (counts.length + 1))
      ((counts.length + 1) % 65536 : Nat) n)
    (hcopies : log.Copies s.size content (counts ++ [n]))
    (hread : log.HasRead s.size content counts.length last)
    (hlog : log = before ++ e :: between) (hbegins : Log.Begins (counts.length + 1) before e)
    (h : x.Step d next) (hf : Followed s (.block (.ofNat (counts.length + 1)) last) next t) :
    Delivers content (log ++ [d]) t ∧ log.AckedFirst d := by
  have hread' := hread.exchanged h
  have hlog' : log ++ [d] = before ++ e :: (between ++ [d]) := by
    rw [hlog, List.append_assoc, List.cons_append]
  have hlength (m : Nat) : (counts ++ [m]).length = counts.length + 1 := by simp
  cases h.tries hx with
  | @copied now _ hn hnext =>
    have hcopies' := hcopies.again hread.le hn (Deed.data?_block s.size content _ now)
    constructor
    · refine hf.delivers_of_tried hnext hcopies' fun y hy => ?_
      exact .repeating rfl hy hcopies' hread' hlog' hbegins
    · apply Log.ackedFirst_of_begun
      rw [hcopies'.begun_eq, hcopies.begun_eq, hlength, hlength]
  | quiet hd hnext =>
    have hcopies' := hcopies.quiet hd
    refine ⟨?_, Log.ackedFirst_of_begun (Log.begun_concat_of_none hd)⟩
    refine hf.delivers_of_tried hnext hcopies' fun y hy => ?_
    exact .repeating rfl hy hcopies' hread' hlog' hbegins
  | @answered wait now reply hpos hack =>
    have hd : (Deed.received wait ⟨.ok reply, now⟩).data? = none := rfl
    have hcopies' := hcopies.quiet hd
    refine ⟨?_, Log.ackedFirst_of_begun (Log.begun_concat_of_none hd)⟩
    cases hf with
    | completed =>
      refine .finished rfl hcopies' fun _ => ?_
      rw [hlength, hread.last_iff.mp rfl]
      rfl
    | continued =>
      have hne : counts.length ≠ content.length / s.size := by
        intro heq
        cases hread.last_iff.mpr heq
      -- the number of the next block wraps as the count of blocks does not
      refine .fetching ?_ hcopies' ?_ ?_ ?_
      · rw [hlength]
        exact congrArg Phase.fetching (UInt16.ofNat_add _ 1).symm
      · rw [hlength]
        exact Nat.lt_of_le_of_ne hread.le hne
      · rw [hlength]
        exact hread'.rest_eq
      · intro _
        rw [hlength]
        exact Log.acked_of_received hlog hbegins hack

/-- A session that is to end writes no data packet, and completes only as it is to end. -/
theorem Step.of_over (h : s.Step d t) (hp : s.phase.stage = 0) :
    d.data? = none ∧ t.phase.stage = 0 ∧ t.size = s.size ∧
      (t.phase.Completed → s.phase.Completed) := by
  cases hs : s.phase with
  | opening => rw [hs] at hp; cases hp
  | exchanging goal => rw [hs] at hp; cases goal <;> cases hp
  | fetching => rw [hs] at hp; cases hp
  | reporting code message fileOpen =>
    obtain ⟨answer, rfl, rfl⟩ := h.of_reporting hs
    rw [value_reported]
    refine ⟨by cases answer <;> rfl, by cases fileOpen <;> rfl, rfl, ?_⟩
    cases fileOpen <;> cases answer <;> rintro (hc | hc) <;> cases hc
  -- a fault of the closing takes the place of a completion
  | closing result =>
    obtain ⟨answer, rfl, rfl⟩ := h.of_closing hs
    rw [value_closed]
    refine ⟨rfl, rfl, rfl, ?_⟩
    rintro (hc | hc)
    · cases hc
    · cases answer with
      | error f => cases hc
      | ok =>
        injection hc with hc
        exact .inl (congrArg Phase.closing hc)
  | ended result => exact absurd h (not_step_of_ended hs)

/-- Each step of a session keeps the invariant, and begins a block only after the acknowledgement of
the block before. There is one case for each phase. The step of a phase that exchanges a packet is
first that of the exchange, which says whether a copy was written, and then that of the session,
which says where this leads. -/
theorem Delivers.step (hs : Delivers content log s) (h : s.Step d t)
    (hreads : d.Reads (log.rest content)) :
    Delivers content (log ++ [d]) t ∧ log.AckedFirst d := by
  cases hs with
  | opening hp hdata hrest =>
    obtain ⟨answer, rfl, rfl⟩ := h.of_opening hp
    refine ⟨(opened_spec s _ _ answer).delivers ?_ ?_, ?_⟩
    · rw [Log.data_append, hdata]
      rfl
    · rw [Log.rest_concat, hrest]
      rfl
    · exact Log.ackedFirst_of_begun (Log.begun_concat_of_none rfl)
  | agreeing hp hx hpacket hdata hrest =>
    obtain ⟨next, hx', rfl⟩ := h.of_exchanging hp
    exact delivers_agreeing hx hpacket hdata hrest hx' (follow_spec s .agreement next)
  | fetching hp hcopies hle hrest hacked =>
    obtain ⟨answer, rfl, rfl⟩ := h.of_fetching hp
    refine ⟨delivers_fetched hcopies hle hrest hacked hreads, ?_⟩
    exact Log.ackedFirst_of_begun (Log.begun_concat_of_none rfl)
  | beginning hp hx hcopies hread hacked =>
    obtain ⟨next, hx', rfl⟩ := h.of_exchanging hp
    exact delivers_beginning hx hcopies hread hacked hx' (follow_spec s _ next)
  | repeating hp hx hcopies hread hlog hbegins =>
    obtain ⟨next, hx', rfl⟩ := h.of_exchanging hp
    exact delivers_repeating hx hcopies hread hlog hbegins hx' (follow_spec s _ next)
  | finished hp hcopies hdone =>
    obtain ⟨hd, hp', hsize, hcompleted⟩ := h.of_over hp
    refine ⟨?_, Log.ackedFirst_of_begun (Log.begun_concat_of_none hd)⟩
    rw [← hsize] at hcopies hdone
    exact .finished hp' (hcopies.quiet hd) fun hc => hdone (hcompleted hc)

/-- The invariant holds at the end of every run, by induction on its steps. What a step begins is
judged with the log before it, so that the rule about blocks is proved along with the invariant and
not from it. -/
theorem Run.delivers {peer : Address} {q : Request}
    (run : Run (Session.start peer (Packet.readRequest q).toDraft).value log s)
    (hreads : log.ReadsFrom content) : Delivers content log s ∧ log.Always Log.AckedFirst := by
  induction run with
  | start => exact ⟨.opening rfl rfl rfl, Log.always_nil _⟩
  | step run h ih =>
    obtain ⟨hlog, hd⟩ := Log.always_concat.mp hreads
    obtain ⟨hs, halways⟩ := ih hlog
    obtain ⟨ht, hacked⟩ := hs.step h hd
    exact ⟨ht, Log.always_concat.mpr ⟨halways, hacked⟩⟩

/-! ## What the invariant shows

At any point of a run the invariant gives some counts, and with them the data packets are the first
blocks, each repeated. -/

/-- At every point the blocks so far were written, each with its copies in a row. -/
theorem Delivers.exists_copies (h : Delivers content log s) :
    ∃ counts, log.Copies s.size content counts ∧
      (s.phase.Completed → counts.length = content.length / s.size + 1) := by
  cases h with
  | opening hp hdata =>
    refine ⟨[], Log.copies_of_data_eq_nil _ _ hdata, ?_⟩
    rw [hp]
    rintro (hc | hc) <;> cases hc
  | agreeing hp hx hpacket hdata =>
    refine ⟨[], Log.copies_of_data_eq_nil _ _ hdata, ?_⟩
    rw [hp]
    rintro (hc | hc) <;> cases hc
  | fetching hp hcopies =>
    refine ⟨_, hcopies, ?_⟩
    rw [hp]
    rintro (hc | hc) <;> cases hc
  | beginning hp hx hcopies =>
    refine ⟨_, hcopies, ?_⟩
    rw [hp]
    rintro (hc | hc) <;> cases hc
  | repeating hp hx hcopies =>
    refine ⟨_, hcopies, ?_⟩
    rw [hp]
    rintro (hc | hc) <;> cases hc
  | finished hp hcopies hdone => exact ⟨_, hcopies, hdone⟩

/-- **A read request delivers its file block by block.** Whatever is received, lost or refused
meanwhile, the data packets that were written are the first blocks of the content when copies in a
row are taken as one. No block has more than three copies, and none after the first is begun before
the acknowledgement of the one before it was received. A transfer that completes has written all
blocks, and their payloads together are the content. -/
theorem delivers_blocks {peer : Address} {q : Request}
    (run : Run (Session.start peer (Packet.readRequest q).toDraft).value log s)
    (hreads : log.ReadsFrom content) :
    collapse log.data <+: Bytes.blocks s.size content ∧
      (∀ r ∈ runs log.data, r.length ≤ Exchange.maxAttempts) ∧
      log.Always Log.AckedFirst ∧
      (s.phase = .ended (.ok .completed) →
        collapse log.data = Bytes.blocks s.size content ∧
          ((collapse log.data).map Draft.bytes).flatten = content) := by
  obtain ⟨hs, halways⟩ := run.delivers hreads
  obtain ⟨counts, hcopies, hdone⟩ := hs.exists_copies
  refine ⟨?_, hcopies.length_run_le, halways, ?_⟩
  · rw [hcopies.collapse_eq]
    exact List.take_prefix _ _
  · intro hp
    have hall : collapse log.data = Bytes.blocks s.size content := by
      rw [hcopies.collapse_eq, hdone (.inr hp)]
      exact List.take_of_length_le (Bytes.length_blocks _ _).le
    refine ⟨hall, ?_⟩
    rw [hall]
    exact Bytes.flatten_bytes_blocks s.size_pos content

/-- A content of just one full block is transferred. The first copy of that block is lost, and a
stale acknowledgement comes before that of the empty block after it. -/
def lostCopy (content : Bytes) : Log :=
  let block₁ := (Packet.data [0, 1] content).toDraft
  let block₂ := (Packet.data [0, 2] []).toDraft
  [.opened (Bytes.toText [102]) (.ok ()), .fetched 512 (.ok content), .sent block₁ (.ok 0),
    .received 3000 ⟨.error (.timedOut "timeout"), 3000⟩, .sent block₁ (.ok 3000),
    .received 3000 ⟨.ok (Packet.ack [0, 1]).toDraft, 3500⟩, .fetched 512 (.ok []),
    .sent block₂ (.ok 3500), .received 3000 ⟨.ok (Packet.ack [0, 1]).toDraft, 3600⟩,
    .received 2900 ⟨.ok (Packet.ack [0, 2]).toDraft, 4000⟩, .closed (.ok ())]

theorem readsFrom_lostCopy {content : Bytes} (h : content.length = 512) :
    (lostCopy content).ReadsFrom content := by
  have htake : content.take 512 = content := List.take_of_length_le h.le
  have hdrop : content.drop 512 = [] := List.drop_of_length_le h.le
  simp [lostCopy, Deed.Reads, Deed.rest, htake, hdrop]

/-- Two blocks are written, the first of them twice. The stale acknowledgement does not begin a
third. -/
theorem delivers_blocks_lostCopy :
    let content : Bytes := List.replicate 512 7
    let log := lostCopy content
    let s : Session := { peer := .null, phase := .ended (.ok .completed) }
    Run (Session.start .null (Packet.readRequest ⟨[102], octetMode, []⟩).toDraft).value log s ∧
      log.ReadsFrom content ∧ collapse log.data <+: Bytes.blocks s.size content ∧
      (∀ r ∈ runs log.data, r.length ≤ Exchange.maxAttempts) ∧ log.Always Log.AckedFirst ∧
      (s.phase = .ended (.ok .completed) →
        collapse log.data = Bytes.blocks s.size content ∧
          ((collapse log.data).map Draft.bytes).flatten = content) := by
  intro content log s
  have hlength : content.length = 512 := List.length_replicate
  have hreads : log.ReadsFrom content := readsFrom_lostCopy hlength
  have run : Run (Session.start .null
      (Packet.readRequest ⟨[102], octetMode, []⟩).toDraft).value log s := by
    let v (p : Phase) : Session := { peer := .null, phase := p }
    let x (k : UInt8) (payload : Bytes) (attempt : Nat) (p : Exchange.Phase) : Exchange :=
      ⟨.null, (Packet.data [0, k] payload).toDraft, k.toNat, 3000, attempt, p⟩
    let w₁ (attempt : Nat) (p : Exchange.Phase) : Session :=
      v (.exchanging (.block 1 false) (x 1 content attempt p))
    let w₂ (attempt : Nat) (p : Exchange.Phase) : Session :=
      v (.exchanging (.block 2 true) (x 2 [] attempt p))
    have hp (k : UInt8) (payload : Bytes) (attempt : Nat) (now deadline : Time) :
        (x k payload attempt (.waiting now deadline)).phase = .waiting now deadline := rfl
    have hw₁ (attempt : Nat) (p : Exchange.Phase) :
        (w₁ attempt p).phase = .exchanging (.block 1 false) (x 1 content attempt p) := rfl
    have hw₂ (attempt : Nat) (p : Exchange.Phase) :
        (w₂ attempt p).phase = .exchanging (.block 2 true) (x 2 [] attempt p) := rfl
    have hf (number : UInt16) : (v (.fetching number)).phase = .fetching number := rfl
    have ho : (v (.opening (Bytes.toText [102]) (some []))).phase = .opening _ (some []) := rfl
    have hc : (v (.closing (.ok .completed))).phase = .closing (.ok .completed) := rfl
    have h₁ : (v (.opening _ (some []))).Step (.opened _ (.ok ())) (v (.fetching 1)) :=
      step_of_opening ho _
    have h₂ : (v (.fetching 1)).Step (.fetched 512 (.ok content)) (w₁ 1 .sending) := by
      have hlast : w₁ 1 .sending =
          v (.exchanging (.block 1 (decide ((content.length : Int) < 512)))
            (x 1 content 1 .sending)) := by
        rw [hlength]
        rfl
      rw [hlast]
      exact step_of_fetching (hf 1) _
    have h₃ : (w₁ 1 .sending).Step (.sent _ (.ok 0)) (w₁ 1 (.waiting 0 3000)) :=
      step_of_exchanging (hw₁ _ _) (Exchange.step_of_sending rfl _)
    have h₄ : (w₁ 1 (.waiting 0 3000)).Step (.received 3000 ⟨.error (.timedOut "timeout"), 3000⟩)
        (w₁ 2 .sending) :=
      step_of_exchanging (hw₁ _ _) (Exchange.step_of_waiting (hp 1 content 1 0 3000) _)
    have h₅ : (w₁ 2 .sending).Step (.sent _ (.ok 3000)) (w₁ 2 (.waiting 3000 6000)) :=
      step_of_exchanging (hw₁ _ _) (Exchange.step_of_sending rfl _)
    have h₆ : (w₁ 2 (.waiting 3000 6000)).Step
        (.received 3000 ⟨.ok (Packet.ack [0, 1]).toDraft, 3500⟩) (v (.fetching 2)) :=
      step_of_exchanging (hw₁ _ _) (Exchange.step_of_waiting (hp 1 content 2 3000 6000) _)
    have h₇ : (v (.fetching 2)).Step (.fetched 512 (.ok [])) (w₂ 1 .sending) :=
      step_of_fetching (hf 2) _
    have h₈ : (w₂ 1 .sending).Step (.sent _ (.ok 3500)) (w₂ 1 (.waiting 3500 6500)) :=
      step_of_exchanging (hw₂ _ _) (Exchange.step_of_sending rfl _)
    have h₉ : (w₂ 1 (.waiting 3500 6500)).Step
        (.received 3000 ⟨.ok (Packet.ack [0, 1]).toDraft, 3600⟩) (w₂ 1 (.waiting 3600 6500)) :=
      step_of_exchanging (hw₂ _ _) (Exchange.step_of_waiting (hp 2 [] 1 3500 6500) _)
    have h₁₀ : (w₂ 1 (.waiting 3600 6500)).Step
        (.received 2900 ⟨.ok (Packet.ack [0, 2]).toDraft, 4000⟩) (v (.closing (.ok .completed))) :=
      step_of_exchanging (hw₂ _ _) (Exchange.step_of_waiting (hp 2 [] 1 3600 6500) _)
    have h₁₁ : (v (.closing (.ok .completed))).Step (.closed (.ok ())) s := step_of_closing hc _
    exact Run.start.step h₁ |>.step h₂ |>.step h₃ |>.step h₄ |>.step h₅ |>.step h₆ |>.step h₇
      |>.step h₈ |>.step h₉ |>.step h₁₀ |>.step h₁₁
  exact ⟨run, hreads, delivers_blocks run hreads⟩

end Session

end Tftp
