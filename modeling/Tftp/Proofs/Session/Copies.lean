import Tftp.Proofs.Session.Blocks
import Tftp.Proofs.Session.Run

/-!
# Copies of blocks in a log

A session writes one block after the other, each some times in a row. This module says that of a
log, and how it stays so when one deed more is done.

* `Log.data` — the data packets that were written;
* `Log.rest` and `Log.ReadsFrom` — what is left of a content, and that the reads go through it;
* `Log.Begins`, `Log.Acked` and `Log.AckedFirst` — when a block is begun, and after what;
* `Exchange.Tried` — an exchange by itself only counts the copies of its packet;
* `Log.Copies` — the data packets are the first blocks of a content, each with its count;
* `Log.HasRead` — how far a content was read while a block is exchanged.

What a log has of copies is kept by a deed that writes no data packet (`Copies.quiet`), by the first
copy of a block (`Copies.begin`) and by one copy more (`Copies.again`).
-/

namespace Tftp

/-! ## What a log says of the transfer

All of this is said of the deeds in a log, without the session that does them: which data packets
were written, what the reads took from the file, when a block was begun, and whether its
acknowledgement came. -/

/-- The data packet that a deed wrote. -/
def Deed.data? : Deed → Option Draft
  | .sent packet (.ok _) => if packet.opcode = some Opcode.data.bytes then some packet else none
  | _ => none

/-- A read gives the next bytes of a content, fewer than asked for only at its end. Every other deed
reads nothing. -/
def Deed.Reads (content : Bytes) : Deed → Prop
  | .fetched size answer => answer = .ok (content.take size.toNat)
  | _ => True

/-- What is left of a content after a deed, where every read takes as much as it asks for. -/
def Deed.rest (content : Bytes) : Deed → Bytes
  | .fetched size _ => content.drop size.toNat
  | _ => content

namespace Log

/-- The data packets that were written, the earliest first. -/
def data (log : Log) : List Draft :=
  log.filterMap Deed.data?

/-- What is left of a content after the reads of a log. -/
def rest (content : Bytes) (log : Log) : Bytes :=
  log.foldl Deed.rest content

/-- The file has a content, and is read from the beginning of it to the end. -/
def ReadsFrom (content : Bytes) (log : Log) : Prop :=
  log.Always fun before d => d.Reads (before.rest content)

/-- How many blocks were begun: the runs of equal data packets. -/
def begun (log : Log) : Nat :=
  (runs log.data).length

/-- A deed writes the first copy of the k-th block. -/
def Begins (k : Nat) (before : Log) (d : Deed) : Prop :=
  begun before < k ∧ begun (before ++ [d]) = k

/-- Since the k-th block was begun, its acknowledgement was received. -/
def Acked (k : Nat) (log : Log) : Prop :=
  ∃ (before : Log) (d : Deed) (between : Log), log = before ++ d :: between ∧ Begins k before d ∧
    ∃ r ∈ between.receptions, ∃ reply, r.outcome = .ok reply ∧ reply.IsAck (k % 65536 : Nat)

/-- A deed begins a block after the first only when the block before it was acknowledged. -/
def AckedFirst (before : Log) (d : Deed) : Prop :=
  ∀ k, 1 ≤ k → Begins (k + 1) before d → Acked k before

@[simp] theorem data_append (l m : Log) : data (l ++ m) = data l ++ data m :=
  List.filterMap_append

/-- One deed more takes its bytes off what the deeds before it left. -/
@[simp] theorem rest_concat (content : Bytes) (log : Log) (d : Deed) :
    rest content (log ++ [d]) = d.rest (rest content log) := by
  simp [rest]

@[simp] theorem readsFrom_nil (content : Bytes) : ReadsFrom content [] :=
  always_nil _

/-- The first read gives the beginning of the content, and the others go through the rest of it. -/
@[simp] theorem readsFrom_cons (content : Bytes) (d : Deed) (log : Log) :
    ReadsFrom content (d :: log) ↔ d.Reads content ∧ ReadsFrom (d.rest content) log :=
  always_cons

/-- A deed that writes no data packet begins no block. -/
theorem begun_concat_of_none {log : Log} {d : Deed} (hd : d.data? = none) :
    begun (log ++ [d]) = begun log := by
  simp [begun, data, hd]

/-- A deed that begins no block needs no acknowledgement before it. -/
theorem ackedFirst_of_begun {log : Log} {d : Deed} (h : begun (log ++ [d]) = begun log) :
    AckedFirst log d := by
  rintro k - ⟨hlt, heq⟩
  omega

end Log

/-- A block that was written counts as a data packet. -/
theorem Deed.data?_block (size : Nat) (content : Bytes) (k : Nat) (now : Time) :
    (Deed.sent (Bytes.block size content k) (.ok now)).data? = some (Bytes.block size content k) :=
  rfl

/-! ## Copies of one packet

An exchange writes its packet up to a number of times. Seen from the log, each of its steps writes
one copy more, writes nothing, or ends with the acknowledgement (`Exchange.Tries`). All that a
session has to know of its exchanges is said by this. -/

namespace Exchange

/-- An exchange that has written so many copies of its packet. -/
inductive Tried (packet : Draft) (block : Int) (n : Nat) (x : Exchange) : Prop where
  /-- the next copy is about to be written -/
  | sending (hpacket : x.packet = packet) (hblock : x.block = block) (hp : x.phase = .sending)
      (hattempt : x.attempt = n + 1) (hn : n < maxAttempts)
  /-- the answer to the last copy is awaited -/
  | waiting {now deadline : Time} (hpacket : x.packet = packet) (hblock : x.block = block)
      (hp : x.phase = .waiting now deadline) (hattempt : x.attempt = n) (hpos : 1 ≤ n)
  /-- an error is about to be reported, after which there are no copies -/
  | reporting {f : Fault} (hp : x.phase = .reporting f)

/-- An exchange that has written so many copies of its packet, or that ended without an answer. -/
inductive Next.Tried (packet : Draft) (block : Int) (n : Nat) : Next → Prop where
  | going {x : Exchange} (h : x.Tried packet block n) : Tried packet block n (.going x)
  | failed (f : Fault) : Tried packet block n (.ended (.error f))

/-- The next deed of an exchange that has written so many copies of its packet, and how it goes
on. -/
inductive Tries (packet : Draft) (block : Int) (n : Nat) : Deed → Next → Prop where
  /-- one copy more is written -/
  | copied {now : Time} {next : Next} (hn : n < maxAttempts)
      (hnext : next.Tried packet block (n + 1)) : Tries packet block n (.sent packet (.ok now)) next
  /-- no copy is written -/
  | quiet {d : Deed} {next : Next} (hd : d.data? = none) (hnext : next.Tried packet block n) :
      Tries packet block n d next
  /-- the acknowledgement is received -/
  | answered {wait now : Time} {reply : Draft} (hpos : 1 ≤ n) (hack : reply.IsAck block) :
      Tries packet block n (.received wait ⟨.ok reply, now⟩) (.ended (.ok reply))

variable {packet : Draft} {block : Int} {n : Nat} {x : Exchange}

/-- An exchange reads nothing from a file. -/
theorem Step.rest {d : Deed} {next : Next} (h : x.Step d next) (content : Bytes) :
    d.rest content = content := by
  cases h <;> rfl

/-- An exchange that starts has written nothing yet. -/
theorem tried_start (peer : Address) (packet : Draft) (block : Int) (timeout : Time) :
    (start peer packet block timeout).Tried packet block 0 :=
  .sending rfl rfl rfl rfl (by decide)

/-- When the time of the n-th copy is over, n copies are written still. -/
theorem tried_retry (hpacket : x.packet = packet) (hblock : x.block = block)
    (hattempt : x.attempt = n) : x.retry.value.Tried packet block n := by
  by_cases hlt : x.attempt < maxAttempts
  · rw [value_retry_of_lt x hlt]
    rw [hattempt] at hlt
    refine .going (.sending hpacket hblock rfl ?_ hlt)
    rw [hattempt]
  · rw [value_retry_of_le x (Nat.not_lt.mp hlt)]
    exact .failed exhausted

/-- An exchange goes on waiting with the copies that it has written, also where its time is over and
it turns to the next copy. -/
theorem tried_await (now deadline : Time) (hpacket : x.packet = packet) (hblock : x.block = block)
    (hattempt : x.attempt = n) (hpos : 1 ≤ n) :
    (x.await now deadline).value.Tried packet block n := by
  by_cases hlt : now < deadline
  · rw [value_await_of_lt x hlt]
    exact .going (.waiting hpacket hblock rfl hattempt hpos)
  · rw [value_await_of_le x (Int.not_lt.mp hlt)]
    exact tried_retry hpacket hblock hattempt

/-- Each step of an exchange is one of these. Whatever is received, it is the acknowledgement or it
leaves the count of copies as it is. -/
theorem Step.tries {d : Deed} {next : Next} (hx : x.Tried packet block n) (h : x.Step d next) :
    Tries packet block n d next := by
  cases hx with
  | sending hpacket hblock hp hattempt hn =>
    obtain ⟨answer, rfl, rfl⟩ := h.of_sending hp
    cases answer with
    | error f => exact .quiet rfl (.failed f)
    | ok now =>
      have hnext := tried_await now (now + x.timeout) hpacket hblock hattempt (Nat.le_add_left 1 n)
      rw [hpacket]
      exact .copied hn hnext
  | @waiting now deadline hpacket hblock hp hattempt hpos =>
    obtain ⟨r, rfl, hnext⟩ := h.of_waiting hp
    have hspec := received_spec x deadline r
    rw [← hnext] at hspec
    clear h hnext
    cases hspec with
    | timedOut => exact .quiet rfl (tried_retry hpacket hblock hattempt)
    | unreadable => exact .quiet rfl (.going (.reporting rfl))
    | failed => exact .quiet rfl (.failed _)
    | unclear => exact .quiet rfl (.failed _)
    | accepted hack =>
      rw [hblock] at hack
      exact .answered hpos hack
    | discarded => exact .quiet rfl (tried_await _ deadline hpacket hblock hattempt hpos)
  | reporting hp =>
    obtain ⟨answer, rfl, rfl⟩ := h.of_reporting hp
    cases answer with
    | error f => exact .quiet rfl (.failed f)
    | ok now => exact .quiet rfl (.failed _)

end Exchange

/-! ## Copies of blocks

A log has copies of the first blocks of a content, with a count for each block. It stays so with
every deed of a session, by one of the three lemmas `Copies.quiet`, `Copies.begin` and
`Copies.again`. -/

namespace Log

/-- The data packets of a log are the first blocks of a content, each as often as its count says. -/
structure Copies (size : Nat) (content : Bytes) (counts : List Nat) (log : Log) : Prop where
  /-- the data packets are those of the counts, in the order of the blocks -/
  data_eq : log.data = (copied counts (Bytes.blocks size content)).flatten
  /-- a block that was begun was written -/
  pos : ∀ c ∈ counts, 1 ≤ c
  /-- no block was written more often than an exchange writes its packet -/
  le : ∀ c ∈ counts, c ≤ Exchange.maxAttempts
  /-- no block after the last one was begun -/
  length_le : counts.length ≤ content.length / size + 1

variable {size : Nat} {content : Bytes} {counts : List Nat} {log : Log} {d : Deed}

/-- Before the first data packet there are no blocks, and no counts of them. -/
theorem copies_of_data_eq_nil (size : Nat) (content : Bytes) (h : log.data = []) :
    log.Copies size content [] where
  data_eq := h
  pos := by simp
  le := by simp
  length_le := Nat.zero_le _

namespace Copies

/-- The runs of equal data packets are the copies of each block. Two blocks in a row are never
equal, since their numbers differ. -/
theorem runs_eq (h : log.Copies size content counts) :
    runs log.data = copied counts (Bytes.blocks size content) := by
  rw [h.data_eq]
  exact runs_copied h.pos (Bytes.isChain_blocks size content)

/-- Without their repetitions, the data packets are the first blocks of the content. -/
theorem collapse_eq (h : log.Copies size content counts) :
    collapse log.data = (Bytes.blocks size content).take counts.length := by
  rw [h.data_eq]
  exact collapse_copied h.pos (Bytes.isChain_blocks size content)

/-- As many blocks were begun as there are counts. -/
theorem begun_eq (h : log.Copies size content counts) : log.begun = counts.length := by
  rw [begun, h.runs_eq, copied, List.length_zipWith, Bytes.length_blocks]
  exact Nat.min_eq_left h.length_le

/-- No block is written more often than an exchange writes its packet. -/
theorem length_run_le (h : log.Copies size content counts) :
    ∀ r ∈ runs log.data, r.length ≤ Exchange.maxAttempts := by
  intro r hr
  rw [h.runs_eq] at hr
  obtain ⟨i, hi, rfl⟩ := List.getElem_of_mem hr
  simp only [copied, List.length_zipWith] at hi
  simp only [copied, List.getElem_zipWith, List.length_replicate]
  exact h.le _ (List.getElem_mem _)

/-- A deed that writes no data packet. -/
theorem quiet (h : log.Copies size content counts) (hd : d.data? = none) :
    (log ++ [d]).Copies size content counts := by
  refine { h with data_eq := ?_ }
  rw [data_append, h.data_eq]
  simp [data, hd]

/-- One count more stands for the copies of the next block, after those of all the blocks before
it. -/
theorem flatten_copied_concat (c : Nat) (hlt : counts.length ≤ content.length / size) :
    (copied (counts ++ [c]) (Bytes.blocks size content)).flatten =
      (copied counts (Bytes.blocks size content)).flatten ++
        List.replicate c (Bytes.block size content (counts.length + 1)) := by
  have hblocks : counts.length < (Bytes.blocks size content).length := by
    rw [Bytes.length_blocks]
    exact Nat.lt_succ_of_le hlt
  rw [copied_concat c hblocks, Bytes.getElem_blocks, List.flatten_append, List.flatten_singleton]

/-- The first copy of a block. There is a count more, which is one, and the block is the one after
those that have counts. -/
theorem begin (h : log.Copies size content counts) (hlt : counts.length ≤ content.length / size)
    (hd : d.data? = some (Bytes.block size content (counts.length + 1))) :
    (log ++ [d]).Copies size content (counts ++ [1]) where
  data_eq := by
    rw [data_append, h.data_eq, flatten_copied_concat 1 hlt]
    simp [data, hd]
  pos := by
    intro c hc
    rcases List.mem_append.mp hc with hc | hc
    · exact h.pos c hc
    · rw [List.mem_singleton.mp hc]
  le := by
    intro c hc
    rcases List.mem_append.mp hc with hc | hc
    · exact h.le c hc
    · rw [List.mem_singleton.mp hc]
      decide
  length_le := by
    rw [List.length_append]
    exact Nat.succ_le_succ hlt

/-- One copy more of the last block. Its count is one more, and was below the number of attempts. -/
theorem again {n : Nat} (h : log.Copies size content (counts ++ [n]))
    (hlt : counts.length ≤ content.length / size) (hn : n < Exchange.maxAttempts)
    (hd : d.data? = some (Bytes.block size content (counts.length + 1))) :
    (log ++ [d]).Copies size content (counts ++ [n + 1]) where
  data_eq := by
    rw [data_append, h.data_eq, flatten_copied_concat n hlt, flatten_copied_concat (n + 1) hlt,
      List.replicate_succ', List.append_assoc]
    simp [data, hd]
  pos := by
    intro c hc
    rcases List.mem_append.mp hc with hc | hc
    · exact h.pos c (List.mem_append_left _ hc)
    · rw [List.mem_singleton.mp hc]
      exact Nat.le_add_left 1 n
  le := by
    intro c hc
    rcases List.mem_append.mp hc with hc | hc
    · exact h.le c (List.mem_append_left _ hc)
    · rw [List.mem_singleton.mp hc]
      exact hn
  length_le := by
    rw [List.length_append]
    exact Nat.succ_le_succ hlt

end Copies

/-- The block after so many was read. It is the last one exactly when all full blocks come before
it. -/
structure HasRead (size : Nat) (content : Bytes) (k : Nat) (last : Bool) (log : Log) : Prop where
  /-- the block is one of the content -/
  le : k ≤ content.length / size
  /-- the last block is the first one that is not full -/
  last_iff : last = true ↔ k = content.length / size
  /-- what is left of the content begins after the block -/
  rest_eq : log.rest content = content.drop ((k + 1) * size)

/-- An exchange reads nothing, and leaves what was read as it is. -/
theorem HasRead.exchanged {k : Nat} {last : Bool} {x : Exchange} {next : Exchange.Next}
    (h : log.HasRead size content k last) (hx : x.Step d next) :
    (log ++ [d]).HasRead size content k last where
  le := h.le
  last_iff := h.last_iff
  rest_eq := by
    rw [rest_concat, hx.rest, h.rest_eq]

/-- A block that was acknowledged stays so, whatever is done afterwards. -/
theorem Acked.concat {k : Nat} (h : log.Acked k) (e : Deed) : Acked k (log ++ [e]) := by
  obtain ⟨before, d, between, hlog, hbegins, r, hr, hack⟩ := h
  refine ⟨before, d, between ++ [e], ?_, hbegins, r, ?_, hack⟩
  · rw [hlog, List.append_assoc, List.cons_append]
  · rw [receptions_append]
    exact List.mem_append_left _ hr

/-- The last block that was begun goes on to be acknowledged. -/
theorem acked_of_received {k : Nat} {before between : Log} {wait now : Time} {reply : Draft}
    (hlog : log = before ++ d :: between) (hbegins : Begins k before d)
    (hack : reply.IsAck (k % 65536 : Nat)) :
    Acked k (log ++ [.received wait ⟨.ok reply, now⟩]) := by
  refine ⟨before, d, between ++ [.received wait ⟨.ok reply, now⟩], ?_, hbegins, ?_⟩
  · rw [hlog, List.append_assoc, List.cons_append]
  · refine ⟨⟨.ok reply, now⟩, ?_, reply, rfl, hack⟩
    rw [receptions_append]
    exact List.mem_append_right _ (List.mem_singleton.mpr rfl)

end Log

end Tftp
