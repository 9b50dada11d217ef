import Mathlib.Data.List.SplitBy
import Tftp.Packet.Basic

/-!
# The blocks of a content

What a transfer of a content is to look like, said without the machine that does it:

* `Bytes.block` — the data packet of one block, numbered from one and with sixteen bits for the
  number;
* `Bytes.blocks` — the blocks of a content, of which the last is shorter than the others and may be
  empty;
* `runs` and `collapse` — a list cut into runs of equal elements, and with each run made one.

Two blocks in a row always differ in their numbers, also where the numbers wrap. So a list in which
each block stands several times in a row is cut into runs just there (`runs_copied`).
-/

namespace Tftp

/-! ## Runs -/

section

variable {α : Type} [BEq α]

/-- The runs of equal elements in a row. -/
def runs (l : List α) : List (List α) :=
  l.splitBy (· == ·)

/-- The list with each run of equal elements made one. -/
def collapse (l : List α) : List α :=
  (runs l).filterMap List.head?

/-- A list with each element as often as a count says, as far as there are counts. -/
def copied (counts : List Nat) (l : List α) : List (List α) :=
  List.zipWith List.replicate counts l

omit [BEq α] in
@[simp] theorem copied_nil (l : List α) : copied [] l = [] := rfl

omit [BEq α] in
/-- One count more stands for one element more. -/
theorem copied_concat {counts : List Nat} {l : List α} (c : Nat) (h : counts.length < l.length) :
    copied (counts ++ [c]) l = copied counts l ++ [List.replicate c l[counts.length]] := by
  induction counts generalizing l with
  | nil =>
    obtain ⟨a, l, rfl⟩ := List.exists_cons_of_length_pos h
    rfl
  | cons n counts ih =>
    obtain ⟨a, l, rfl⟩ := List.exists_cons_of_length_pos (Nat.zero_lt_of_lt h)
    have := ih (l := l) (Nat.lt_of_succ_lt_succ h)
    simpa [copied] using this

variable [LawfulBEq α]

/-- Where neighbours differ, the copies of the elements are the runs. Each run has the copies of one
element, it is not empty, and the next one is of another element. -/
theorem runs_copied {counts : List Nat} {l : List α} (hpos : ∀ c ∈ counts, 1 ≤ c)
    (hne : l.IsChain (· ≠ ·)) : runs (copied counts l).flatten = copied counts l := by
  have hpos' (i : Nat) (h : i < counts.length) : counts[i] ≠ 0 := by
    have := hpos _ (List.getElem_mem h)
    omega
  apply List.splitBy_flatten
  · -- no run is empty
    intro hmem
    obtain ⟨i, h, heq⟩ := List.getElem_of_mem hmem
    simp only [copied, List.getElem_zipWith, List.replicate_eq_nil_iff] at heq
    exact hpos' i _ heq
  · -- each run is of one element
    intro m hm
    obtain ⟨i, h, rfl⟩ := List.getElem_of_mem hm
    simp only [copied, List.getElem_zipWith]
    exact List.isChain_replicate_of_rel _ (beq_self_eq_true _)
  · -- the next run is of another
    rw [List.isChain_iff_getElem] at hne ⊢
    intro i h
    simp only [copied, List.length_zipWith] at h
    have hi := hpos' i (by omega)
    have hj := hpos' (i + 1) (by omega)
    simp only [copied, List.getElem_zipWith, List.getLast_replicate, List.head_replicate]
    refine ⟨by simpa using hi, by simpa using hj, ?_⟩
    exact beq_false_of_ne (hne i (by omega))

/-- Copies collapse to the elements as far as there are counts. -/
theorem collapse_copied {counts : List Nat} {l : List α} (hpos : ∀ c ∈ counts, 1 ≤ c)
    (hne : l.IsChain (· ≠ ·)) : collapse (copied counts l).flatten = l.take counts.length := by
  rw [collapse, runs_copied hpos hne]
  clear hne
  induction counts generalizing l with
  | nil => simp
  | cons c counts ih =>
    cases l with
    | nil => simp [copied]
    | cons a l =>
      obtain ⟨n, rfl⟩ : ∃ n, c = n + 1 := ⟨c - 1, by have := hpos c (by simp); omega⟩
      have := ih (l := l) fun c hc => hpos c (List.mem_cons_of_mem _ hc)
      simpa [copied, List.replicate_succ] using this

end

/-! ## Blocks -/

/-- The data packet of a block of a content. -/
def Bytes.block (size : Nat) (content : Bytes) (k : Nat) : Draft :=
  (Packet.data (Bytes.ofWord (UInt16.ofNat (k % 65536)))
    (content.extract ((k - 1) * size) (k * size))).toDraft

/-- The blocks of a content, in order. -/
def Bytes.blocks (size : Nat) (content : Bytes) : List Draft :=
  (List.range (content.length / size + 1)).map fun i => Bytes.block size content (i + 1)

/-- The payload of a packet that has one. -/
def Draft.bytes (d : Draft) : Bytes :=
  d.payload.getD []

namespace Bytes

variable {size : Nat} {content : Bytes}

/-- There is one block more than full ones fit in, which may be empty. -/
@[simp] theorem length_blocks (size : Nat) (content : Bytes) :
    (blocks size content).length = content.length / size + 1 := by
  simp [blocks]

@[simp] theorem getElem_blocks {i : Nat} (h : i < (blocks size content).length) :
    (blocks size content)[i] = block size content (i + 1) := by
  simp [blocks]

@[simp] theorem opcode_block (size : Nat) (content : Bytes) (k : Nat) :
    (block size content k).opcode = some Opcode.data.bytes := rfl

/-- The payload of a block is what is read next after the blocks before it. -/
theorem block_succ (size : Nat) (content : Bytes) (k : Nat) :
    block size content (k + 1) = (Packet.data (ofWord (UInt16.ofNat (k + 1)))
      ((content.drop (k * size)).take size)).toDraft := by
  have hsize : (k + 1) * size - k * size = size := by
    rw [Nat.add_mul, Nat.one_mul, Nat.add_sub_cancel_left]
  have hnumber : UInt16.ofNat ((k + 1) % 65536) = UInt16.ofNat (k + 1) := UInt16.ofNat_mod_size
  simp only [block, Nat.add_sub_cancel, List.extract_eq_take_drop, hsize, hnumber]

/-- A block is shorter than the size exactly when it is the last. -/
theorem length_take_drop_lt_iff (hsize : 0 < size) {k : Nat} (hk : k ≤ content.length / size) :
    ((content.drop (k * size)).take size).length < size ↔ k = content.length / size := by
  rw [List.length_take, List.length_drop]
  have hle : k * size ≤ content.length := (Nat.le_div_iff_mul_le hsize).mp hk
  have hiff : content.length / size < k + 1 ↔ content.length < (k + 1) * size :=
    Nat.div_lt_iff_lt_mul hsize
  rw [Nat.add_mul, Nat.one_mul] at hiff
  omega

/-- The numbers of two blocks in a row differ. -/
theorem block_ne_block_succ (size : Nat) (content : Bytes) (k : Nat) :
    block size content k ≠ block size content (k + 1) := by
  intro heq
  have hp := Packet.toDraft_inj heq
  injection hp with hnumber
  have hword := congrArg toWord? hnumber
  rw [toWord?_ofWord, toWord?_ofWord, Option.some.injEq] at hword
  -- two numbers in a row differ by one, also where they wrap
  have hnat := congrArg UInt16.toNat hword
  rw [UInt16.toNat_ofNat', UInt16.toNat_ofNat'] at hnat
  omega

/-- Blocks that follow one another differ at least in their numbers. -/
theorem isChain_blocks (size : Nat) (content : Bytes) :
    (blocks size content).IsChain (· ≠ ·) := by
  rw [List.isChain_iff_getElem]
  intro i h
  rw [getElem_blocks, getElem_blocks]
  exact block_ne_block_succ size content (i + 1)

/-- The payloads of the first blocks are the beginning of the content. -/
theorem flatten_bytes_block (size : Nat) (content : Bytes) (n : Nat) :
    (((List.range n).map fun i => block size content (i + 1)).map Draft.bytes).flatten =
      content.take (n * size) := by
  induction n with
  | zero => simp
  | succ n ih =>
    rw [List.range_succ, List.map_append, List.map_append, List.flatten_append, ih]
    simp only [List.map_cons, List.map_nil, List.flatten_cons, List.flatten_nil, List.append_nil]
    rw [block_succ, Nat.add_mul, Nat.one_mul, List.take_add]
    rfl

/-- The payloads of all blocks are the content. -/
theorem flatten_bytes_blocks (hsize : 0 < size) (content : Bytes) :
    ((blocks size content).map Draft.bytes).flatten = content := by
  rw [blocks, flatten_bytes_block]
  apply List.take_of_length_le
  have := Nat.lt_mul_div_succ content.length hsize
  rw [Nat.mul_comm] at this
  exact Nat.le_of_lt this

end Bytes

end Tftp
