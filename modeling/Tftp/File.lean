import Tftp.Fault

/-!
# Open files

A file that a backend has opened for reading. It holds what is left to be read, and it may be set
up to fail: at one of its reads, or when it is closed.
-/

namespace Tftp

/-- What is left to be read. -/
inductive File.Source where
  /-- bytes, given out in the amount asked for -/
  | content (rest : Bytes)
  /-- pieces, given out one by one whatever amount is asked for -/
  | pieces (rest : List Bytes)
  deriving DecidableEq, Repr, Inhabited

/-- An open file. -/
structure File where
  source : File.Source
  /-- the number of reads before the one that fails, and its fault -/
  failure : Option (Nat × Fault) := none
  /-- the fault of closing the file -/
  closing : Option Fault := none
  /-- whether reads and the closing are shown to an observer -/
  observed : Bool := false
  deriving DecidableEq, Repr, Inhabited

namespace File

/-- A file in memory. -/
def ofBytes (content : Bytes) : File := { source := .content content }

/-- The bytes given out for a read, and what is left. A negative amount stands for everything. -/
def Source.take (n : Int) : Source → Bytes × Source
  | content rest =>
    if n < 0 then (rest, content [])
    else
      let (front, back) := rest.splitAt n.toNat
      (front, content back)
  | pieces [] => ([], pieces [])
  | pieces (piece :: rest) => (piece, pieces rest)

/-- A bound on the number of full reads that are left. -/
def Source.size : Source → Nat
  | content rest => rest.length
  | pieces rest => rest.length

/-- A read of an amount of bytes, and the file after it. -/
def read (f : File) (n : Int) : Except Fault Bytes × File :=
  match f.failure with
  | some (0, fault) => (.error fault, { f with failure := none })
  | failure =>
    let (bytes, source) := f.source.take n
    (.ok bytes, { f with source, failure := failure.map fun (k, fault) => (k - 1, fault) })

/-- The closing of a file. -/
def close (f : File) : Except Fault Unit :=
  match f.closing with
  | some fault => .error fault
  | none => .ok ()

/-- A bound on the number of full reads that are left. -/
def size (f : File) : Nat := f.source.size

/-- A read that gives as much as was asked for, which was at least one byte, makes the file
smaller. -/
theorem size_read_lt {f : File} {n : Int} {bytes : Bytes} {g : File} (hn : 0 < n)
    (h : f.read n = (.ok bytes, g)) (hb : n ≤ bytes.length) : g.size < f.size := by
  unfold read at h
  split at h
  · exact nomatch congrArg Prod.fst h
  · simp only [Prod.mk.injEq, Except.ok.injEq] at h
    obtain ⟨rfl, rfl⟩ := h
    simp only [size]
    cases hs : f.source with
    | content rest =>
      rw [hs] at hb
      have hn' : ¬ n < 0 := by omega
      simp only [Source.take, hn', if_false, List.splitAt_eq, List.length_take] at hb
      simp only [Source.take, hn', if_false, List.splitAt_eq, Source.size, List.length_drop]
      omega
    | pieces rest =>
      rw [hs] at hb
      cases rest with
      | nil =>
        simp only [Source.take, List.length_nil] at hb
        omega
      | cons piece rest => simp [Source.take, Source.size]

end File

end Tftp
