import Tftp.Proofs.Session.Trail

/-!
# A file is closed once and last

A session whose backend supplied a file closes that file exactly once, and does nothing after that.
Nothing is assumed of the backend, the file, the writer and the reader: each of them may fail at any
point and with any fault, and the session itself may fail.

* `Deed.Uses` — what a session does while its file is open;
* `Log.Using` — the log of a session whose file is open;
* `Log.Tended` — the log of a session that is over, with a file and without;
* `Session.tends_file` — the main theorem.

Whatever leads a session to its result, the trail up to there uses an open file or never had one
(`Concluded.using`, `Concluded.refused`), and only the closing comes after it.
-/

namespace Tftp

/-- Reading from the file, writing a packet and waiting for one leave the file open. -/
inductive Deed.Uses : Deed → Prop
  /-- it is read from -/
  | fetched (size : Int) (answer : Except Fault Bytes) : Uses (.fetched size answer)
  /-- a packet is written or waited for -/
  | onWire {d : Deed} (h : d.OnWire) : Uses d

namespace Log

/-- The backend has supplied a file, which was not closed since then. -/
def Using (log : Log) : Prop :=
  ∃ filename used, log = .opened filename (.ok ()) :: used ∧ ∀ d ∈ used, d.Uses

/-- What becomes of the file over a whole session. -/
inductive Tended : Log → Prop
  /-- a file that was supplied is closed in the end, and at no other time -/
  | supplied {filename : String} {used : Log} (h : ∀ d ∈ used, d.Uses)
      (answer : Except Fault Unit) :
      Tended (.opened filename (.ok ()) :: (used ++ [.closed answer]))
  /-- without a file nothing is read from it, and nothing is closed -/
  | refused {filename : String} {f : Fault} {rest : Log} (h : ∀ d ∈ rest, d.OnWire) :
      Tended (.opened filename (.error f) :: rest)

variable {log part : Log}

theorem using_opened (filename : String) : Using [.opened filename (.ok ())] :=
  ⟨filename, [], rfl, List.forall_mem_nil _⟩

/-- The file stays open as long as it is used. -/
theorem Using.append (h : log.Using) (hpart : ∀ d ∈ part, d.Uses) : Using (log ++ part) := by
  obtain ⟨filename, used, rfl, hused⟩ := h
  refine ⟨filename, used ++ part, rfl, fun d hd => ?_⟩
  rcases List.mem_append.mp hd with hd | hd
  · exact hused d hd
  · exact hpart d hd

theorem Using.concat {d : Deed} (h : log.Using) (hd : d.Uses) : Using (log ++ [d]) :=
  h.append (List.forall_mem_singleton.mpr hd)

/-- Then it is closed. -/
theorem Using.closed (h : log.Using) (answer : Except Fault Unit) :
    Tended (log ++ [.closed answer]) := by
  obtain ⟨filename, used, rfl, hused⟩ := h
  exact .supplied hused answer

end Log

namespace Session

variable {peer : Address} {request : Draft} {log : Log} {s : Session} {a : Agreement}
  {result : Except Fault Outcome}

/-- As long as a session goes on its file is open. -/
theorem Reached.using {stage : Stage} (h : Reached peer request a stage log) : log.Using := by
  induction h with
  | passedOver => exact Log.using_opened _
  | agreed => exact Log.using_opened _
  | fetched _ _ ih => exact ih.concat (.fetched _ _)
  | answered _ hx _ ih => exact ih.append fun d hd => .onWire (hx.onWire d hd)

theorem Troubled.using {trouble : Trouble} {terms : Terms}
    (h : Troubled peer request trouble terms true log) : log.Using := by
  cases h with
  | options => exact Log.using_opened _
  | file h => exact h.using.concat (.fetched _ _)

/-- When the result is there, the file that was supplied is still open. -/
theorem Concluded.using {terms : Terms} (h : Concluded peer request terms true log result) :
    log.Using := by
  cases h with
  | incomplete => exact Log.using_opened _
  | unread => exact Log.using_opened _
  | reported h answer => exact h.using.concat (.onWire (.sent _ answer))
  | exchanged h hx => exact h.using.append fun d hd => .onWire (hx.onWire d hd)

/-- A request to read has a result without a file only if its backend refused it. -/
theorem Concluded.refused {terms : Terms} (h : Concluded peer request terms false log result)
    (hopcode : request.opcode = some Opcode.readRequest.bytes) : log.Tended := by
  cases h with
  | reported h answer =>
    cases h with
    | unserved h hread =>
      rw [hopcode] at h
      exact absurd (Option.some.inj h).symm hread
    | writing h =>
      rw [hopcode] at h
      cases h
    | noFile => exact .refused (List.forall_mem_singleton.mpr (.sent _ answer))

/-- **A file is closed once and last.** Take the session of any request to read, whatever its
backend, its file, its writer and its reader answer or fail with. When it is over, with an outcome
or with a fault, a file that the backend supplied was closed once, as the very last deed. Without a
file nothing was read from one and nothing closed. -/
theorem tends_file (hopcode : request.opcode = some Opcode.readRequest.bytes)
    (hfilename : request.filename.isSome = true)
    (run : Run (Session.start peer request).value log s) (hp : s.phase = .ended result) :
    log.Tended ∧ ∀ d t, ¬ s.Step d t := by
  refine ⟨?_, fun _ _ => not_step_of_ended hp⟩
  have hover := run.over hp
  generalize s.terms = terms at hover
  cases hover with
  | unclear h =>
    rcases h with h | h
    · rw [hopcode] at h
      cases h
    · rw [h] at hfilename
      cases hfilename
  | unopened h => exact h.refused hopcode
  | closed h answer => exact h.using.closed answer

/-- A block is written, its acknowledgement cannot be read, and then neither the report can be
written nor the file closed. -/
def nothingWorks : Log :=
  let f := Fault.malformed "too small"
  [.opened (Bytes.toText [102]) (.ok ()), .fetched 512 (.ok [7]),
    .sent (Packet.data [0, 1] [7]).toDraft (.ok 0), .received 3000 ⟨.error f, 10⟩,
    .sent (Packet.report .undefined f.message).toDraft (.error (.transport "down")),
    .closed (.error (.internal "busy"))]

/-- Even so the file is closed once, and the fault of that is the result. -/
theorem tends_file_nothingWorks :
    let request := (Packet.readRequest ⟨[102], octetMode, []⟩).toDraft
    let s : Session := { peer := .null, phase := .ended (.error (.internal "busy")) }
    request.opcode = some Opcode.readRequest.bytes ∧ request.filename.isSome = true ∧
      Run (Session.start .null request).value nothingWorks s ∧
      s.phase = .ended (.error (.internal "busy")) ∧ nothingWorks.Tended := by
  intro request s
  have run : Run (Session.start .null request).value nothingWorks s := Run.of_replay rfl
  exact ⟨rfl, rfl, run, rfl, (tends_file rfl rfl run rfl).1⟩

end Session

end Tftp
