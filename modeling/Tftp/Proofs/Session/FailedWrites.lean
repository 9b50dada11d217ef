import Tftp.Proofs.Session.Accounts

/-!
# Writes that fail

A write may fail whichever packet is written: an acknowledgement of options, a block, a further copy
of either or an error. The session is over then, but for the closing of its file. Nothing is assumed
of the request, the backend and the reader.

What the result is depends on who wrote. A session expects its exchanges to fail and is aborted by
an error, and that includes the report of a reply that an exchange could not read. It does not
expect that of the reports that it writes itself, and fails with the fault of the write.

* `Session.Phase.result?` — the result of a session, once there is one;
* `Session.resultOfFailed` — the result of a session in which a write failed;
* `Session.aborts_unless_reporting` — the main theorem.

A write that fails is the last deed of an exchange (`Exchange.Run.of_failed`), and so a session that
goes on has written all its packets (`Reached.allSent`, `Troubled.allSent`).
-/

namespace Tftp

/-- A read from the file writes nothing. -/
theorem Log.AllSent.fetched {log : Log} (h : log.AllSent) (size : Int)
    (answer : Except Fault Bytes) : AllSent (log ++ [.fetched size answer]) := by
  refine h.append fun packet f hmem => ?_
  cases List.mem_singleton.mp hmem

namespace Session

/-- The result of a session, from when only the file is still to be closed. -/
def Phase.result? : Phase → Option (Except Fault Outcome)
  | .closing result | .ended result => some result
  | _ => none

/-- A reply that could not be read is reported by an exchange, everything else by the session. -/
def Trouble.isReply : Trouble → Bool
  | .reply _ => true
  | _ => false

/-- The result of a session in which a write failed: the fault of the write if the session had
something to report itself. -/
def resultOfFailed (request : Draft) (log : Log) (f : Fault) : Except Fault Outcome :=
  if (troubles request log).all Trouble.isReply then .ok .abortedByError else .error f

variable {peer : Address} {request packet : Draft} {log part : Log} {s : Session} {a : Agreement}
  {f : Fault}

theorem allSent_opened (filename : String) (answer : Except Fault Unit) :
    Log.AllSent [.opened filename answer] := by
  intro packet f hmem
  cases List.mem_singleton.mp hmem

/-- As long as a session goes on no write has failed. -/
theorem Reached.allSent {stage : Stage} (h : Reached peer request a stage log) : log.AllSent := by
  induction h with
  | passedOver => exact allSent_opened _ _
  | agreed => exact allSent_opened _ _
  | fetched _ _ ih => exact ih.fetched _ _
  | answered _ hx _ ih => exact ih.append hx.allSent_of_ok

/-- Up to a report no write has failed. -/
theorem Troubled.allSent {trouble : Trouble} {terms : Terms} {fileOpen : Bool}
    (h : Troubled peer request trouble terms fileOpen log) : log.AllSent := by
  cases h with
  | unserved => exact fun _ _ => List.not_mem_nil
  | writing => exact fun _ _ => List.not_mem_nil
  | noFile => exact allSent_opened _ _
  | options => exact allSent_opened _ _
  | file h => exact h.allSent.fetched _ _

/-- What a session comes into before it writes a report is not a reply. -/
theorem Troubled.isReply_eq_false {trouble : Trouble} {terms : Terms} {fileOpen : Bool}
    (h : Troubled peer request trouble terms fileOpen log) : trouble.isReply = false := by
  cases h <;> rfl

/-- The troubles of an exchange are replies. -/
theorem isReply_of_onWire (hwire : ∀ d ∈ log, d.OnWire) :
    ∀ trouble ∈ log.filterMap (Deed.trouble? request), trouble.isReply = true := by
  intro trouble hmem
  obtain ⟨d, hd, htrouble⟩ := List.mem_filterMap.mp hmem
  cases hwire d hd with
  | sent => cases htrouble
  | received wait r =>
    obtain ⟨outcome, now⟩ := r
    cases outcome with
    | ok reply => cases htrouble
    | error f =>
      simp only [Deed.trouble?] at htrouble
      split at htrouble
      · cases htrouble
        rfl
      · cases htrouble

/-- A deed that shows no trouble leaves the result as it is. -/
theorem resultOfFailed_concat {d : Deed} (hd : d.trouble? request = none) :
    resultOfFailed request (log ++ [d]) f = resultOfFailed request log f := by
  have htroubles : troubles request (log ++ [d]) = troubles request log := by
    simp [troubles, hd]
  rw [resultOfFailed, htroubles, resultOfFailed]

/-- In the exchanges of a session a write that fails aborts it. The fault of the write is the result
of the exchange, and the session takes it for a reply that could not be read. -/
theorem Reached.result_of_failed {goal : Goal} {p : Packet} {block : Int}
    {ending : Except Fault Draft} {result : Except Fault Outcome}
    (h : Reached peer request a (.exchanging goal p block) log)
    (hx : Exchanges peer a p block part (.ended ending)) (hg : goal.Gives ending result)
    (hmem : .sent packet (.error f) ∈ part) (hf : f.isUnreadable = true) :
    result = resultOfFailed request (log ++ part) f := by
  have hending : ending = .error f := by
    injection hx.of_failed hmem
  have hresult : resultOfFailed request (log ++ part) f = .ok .abortedByError := by
    rw [resultOfFailed, if_pos]
    rw [troubles_of_readRequest h.opcode_eq, List.filterMap_append, h.quiet.found_eq,
      List.nil_append, List.all_eq_true]
    exact isReply_of_onWire hx.onWire
  rw [hresult]
  rw [hending] at hg
  cases hg with
  | timedOut ht =>
    rw [Fault.isUnreadable_of_isTimeout ht] at hf
    cases hf
  | unreadable => rfl
  | failed _ hu =>
    rw [hf] at hu
    cases hu

/-- In a report of its own a write that fails takes the place of the outcome. -/
theorem Troubled.result_of_failed {trouble : Trouble} {terms : Terms} {fileOpen : Bool}
    {answer : Except Fault Time} (h : Troubled peer request trouble terms fileOpen log)
    (hmem : .sent packet (.error f) ∈ log ++ [.sent trouble.report answer]) :
    (answer.map fun _ => Outcome.abortedByError) =
      resultOfFailed request (log ++ [.sent trouble.report answer]) f := by
  rcases List.mem_append.mp hmem with hmem | hmem
  · exact absurd h.allSent (Log.not_allSent_of_mem hmem)
  · cases List.mem_singleton.mp hmem
    have htroubles : troubles request log = [trouble] := h.troubles_eq.1
    rw [resultOfFailed_concat rfl, resultOfFailed, htroubles, List.all_cons, h.isReply_eq_false]
    rfl

/-- The write that failed was the last one of the session. It was part of an exchange, or a
report. -/
theorem Concluded.result_of_failed {terms : Terms} {fileOpen : Bool}
    {result : Except Fault Outcome} (h : Concluded peer request terms fileOpen log result)
    (hmem : .sent packet (.error f) ∈ log) (hf : f.isUnreadable = true) :
    result = resultOfFailed request log f := by
  cases h with
  | incomplete => exact absurd hmem (allSent_opened _ _ _ _)
  | unread => exact absurd hmem (allSent_opened _ _ _ _)
  | reported h answer => exact h.result_of_failed hmem
  | exchanged h hx hg =>
    rcases List.mem_append.mp hmem with hmem | hmem
    · exact absurd h.allSent (Log.not_allSent_of_mem hmem)
    · exact h.result_of_failed hx hg hmem hf

theorem Over.result_of_failed {terms : Terms} {result : Except Fault Outcome}
    (h : Over peer request terms log result) (hmem : .sent packet (.error f) ∈ log)
    (hf : f.isUnreadable = true) (hclosed : ∀ g, .closed (.error g) ∉ log) :
    result = resultOfFailed request log f := by
  cases h with
  | unclear => cases hmem
  | unopened h => exact h.result_of_failed hmem hf
  | closed h answer =>
    cases answer with
    | error g => exact absurd (List.mem_append_right _ (.head _)) (hclosed g)
    | ok =>
      rw [resultOfFailed_concat rfl]
      rcases List.mem_append.mp hmem with hmem | hmem
      · exact h.result_of_failed hmem hf
      · cases List.mem_singleton.mp hmem

/-- **A session is aborted by a write that fails**, unless it wrote the report of a trouble of its
own: then the fault of the write takes the place of the outcome. Either way the result is there, and
nothing is left to do but to close the file. -/
theorem aborts_unless_reporting (run : Run (Session.start peer request).value log s)
    (hmem : .sent packet (.error f) ∈ log) (hf : f.isUnreadable = true)
    (hclosed : ∀ g, .closed (.error g) ∉ log) :
    s.phase.result? = some (resultOfFailed request log f) := by
  cases run.trail with
  | opening _ _ _ hlog =>
    rw [hlog] at hmem
    cases hmem
  | fetching _ _ h => exact absurd h.allSent (Log.not_allSent_of_mem hmem)
  | exchanging _ _ h hx hlog =>
    rw [hlog] at hmem
    exact absurd (h.allSent.append hx.allSent_of_going) (Log.not_allSent_of_mem hmem)
  | reporting _ h => exact absurd h.allSent (Log.not_allSent_of_mem hmem)
  | closing hp h => rw [hp, Phase.result?, h.result_of_failed hmem hf]
  | ended hp h => rw [hp, Phase.result?, h.result_of_failed hmem hf hclosed]

/-- The first copy of a block is written, the second is not. -/
def secondCopyFails : Log :=
  let block := (Packet.data [0, 1] [7]).toDraft
  [.opened (Bytes.toText [102]) (.ok ()), .fetched 512 (.ok [7]), .sent block (.ok 0),
    .received 3000 ⟨.error (.timedOut "timeout"), 3000⟩, .sent block (.error (.transport "down")),
    .closed (.ok ())]

/-- The second copy of a block cannot be written. The session is aborted by an error, and its file
is closed. -/
theorem aborts_unless_reporting_secondCopyFails :
    let request := (Packet.readRequest ⟨[102], octetMode, []⟩).toDraft
    let s : Session := { peer := .null, phase := .ended (.ok .abortedByError) }
    Run (Session.start .null request).value secondCopyFails s ∧
      .sent (Packet.data [0, 1] [7]).toDraft (.error (.transport "down")) ∈ secondCopyFails ∧
      (Fault.transport "down").isUnreadable = true ∧
      (∀ g, .closed (.error g) ∉ secondCopyFails) ∧
      s.phase.result? = some (resultOfFailed request secondCopyFails (.transport "down")) := by
  intro request s
  have run : Run (Session.start .null request).value secondCopyFails s := Run.of_replay rfl
  have hmem : .sent (Packet.data [0, 1] [7]).toDraft (.error (.transport "down")) ∈
      secondCopyFails := by
    simp [secondCopyFails]
  have hclosed : ∀ g, .closed (.error g) ∉ secondCopyFails := by
    simp [secondCopyFails]
  exact ⟨run, hmem, rfl, hclosed, aborts_unless_reporting run hmem rfl hclosed⟩

/-- A request to write is refused, and the refusal cannot be written: the session has no outcome. -/
theorem exists_failed_report :
    ∃ (datagram : Bytes) (q : Request) (log : Log) (s : Session),
      Packet.decode datagram = .ok (.writeRequest q) ∧ q.options = [] ∧
        Run (Session.start .null (Packet.writeRequest q).toDraft).value log s ∧
        log = [.sent Trouble.writing.report (.error (.transport "down"))] ∧
        s.phase = .ended (.error (.transport "down")) := by
  let q : Request := ⟨[102], octetMode, []⟩
  let s : Session := { peer := .null, phase := .ended (.error (.transport "down")) }
  have hdecode : Packet.decode ([0, 2, 102, 0] ++ octetMode ++ [0]) = .ok (.writeRequest q) := by
    rfl
  have run : Run (Session.start .null (Packet.writeRequest q).toDraft).value
      [.sent Trouble.writing.report (.error (.transport "down"))] s := Run.of_replay rfl
  exact ⟨_, q, _, s, hdecode, rfl, run, rfl, rfl⟩

end Session

end Tftp
