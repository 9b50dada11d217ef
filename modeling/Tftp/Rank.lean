import Tftp.File
import Tftp.Session

/-!
# Why a session ends

Every step of a session lowers its rank, as long as the file it reads is finite; only a packet
that is received and discarded may leave it where it is. A rank is a triple that is compared from
the left:

* the stage — opening, agreeing on options, transferring, ending;
* the rounds that the file has left;
* the patience of the exchange that is going on.

`Session.Rank.lt_readFile` and its companions say this for each kind of call. Whoever runs a
session adds the number of packets that are there to be received as a fourth part.
-/

namespace Tftp

/-! ## Exchanges -/

namespace Exchange

/-- How many more steps are left without receiving a packet; an exchange that is over has none. -/
def Next.patience : Next → Nat
  | .going x => x.patience + 1
  | .ended _ => 0

theorem patience_retry_lt (x : Exchange) (n : Nat)
    (h : 2 * (maxAttempts - x.attempt) + 1 ≤ n) : x.retry.value.patience ≤ n := by
  unfold retry
  split
  · simp only [Next.patience, patience]
    omega
  · simp [fail, Next.patience]

theorem patience_await_le (x : Exchange) (now deadline : Time) :
    (x.await now deadline).value.patience ≤ 2 * (maxAttempts - x.attempt) + 2 := by
  unfold await
  split
  · simp [Next.patience, patience]
  · exact patience_retry_lt x _ (by omega)

/-- Sending a packet takes patience. -/
theorem patience_send_lt {x : Exchange} {packet : Draft}
    {resume : Except Fault Time → Noted Next} (h : x.call = .send packet resume)
    (answer : Except Fault Time) : (resume answer).value.patience < x.patience + 1 := by
  unfold call at h
  split at h
  · next hp =>
    simp only [Call.send.injEq] at h
    obtain ⟨-, rfl⟩ := h
    unfold sent
    simp only [patience, hp]
    split
    · simp [fail, Next.patience]
    · have := patience_await_le x ‹Time› (‹Time› + x.timeout)
      omega
  · exact nomatch h
  · simp only [Call.send.injEq] at h
    obtain ⟨-, rfl⟩ := h
    unfold reported
    split <;> simp [fail, Next.patience]

/-- Receiving never gives patience back, and a failure to receive takes some. -/
theorem patience_receive {x : Exchange} {wait : Time} {resume : Reception → Noted Next}
    (h : x.call = .receive wait resume) (r : Reception) :
    (resume r).value.patience ≤ x.patience + 1 ∧
      (∀ f, r.outcome = .error f → (resume r).value.patience < x.patience + 1) := by
  unfold call at h
  split at h
  · exact nomatch h
  · next hp =>
    simp only [Call.receive.injEq] at h
    obtain ⟨-, rfl⟩ := h
    simp only [patience, hp]
    unfold received
    split
    · split
      · have := patience_retry_lt x _ (Nat.le_refl _)
        exact ⟨by omega, fun _ _ => by omega⟩
      · split
        · simp [Next.patience, patience]
        · simp [fail, Next.patience]
    · next reply hr =>
      refine ⟨?_, fun f hf => nomatch hr ▸ hf⟩
      split
      · simp [fail, Next.patience]
      · simp [Next.patience]
      · simpa using patience_await_le x _ _
  · exact nomatch h

end Exchange

/-! ## Sessions -/

namespace Session

/-- The rank of a session: its stage, its rounds and its patience. -/
abbrev Rank := Nat × Nat × Nat

/-- The order of ranks, from the left. -/
abbrev Rank.Lt : Rank → Rank → Prop :=
  Prod.Lex (· < ·) (Prod.Lex (· < ·) (· < ·))

/-- The stages of a session, counted down to its end. -/
def Phase.stage : Phase → Nat
  | .opening .. => 3
  | .exchanging .agreement _ => 2
  | .exchanging (.block ..) _ | .fetching _ => 1
  | .reporting .. | .closing _ | .ended _ => 0

/-- A bound on the reads and blocks that are left for a file of a size. -/
def Phase.rounds (size : Nat) : Phase → Nat
  | .fetching _ => 2 * size + 1
  | .exchanging (.block _ false) _ => 2 * size + 2
  | _ => 0

/-- A bound on the steps in a round, without receiving a packet. -/
def Phase.patience : Phase → Nat
  | .exchanging _ x => x.patience + 1
  | .reporting .. => 2
  | .closing _ => 1
  | _ => 0

/-- The rank of a session that reads from a file of a size. -/
def rank (s : Session) (size : Nat) : Rank :=
  (s.phase.stage, s.phase.rounds size, s.phase.patience)

namespace Rank

theorem lt_of_stage {a b : Rank} (h : a.1 < b.1) : Lt a b :=
  Prod.Lex.left _ _ h

theorem lt_of_rounds {a b : Rank} (h₁ : a.1 = b.1) (h₂ : a.2.1 < b.2.1) : Lt a b := by
  obtain ⟨a₁, a₂⟩ := a
  obtain ⟨b₁, b₂⟩ := b
  obtain rfl : a₁ = b₁ := h₁
  exact Prod.Lex.right _ (Prod.Lex.left _ _ h₂)

theorem lt_of_patience {a b : Rank} (h₁ : a.1 = b.1) (h₂ : a.2.1 = b.2.1) (h₃ : a.2.2 < b.2.2) :
    Lt a b := by
  obtain ⟨a₁, a₂, a₃⟩ := a
  obtain ⟨b₁, b₂, b₃⟩ := b
  obtain rfl : a₁ = b₁ := h₁
  obtain rfl : a₂ = b₂ := h₂
  exact Prod.Lex.right _ (Prod.Lex.right _ h₃)

end Rank

@[simp] theorem phase_enter (s : Session) (p : Phase) : (s.enter p).phase = p := rfl

@[simp] theorem phase_finish (s : Session) (r : Except Fault Outcome) :
    (s.finish r).value.phase = .ended r := by
  cases r <;> rfl

@[simp] theorem phase_close (s : Session) (r : Except Fault Outcome) :
    (s.close r).value.phase = .closing r := rfl

@[simp] theorem phase_report (s : Session) (code : ErrorCode) (message : Bytes) (o : Bool) :
    (s.report code message o).value.phase = .reporting code message o := rfl

theorem stage_unanswered (s : Session) (goal : Goal) (f : Fault) :
    (s.unanswered goal f).value.phase.stage = 0 := by
  unfold unanswered
  split
  · cases goal <;> rfl
  · split <;> rfl

theorem stage_agree_lt (s : Session) (requested : Options) :
    (s.agree requested).value.phase.stage < 3 := by
  unfold agree
  split
  · simp only [Noted.value_andThen]
    split <;> simp [Phase.stage]
  · dsimp only
    split <;> simp [Phase.stage, exchange]

/-- The answer of the backend ends the opening stage. -/
theorem Rank.lt_openFile {s : Session} {filename : String}
    {resume : Except Fault Unit → Noted Session} (h : s.call = .openFile filename resume)
    (answer : Except Fault Unit) (m n : Nat) :
    Rank.Lt ((resume answer).value.rank m) (s.rank n) := by
  refine Rank.lt_of_stage ?_
  unfold call at h
  split at h
  · next hp =>
    simp only [Call.openFile.injEq] at h
    obtain ⟨-, rfl⟩ := h
    simp only [rank, hp, Phase.stage.eq_1]
    unfold opened
    split
    · simp [Phase.stage]
    · simp only [Noted.value_andThen]
      split
      · simp [Phase.stage]
      · simp [Phase.stage]
      · exact stage_agree_lt s _
  · split at h <;> exact nomatch h
  all_goals exact nomatch h

/-- A read from the file takes a round, or it ends the transfer. -/
theorem Rank.lt_readFile {s : Session} {size : Int} {resume : Except Fault Bytes → Noted Session}
    (h : s.call = .readFile size resume) (file : File) :
    Rank.Lt ((resume (file.read size).1).value.rank (file.read size).2.size)
      (s.rank file.size) := by
  unfold call at h
  split at h
  · exact nomatch h
  · split at h <;> exact nomatch h
  · next number hp =>
    simp only [Call.readFile.injEq] at h
    obtain ⟨rfl, rfl⟩ := h
    match hr : file.read s.terms.blockSize with
    | (.error f, rest) =>
      refine Rank.lt_of_stage ?_
      simp [rank, fetched, Phase.stage, hp]
    | (.ok payload, rest) =>
      refine Rank.lt_of_rounds ?_ ?_
      · simp [rank, fetched, Phase.stage, hp, exchange]
      · simp only [rank, fetched, hp, Noted.value_silent, exchange, phase_enter]
        by_cases hl : (payload.length : Int) < s.terms.blockSize
        · simp [hl, Phase.rounds]
        · have := File.size_read_lt s.valid.blockSize_pos hr (by omega)
          simp only [hl, decide_false, Phase.rounds]
          omega
  all_goals exact nomatch h

/-- Closing the file ends the session. -/
theorem Rank.lt_closeFile {s : Session} {resume : Except Fault Unit → Noted Session}
    (h : s.call = .closeFile resume) (answer : Except Fault Unit) (n : Nat) :
    Rank.Lt ((resume answer).value.rank n) (s.rank n) := by
  unfold call at h
  split at h
  · exact nomatch h
  · split at h <;> exact nomatch h
  · exact nomatch h
  · exact nomatch h
  · next result hp =>
    simp only [Call.closeFile.injEq] at h
    obtain rfl := h
    unfold closed
    refine Rank.lt_of_patience ?_ ?_ ?_
    · split <;> simp [rank, Phase.stage, hp]
    · split <;> simp [rank, Phase.rounds, hp]
    · split <;> simp [rank, Phase.patience, hp]
  · exact nomatch h

/-- An exchange that goes on passes its loss of patience on to the session, and one that is over
takes the session to a lower stage or round. -/
theorem Rank.follow (s : Session) (goal : Goal) (x : Exchange) (hp : s.phase = .exchanging goal x)
    (next : Exchange.Next) (n : Nat) :
    (next.patience ≤ x.patience + 1 →
      Rank.Lt ((s.follow goal next).value.rank n) (s.rank n) ∨
        (s.follow goal next).value.rank n = s.rank n) ∧
      (next.patience < x.patience + 1 →
        Rank.Lt ((s.follow goal next).value.rank n) (s.rank n)) := by
  unfold Session.follow
  split
  · next y =>
    have hs : (Phase.exchanging goal y).stage = (Phase.exchanging goal x).stage := by
      cases goal <;> rfl
    have hr : (Phase.exchanging goal y).rounds n = (Phase.exchanging goal x).rounds n := by
      match goal with
      | .agreement => rfl
      | .block _ true => rfl
      | .block _ false => rfl
    have lt (h : y.patience < x.patience) :
        Rank.Lt ((s.enter (.exchanging goal y)).rank n) (s.rank n) := by
      refine Rank.lt_of_patience ?_ ?_ ?_ <;> simp only [rank, phase_enter, hp, hs, hr]
      simp only [Phase.patience]
      omega
    simp only [Exchange.Next.patience, Noted.value_silent]
    refine ⟨fun h => ?_, fun h => lt (by omega)⟩
    rcases Nat.lt_or_eq_of_le (show y.patience ≤ x.patience by omega) with h | h
    · exact .inl (lt h)
    · refine .inr ?_
      simp only [rank, phase_enter, hp, hs, hr, Phase.patience, h]
  · have lt : Rank.Lt ((s.acknowledged goal).value.rank n) (s.rank n) := by
      match goal with
      | .agreement =>
        refine Rank.lt_of_stage ?_
        simp [rank, acknowledged, Phase.stage, hp]
      | .block _ true =>
        refine Rank.lt_of_stage ?_
        simp [rank, acknowledged, Phase.stage, hp]
      | .block _ false =>
        refine Rank.lt_of_rounds ?_ ?_ <;>
          simp [rank, acknowledged, Phase.stage, Phase.rounds, hp]
    exact ⟨fun _ => .inl lt, fun _ => lt⟩
  · next f =>
    have lt : Rank.Lt ((s.unanswered goal f).value.rank n) (s.rank n) := by
      refine Rank.lt_of_stage ?_
      simp only [rank, stage_unanswered]
      cases goal <;> simp [Phase.stage, hp]
    exact ⟨fun _ => .inl lt, fun _ => lt⟩

/-- Sending a packet lowers the rank. -/
theorem Rank.lt_send {s : Session} {packet : Draft} {resume : Except Fault Time → Noted Session}
    (h : s.call = .send packet resume) (answer : Except Fault Time) (n : Nat) :
    Rank.Lt ((resume answer).value.rank n) (s.rank n) := by
  unfold call at h
  split at h
  · exact nomatch h
  · next goal x hp =>
    split at h
    · next hc =>
      simp only [Call.send.injEq] at h
      obtain ⟨-, rfl⟩ := h
      exact (Rank.follow s goal x hp _ n).2 (Exchange.patience_send_lt hc answer)
    · exact nomatch h
  · exact nomatch h
  · next code message fileOpen hp =>
    simp only [Call.send.injEq] at h
    obtain ⟨-, rfl⟩ := h
    refine Rank.lt_of_patience ?_ ?_ ?_
    · cases fileOpen <;> simp [rank, reported, Phase.stage, hp]
    · cases fileOpen <;> simp [rank, reported, Phase.rounds, hp]
    · cases fileOpen <;> simp [rank, reported, Phase.patience, hp]
  · exact nomatch h
  · exact nomatch h

/-- Receiving leaves the rank where it is or lowers it, and a failure to receive lowers it. -/
theorem Rank.receive {s : Session} {wait : Time} {resume : Reception → Noted Session}
    (h : s.call = .receive wait resume) (r : Reception) (n : Nat) :
    (Rank.Lt ((resume r).value.rank n) (s.rank n) ∨ (resume r).value.rank n = s.rank n) ∧
      (∀ f, r.outcome = .error f → Rank.Lt ((resume r).value.rank n) (s.rank n)) := by
  unfold call at h
  split at h
  · exact nomatch h
  · next goal x hp =>
    split at h
    · exact nomatch h
    · next hc =>
      simp only [Call.receive.injEq] at h
      obtain ⟨-, rfl⟩ := h
      have := Exchange.patience_receive hc r
      exact ⟨(Rank.follow s goal x hp _ n).1 this.1,
        fun f hf => (Rank.follow s goal x hp _ n).2 (this.2 f hf)⟩
  · exact nomatch h
  · exact nomatch h
  · exact nomatch h
  · exact nomatch h

/-! ## Running -/

/-- The order in which runs of sessions go down: the rank, and then what is left to be received. -/
abbrev Progress := Rank × Nat

/-- The order of progress, from the left. -/
abbrev Progress.Lt : Progress → Progress → Prop :=
  Prod.Lex Rank.Lt (· < ·)

theorem Progress.lt_of_rank {a b : Progress} (h : Rank.Lt a.1 b.1) : Progress.Lt a b :=
  Prod.Lex.left _ _ h

theorem Progress.lt_of_count {a b : Progress} (h₁ : Rank.Lt a.1 b.1 ∨ a.1 = b.1)
    (h₂ : a.2 < b.2) : Progress.Lt a b := by
  rcases h₁ with h | h
  · exact Prod.Lex.left _ _ h
  · obtain ⟨a₁, a₂⟩ := a
    obtain ⟨b₁, b₂⟩ := b
    obtain rfl : a₁ = b₁ := h
    exact Prod.Lex.right _ h₂

end Session

end Tftp
