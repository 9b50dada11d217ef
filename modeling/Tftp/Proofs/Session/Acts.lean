import Tftp.Proofs.Session.Trail

/-!
# The acts of a session

A log says what a session did. Here each deed stands together with the session before and after it,
so that it can be said which deed led where.

* `Deed.reply?` — the packet that a deed reads, if it reads one;
* `Session.Act` and `Session.Course` — a deed with its session, and acts one after the other;
* `Session.Act.GoesOn` — acts that lead on from what was exchanged;
* `Session.SentFirst` — where what a session exchanges was sent for the first time.

Whenever a packet is read, there is a first sending before (`Run.exists_sentFirst`), and an act that
leads on has read an acknowledgement (`Run.isAck_of_goesOn`). Both are read off the trail.
-/

namespace Tftp

/-- The packet that a deed reads. -/
def Deed.reply? : Deed → Option Draft
  | .received _ ⟨.ok reply, _⟩ => some reply
  | _ => none

theorem Deed.exists_received {d : Deed} {reply : Draft} (h : d.reply? = some reply) :
    ∃ wait now, d = .received wait ⟨.ok reply, now⟩ := by
  unfold reply? at h
  split at h
  · cases h
    exact ⟨_, _, rfl⟩
  · cases h

/-! ## The begin of an exchange -/

namespace Exchange

variable {peer : Address} {packet : Draft} {block : Int} {timeout : Time} {log : Log}
  {x : Exchange} {d : Deed} {next : Next}

/-- What an exchange does first is to write its packet. -/
theorem Run.eq_nil_or_sent (run : Run (.going (.start peer packet block timeout)) log next) :
    log = [] ∧ next = .going (.start peer packet block timeout) ∨
      ∃ answer since, log = .sent packet answer :: since := by
  induction run with
  | start => exact .inl ⟨rfl, rfl⟩
  | step run hs ih =>
    right
    rcases ih with ⟨rfl, hnext⟩ | ⟨answer, since, rfl⟩
    · cases hnext
      obtain ⟨answer, rfl, -⟩ := hs.of_sending rfl
      exact ⟨answer, [], rfl⟩
    · exact ⟨answer, since ++ [_], rfl⟩

/-- While an exchange waits, its packet was written. -/
theorem Run.exists_sent {now deadline : Time}
    (run : Run (.going (.start peer packet block timeout)) log (.going x))
    (hp : x.phase = .waiting now deadline) :
    ∃ sentAt since, log = .sent packet (.ok sentAt) :: since := by
  rcases run.eq_nil_or_sent with ⟨-, hx⟩ | ⟨answer, since, rfl⟩
  · cases hx
    cases hp
  · cases answer with
    | error f => cases run.of_failed (.head _)
    | ok sentAt => exact ⟨sentAt, since, rfl⟩

/-- An exchange receives while it waits. -/
theorem Step.exists_waiting {wait : Time} {r : Reception} (h : x.Step (.received wait r) next) :
    ∃ now deadline, x.phase = .waiting now deadline := by
  cases hp : x.phase with
  | sending =>
    obtain ⟨answer, hd, -⟩ := h.of_sending hp
    cases hd
  | waiting now deadline => exact ⟨now, deadline, rfl⟩
  | reporting f =>
    obtain ⟨answer, hd, -⟩ := h.of_reporting hp
    cases hd

/-- All the time an exchange waits for the same acknowledgement. -/
theorem Run.block_eq (run : Run (.going (.start peer packet block timeout)) log (.going x)) :
    x.block = block := by
  cases run.trail <;> rfl

end Exchange

namespace Session

/-! ## Acts -/

/-- A deed, with the session before and after it. -/
structure Act where
  /-- the session that does it -/
  before : Session
  /-- what it does -/
  deed : Deed
  /-- what becomes of it -/
  after : Session

/-- The act leads on from what was exchanged, to the next block or to the completion. -/
def Act.GoesOn (act : Act) : Prop :=
  (∃ goal x, act.before.phase = .exchanging goal x) ∧
    ((∃ number, act.after.phase = .fetching number) ∨
      act.after.phase = .closing (.ok .completed))

/-- Acts one after the other lead from one session to another. -/
inductive Course : Session → List Act → Session → Prop
  /-- nothing is done -/
  | nil (s : Session) : Course s [] s
  /-- an act, and those after it -/
  | cons {s t u : Session} {d : Deed} {acts : List Act} (h : s.Step d t)
      (rest : Course t acts u) : Course s (⟨s, d, t⟩ :: acts) u

variable {s t u : Session} {acts later : List Act} {act : Act}

theorem Course.append (h : Course s acts t) (h' : Course t later u) :
    Course s (acts ++ later) u := by
  induction h with
  | nil => exact h'
  | cons hs _ ih => exact .cons hs (ih h')

/-- Each act of a course is a step from where the acts before it led. -/
theorem Course.of_append_cons (h : Course s (acts ++ act :: later) u) :
    Course s acts act.before ∧ act.before.Step act.deed act.after := by
  induction acts generalizing s with
  | nil =>
    cases h with
    | cons hs _ => exact ⟨.nil _, hs⟩
  | cons a acts ih =>
    cases h with
    | cons hs rest =>
      obtain ⟨hcourse, hstep⟩ := ih rest
      exact ⟨.cons hs hcourse, hstep⟩

/-- The deeds of a course continue a run. -/
theorem Run.append_course {start : Session} {log : Log} (run : Run start log s)
    (h : Course s acts t) : Run start (log ++ acts.map Act.deed) t := by
  induction h generalizing log with
  | nil =>
    rw [List.map_nil, List.append_nil]
    exact run
  | cons hs _ ih =>
    have hrest := ih (run.step hs)
    rw [List.append_assoc] at hrest
    exact hrest

theorem Course.run (h : Course s acts t) : Run s (acts.map Act.deed) t :=
  Run.start.append_course h

/-! ## What is exchanged -/

/-- A session exchanges a packet. It reached that exchange after some deeds, and began it with the
first sending of the packet. -/
inductive SentFirst (request : Draft) (before : Log) (sending : Deed) (since : Log) (s : Session) :
    Prop
  | intro {a : Agreement} {goal : Goal} {packet : Packet} {block : Int} {x : Exchange}
      {sentAt : Time} (hreached : Reached s.peer request a (.exchanging goal packet block) before)
      (hsending : sending = .sent packet.toDraft (.ok sentAt))
      (hexchange : Exchanges s.peer a packet block (sending :: since) (.going x))
      (hp : s.phase = .exchanging goal x)

variable {peer : Address} {request : Draft} {log : Log} {d : Deed}

/-- Receiving is for a packet that is exchanged. In no other phase does a session wait for a
packet. -/
theorem Step.exists_exchanging {wait : Time} {r : Reception} (h : s.Step (.received wait r) t) :
    ∃ goal x next, s.phase = .exchanging goal x ∧ x.Step (.received wait r) next := by
  cases hp : s.phase with
  | exchanging goal x =>
    obtain ⟨next, hx, -⟩ := h.of_exchanging hp
    exact ⟨goal, x, next, rfl, hx⟩
  | opening filename options =>
    obtain ⟨answer, hd, -⟩ := h.of_opening hp
    cases hd
  | fetching number =>
    obtain ⟨answer, hd, -⟩ := h.of_fetching hp
    cases hd
  | reporting code message fileOpen =>
    obtain ⟨answer, hd, -⟩ := h.of_reporting hp
    cases hd
  | closing result =>
    obtain ⟨answer, hd, -⟩ := h.of_closing hp
    cases hd
  | ended result => exact absurd h (not_step_of_ended hp)

/-- **Before anything is received there is a first sending** of the packet that is exchanged. -/
theorem Run.exists_sentFirst {wait : Time} {r : Reception}
    (run : Run (Session.start peer request).value log s) (hs : s.Step (.received wait r) t) :
    ∃ before sending since, log = before ++ sending :: since ∧
      SentFirst request before sending since s := by
  obtain ⟨goal, x, next, hp, hx⟩ := hs.exists_exchanging
  obtain ⟨now, deadline, hwaiting⟩ := hx.exists_waiting
  cases run.trail with
  | @exchanging a goal' packet block x' before part hp' hterms hreached hexchange hlog =>
    rw [hp] at hp'
    cases hp'
    obtain ⟨sentAt, since, rfl⟩ := hexchange.exists_sent hwaiting
    exact ⟨before, _, since, hlog, .intro hreached rfl hexchange hp⟩
  | _ hp' => rw [hp] at hp'; cases hp'

/-- **What leads on is an acknowledgement** of the packet that is exchanged. The session goes on to
a block or to a completed transfer only if its exchange was answered, and with the trail of the
session the answer is known to be the acknowledgement. -/
theorem Run.isAck_of_goesOn (run : Run (Session.start peer request).value log act.before)
    (hs : act.before.Step act.deed act.after) (h : act.GoesOn) :
    ∃ goal x reply, act.before.phase = .exchanging goal x ∧ act.deed.reply? = some reply ∧
      reply.IsAck x.block := by
  obtain ⟨⟨goal, x, hp⟩, hon⟩ := h
  obtain ⟨next, hx, hafter⟩ := hs.of_exchanging hp
  have hfollowed := act.before.follow_spec goal next
  rw [← hafter] at hfollowed
  have hnext : ∃ reply, next = .ended (.ok reply) := by
    generalize act.after = after at hfollowed hon
    cases hfollowed with
    | agreed => exact ⟨_, rfl⟩
    | completed => exact ⟨_, rfl⟩
    | continued => exact ⟨_, rfl⟩
    | _ => rcases hon with ⟨number, hon⟩ | hon <;> cases hon
  obtain ⟨reply, rfl⟩ := hnext
  cases run.trail with
  | exchanging hp' hterms hreached hexchange hlog =>
    rw [hp] at hp'
    cases hp'
    obtain ⟨n, before, wait, now, -, hlog', -, hack⟩ := (hexchange.step hx).ended.of_ok
    have hdeed : act.deed = .received wait ⟨.ok reply, now⟩ :=
      List.singleton_injective (List.append_inj_right' hlog' rfl)
    rw [← hexchange.block_eq] at hack
    refine ⟨goal, x, reply, hp, ?_, hack⟩
    rw [hdeed]
    rfl
  | _ hp' => rw [hp] at hp'; cases hp'

end Session

end Tftp
