import Tftp.Proofs.Exchange.Reliability
import Tftp.Proofs.Rehearsal.Run

/-!
# The time of a wait

A session that waits for a packet keeps the time at which it began to. In a rehearsal that is the
time of the channel, and it is before the deadline: with no time left a session does not wait.

* `Exchange.Step.waiting` and `Session.Step.waiting` — the deed before a wait, and its time;
* `Rehearsal.exists_timed_deed` — a step of a rehearsal is a deed in the time of its channel;
* `Rehearsal.InTime` — what a session knows of the time is right, which every step keeps.

This is what makes it possible to speak of a reply that comes without delay. A session compares the
deadline with the time that it has noted, and whether that is the time at which the reply came can
only be known if its notes are right.
-/

namespace Tftp

namespace Exchange

variable {x y : Exchange} {d : Deed} {now deadline : Time}

/-- A next copy is sent before anything is waited for. -/
theorem not_waiting_of_retry (h : x.retry.value = .going y) : y.phase ≠ .waiting now deadline := by
  intro hy
  by_cases hlt : x.attempt < maxAttempts
  · rw [value_retry_of_lt x hlt] at h
    cases h
    cases hy
  · rw [value_retry_of_le x (Nat.not_lt.mp hlt)] at h
    cases h

/-- Only while there is time left an exchange waits. -/
theorem waiting_of_await {now' deadline' : Time} (h : (x.await now' deadline').value = .going y)
    (hy : y.phase = .waiting now deadline) : now' = now ∧ now < deadline := by
  by_cases hlt : now' < deadline'
  · rw [value_await_of_lt x hlt] at h
    cases h
    cases hy
    exact ⟨rfl, hlt⟩
  · rw [value_await_of_le x (Int.not_lt.mp hlt)] at h
    exact absurd hy (not_waiting_of_retry h)

/-- An exchange that waits after a deed has time left from the time of that deed. -/
theorem Step.waiting (h : x.Step d (.going y)) (hy : y.phase = .waiting now deadline) :
    now < deadline ∧ ∀ begin, d.clock begin = now := by
  cases hx : x.phase with
  | sending =>
    obtain ⟨answer, rfl, hnext⟩ := h.of_sending hx
    cases answer with
    | error f => cases hnext
    | ok time =>
      obtain ⟨rfl, hlt⟩ := waiting_of_await hnext.symm hy
      exact ⟨hlt, fun _ => rfl⟩
  | waiting time limit =>
    obtain ⟨r, rfl, hnext⟩ := h.of_waiting hx
    -- of all receptions only a discarded reply is followed by another wait
    have hspec := x.received_spec limit r
    rw [← hnext] at hspec
    generalize hz : Next.going y = z at hspec
    cases hspec with
    | timedOut => exact absurd hy (not_waiting_of_retry hz.symm)
    | unreadable => cases hz; cases hy
    | failed => cases hz
    | unclear => cases hz
    | accepted => cases hz
    | discarded =>
      obtain ⟨rfl, hlt⟩ := waiting_of_await hz.symm hy
      exact ⟨hlt, fun _ => rfl⟩
  | reporting f =>
    obtain ⟨answer, rfl, hnext⟩ := h.of_reporting hx
    cases answer <;> cases hnext

end Exchange

/-- A session that waits after a deed has time left from the time of that deed. Only an exchange
waits, and one that was begun just now has to write its packet first. -/
theorem Session.Step.waiting {s t : Session} {d : Deed} {goal : Goal} {x : Exchange}
    {now deadline : Time} (h : s.Step d t) (hp : t.phase = .exchanging goal x)
    (hx : x.phase = .waiting now deadline) : now < deadline ∧ ∀ begin, d.clock begin = now := by
  cases hs : s.phase with
  | opening filename options =>
    obtain ⟨answer, -, ht⟩ := h.of_opening hs
    have hspec := s.opened_spec filename options answer
    rw [← ht] at hspec
    cases hspec with
    | agreed => cases hp; cases hx
    | _ => cases hp
  | fetching number =>
    obtain ⟨answer, -, rfl⟩ := h.of_fetching hs
    cases answer with
    | error f => cases hp
    | ok payload => cases hp; cases hx
  | exchanging goal' y =>
    obtain ⟨next, hstep, ht⟩ := h.of_exchanging hs
    have hspec := s.follow_spec goal' next
    rw [← ht] at hspec
    cases hspec with
    | going z => cases hp; exact hstep.waiting hx
    | _ => cases hp
  | reporting code message fileOpen =>
    obtain ⟨answer, -, rfl⟩ := h.of_reporting hs
    rw [value_reported] at hp
    cases fileOpen <;> cases hp
  | closing result =>
    obtain ⟨answer, -, rfl⟩ := h.of_closing hs
    rw [value_closed] at hp
    cases hp
  | ended result => exact absurd h (not_step_of_ended hs)

namespace Rehearsal

variable {r t : Rehearsal}

/-- A step of a rehearsal is a deed of its session in the time of the channel, or its backend will
answer later. -/
theorem exists_timed_deed (h : r.step = some t) :
    (t.session = r.session ∧ t.channel = r.channel) ∨
      ∃ d, r.session.Step d t.session ∧ t.channel.clock = d.clock r.channel.clock := by
  cases stepped h with
  | promised _ hsession hchannel => exact .inl ⟨hsession, hchannel⟩
  | opened _ hstep hchannel | fetched _ hstep hchannel | closed _ hstep hchannel =>
    exact .inr ⟨_, hstep, congrArg Channel.clock hchannel⟩
  | @sent packet _ _ hstep hchannel =>
    refine .inr ⟨_, hstep, ?_⟩
    rw [hchannel, Channel.send]
    cases r.channel.refuse r.channel.writes <;> rfl
  | @received wait _ _ hstep hchannel =>
    refine .inr ⟨_, hstep, ?_⟩
    rw [hchannel]
    exact r.channel.clock_receive wait

/-- A session that waits has time left, and knows what time it is. -/
def InTime (r : Rehearsal) : Prop :=
  ∀ goal x now deadline, r.session.phase = .exchanging goal x →
    x.phase = .waiting now deadline → now = r.channel.clock ∧ now < deadline

/-- Every step keeps that. A session that begins to wait does so at the time of its last deed, which
is the time of the channel. -/
theorem InTime.step (h : r.InTime) (hstep : r.step = some t) : t.InTime := by
  intro goal x now deadline hp hx
  rcases exists_timed_deed hstep with ⟨hsession, hchannel⟩ | ⟨d, hd, hclock⟩
  · rw [hsession] at hp
    rw [hchannel]
    exact h goal x now deadline hp hx
  · obtain ⟨hlt, hnow⟩ := hd.waiting hp hx
    exact ⟨(hclock.trans (hnow _)).symm, hlt⟩

/-- At the beginning nothing is waited for. -/
theorem inTime_start {peer : Address} {request : Draft} {backend : Option Backend}
    {files : FileSystem} (c : Channel) : (start peer request backend files c).InTime := by
  intro goal x now deadline hp
  simp only [start, Session.start] at hp
  split at hp
  · cases hp
  · split at hp
    · split at hp <;> cases hp
    · split at hp <;> cases hp

end Rehearsal

end Tftp
