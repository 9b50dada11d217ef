import Tftp.Backend
import Tftp.Channel
import Tftp.Rank

/-!
# Rehearsals

An exchange or a session played against a reply channel, a backend and a file system.

* `Trial` — an exchange on a channel;
* `Rehearsal` — a session on a channel, with a backend to open its file.

`step` carries out one call, and there is no step from the end, or from a session that waits for a
file that its backend has promised. `run` takes steps while there are any. Both end, whatever the
channel answers: an exchange loses patience and a session loses rank, and a packet that changes
neither has been taken from the queue.
-/

namespace Tftp

/-! ## Exchanges -/

/-- An exchange on a channel, and what was seen of it so far. -/
structure Trial where
  state : Exchange.Next
  channel : Channel
  transcript : Transcript := {}

namespace Trial

/-- The trial goes on in a next state, on the channel after an event. -/
def next (t : Trial) (channel : Channel) (event : Event) (state : Noted Exchange.Next) : Trial :=
  { state := state.value, channel, transcript := t.transcript.add [event] state.notices }

/-- The trial after one more call. -/
def step (t : Trial) : Option Trial :=
  match t.state with
  | .ended _ => none
  | .going x =>
    match x.call with
    | .send packet resume =>
      let (answer, event, channel) := t.channel.send packet
      some (t.next channel event (resume answer))
    | .receive wait resume =>
      let (reception, event, channel) := t.channel.receive wait
      some (t.next channel event (resume reception))

/-- Each step takes patience from the exchange or a delivery from the queue. -/
theorem step_lt {t u : Trial} (h : t.step = some u) :
    Prod.Lex (· < ·) (· < ·) (u.state.patience, u.channel.queue.length)
      (t.state.patience, t.channel.queue.length) := by
  unfold step at h
  split at h
  · exact nomatch h
  · next x hx =>
    rw [hx]
    split at h
    · next hc =>
      simp only [Option.some.injEq] at h
      subst h
      exact Prod.Lex.left _ _ (Exchange.patience_send_lt hc _)
    · next wait resume hc =>
      simp only [Option.some.injEq] at h
      subst h
      have hp := Exchange.patience_receive hc (t.channel.receive wait).1
      match hr : (t.channel.receive wait).1.outcome with
      | .error f => exact Prod.Lex.left _ _ (hp.2 f hr)
      | .ok reply =>
        have hq := Channel.length_queue_receive hr
        rcases Nat.lt_or_eq_of_le hp.1 with hlt | heq
        · exact Prod.Lex.left _ _ hlt
        · refine (Prod.lex_def ..).mpr (.inr ⟨heq, hq⟩)

/-- The trial played to its end. -/
def run (t : Trial) : Trial :=
  match _h : t.step with
  | none => t
  | some u => u.run
termination_by (t.state.patience, t.channel.queue.length)
decreasing_by exact step_lt _h

/-- The result of a trial that is over. -/
def result? (t : Trial) : Option (Except Fault Draft) :=
  match t.state with
  | .going _ => none
  | .ended result => some result

end Trial

/-! ## Sessions -/

/-- A session with its surroundings, and what was seen of it so far. -/
structure Rehearsal where
  session : Session
  backend : Option Backend
  files : FileSystem
  channel : Channel
  /-- the file that was opened, an empty one before that -/
  file : File := .ofBytes []
  /-- whether the backend has promised the file for later -/
  waiting : Bool := false
  transcript : Transcript := {}

namespace Rehearsal

/-- The rehearsal of a request. -/
def start (peer : Address) (request : Draft) (backend : Option Backend) (files : FileSystem)
    (channel : Channel) : Rehearsal :=
  let s := Session.start peer request
  { session := s.value, backend, files, channel, transcript := Transcript.add {} [] s.notices }

/-- The rehearsal goes on in the next state of the session, after some events. -/
def next (r : Rehearsal) (events : List Event) (s : Noted Session) : Rehearsal :=
  { r with session := s.value, transcript := r.transcript.add events s.notices }

/-- The backend is asked for a file. -/
def openFile (r : Rehearsal) (filename : String) (resume : Except Fault Unit → Noted Session) :
    Rehearsal :=
  let o := Backend.openFile? r.files r.session.peer filename r.backend
  let r := { r with transcript := r.transcript.add o.events o.notices }
  match o.answer with
  | .failure f => r.next [] (resume (.error f))
  | .file file => { r with file }.next [] (resume (.ok ()))
  | .later _ => { r with waiting := true }

/-- The rehearsal after one more call. -/
def step (r : Rehearsal) : Option Rehearsal :=
  match r.session.call with
  | .openFile filename resume => if r.waiting then none else some (r.openFile filename resume)
  | .readFile size resume =>
    let answer := r.file.read size
    some ({ r with file := answer.2 }.next [.fileRead r.file.observed size] (resume answer.1))
  | .closeFile resume => some (r.next [.fileClosed r.file.observed] (resume r.file.close))
  | .send packet resume =>
    let (answer, event, channel) := r.channel.send packet
    some ({ r with channel }.next [event] (resume answer))
  | .receive wait resume =>
    let (reception, event, channel) := r.channel.receive wait
    some ({ r with channel }.next [event] (resume reception))
  | .finished _ => none

/-- What goes down with each step: the rank of the session, and then the deliveries that are left
together with the request to the backend. -/
def progress (r : Rehearsal) : Session.Progress :=
  (r.session.rank r.file.size, r.channel.queue.length + if r.waiting then 0 else 1)

/-- Each step makes progress. -/
theorem step_lt {r t : Rehearsal} (h : r.step = some t) :
    Session.Progress.Lt t.progress r.progress := by
  unfold step at h
  split at h
  · next filename resume hc =>
    split at h
    · exact nomatch h
    · next hw =>
      simp only [Option.some.injEq] at h
      subst h
      unfold openFile
      dsimp only
      split
      · exact Session.Progress.lt_of_rank (Session.Rank.lt_openFile hc _ _ _)
      · exact Session.Progress.lt_of_rank (Session.Rank.lt_openFile hc _ _ _)
      · refine Session.Progress.lt_of_count (.inr rfl) ?_
        simp [progress, hw]
  · next size resume hc =>
    simp only [Option.some.injEq] at h
    subst h
    exact Session.Progress.lt_of_rank (Session.Rank.lt_readFile hc r.file)
  · next resume hc =>
    simp only [Option.some.injEq] at h
    subst h
    exact Session.Progress.lt_of_rank (Session.Rank.lt_closeFile hc _ _)
  · next packet resume hc =>
    simp only [Option.some.injEq] at h
    subst h
    exact Session.Progress.lt_of_rank (Session.Rank.lt_send hc _ _)
  · next wait resume hc =>
    simp only [Option.some.injEq] at h
    subst h
    have hp := Session.Rank.receive hc (r.channel.receive wait).1 r.file.size
    match hr : (r.channel.receive wait).1.outcome with
    | .error f => exact Session.Progress.lt_of_rank (hp.2 f hr)
    | .ok reply =>
      refine Session.Progress.lt_of_count hp.1 ?_
      exact Nat.add_lt_add_right (Channel.length_queue_receive hr) _
  · exact nomatch h

/-- The rehearsal played to its end. -/
def run (r : Rehearsal) : Rehearsal :=
  match _h : r.step with
  | none => r
  | some t => t.run
termination_by r.progress
decreasing_by exact step_lt _h

/-- The result of a session that is over. -/
def result? (r : Rehearsal) : Option (Except Fault Outcome) :=
  match r.session.phase with
  | .ended result => some result
  | _ => none

end Rehearsal

end Tftp
