import Tftp.Proofs.Rehearsal.Run

/-!
# What is played is a run

A theorem about the runs of an exchange or a session holds for whatever its surroundings answer. A
trial and a rehearsal have surroundings that compute their answers, and what they play are runs like
any other: its deeds make up a log, and the packets that the log says were written are the ones that
the transcript has as sent.

* `Trial.exists_run` — for an exchange on a channel;
* `Rehearsal.exists_run` — for a session on a channel, with a backend and its file.

Both go step by step (`exists_deed`), and put the runs of the steps together with `Run.trans`.
-/

namespace Tftp

theorem Exchange.Run.trans {a b c : Next} {l m : Log} (h : Run a l b) (h' : Run b m c) :
    Run a (l ++ m) c := by
  induction h' with
  | start =>
    rw [List.append_nil]
    exact h
  | step run hs ih =>
    rw [← List.append_assoc]
    exact ih.step hs

theorem Session.Run.trans {s t u : Session} {l m : Log} (h : Run s l t) (h' : Run t m u) :
    Run s (l ++ m) u := by
  induction h' with
  | start =>
    rw [List.append_nil]
    exact h
  | step run hs ih =>
    rw [← List.append_assoc]
    exact ih.step hs

namespace Trial

/-- A step of a trial is a deed of its exchange. -/
theorem exists_deed {t u : Trial} (h : t.step = some u) :
    ∃ log, Exchange.Run t.state log u.state ∧
      u.transcript.sent = t.transcript.sent ++ log.packets := by
  rw [step] at h
  split at h
  · cases h
  · next x hx =>
    rw [hx]
    split at h
    · next packet resume hc =>
      simp only [Option.some.injEq] at h
      subst h
      refine ⟨_, Exchange.Run.start.step (.sent hc (t.channel.send packet).1), ?_⟩
      simp only [next, Transcript.sent_add, Channel.sent?_send]
      rfl
    · next wait resume hc =>
      simp only [Option.some.injEq] at h
      subst h
      refine ⟨_, Exchange.Run.start.step (.received hc (t.channel.receive wait).1), ?_⟩
      simp only [next, Transcript.sent_add, Channel.sent?_receive]
      rfl

/-- **A trial plays a run of its exchange.** -/
theorem exists_run (t : Trial) : ∃ log, Exchange.Run t.state log t.run.state ∧
    t.run.transcript.sent = t.transcript.sent ++ log.packets := by
  fun_induction run t with
  | case1 t _ => exact ⟨[], .start, (List.append_nil _).symm⟩
  | case2 t u hu ih =>
    obtain ⟨l, hl, hsent⟩ := exists_deed hu
    obtain ⟨m, hm, hsent'⟩ := ih
    refine ⟨l ++ m, hl.trans hm, ?_⟩
    rw [hsent', hsent, Log.packets_append, List.append_assoc]

end Trial

namespace Rehearsal

/-- A step of a rehearsal is a deed of its session, or its backend will answer later. -/
theorem exists_deed {r t : Rehearsal} (h : r.step = some t) :
    ∃ log, Session.Run r.session log t.session ∧
      t.transcript.sent = r.transcript.sent ++ log.packets := by
  cases stepped h with
  | promised _ hsession _ hsent =>
    refine ⟨[], hsession ▸ .start, ?_⟩
    rw [hsent]
    exact (List.append_nil _).symm
  | sent _ hstep _ hsent => exact ⟨_, Session.Run.start.step hstep, hsent⟩
  | opened _ hstep _ hsent | fetched _ hstep _ hsent | closed _ hstep _ hsent
  | received _ hstep _ hsent =>
    refine ⟨_, Session.Run.start.step hstep, ?_⟩
    rw [hsent]
    exact (List.append_nil _).symm

/-- **A rehearsal plays a run of its session.** -/
theorem exists_run (r : Rehearsal) : ∃ log, Session.Run r.session log r.run.session ∧
    r.run.transcript.sent = r.transcript.sent ++ log.packets := by
  fun_induction run r with
  | case1 r _ => exact ⟨[], .start, (List.append_nil _).symm⟩
  | case2 r t ht ih =>
    obtain ⟨l, hl, hsent⟩ := exists_deed ht
    obtain ⟨m, hm, hsent'⟩ := ih
    refine ⟨l ++ m, hl.trans hm, ?_⟩
    rw [hsent', hsent, Log.packets_append, List.append_assoc]

end Rehearsal

end Tftp
