import Tftp.Proofs.Negotiation.Agreement
import Tftp.Proofs.Packet.Grammar
import Tftp.Proofs.Session.Trail

/-!
# A session keeps to what it announced

The options that were agreed on are announced to the client in one packet, and the terms that they
come to are the ones that the session works with: the size of every read from the file, the time of
every wait, its own announcement included. Without an announcement the terms are the default ones.

* `Log.announced` — the options that the log says were announced;
* `Log.Settled` — the announcement was acknowledged, or there was nothing to announce;
* `Log.KeepsTo` — a deed keeps to terms;
* `Session.keeps_to_announced` — the main theorem.

`Stage.Ready` is what carries it along a trail: before the first block the announcement is settled,
and what is done from then on does not announce anything.

A client knows the terms only from the announcement, and a server could go wrong in three ways: by
sending blocks before the client has agreed, by announcing one thing and doing another, or by
falling back to other terms later. The theorem excludes all three, with or without failed writes.
-/

namespace Tftp

/-! ## Announcements in a log

What was announced is read off the packets, as the client would do: it is what the first
announcement says. That every later one says the same is shown further on. -/

namespace Log

/-- None of the packets that were written announces options. -/
def Unannounced (log : Log) : Prop :=
  ∀ packet ∈ log.packets, packet.opcode ≠ some Opcode.optionAck.bytes

/-- The options that were announced, and none if nothing was. -/
def announced (log : Log) : Options :=
  ((log.packets.find? fun packet => packet.opcode = some Opcode.optionAck.bytes).bind
    Draft.options).getD []

/-- There was nothing to announce, or the announcement was written one to three times and nothing
else, then its acknowledgement was received, and it was not written again. -/
inductive Settled (accepted : Options) : Log → Prop
  /-- there was nothing to announce -/
  | passedOver {log : Log} (h : accepted = []) (hlog : log.Unannounced) : Settled accepted log
  /-- it was announced and acknowledged -/
  | acknowledged {n : Nat} {before after : Log} {wait now : Time} {reply : Draft}
      (h : accepted ≠ []) (hn : 1 ≤ n) (hmax : n ≤ 3)
      (hpackets : before.packets = List.replicate n (Packet.optionAck accepted).toDraft)
      (hack : reply.IsAck 0) (hafter : after.Unannounced) :
      Settled accepted (before ++ .received wait ⟨.ok reply, now⟩ :: after)

/-- With the deeds before it, a deed keeps to what was agreed on: no block is sent before that is
settled, reads from the file are of the block size, and waits are as long as the timeout. -/
structure KeepsTo (accepted : Options) (terms : Terms) (before : Log) (d : Deed) : Prop where
  /-- blocks come after the announcement -/
  settled : ∀ packet answer, d = .sent packet answer → packet.opcode = some Opcode.data.bytes →
    before.Settled accepted
  /-- reads are of the block size -/
  size_eq : ∀ size answer, d = .fetched size answer → size = terms.blockSize
  /-- waits are as long as the timeout -/
  waits : Waits (.ofSeconds terms.timeout) before d

/-- Nothing was read from the file or received, and only errors were written. -/
structure Idle (log : Log) : Prop where
  /-- no reads from the file -/
  not_fetched : ∀ size answer, .fetched size answer ∉ log
  /-- no waits -/
  not_received : ∀ wait r, .received wait r ∉ log
  /-- no packets but errors -/
  error_of_sent : ∀ packet answer, .sent packet answer ∈ log →
    packet.opcode = some Opcode.error.bytes

variable {log part : Log} {accepted : Options} {terms : Terms} {d : Deed}

/-- What was written was sent. -/
theorem exists_sent_of_mem_packets {packet : Draft} (h : packet ∈ log.packets) :
    ∃ now, .sent packet (.ok now) ∈ log := by
  obtain ⟨⟨p, now⟩, hw, rfl⟩ := List.mem_map.mp h
  obtain ⟨d, hd, hwriting⟩ := List.mem_filterMap.mp hw
  cases d with
  | sent p' answer => cases answer <;> cases hwriting; exact ⟨_, hd⟩
  | _ => cases hwriting

/-- A log with packets of other kinds announces nothing. -/
theorem unannounced_of_sent {o : Opcode} (ho : o ≠ .optionAck)
    (h : ∀ packet answer, .sent packet answer ∈ log →
      packet.opcode = some o.bytes ∨ packet.opcode = some Opcode.error.bytes) :
    log.Unannounced := by
  intro packet hp hopcode
  obtain ⟨now, hsent⟩ := exists_sent_of_mem_packets hp
  rcases h packet _ hsent with heq | heq
  · rw [hopcode] at heq
    cases o <;> first | exact ho rfl | cases heq
  · rw [hopcode] at heq
    cases heq

theorem unannounced_of_packets_eq_nil (h : log.packets = []) : log.Unannounced := by
  intro packet hp
  rw [h] at hp
  cases hp

theorem Unannounced.append (h : log.Unannounced) (h' : part.Unannounced) :
    Unannounced (log ++ part) := by
  intro packet hp
  rw [packets_append] at hp
  rcases List.mem_append.mp hp with hp | hp
  · exact h packet hp
  · exact h' packet hp

theorem Unannounced.announced_eq (h : log.Unannounced) : log.announced = [] := by
  have hfind : log.packets.find?
      (fun packet => packet.opcode = some Opcode.optionAck.bytes) = none := by
    rw [List.find?_eq_none]
    intro packet hp
    simpa using h packet hp
  rw [announced, hfind]
  rfl

/-- What was announced is found where all announcements are the same. -/
theorem announced_eq_of_mem (hmem : (Packet.optionAck accepted).toDraft ∈ log.packets)
    (h : ∀ packet ∈ log.packets, packet.opcode = some Opcode.optionAck.bytes →
      packet = (Packet.optionAck accepted).toDraft) : log.announced = accepted := by
  have hsome : (log.packets.find?
      (fun packet => packet.opcode = some Opcode.optionAck.bytes)).isSome := by
    rw [List.find?_isSome]
    exact ⟨_, hmem, by simp [Packet.opcode]⟩
  obtain ⟨packet, hfind⟩ := Option.isSome_iff_exists.mp hsome
  have hopcode := List.find?_some hfind
  rw [announced, hfind, h packet (List.mem_of_find?_eq_some hfind) (by simpa using hopcode)]
  rfl

/-- What is settled stays so, as long as nothing is announced anew. -/
theorem Settled.append (h : log.Settled accepted) (hpart : part.Unannounced) :
    Settled accepted (log ++ part) := by
  cases h with
  | passedOver h hlog => exact .passedOver h (hlog.append hpart)
  | acknowledged h hn hmax hpackets hack hafter =>
    rw [List.append_assoc, List.cons_append]
    exact .acknowledged h hn hmax hpackets hack (hafter.append hpart)

/-- What is settled is what was announced. -/
theorem Settled.announced_eq (h : log.Settled accepted) : log.announced = accepted := by
  cases h with
  | passedOver h hlog => rw [hlog.announced_eq, h]
  | @acknowledged n before after wait now reply h hn hmax hpackets hack hafter =>
    have hall : packets (before ++ .received wait ⟨.ok reply, now⟩ :: after) =
        List.replicate n (Packet.optionAck accepted).toDraft ++ after.packets := by
      rw [packets_append, hpackets]
      rfl
    -- the copies before the acknowledgement are the only announcements
    apply announced_eq_of_mem
    · rw [hall]
      exact List.mem_append_left _ (List.mem_replicate.mpr ⟨Nat.pos_iff_ne_zero.mp hn, rfl⟩)
    · intro packet hp hopcode
      rw [hall] at hp
      rcases List.mem_append.mp hp with hp | hp
      · exact List.eq_of_mem_replicate hp
      · exact absurd hopcode (hafter packet hp)

/-- An error announces nothing. -/
theorem Idle.unannounced (h : log.Idle) : log.Unannounced :=
  unannounced_of_sent (o := .error) nofun fun packet answer hmem =>
    .inl (h.error_of_sent packet answer hmem)

theorem Idle.append (h : log.Idle) (h' : part.Idle) : Idle (log ++ part) where
  not_fetched size answer hmem :=
    (List.mem_append.mp hmem).elim (h.not_fetched size answer) (h'.not_fetched size answer)
  not_received wait r hmem :=
    (List.mem_append.mp hmem).elim (h.not_received wait r) (h'.not_received wait r)
  error_of_sent packet answer hmem :=
    (List.mem_append.mp hmem).elim (h.error_of_sent packet answer) (h'.error_of_sent packet answer)

theorem idle_nil : Idle [] := by
  constructor <;> simp

theorem idle_opened (filename : String) (answer : Except Fault Unit) :
    Idle [.opened filename answer] := by
  constructor <;> simp

theorem idle_closed (answer : Except Fault Unit) : Idle [.closed answer] := by
  constructor <;> simp

/-- Where nothing of a transfer is done, any terms are kept to. -/
theorem Idle.keepsTo (h : part.Idle) (accepted : Options) (terms : Terms) (log : Log) :
    part.Always fun before => KeepsTo accepted terms (log ++ before) := by
  intro before d hb
  have hd : d ∈ part := hb.subset (List.mem_append_right _ (.head _))
  constructor
  · rintro packet answer rfl hopcode
    rw [h.error_of_sent packet answer hd] at hopcode
    cases hopcode
  · rintro size answer rfl
    exact absurd hd (h.not_fetched size answer)
  · rintro wait r rfl
    exact absurd hd (h.not_received wait r)

/-- A read of a block keeps to the terms. -/
theorem keepsTo_fetched (accepted : Options) (terms : Terms) (before : Log)
    (answer : Except Fault Bytes) :
    KeepsTo accepted terms before (.fetched terms.blockSize answer) where
  settled := by
    intro packet answer' hd
    cases hd
  size_eq := by
    intro size answer' hd
    cases hd
    rfl
  waits := waits_of_reception?_eq_none _ _ rfl

/-- The time for an answer runs only when a packet was written. -/
theorem Countdown.packets_ne_nil {timeout now deadline : Time}
    (h : log.Countdown timeout now deadline) : log.packets ≠ [] := by
  induction h with
  | sent log packet now =>
    rw [packets_append]
    exact List.append_ne_nil_of_right_ne_nil _ (List.cons_ne_nil _ _)
  | received h wait r ih =>
    rw [packets_concat rfl]
    exact ih

end Log

/-! ## Along a trail

A trail tells of a session in large parts. Each of them is an exchange, or a read from the file, or
it is idle. -/

namespace Session

/-- Before an announcement only the file was opened, and before a block the announcement was
settled. -/
def Stage.Ready (accepted : Options) : Stage → Log → Prop
  | .fetching _, log => log.Settled accepted
  | .exchanging (.block ..) packet _, log => log.Settled accepted ∧ packet.opcode = .data
  | .exchanging .agreement packet block, log =>
    accepted ≠ [] ∧ packet = .optionAck accepted ∧ block = 0 ∧
      ∃ filename, log = [.opened filename (.ok ())]

/-- How terms and a log hang together, in the session of a request. -/
inductive Heralds (request : Draft) : Terms → Log → Prop
  /-- there is no agreement on options -/
  | idle {log : Log} (h : log.Idle) : Heralds request .default log
  /-- nothing was announced, and so far nothing depends on it -/
  | unheard {a : Agreement} {log : Log} (ha : Agrees request a) (hpackets : log.packets = [])
      (hkeeps : ∀ terms, log.Always (Log.KeepsTo a.accepted terms)) : Heralds request a.terms log
  /-- what was agreed on was announced, and kept to -/
  | heard {a : Agreement} {log : Log} (ha : Agrees request a) (h : log.announced = a.accepted)
      (hkeeps : log.Always (Log.KeepsTo a.accepted a.terms)) : Heralds request a.terms log

variable {peer : Address} {request : Draft} {log part : Log} {a : Agreement} {s t : Session}
  {goal : Goal} {packet : Packet} {block : Int} {next : Exchange.Next}

/-- The exchange of a block announces nothing. -/
theorem unannounced_of_exchanges (hx : Exchanges peer a packet block part next)
    (hopcode : packet.opcode = .data) : part.Unannounced := by
  refine Log.unannounced_of_sent (o := .data) nofun ?_
  intro p answer hmem
  rcases hx.sent_eq p answer hmem with rfl | herror
  · exact .inl (hopcode ▸ packet.opcode_toDraft)
  · exact .inr herror

/-- A stage is reached only when what it needs is settled. The announcement itself needs nothing,
and with its acknowledgement it is settled for good. -/
theorem Reached.ready {stage : Stage} (h : Reached peer request a stage log) :
    stage.Ready a.accepted log := by
  induction h with
  | passedOver h ha => exact .passedOver ha (Log.unannounced_of_packets_eq_nil rfl)
  | agreed h ha => exact ⟨ha, rfl, rfl, _, rfl⟩
  | fetched h payload ih =>
    exact ⟨Log.Settled.append ih (Log.unannounced_of_packets_eq_nil rfl), rfl⟩
  | @answered goal packet block number log part reply h hx hnext ih =>
    cases goal with
    | agreement =>
      obtain ⟨ha, rfl, rfl, filename, rfl⟩ := ih
      obtain ⟨n, before, wait, now, hn, rfl, hunanswered, hack⟩ := hx.ended.of_ok
      rw [← List.append_assoc]
      refine .acknowledged ha (Nat.le_add_left 1 n) hn ?_ hack
        (Log.unannounced_of_packets_eq_nil rfl)
      rw [Log.packets_append, hunanswered.packets_eq]
      rfl
    | block number last => exact ih.1.append (unannounced_of_exchanges hx ih.2)

/-- An exchange keeps to the terms that it is begun under. -/
theorem keepsTo_of_exchanges (hready : (Stage.exchanging goal packet block).Ready a.accepted log)
    (hx : Exchanges peer a packet block part next) :
    part.Always fun before => Log.KeepsTo a.accepted a.terms (log ++ before) := by
  intro before d hb
  have hd : d ∈ part := hb.subset (List.mem_append_right _ (.head _))
  constructor
  · rintro p answer rfl hdata
    rcases hx.sent_eq p answer hd with rfl | herror
    · cases goal with
      | agreement =>
        obtain ⟨-, rfl, -⟩ := hready
        cases hdata
      | block number last =>
        -- what was settled before the exchange stays so while its copies are written
        have hpart := unannounced_of_exchanges hx hready.2
        refine hready.1.append fun p hp => hpart p ?_
        obtain ⟨after, rfl⟩ := hb
        rw [Log.packets_append, Log.packets_append]
        exact List.mem_append_left _ (List.mem_append_left _ hp)
    · rw [herror] at hdata
      cases hdata
  · rintro size answer rfl
    cases hx.onWire _ hd
  · exact (hx.waits before d hb).after log

/-- Up to where a session has got it kept to its terms. -/
theorem Reached.keepsTo {stage : Stage} (h : Reached peer request a stage log) :
    log.Always (Log.KeepsTo a.accepted a.terms) := by
  induction h with
  | passedOver => exact (Log.idle_opened _ _).keepsTo _ _ []
  | agreed => exact (Log.idle_opened _ _).keepsTo _ _ []
  | fetched h payload ih =>
    exact Log.always_concat.mpr ⟨ih, Log.keepsTo_fetched _ _ _ _⟩
  | answered h hx hnext ih => exact Log.always_append.mpr ⟨ih, keepsTo_of_exchanges h.ready hx⟩

/-! ## What terms and logs have to do with each other

Until its first packet is written, nobody can say what a session will announce. Then its terms do
not matter either: without a packet there is nothing to wait for, and before the first exchange
there is nothing to read. -/

/-- Before its first packet was written an announcement is kept to whatever the terms are. -/
theorem keepsTo_of_packets_eq_nil {filename : String} {terms : Terms}
    (hkeeps : Log.Always (Log.KeepsTo a.accepted a.terms) (.opened filename (.ok ()) :: part))
    (hx : Exchanges peer a packet block part next) (hpackets : part.packets = []) :
    Log.Always (Log.KeepsTo a.accepted terms) (.opened filename (.ok ()) :: part) := by
  intro before d hb
  have hk := hkeeps before d hb
  have hd : d ∈ Deed.opened filename (.ok ()) :: part :=
    hb.subset (List.mem_append_right _ (.head _))
  refine ⟨hk.settled, ?_, ?_⟩
  · rintro size answer rfl
    rcases List.mem_cons.mp hd with hd | hd
    · cases hd
    · cases hx.onWire _ hd
  · intro wait r hr
    obtain ⟨now, deadline, hcount, -⟩ := hk.waits wait r hr
    obtain ⟨after, hafter⟩ := hb
    -- the time for an answer would run from a packet that was written
    have hall : Log.packets (before ++ [d] ++ after) = [] := by
      rw [hafter]
      exact hpackets
    rw [Log.packets_append, Log.packets_append, List.append_eq_nil_iff,
      List.append_eq_nil_iff] at hall
    exact absurd hall.1.1 hcount.packets_ne_nil

/-- While a packet is exchanged the terms are the announced ones, or they do not matter yet. -/
theorem Reached.heralds (h : Reached peer request a (.exchanging goal packet block) log)
    (hx : Exchanges peer a packet block part next) : Heralds request a.terms (log ++ part) := by
  have hready := h.ready
  have hkeeps := Log.always_append.mpr ⟨h.keepsTo, keepsTo_of_exchanges hready hx⟩
  cases goal with
  | block number last =>
    exact .heard h.agrees
      (hready.1.append (unannounced_of_exchanges hx hready.2)).announced_eq hkeeps
  | agreement =>
    obtain ⟨-, rfl, rfl, filename, rfl⟩ := hready
    -- as soon as anything was written, the announcement was
    by_cases hpackets : part.packets = []
    · exact .unheard h.agrees hpackets fun terms => keepsTo_of_packets_eq_nil hkeeps hx hpackets
    · refine .heard h.agrees (Log.announced_eq_of_mem (hx.mem_packets hpackets) ?_) hkeeps
      intro p hp hopcode
      have hpart : p ∈ part.packets := hp
      obtain ⟨now, hsent⟩ := Log.exists_sent_of_mem_packets hpart
      refine (hx.sent_eq p _ hsent).resolve_right fun herror => ?_
      rw [hopcode] at herror
      cases herror

/-- What comes after a trouble does not belong to the transfer. -/
theorem Troubled.heralds {trouble : Trouble} {terms : Terms} {fileOpen : Bool} {after : Log}
    (h : Troubled peer request trouble terms fileOpen log) (hafter : after.Idle) :
    Heralds request terms (log ++ after) := by
  cases h with
  | unserved => exact .idle hafter
  | writing => exact .idle hafter
  | noFile => exact .idle ((Log.idle_opened _ _).append hafter)
  | options => exact .idle ((Log.idle_opened _ _).append hafter)
  | @file a number before f h =>
    have hsettled : Log.Settled a.accepted (before ++ [.fetched a.terms.blockSize (.error f)]) :=
      Log.Settled.append h.ready (Log.unannounced_of_packets_eq_nil rfl)
    refine .heard h.agrees (hsettled.append hafter.unannounced).announced_eq ?_
    exact Log.always_append.mpr ⟨Log.always_concat.mpr ⟨h.keepsTo, Log.keepsTo_fetched _ _ _ _⟩,
      hafter.keepsTo _ _ _⟩

theorem Trouble.idle_report (trouble : Trouble) (answer : Except Fault Time) :
    Log.Idle [.sent trouble.report answer] := by
  constructor <;> simp [Trouble.report, Packet.report, Packet.opcode]

/-- When a session is through with its request, its terms are what it announced. Before an agreement
they are the default ones. -/
theorem Concluded.heralds {terms : Terms} {fileOpen : Bool} {result : Except Fault Outcome}
    (h : Concluded peer request terms fileOpen log result) : Heralds request terms log := by
  cases h with
  | incomplete => exact .idle (Log.idle_opened _ _)
  | unread => exact .idle (Log.idle_opened _ _)
  | @reported trouble _ _ _ h answer => exact h.heralds (trouble.idle_report answer)
  | exchanged h hx => exact h.heralds hx

/-- The closing of the file changes nothing about that. -/
theorem Heralds.closed {terms : Terms} (h : Heralds request terms log)
    (answer : Except Fault Unit) : Heralds request terms (log ++ [.closed answer]) := by
  have hpackets : Log.packets (log ++ [.closed answer]) = log.packets := Log.packets_concat rfl _
  have hclosed := Log.idle_closed answer
  cases h with
  | idle h => exact .idle (h.append hclosed)
  | unheard ha hnil hkeeps =>
    refine .unheard ha (hpackets ▸ hnil) fun terms => ?_
    exact Log.always_append.mpr ⟨hkeeps terms, hclosed.keepsTo _ _ _⟩
  | heard ha h hkeeps =>
    refine .heard ha ?_ (Log.always_append.mpr ⟨hkeeps, hclosed.keepsTo _ _ _⟩)
    rw [Log.announced, hpackets, ← h]
    rfl

/-- So they are all along the trail, for every session has one. -/
theorem Trail.heralds (h : Trail request log s) : Heralds request s.terms log := by
  cases h with
  | opening hp hopcode hterms hlog =>
    rw [hterms, hlog]
    exact .idle Log.idle_nil
  | fetching hp hterms h =>
    rw [hterms]
    exact .heard h.agrees (Log.Settled.announced_eq h.ready) h.keepsTo
  | exchanging hp hterms h hx hlog =>
    rw [hterms, hlog]
    exact h.heralds hx
  | reporting hp h =>
    have hheralds := h.heralds Log.idle_nil
    rw [List.append_nil] at hheralds
    exact hheralds
  | closing hp h => exact h.heralds
  | ended hp h =>
    generalize s.terms = terms at h
    cases h with
    | unclear => exact .idle Log.idle_nil
    | unopened h => exact h.heralds
    | closed h answer => exact h.heralds.closed answer

/-! ## Terms that stay

The terms are fixed when the file is opened. The theorem is about the terms in the end and the deeds
on the way, and so it is needed that these are the same terms. -/

/-- The session is over the opening of the file. -/
def IsUnderWay (s : Session) : Prop :=
  ∀ filename options, s.phase ≠ .opening filename options

theorem isUnderWay_enter {p : Phase} (h : ∀ filename options, p ≠ .opening filename options) :
    (s.enter p).IsUnderWay :=
  h

/-- Once the file was opened a step leaves the terms as they are. Of all functions of a session only
the one that agrees on options sets them, and that is called just once. -/
theorem Step.terms_eq {d : Deed} (h : s.Step d t) (hs : s.IsUnderWay) :
    t.terms = s.terms ∧ t.IsUnderWay := by
  cases hp : s.phase with
  | opening filename options => exact absurd hp (hs filename options)
  | fetching number =>
    obtain ⟨answer, rfl, rfl⟩ := h.of_fetching hp
    cases answer with
    | error f => exact ⟨rfl, isUnderWay_enter nofun⟩
    | ok payload => exact ⟨rfl, isUnderWay_enter nofun⟩
  | exchanging goal x =>
    obtain ⟨next, -, rfl⟩ := h.of_exchanging hp
    have hspec := s.follow_spec goal next
    generalize (s.follow goal next).value = u at hspec
    cases hspec <;> exact ⟨rfl, isUnderWay_enter nofun⟩
  | reporting code message fileOpen =>
    obtain ⟨answer, rfl, rfl⟩ := h.of_reporting hp
    rw [value_reported]
    cases fileOpen <;> exact ⟨rfl, isUnderWay_enter nofun⟩
  | closing result =>
    obtain ⟨answer, rfl, rfl⟩ := h.of_closing hp
    rw [value_closed]
    exact ⟨rfl, isUnderWay_enter nofun⟩
  | ended result => exact absurd h (not_step_of_ended hp)

/-- Once a session is under way its terms do not change any more. -/
theorem Run.terms_eq (run : Run s log t) (hs : s.IsUnderWay) :
    t.terms = s.terms ∧ t.IsUnderWay := by
  induction run with
  | start => exact ⟨rfl, hs⟩
  | step run h ih =>
    obtain ⟨hterms, hunder⟩ := h.terms_eq ih.2
    exact ⟨hterms.trans ih.1, hunder⟩

/-- Before the file was opened nothing was written. -/
theorem Trail.isUnderWay (h : Trail request log s) (hpackets : log.packets ≠ []) :
    s.IsUnderWay := by
  intro filename options hp
  rw [h.log_eq_nil hp] at hpackets
  exact hpackets rfl

/-! ## The theorem -/

/-- **A session keeps to what it announced.** The terms that a log announces, or else the default
ones, are in range. Once a packet was written they are the terms of the session, and stay. Where the
options of the request lead to an agreement the session keeps to them: it sends a block only after
its announcement was acknowledged, or without anything to announce, every read from the file is of
the announced size, and every wait is as long as the announced timeout. Where they do not, the terms
of the session are the default ones, and nothing is read from the file, received or written, except
for an error. -/
theorem keeps_to_announced {datagram : Bytes} {q : Request}
    (hq : Packet.decode datagram = .ok (.readRequest q))
    (run : Run (Session.start peer (Packet.readRequest q).toDraft).value log s) :
    let terms := Terms.announced log.announced
    (8 ≤ terms.blockSize ∧ terms.blockSize ≤ 65464 ∧ 1 ≤ terms.timeout ∧ terms.timeout ≤ 255) ∧
      (log.packets ≠ [] → ∀ more t, Run s more t → t.terms = terms) ∧
      (∀ a, negotiate q.options Terms.default = .ok a →
        log.Always (Log.KeepsTo a.accepted terms)) ∧
      ∀ f, negotiate q.options Terms.default = .error f → s.terms = Terms.default ∧ log.Idle := by
  intro terms
  have hrange (h : terms.Valid) : 8 ≤ terms.blockSize ∧ terms.blockSize ≤ 65464 ∧
      1 ≤ terms.timeout ∧ terms.timeout ≤ 255 :=
    ⟨(h .blockSize).1, (h .blockSize).2, (h .timeout).1, (h .timeout).2⟩
  have hstay (h : s.terms = terms) (hpackets : log.packets ≠ []) (more : Log) (t : Session)
      (run' : Run s more t) : t.terms = terms :=
    (run'.terms_eq (run.trail.isUnderWay hpackets)).1.trans h
  have hheralds := run.trail.heralds
  -- either the options were not looked at, or not written yet, or announced
  generalize hterms : s.terms = u at hheralds
  cases hheralds with
  | idle h =>
    have hdefault : terms = Terms.default := congrArg Terms.announced h.unannounced.announced_eq
    have hs : s.terms = terms := hterms.trans hdefault.symm
    exact ⟨hrange (hs ▸ s.valid), hstay hs, fun a _ => h.keepsTo _ _ [], fun f _ => ⟨rfl, h⟩⟩
  | @unheard a _ ha hpackets hkeeps =>
    have hdefault : terms = Terms.default :=
      congrArg Terms.announced ((Log.unannounced_of_packets_eq_nil hpackets).announced_eq)
    refine ⟨hrange (hdefault ▸ Terms.valid_default), fun hne => absurd hpackets hne, ?_, ?_⟩
    · intro a' hn
      rw [ha.negotiate_eq] at hn
      cases hn
      exact hkeeps terms
    · intro f hn
      rw [ha.negotiate_eq] at hn
      cases hn
  | @heard a _ ha h hkeeps =>
    have hannounced : terms = a.terms := by
      rw [terms_eq_announced (Packet.nodup_of_decode hq) ha.negotiate_eq, ← h]
    have hs : s.terms = terms := hterms.trans hannounced.symm
    refine ⟨hrange (hs ▸ s.valid), hstay hs, ?_, ?_⟩
    · intro a' hn
      rw [ha.negotiate_eq] at hn
      cases hn
      rw [hannounced]
      exact hkeeps
    · intro f hn
      rw [ha.negotiate_eq] at hn
      cases hn

/-- The announcement of a block size is lost once, and then acknowledged. -/
def lostAnnouncement : Log :=
  let packet := (Packet.optionAck [(Negotiable.blockSize.bytes, [49, 48])]).toDraft
  [.opened (Bytes.toText [102]) (.ok ()), .sent packet (.ok 0),
    .received 3000 ⟨.error (.timedOut "timeout"), 3000⟩, .sent packet (.ok 3000),
    .received 3000 ⟨.ok (Packet.ack [0, 0]).toDraft, 3500⟩, .fetched 10 (.ok [7])]

/-- A block size of ten is agreed on. The first announcement is lost, and the second one is
acknowledged. -/
theorem keeps_to_announced_lostAnnouncement :
    let options : Options := [(Negotiable.blockSize.bytes, [49, 48])]
    let q : Request := ⟨[102], octetMode, options⟩
    let datagram : Bytes :=
      [0, 1, 102, 0] ++ octetMode ++ [0] ++ Negotiable.blockSize.bytes ++ [0, 49, 48, 0]
    ∃ s, Packet.decode datagram = .ok (.readRequest q) ∧
      Run (Session.start .null (Packet.readRequest q).toDraft).value lostAnnouncement s ∧
      lostAnnouncement.announced = options ∧ s.terms = ⟨10, 3⟩ ∧
      lostAnnouncement.Always (Log.KeepsTo options ⟨10, 3⟩) := by
  intro options q datagram
  have hq : Packet.decode datagram = .ok (.readRequest q) := by decide +kernel
  have hreplay : ((Session.start .null (Packet.readRequest q).toDraft).value.replay
      lostAnnouncement).isSome := by decide +kernel
  obtain ⟨s, hs⟩ := Option.isSome_iff_exists.mp hreplay
  have run := Run.of_replay hs
  have hn : negotiate q.options Terms.default = .ok ⟨⟨10, 3⟩, options⟩ := by decide +kernel
  have hannounced : lostAnnouncement.announced = options := by decide +kernel
  have hterms : Terms.announced lostAnnouncement.announced = ⟨10, 3⟩ := by decide +kernel
  obtain ⟨-, hstay, hkeeps, -⟩ := keeps_to_announced hq run
  rw [hterms] at hstay hkeeps
  have hpackets : lostAnnouncement.packets ≠ [] := List.cons_ne_nil _ _
  exact ⟨s, hq, run, hannounced, hstay hpackets [] s .start, hkeeps _ hn⟩

end Session

end Tftp
