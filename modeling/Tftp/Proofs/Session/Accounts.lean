import Tftp.Proofs.Session.Trail

/-!
# How a session accounts for its outcome

The outcome of a session, the error packets that it wrote and the troubles that it met say the same.
Nothing is assumed of the request, the backend, the file and the reader, and of the writer only that
no write fails.

* `Session.troubles` — the troubles that a log shows, in order;
* `Log.errors` — the error packets that were written;
* `Log.Exhausted` — the log ends with three copies of one packet, none of them acknowledged;
* `Session.Accounts` — how these hang together with an outcome.

The main theorem is `Session.accounts_for_outcome`. A part of the trail without trouble is `Quiet`,
and a trail has one part with trouble at most, which is the last.

The account is in terms of the log alone. A trouble is something that the session could not go on
with: with the request, with the file or with a reply. That a session has one trouble at most is not
built into the definition, which gathers whatever the deeds show; it comes out because a session
with a trouble reports it and is over.
-/

namespace Tftp

/-- The number that a packet is to be acknowledged with, if it is to be acknowledged at all. -/
def Packet.answer? : Packet → Option Int
  | data block _ => (Bytes.toWord? block).map fun w => (w.toNat : Int)
  | optionAck _ => some 0
  | _ => none

namespace Log

/-- The error packets that were written. -/
def errors (log : Log) : List Draft :=
  log.packets.filter fun packet => packet.opcode = some Opcode.error.bytes

/-- The last packets that were written are three copies of one, and since the first of them the
acknowledgement did not come. -/
def Exhausted (log : Log) : Prop :=
  ∃ (packet : Packet) (number : Int) (before : Log) (now : Time) (between : Log),
    packet.answer? = some number ∧ log = before ++ .sent packet.toDraft (.ok now) :: between ∧
      between.packets = List.replicate 2 packet.toDraft ∧
      ∀ r ∈ between.receptions, ∀ reply, r.outcome = .ok reply → ¬ reply.IsAck number

@[simp] theorem errors_append (l m : Log) : errors (l ++ m) = errors l ++ errors m := by
  simp [errors]

/-- The first packet of a log is written at some point of it. -/
theorem exists_eq_append_of_packets {log : Log} {packet : Draft} {rest : List Draft}
    (h : log.packets = packet :: rest) :
    ∃ (before : Log) (now : Time) (between : Log),
      log = before ++ .sent packet (.ok now) :: between ∧ between.packets = rest := by
  induction log with
  | nil => cases h
  | cons d log ih =>
    cases hd : d.writing? with
    | none =>
      have hlog : packets log = packet :: rest := by
        rw [← h]
        simp [packets, writings, hd]
      obtain ⟨before, now, between, rfl, hbetween⟩ := ih hlog
      exact ⟨d :: before, now, between, rfl, hbetween⟩
    | some w =>
      obtain ⟨p, now⟩ := w
      have hdeed : d = .sent p (.ok now) := by
        cases d with
        | sent p' answer => cases answer <;> cases hd; rfl
        | _ => cases hd
      rw [hdeed] at h ⊢
      obtain ⟨rfl, hrest⟩ := List.cons.inj h
      exact ⟨[], now, log, rfl, hrest⟩

/-- What a log with packets after a point ends with comes after that point. -/
theorem exists_eq_concat_of_append_eq {log before between : Log} {d e : Deed}
    (h : log ++ [d] = before ++ e :: between) (hne : between ≠ []) :
    ∃ mid, between = mid ++ [d] ∧ log = before ++ e :: mid := by
  obtain ⟨mid, last, rfl⟩ := (List.eq_nil_or_concat between).resolve_left hne
  rw [List.concat_eq_append] at h ⊢
  rw [← List.cons_append, ← List.append_assoc] at h
  obtain ⟨hlog, hlast⟩ := List.append_inj' h rfl
  obtain rfl := List.singleton_injective hlast
  exact ⟨mid, rfl, hlog⟩

theorem ne_nil_of_packets {log : Log} {packet : Draft} {n : Nat}
    (h : log.packets = List.replicate (n + 1) packet) : log ≠ [] := by
  rintro rfl
  cases h

/-- The last packet of a log that is exhausted is one that is to be acknowledged, and so it is no
error packet. -/
theorem Exhausted.getLast? {log : Log} (h : log.Exhausted) :
    ∃ packet number, Packet.answer? packet = some number ∧
      log.packets.getLast? = some packet.toDraft := by
  obtain ⟨packet, number, before, now, between, hanswer, rfl, hbetween, -⟩ := h
  refine ⟨packet, number, hanswer, ?_⟩
  have hpackets : packets (Deed.sent packet.toDraft (.ok now) :: between) =
      packet.toDraft :: between.packets := rfl
  rw [packets_append, hpackets, hbetween]
  simp [List.replicate]

/-- A log that ends with an acknowledgement of its last packet is not exhausted. If it were, the
three copies would be of that packet, and the acknowledgement is among what was received since the
first of them. -/
theorem not_exhausted_of_isAck {log : Log} {packet : Packet} {number : Int} {wait now : Time}
    {reply : Draft} (hanswer : packet.answer? = some number)
    (hlast : log.packets.getLast? = some packet.toDraft) (hack : reply.IsAck number) :
    ¬ Exhausted (log ++ [.received wait ⟨.ok reply, now⟩]) := by
  rintro ⟨packet', number', before, time, between, hanswer', hlog, hbetween, hnone⟩
  obtain ⟨mid, rfl, rfl⟩ := exists_eq_concat_of_append_eq hlog (ne_nil_of_packets hbetween)
  have hmid : packets mid = List.replicate 2 packet'.toDraft := by
    rw [← hbetween, packets_concat rfl]
  -- the last packet is the one that the copies are of
  have hpackets : packets (before ++ Deed.sent packet'.toDraft (.ok time) :: mid) =
      before.packets ++ packet'.toDraft :: mid.packets := packets_append _ _
  rw [hpackets, hmid] at hlast
  have heq : packet' = packet := by
    apply Packet.toDraft_inj
    simpa [List.replicate] using hlast
  rw [heq, hanswer] at hanswer'
  obtain rfl := Option.some.inj hanswer'
  refine hnone ⟨.ok reply, now⟩ ?_ reply rfl hack
  rw [receptions_append]
  exact List.mem_append_right _ (.head _)

/-- The closing of the file changes nothing about that. It is the last deed and writes nothing, so
it stands behind the copies or there are none. -/
theorem exhausted_concat_closed {log : Log} (answer : Except Fault Unit) :
    Exhausted (log ++ [.closed answer]) ↔ log.Exhausted := by
  constructor
  · rintro ⟨packet, number, before, now, between, hanswer, hlog, hbetween, hnone⟩
    obtain ⟨mid, rfl, rfl⟩ := exists_eq_concat_of_append_eq hlog (ne_nil_of_packets hbetween)
    refine ⟨packet, number, before, now, mid, hanswer, rfl, ?_, ?_⟩
    · rw [← hbetween, packets_concat rfl]
    · intro r hr
      apply hnone
      rw [receptions_append]
      exact List.mem_append_left _ hr
  · rintro ⟨packet, number, before, now, between, hanswer, rfl, hbetween, hnone⟩
    refine ⟨packet, number, before, now, between ++ [.closed answer], hanswer, ?_, ?_, ?_⟩
    · rw [List.append_assoc, List.cons_append]
    · rw [packets_concat rfl, hbetween]
    · intro r hr
      rw [receptions_append] at hr
      rcases List.mem_append.mp hr with hr | hr
      · exact hnone r hr
      · cases hr

end Log

/-- The trouble with a request that is not to read. -/
def Draft.trouble? (request : Draft) : Option Session.Trouble :=
  match request.opcode with
  | none => none
  | some opcode =>
    if opcode = Opcode.readRequest.bytes then none
    else if opcode = Opcode.writeRequest.bytes then some .writing
    else some .unserved

/-- The trouble that a deed shows, in the session of a request. -/
def Deed.trouble? (request : Draft) : Deed → Option Session.Trouble
  | .opened _ (.error f) => some (.noFile f)
  | .opened _ (.ok ()) =>
    match request.options.map (negotiate · Terms.default) with
    | some (.error (.negotiation reason)) => some (.options reason)
    | _ => none
  | .fetched _ (.error f) => some (.file f)
  | .received _ ⟨.error f, _⟩ => if f.isUnreadable then some (.reply f) else none
  | _ => none

namespace Session

/-- The troubles of the session of a request, as its log shows them. -/
def troubles (request : Draft) (log : Log) : List Trouble :=
  request.trouble?.toList ++ log.filterMap (Deed.trouble? request)

/-- The trouble comes before anything of a transfer: with the request, its options or the file. -/
def Trouble.IsEarly : Trouble → Prop
  | .unserved | .writing | .noFile _ | .options _ => True
  | .file _ | .reply _ => False

/-- A log accounts for an outcome. -/
structure Accounts (request : Draft) (outcome : Outcome) (log : Log) : Prop where
  /-- what was reported are the troubles -/
  errors_eq : log.errors = (troubles request log).map Trouble.report
  /-- there is one report when the session was aborted by an error, and otherwise none -/
  length_errors : log.errors.length = if outcome = .abortedByError then 1 else 0
  /-- a report is the last packet -/
  getLast?_packets : ∀ packet ∈ log.errors, log.packets.getLast? = some packet
  /-- the report of an early trouble is the only packet -/
  packets_eq : ∀ trouble ∈ troubles request log, trouble.IsEarly → log.packets = [trouble.report]
  /-- the session timed out when the copies of a packet were exhausted, and only then -/
  exhausted_iff : outcome = .abortedByTimeout ↔ log.Exhausted

/-- There is nothing to report, and no error was written. -/
structure Quiet (request : Draft) (log : Log) : Prop where
  /-- no error was written -/
  errors_eq : log.errors = []
  /-- no deed shows trouble -/
  found_eq : log.filterMap (Deed.trouble? request) = []

variable {peer : Address} {request : Draft} {log part : Log} {a : Agreement}

theorem Quiet.append (h : Quiet request log) (h' : Quiet request part) :
    Quiet request (log ++ part) where
  errors_eq := by rw [Log.errors_append, h.errors_eq, h'.errors_eq, List.append_nil]
  found_eq := by rw [List.filterMap_append, h.found_eq, h'.found_eq, List.append_nil]

theorem quiet_received (request : Draft) (wait now : Time) (reply : Draft) :
    Quiet request [.received wait ⟨.ok reply, now⟩] :=
  ⟨rfl, rfl⟩

/-- While the acknowledgement does not come there is nothing to report. The copies are no errors,
since they are to be acknowledged, and what was passed over could be read. -/
theorem quiet_of_unanswered {packet : Packet} {block : Int} {n : Nat}
    (hanswer : packet.answer? = some block) (hwire : ∀ d ∈ log, d.OnWire)
    (h : Exchange.Unanswered packet.toDraft block n log) : Quiet request log where
  errors_eq := by
    have hne : packet.toDraft.opcode ≠ some Opcode.error.bytes := by
      cases packet <;> simp [Packet.answer?, Packet.opcode, Opcode.bytes] at hanswer ⊢
    rw [Log.errors, h.packets_eq, List.filter_eq_nil_iff]
    intro p hp
    rw [List.eq_of_mem_replicate hp]
    simpa using hne
  found_eq := by
    rw [List.filterMap_eq_nil_iff]
    intro d hd
    cases hwire d hd with
    | sent => rfl
    | received wait r =>
      have hr := h.passedOver r (List.mem_filterMap.mpr ⟨_, hd, rfl⟩)
      obtain ⟨outcome, now⟩ := r
      cases outcome with
      | ok reply => rfl
      | error f => simp only [Deed.trouble?, hr.2 f rfl, Bool.false_eq_true, if_false]

/-- What is exchanged is to be acknowledged, and with the number that is waited for. -/
theorem Reached.answer? {goal : Goal} {packet : Packet} {block : Int}
    (h : Reached peer request a (.exchanging goal packet block) log) :
    packet.answer? = some block := by
  cases h with
  | agreed => rfl
  | fetched => simp [Packet.answer?]

theorem trouble?_of_readRequest (h : request.opcode = some Opcode.readRequest.bytes) :
    request.trouble? = none := by
  simp [Draft.trouble?, h]

theorem troubles_of_readRequest (h : request.opcode = some Opcode.readRequest.bytes)
    (log : Log) : troubles request log = log.filterMap (Deed.trouble? request) := by
  rw [troubles, trouble?_of_readRequest h]
  rfl

/-- To open the file is no trouble if the options are agreed on. -/
theorem Agrees.quiet (h : Agrees request a) (filename : String) :
    Quiet request [.opened filename (.ok ())] where
  errors_eq := rfl
  found_eq := by
    obtain ⟨requested, ho, hn⟩ := h.exists_negotiate
    simp [Deed.trouble?, ho, hn]

/-- As long as a session goes on there is nothing to report. -/
theorem Reached.quiet {stage : Stage} (h : Reached peer request a stage log) :
    Quiet request log := by
  induction h with
  | passedOver h => exact h.quiet _
  | agreed h => exact h.quiet _
  | fetched h payload ih => exact ih.append ⟨rfl, rfl⟩
  -- the acknowledgement is no trouble, and neither is what was passed over before it
  | @answered goal packet block number log part reply h hx hnext ih =>
    have hwire := hx.onWire
    obtain ⟨n, before, wait, now, -, rfl, hunanswered, -⟩ := hx.ended.of_ok
    have hbefore : Quiet request before :=
      quiet_of_unanswered h.answer? (fun d hd => hwire d (List.mem_append_left _ hd)) hunanswered
    exact ih.append (hbefore.append (quiet_received request wait now reply))

/-! ## Accounts of the parts

A session is through with its request in one of a few ways, and for each the account is made up.
Quiet parts add nothing to it. The last part may have trouble, and then its report is the last
packet. -/

/-- A log that ends with a report is not exhausted. -/
theorem not_exhausted_of_report {trouble : Trouble}
    (h : log.packets.getLast? = some trouble.report) : ¬ log.Exhausted := by
  intro hex
  obtain ⟨packet, number, hanswer, hlast⟩ := hex.getLast?
  rw [h] at hlast
  have hpacket : Packet.error trouble.code.bytes trouble.message = packet :=
    Packet.toDraft_inj (Option.some.inj hlast)
  rw [← hpacket] at hanswer
  cases hanswer

/-- A log with one trouble, and the report of it as its last packet. All parts of the account follow
from these two, whichever trouble it is: there is one error, it comes last, and since it is not
acknowledged the copies of no packet are exhausted. -/
theorem accounts_of_report (trouble : Trouble) (htroubles : troubles request log = [trouble])
    (herrors : log.errors = [trouble.report])
    (hlast : log.packets.getLast? = some trouble.report)
    (hearly : trouble.IsEarly → log.packets = [trouble.report]) :
    Accounts request .abortedByError log where
  errors_eq := by rw [herrors, htroubles, List.map_singleton]
  length_errors := by rw [herrors, List.length_singleton, if_pos rfl]
  getLast?_packets := by
    intro packet hp
    rw [herrors] at hp
    rw [List.mem_singleton.mp hp, hlast]
  packets_eq := by
    intro trouble' ht hearly'
    rw [htroubles] at ht
    obtain rfl := List.mem_singleton.mp ht
    exact hearly hearly'
  exhausted_iff := by
    constructor
    · intro h
      cases h
    · intro h
      exact absurd h (not_exhausted_of_report hlast)

/-- A log of a read request without trouble. There is nothing to report, and what is left to be
shown is whether the copies of a packet were exhausted. -/
theorem Quiet.accounts {outcome : Outcome} (h : Quiet request log)
    (hopcode : request.opcode = some Opcode.readRequest.bytes) (hne : outcome ≠ .abortedByError)
    (hexhausted : outcome = .abortedByTimeout ↔ log.Exhausted) : Accounts request outcome log where
  errors_eq := by rw [h.errors_eq, troubles_of_readRequest hopcode, h.found_eq, List.map_nil]
  length_errors := by rw [h.errors_eq, if_neg hne, List.length_nil]
  getLast?_packets := by
    intro packet hp
    rw [h.errors_eq] at hp
    cases hp
  packets_eq := by
    intro trouble ht
    rw [troubles_of_readRequest hopcode, h.found_eq] at ht
    cases ht
  exhausted_iff := hexhausted

/-- Up to a report there is just the one trouble, and nothing was reported. An early trouble comes
before any packet, and a file that fails comes after blocks that were quiet. -/
theorem Troubled.troubles_eq {trouble : Trouble} {terms : Terms} {fileOpen : Bool}
    (h : Troubled peer request trouble terms fileOpen log) :
    troubles request log = [trouble] ∧ log.errors = [] ∧
      (trouble.IsEarly → log.packets = []) := by
  cases h with
  | unserved h hread hwrite =>
    refine ⟨?_, rfl, fun _ => rfl⟩
    simp [troubles, Draft.trouble?, h, hread, hwrite]
  | writing h =>
    refine ⟨?_, rfl, fun _ => rfl⟩
    simp [troubles, Draft.trouble?, h, Opcode.bytes]
  | noFile h =>
    refine ⟨?_, rfl, fun _ => rfl⟩
    rw [troubles_of_readRequest h]
    rfl
  | options h ho hn =>
    refine ⟨?_, rfl, fun _ => rfl⟩
    rw [troubles_of_readRequest h]
    simp [Deed.trouble?, ho, hn]
  | file h =>
    refine ⟨?_, ?_, False.elim⟩
    · rw [troubles_of_readRequest h.opcode_eq, List.filterMap_append, h.quiet.found_eq]
      rfl
    · rw [Log.errors_append, h.quiet.errors_eq]
      rfl

/-- What was sent last is the last packet. -/
theorem getLast?_packets_concat (log : Log) (packet : Draft) (now : Time) :
    (Log.packets (log ++ [.sent packet (.ok now)])).getLast? = some packet := by
  rw [Log.packets_append]
  exact List.getLast?_concat

/-- A report accounts for its trouble. -/
theorem Troubled.accounts {trouble : Trouble} {terms : Terms} {fileOpen : Bool}
    (h : Troubled peer request trouble terms fileOpen log) (now : Time) :
    Accounts request .abortedByError (log ++ [.sent trouble.report (.ok now)]) := by
  obtain ⟨htroubles, herrors, hearly⟩ := h.troubles_eq
  refine accounts_of_report trouble ?_ ?_ (getLast?_packets_concat _ _ _) ?_
  · rw [troubles, List.filterMap_append, ← List.append_assoc, ← troubles, htroubles]
    rfl
  · rw [Log.errors_append, herrors]
    rfl
  · intro he
    rw [Log.packets_append, hearly he]
    rfl

/-- The last exchange accounts for the outcome, whichever way it ended. With the acknowledgement
of the last block everything was quiet. With a timeout it was quiet as well, and the log ends
with the three copies. With a reply that cannot be read, the trouble and its report are the last
two deeds. -/
theorem Reached.accounts {goal : Goal} {packet : Packet} {block : Int}
    {ending : Except Fault Draft} {outcome : Outcome}
    (h : Reached peer request a (.exchanging goal packet block) log)
    (hx : Exchanges peer a packet block part (.ended ending)) (hg : goal.Gives ending (.ok outcome))
    (hsent : part.AllSent) : Accounts request outcome (log ++ part) := by
  have hopcode := h.opcode_eq
  have hwire := hx.onWire
  have quiet {n : Nat} {before after : Log} (hpart : part = before ++ after)
      (hb : Exchange.Unanswered packet.toDraft block n before) : Quiet request before :=
    quiet_of_unanswered h.answer?
      (fun d hd => hwire d (hpart ▸ List.mem_append_left after hd)) hb
  cases hg with
  | @completed number reply =>
    obtain ⟨n, before, wait, now, -, rfl, hb, hack⟩ := hx.ended.of_ok
    have hquiet := h.quiet.append ((quiet rfl hb).append (quiet_received request wait now reply))
    refine hquiet.accounts hopcode nofun ⟨nofun, fun hex => absurd hex ?_⟩
    rw [← List.append_assoc]
    refine Log.not_exhausted_of_isAck h.answer? ?_ hack
    rw [Log.packets_append, hb.packets_eq, List.replicate_succ', ← List.append_assoc]
    exact List.getLast?_concat
  -- the first of the three copies is where the exhausted part begins
  | @timedOut _ f hf =>
    have hb := hx.ended.of_timeout hsent hf
    have hquiet := h.quiet.append (quiet (List.append_nil part).symm hb)
    refine hquiet.accounts hopcode nofun ⟨fun _ => ?_, fun _ => rfl⟩
    obtain ⟨before, now, between, rfl, hbetween⟩ := Log.exists_eq_append_of_packets hb.packets_eq
    refine ⟨packet, block, log ++ before, now, between, h.answer?, ?_, hbetween, ?_⟩
    · rw [List.append_assoc]
    · intro r hr
      apply (hb.passedOver r ?_).1
      rw [Log.receptions_append]
      exact List.mem_append_right _ hr
  | @unreadable _ f hf =>
    obtain ⟨n, before, wait, now, time, -, rfl, hb⟩ := hx.ended.of_unreadable hsent hf
    have hquiet := h.quiet.append (quiet rfl hb)
    refine accounts_of_report (.reply f) ?_ ?_ ?_ nofun
    · rw [troubles_of_readRequest hopcode, ← List.append_assoc, List.filterMap_append,
        hquiet.found_eq]
      simp [Deed.trouble?, hf]
    · rw [← List.append_assoc, Log.errors_append, hquiet.errors_eq]
      rfl
    · have hlog : log ++ (before ++ [.received wait ⟨.error f, now⟩,
          .sent (Trouble.reply f).report (.ok time)]) = log ++ before ++
            [.received wait ⟨.error f, now⟩] ++ [.sent (Trouble.reply f).report (.ok time)] := by
        simp only [List.append_assoc, List.cons_append, List.nil_append]
      exact hlog ▸ getLast?_packets_concat _ _ _

/-- An outcome is accounted for when it is there. -/
theorem Concluded.accounts {terms : Terms} {fileOpen : Bool} {result : Except Fault Outcome}
    {outcome : Outcome} (h : Concluded peer request terms fileOpen log result)
    (hresult : result = .ok outcome) (hsent : log.AllSent) : Accounts request outcome log := by
  cases h with
  | incomplete => cases hresult
  | unread => cases hresult
  | reported h answer =>
    cases answer with
    | error f => cases hresult
    | ok now =>
      cases hresult
      exact h.accounts now
  | exchanged h hx hg => exact h.accounts hx (hresult ▸ hg) hsent.right

/-- The closing of the file leaves an account as it is. It shows no trouble if it succeeds, and
writes no packet. -/
theorem Accounts.closed {outcome : Outcome} (h : Accounts request outcome log) :
    Accounts request outcome (log ++ [.closed (.ok ())]) := by
  have herrors : Log.errors (log ++ [.closed (.ok ())]) = log.errors := by
    rw [Log.errors_append]
    exact List.append_nil _
  have hpackets : Log.packets (log ++ [.closed (.ok ())]) = log.packets := Log.packets_concat rfl _
  have htroubles : troubles request (log ++ [.closed (.ok ())]) = troubles request log := by
    rw [troubles, List.filterMap_append, ← List.append_assoc]
    exact List.append_nil _
  constructor
  · rw [herrors, htroubles, h.errors_eq]
  · rw [herrors, h.length_errors]
  · rw [herrors, hpackets]
    exact h.getLast?_packets
  · rw [htroubles, hpackets]
    exact h.packets_eq
  · rw [Log.exhausted_concat_closed]
    exact h.exhausted_iff

/-- **A session accounts for its outcome.** Whenever a session in which no write failed ends with an
outcome, it has written one error packet if it was aborted by an error and otherwise none. That
packet is the report of its one trouble and the last that was written, and the only one if the
trouble came before the transfer. The session timed out exactly if it ended with three copies of a
packet, none of which was acknowledged. -/
theorem accounts_for_outcome {s : Session} {outcome : Outcome}
    (run : Run (Session.start peer request).value log s) (hp : s.phase = .ended (.ok outcome))
    (hsent : log.AllSent) : Accounts request outcome log := by
  have hover := run.over hp
  generalize s.terms = terms at hover
  generalize hresult : Except.ok outcome = result at hover
  cases hover with
  | unclear => cases hresult
  | unopened h => exact h.accounts hresult.symm hsent
  | closed h answer =>
    cases answer with
    | error f => cases hresult
    | ok => exact (h.accounts hresult.symm hsent.left).closed

/-- A block is answered with a stale acknowledgement, and then with a datagram that cannot be
read. -/
def unreadableReply : Log :=
  let block := (Packet.data [0, 1] [7]).toDraft
  let f := Fault.malformed "too small"
  [.opened (Bytes.toText [102]) (.ok ()), .fetched 512 (.ok [7]), .sent block (.ok 0),
    .received 3000 ⟨.ok (Packet.ack [0, 0]).toDraft, 1000⟩, .received 2000 ⟨.error f, 2000⟩,
    .sent (Packet.report .undefined f.message).toDraft (.ok 2000), .closed (.ok ())]

/-- The reply to the first block cannot be read, which is reported. The file is closed after
that. -/
theorem accounts_for_outcome_unreadableReply :
    let request := (Packet.readRequest ⟨[102], octetMode, []⟩).toDraft
    let s : Session := { peer := .null, phase := .ended (.ok .abortedByError) }
    Run (Session.start .null request).value unreadableReply s ∧
      s.phase = .ended (.ok .abortedByError) ∧ unreadableReply.AllSent ∧
      Accounts request .abortedByError unreadableReply := by
  intro request s
  have run : Run (Session.start .null request).value unreadableReply s := Run.of_replay rfl
  have hsent : unreadableReply.AllSent := by
    intro packet f h
    simp [unreadableReply] at h
  exact ⟨run, rfl, hsent, accounts_for_outcome run rfl hsent⟩

end Session

end Tftp
