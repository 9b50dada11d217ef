import Tftp.Proofs.Packet.Outgoing
import Tftp.Proofs.Session.Trail

/-!
# What a session hands to its writer

Every packet that a session hands over to be written is one that can be written. Nothing is assumed
of the backend, of the file beyond the length of what it gives, and of what is received.

* `Session.Writes` — where a packet of a session comes from: a report of trouble, or an exchange;
* `Session.Run.writes` — they come from nowhere else;
* `Session.Reached.isOutgoing` and `Session.Trouble.isOutgoing` — what is in them;
* `Session.writes_only_datagrams` — the main theorem.

A packet that is refused by its writer would look to an exchange like a reply that cannot be read,
so that this is also what keeps the two apart.
-/

namespace Tftp

/-- A read from the file gives no more than was asked for. -/
def Log.Fits (log : Log) : Prop :=
  ∀ size payload, .fetched size (.ok payload) ∈ log → (payload.length : Int) ≤ size

namespace Session

/-! ## Where packets come from

A packet of an exchange comes with the way on which that exchange was reached, for that is what
tells how long its payload is. -/

/-- A packet comes from a session with a log: it reports a trouble, or it is the packet of an
exchange that was reached with a part of that log. -/
inductive Writes (peer : Address) (request : Draft) (log : Log) : Draft → Prop
  /-- it reports a trouble -/
  | report (trouble : Trouble) : Writes peer request log trouble.report
  /-- it is exchanged -/
  | exchanged {a : Agreement} {goal : Goal} {packet : Packet} {block : Int} {before : Log}
      (h : Reached peer request a (.exchanging goal packet block) before) (hpre : before <+: log) :
      Writes peer request log packet.toDraft

variable {peer : Address} {request : Draft} {log part : Log} {s : Session} {a : Agreement}
  {goal : Goal} {packet : Packet} {block : Int} {next : Exchange.Next}

theorem Writes.append {p : Draft} (h : Writes peer request log p) (after : Log) :
    Writes peer request (log ++ after) p := by
  cases h with
  | report trouble => exact .report trouble
  | exchanged h hpre => exact .exchanged h (hpre.trans (List.prefix_append log after))

/-- Every packet that was handed over comes from the session. -/
def AllWritten (peer : Address) (request : Draft) (log : Log) : Prop :=
  ∀ packet answer, .sent packet answer ∈ log → Writes peer request log packet

/-- The packets of a longer log come from the session, if the new ones do. -/
theorem AllWritten.append (h : AllWritten peer request log)
    (hpart : ∀ packet answer, .sent packet answer ∈ part → Writes peer request log packet) :
    AllWritten peer request (log ++ part) := by
  intro packet answer hmem
  rcases List.mem_append.mp hmem with hmem | hmem
  · exact (h packet answer hmem).append part
  · exact (hpart packet answer hmem).append part

/-- What is done with the file hands nothing over. -/
theorem AllWritten.concat {d : Deed} (h : AllWritten peer request log) (hd : ¬ d.OnWire) :
    AllWritten peer request (log ++ [d]) := by
  refine h.append fun packet answer hmem => ?_
  exact absurd (List.mem_singleton.mp hmem ▸ .sent packet answer) hd

theorem allWritten_nil (peer : Address) (request : Draft) : AllWritten peer request [] := by
  intro packet answer hmem
  cases hmem

theorem allWritten_opened (peer : Address) (request : Draft) (filename : String)
    (answer : Except Fault Unit) : AllWritten peer request [.opened filename answer] :=
  (allWritten_nil peer request).concat nofun

/-- An exchange hands over its packet, and the report of a reply that cannot be read. -/
theorem Reached.writes (h : Reached peer request a (.exchanging goal packet block) log)
    (hx : Exchanges peer a packet block part next) (p : Draft) (answer : Except Fault Time)
    (hmem : .sent p answer ∈ part) : Writes peer request log p := by
  rcases hx.packet_of_sent p answer hmem with rfl | ⟨f, rfl⟩
  · exact .exchanged h List.prefix_rfl
  · exact .report (.reply f)

/-- Up to where a session has got, its packets are those of its exchanges. -/
theorem Reached.allWritten {stage : Stage} (h : Reached peer request a stage log) :
    AllWritten peer request log := by
  induction h with
  | passedOver => exact allWritten_opened _ _ _ _
  | agreed => exact allWritten_opened _ _ _ _
  | fetched _ _ ih => exact ih.concat nofun
  | answered h hx _ ih => exact ih.append (h.writes hx)

theorem Troubled.allWritten {trouble : Trouble} {terms : Terms} {fileOpen : Bool}
    (h : Troubled peer request trouble terms fileOpen log) : AllWritten peer request log := by
  cases h with
  | unserved => exact allWritten_nil _ _
  | writing => exact allWritten_nil _ _
  | noFile => exact allWritten_opened _ _ _ _
  | options => exact allWritten_opened _ _ _ _
  | file h => exact h.allWritten.concat nofun

/-- The last packet is that of the last exchange, or a report. -/
theorem Concluded.allWritten {terms : Terms} {fileOpen : Bool} {result : Except Fault Outcome}
    (h : Concluded peer request terms fileOpen log result) : AllWritten peer request log := by
  cases h with
  | incomplete => exact allWritten_opened _ _ _ _
  | unread => exact allWritten_opened _ _ _ _
  | @reported trouble _ _ _ h answer =>
    refine h.allWritten.append fun packet answer' hmem => ?_
    cases List.mem_singleton.mp hmem
    exact .report trouble
  | exchanged h hx => exact h.allWritten.append (h.writes hx)

/-- So it is all along the trail. -/
theorem Trail.allWritten (h : Trail request log s) : AllWritten s.peer request log := by
  cases h with
  | opening _ _ _ hlog => exact hlog ▸ allWritten_nil _ _
  | fetching _ _ h => exact h.allWritten
  | exchanging _ _ h hx hlog => exact hlog ▸ h.allWritten.append (h.writes hx)
  | reporting _ h => exact h.allWritten
  | closing _ h => exact h.allWritten
  | ended _ h =>
    generalize s.terms = terms at h
    cases h with
    | unclear => exact allWritten_nil _ _
    | unopened h => exact h.allWritten
    | closed h => exact h.allWritten.concat nofun

/-- What a session hands to its writer comes from one of its exchanges, or reports a trouble. -/
theorem Run.writes (run : Run (Session.start peer request).value log s) :
    AllWritten s.peer request log :=
  run.trail.allWritten

/-! ## What is in them -/

/-- Whatever a session is troubled by, the words for it can be sent. -/
theorem Trouble.isText_message (trouble : Trouble) : trouble.message.IsText := by
  cases trouble with
  | writing =>
    intro b hb
    revert b
    decide +kernel
  | _ => exact Fault.isText_messageOfText _

/-- A report of trouble can be sent: its code is one of the protocol, and its words have no null
byte. -/
theorem Trouble.isOutgoing (trouble : Trouble) :
    (Packet.report trouble.code trouble.message).IsOutgoing :=
  .error trouble.code trouble.isText_message

/-- The options of a request from a datagram are acknowledged under different names. -/
theorem Agrees.nodup {datagram : Bytes} {p : Packet} (hp : Packet.decode datagram = .ok p)
    (h : Agrees p.toDraft a) : (a.accepted.map Prod.fst).Nodup := by
  have hopcode := h.opcode_eq
  cases p with
  | readRequest q =>
    rw [names_of_negotiate h.negotiate_eq]
    exact (Packet.nodup_of_decode hp).filter _
  | _ => cases hopcode

/-- What is exchanged in the session of a request from a datagram is what a server makes up. -/
theorem Reached.isOutgoing {datagram : Bytes} {p : Packet} (hp : Packet.decode datagram = .ok p)
    (h : Reached peer p.toDraft a (.exchanging goal packet block) log) (hfits : log.Fits) :
    packet.IsOutgoing := by
  obtain ⟨requested, -, hn⟩ := h.agrees.exists_negotiate
  cases h with
  | agreed h ha => exact .optionAck ha (h.nodup hp) (announces_of_negotiate hn)
  | fetched h payload =>
    have hlength := hfits _ _ (List.mem_append_right _ (.head _))
    have hsize := (valid_of_negotiate Terms.valid_default hn .blockSize).2
    exact .data _ (hlength.trans hsize)

/-- **What a session hands to its writer can be written**, and the client reads it as it was meant.
This is so for every request from a datagram, whatever the backend and the file answer or fail with,
and whatever is received. -/
theorem writes_only_datagrams {datagram : Bytes} {p : Packet}
    (hp : Packet.decode datagram = .ok p) (run : Run (Session.start peer p.toDraft).value log s)
    (hfits : log.Fits) :
    ∀ packet answer, .sent packet answer ∈ log →
      ∃ (q : Packet) (written : Bytes), packet = q.toDraft ∧ packet.encode = .ok written ∧
        q.Arrives written := by
  intro packet answer hmem
  obtain ⟨q, rfl, hq⟩ : ∃ q : Packet, packet = q.toDraft ∧ q.IsOutgoing := by
    cases run.writes packet answer hmem with
    | report trouble => exact ⟨_, rfl, trouble.isOutgoing⟩
    | exchanged h hpre =>
      refine ⟨_, rfl, h.isOutgoing hp fun size payload hfetched => ?_⟩
      exact hfits size payload (hpre.subset hfetched)
  obtain ⟨written, hencode, harrives⟩ := hq.arrives
  exact ⟨q, written, rfl, hencode, harrives⟩

/-- Options are acknowledged and a block is sent, and then a reply cannot be read, for a reason with
a null byte and letters outside ASCII in its words. -/
def oddReason : Log :=
  let f := Fault.malformed "na\u0000ï"
  [.opened (Bytes.toText [102]) (.ok ()),
    .sent (Packet.optionAck [(Negotiable.blockSize.bytes, [56])]).toDraft (.ok 0),
    .received 3000 ⟨.ok (Packet.ack [0, 0]).toDraft, 10⟩, .fetched 8 (.ok [7]),
    .sent (Packet.data [0, 1] [7]).toDraft (.ok 10), .received 3000 ⟨.error f, 20⟩,
    .sent (Packet.report .undefined [110, 97, 63]).toDraft (.ok 20), .closed (.ok ())]

/-- What can be sent of those words is sent: the null byte is left out, and a question mark stands
for the letter that has no byte. -/
theorem writes_only_datagrams_oddReason :
    let datagram : Bytes :=
      [0, 1, 102, 0] ++ octetMode ++ [0] ++ Negotiable.blockSize.bytes ++ [0, 43, 51, 0]
    let q : Request := ⟨[102], octetMode, [(Negotiable.blockSize.bytes, [43, 51])]⟩
    Packet.decode datagram = .ok (.readRequest q) ∧
      (∃ s, Run (Session.start .null (Packet.readRequest q).toDraft).value oddReason s) ∧
      oddReason.Fits ∧
      ∃ written, (Packet.error [0, 0] [110, 97, 63]).toDraft.encode = .ok written ∧
        Packet.decode written = .ok (.error [0, 0] [110, 97, 63]) := by
  intro datagram q
  have hdecode : Packet.decode datagram = .ok (.readRequest q) := by decide +kernel
  have hreplay : ((Session.start .null (Packet.readRequest q).toDraft).value.replay
      oddReason).isSome := by decide +kernel
  obtain ⟨s, hs⟩ := Option.isSome_iff_exists.mp hreplay
  have run := Run.of_replay hs
  have hfits : oddReason.Fits := by
    intro size payload hmem
    simp [oddReason] at hmem
    obtain ⟨rfl, rfl⟩ := hmem
    decide
  have hmem : .sent (Packet.error [0, 0] [110, 97, 63]).toDraft (.ok 20) ∈ oddReason := by
    simp [oddReason, Packet.report, ErrorCode.bytes]
  obtain ⟨p, written, hp, hencode, harrives⟩ := writes_only_datagrams hdecode run hfits _ _ hmem
  obtain rfl := Packet.toDraft_inj hp
  refine ⟨hdecode, ⟨s, run⟩, hfits, written, hencode, ?_⟩
  cases harrives with
  | error hread => exact hread

end Session

end Tftp
