import Tftp.Dispatcher
import Tftp.Proofs.Transfer.Run

/-!
# The history of a dispatcher

What a transfer may do next depends on its past in two respects: when it sent the packet that it
exchanges, and whether its transport stopped. The history of a dispatcher has both for all of its
transfers.

* `Happening` — one thing that happened to a transfer;
* `Dispatcher.history` — what happens during some inputs;
* `Dispatcher.trace` — what a history says of one transfer.

Each lemma says what a history that grows says of a transfer: what it sends itself is stamped on its
past, and what others do changes nothing.
-/

namespace Tftp

/-- What happened to a transfer, as far as its conditions depend on it. -/
inductive Happening where
  /-- it sent a datagram -/
  | sent (transfer : Nat) (datagram : Datagram) (time : Time)
  /-- its transport stopped -/
  | stopped (transfer : Nat)

/-- When a transfer sent a datagram, if that is what happened. -/
def Happening.sentAt? (i : Nat) (bytes : Bytes) : Happening → Option Time
  | .sent j d time => if j = i ∧ d.bytes = bytes then some time else none
  | .stopped _ => none

/-- The datagrams of a report that transfers sent. -/
def Report.sendings (r : Report) (now : Time) : List Happening :=
  r.sent.map fun x => .sent x.1 x.2 now

@[simp] theorem Report.sendings_append (r s : Report) (now : Time) :
    (r ++ s).sendings now = r.sendings now ++ s.sendings now :=
  List.map_append

@[simp] theorem Report.sendings_empty (now : Time) : Report.sendings {} now = [] := rfl

/-- A report without sendings adds nothing to a history, whatever else is in it. -/
theorem Report.sendings_eq_nil {r : Report} (h : r.sent = []) (now : Time) :
    r.sendings now = [] := by
  rw [Report.sendings, h]
  rfl

namespace Dispatcher

/-- The stop of a transport that an input is, if there is such a transfer. -/
def stops (d : Dispatcher) : Input → List Happening
  | .stop i => if i < d.transfers.length then [.stopped i] else []
  | _ => []

/-- What happens to the transfers of a dispatcher during some inputs. -/
def history (d : Dispatcher) : List Input → List Happening
  | [] => []
  | input :: inputs =>
    d.stops input ++ (d.step input).1.sendings (d.step input).2.clock ++
      (d.step input).2.history inputs

/-- What is known of the past of one transfer. -/
def trace (past : List Happening) (i : Nat) : Trace where
  sentAt bytes := (past.filterMap (Happening.sentAt? i bytes)).getLast?
  stopped := .stopped i ∈ past

section

variable {past : List Happening} {i j : Nat} {now : Time}

/-- A report of a transfer's activity holds its sendings, all at one time. -/
theorem mem_sendings_ofActivity {a : Activity} {x : Happening} :
    x ∈ (Report.ofActivity i a).sendings now ↔ ∃ d ∈ a.sent, x = .sent i d now := by
  simp only [Report.sendings, Report.ofActivity, List.map_map, List.mem_map]
  constructor
  · rintro ⟨d, hd, rfl⟩
    exact ⟨d, hd, rfl⟩
  · rintro ⟨d, hd, rfl⟩
    exact ⟨d, hd, rfl⟩

/-- A sending stops no transport. Since the stop of a transport is known as a proposition, this is
an equality of propositions. -/
theorem stopped_append_sendings (past : List Happening) (i j : Nat) (a : Activity) (now : Time) :
    (trace (past ++ (Report.ofActivity i a).sendings now) j).stopped = (trace past j).stopped := by
  apply propext
  refine ⟨fun h => (List.mem_append.mp h).resolve_right fun hsent => ?_, List.mem_append_left _⟩
  obtain ⟨d, -, hd⟩ := mem_sendings_ofActivity.mp hsent
  cases hd

/-- What a transfer sends is stamped on its past. If it sends one datagram several times at once,
all of these have the same time, so that the last of them is as good as any. -/
theorem trace_append_sendings_self (past : List Happening) (i : Nat) (a : Activity) (now : Time) :
    trace (past ++ (Report.ofActivity i a).sendings now) i =
      (trace past i).stamp now a.sent := by
  refine Trace.ext (funext fun bytes => ?_) (stopped_append_sendings past i i a now)
  have hall : ∀ time ∈ ((Report.ofActivity i a).sendings now).filterMap (Happening.sentAt? i bytes),
      time = now := by
    intro time htime
    obtain ⟨x, hx, hat⟩ := List.mem_filterMap.mp htime
    obtain ⟨d, -, rfl⟩ := mem_sendings_ofActivity.mp hx
    rw [Happening.sentAt?] at hat
    split at hat
    · exact (Option.some.inj hat).symm
    · cases hat
  simp only [trace, Trace.stamp, List.filterMap_append, List.getLast?_append]
  split
  · next hany =>
    obtain ⟨d, hd, heq⟩ := List.any_eq_true.mp hany
    obtain rfl := beq_iff_eq.mp heq
    have hnow : now ∈ ((Report.ofActivity i a).sendings now).filterMap
        (Happening.sentAt? i d.bytes) :=
      List.mem_filterMap.mpr ⟨.sent i d now, mem_sendings_ofActivity.mpr ⟨d, hd, rfl⟩,
        if_pos ⟨rfl, rfl⟩⟩
    have hne := List.ne_nil_of_mem hnow
    rw [List.getLast?_eq_some_getLast hne, hall _ (List.getLast_mem hne)]
    rfl
  · next hnot =>
    have hnil : ((Report.ofActivity i a).sendings now).filterMap
        (Happening.sentAt? i bytes) = [] := by
      rw [List.filterMap_eq_nil_iff]
      intro x hx
      obtain ⟨d, hd, rfl⟩ := mem_sendings_ofActivity.mp hx
      exact if_neg fun h => hnot (List.any_eq_true.mpr ⟨d, hd, beq_iff_eq.mpr h.2⟩)
    rw [hnil]
    rfl

/-- What another transfer sends changes nothing. -/
theorem trace_append_sendings_of_ne (past : List Happening) (h : j ≠ i) (a : Activity)
    (now : Time) : trace (past ++ (Report.ofActivity i a).sendings now) j = trace past j := by
  refine Trace.ext (funext fun bytes => ?_) (stopped_append_sendings past i j a now)
  have hnil : ((Report.ofActivity i a).sendings now).filterMap
      (Happening.sentAt? j bytes) = [] := by
    rw [List.filterMap_eq_nil_iff]
    intro x hx
    obtain ⟨d, -, rfl⟩ := mem_sendings_ofActivity.mp hx
    exact if_neg fun heq => h heq.1.symm
  simp only [trace, List.filterMap_append, hnil, List.append_nil]

/-- The stop of a transport is known of its own transfer only. -/
theorem trace_append_stopped_self (past : List Happening) (i : Nat) :
    trace (past ++ [.stopped i]) i = (trace past i).stop := by
  refine Trace.ext (funext fun bytes => ?_) (propext ?_)
  · simp [trace, Trace.stop, Happening.sentAt?]
  · simp [trace, Trace.stop]

/-- The stop of another transport changes nothing. -/
theorem trace_append_stopped_of_ne (past : List Happening) (h : j ≠ i) :
    trace (past ++ [.stopped i]) j = trace past j := by
  refine Trace.ext (funext fun bytes => ?_) (propext ?_)
  · simp [trace, Happening.sentAt?]
  · simp [trace, h]

end

end Dispatcher

end Tftp
