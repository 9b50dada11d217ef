import Mathlib.Data.List.Nodup
import Tftp.Fault
import Tftp.Proofs.Packet.Fields

/-!
# The grammar of datagrams

Which byte strings are datagrams, and for which packets they stand, said without the reader.

* `Request.fields` and `Request.folded` — the fields of a request in order, and the request in the
  letter case in which it is read;
* `Request.Readable` — no field has a null byte in it, and no option is named twice;
* `Packet.StandsIn` — the grammar, one rule for each kind of packet that is received;
* `Packet.decode_eq_ok_iff` — reading a datagram gives just the packet that stands in it.

A request is where the reader and the grammar are furthest apart: the reader splits and counts, the
grammar puts fields together. `Packet.decodeRequest_terminated` and
`Packet.exists_eq_terminated_of_decodeRequest` are the two ways between them.
-/

namespace Tftp

/-! ## Requests

Fields are told apart by the null bytes after them, and a field may be empty. -/

namespace Request

/-- The fields of a request, in order: the file name, the mode, and the names and values of the
options. -/
def fields (q : Request) : List Bytes :=
  q.filename :: q.mode :: Draft.optionFields q.options

/-- The names of the options, in lower case. -/
def names (q : Request) : List Bytes :=
  q.options.map fun option => option.1.toLower

/-- The request with its mode and the names of its options in lower case. -/
def folded (q : Request) : Request :=
  ⟨q.filename, q.mode.toLower, q.options.map fun option => (option.1.toLower, option.2)⟩

/-- The fields of the request can be told apart, and no two options have the same name, where letter
case does not count. -/
structure Readable (q : Request) : Prop where
  /-- no field is cut short -/
  zero_not_mem : ∀ field ∈ q.fields, 0 ∉ field
  /-- no option is named twice -/
  nodup_names : q.names.Nodup

theorem fields_ne_nil (q : Request) : q.fields ≠ [] :=
  List.cons_ne_nil _ _

end Request

/-! ## The grammar

The kinds of packets that are received are five. An acknowledgement of options has no rule, since
only a server writes it. -/

/-- The packet stands in the datagram: after the two bytes of its kind come, for

* a request — its fields, which are two or more and even in number, with a null byte after each;
* data — a block number of two bytes and the payload;
* an acknowledgement — a block number of two bytes;
* an error — a code of two bytes, any message, and a null byte.

The mode and the names of options may be in any letter case there. -/
inductive Packet.StandsIn : Packet → Bytes → Prop
  /-- a request to read -/
  | readRequest {q : Request} (h : q.Readable) :
      StandsIn (.readRequest q.folded) ([0, 1] ++ Bytes.terminated q.fields)
  /-- a request to write -/
  | writeRequest {q : Request} (h : q.Readable) :
      StandsIn (.writeRequest q.folded) ([0, 2] ++ Bytes.terminated q.fields)
  /-- a block -/
  | data {block : Bytes} (h : block.length = 2) (payload : Bytes) :
      StandsIn (.data block payload) ([0, 3] ++ (block ++ payload))
  /-- an acknowledgement -/
  | ack {block : Bytes} (h : block.length = 2) : StandsIn (.ack block) ([0, 4] ++ block)
  /-- an error -/
  | error {code : Bytes} (h : code.length = 2) (message : Bytes) :
      StandsIn (.error code message) ([0, 5] ++ (code ++ message ++ [0]))

namespace Packet

variable {datagram body : Bytes} {p : Packet} {q : Request}

/-! ## Reading a request

The reader splits the bytes at the null bytes, takes off two fields and pairs the others. Which of
the checks on the way fails is of no interest here. -/

/-- Names and values are paired as they stand, unless a name stood before. The reader keeps the
names that it has seen, and so the statement is about any names seen before: those of the options
have to differ from these and from each other. -/
theorem pairOptions_optionFields (seen : List Bytes) (options : Options) :
    pairOptions seen (Draft.optionFields options) =
      if (options.map fun option => option.1.toLower).Nodup ∧
          ∀ option ∈ options, option.1.toLower ∉ seen then
        .ok (options.map fun option => (option.1.toLower, option.2))
      else .error .repeatedOption := by
  induction options generalizing seen with
  | nil => simp [pairOptions]
  | cons option rest ih =>
    rw [Draft.optionFields_cons, pairOptions]
    by_cases hseen : option.1.toLower ∈ seen
    · simp [hseen]
    · -- the names after this one must differ from it and from those seen before
      have hiff : ((rest.map fun option => option.1.toLower).Nodup ∧
          ∀ other ∈ rest, other.1.toLower ∉ option.1.toLower :: seen) ↔
          ((option :: rest).map fun option => option.1.toLower).Nodup ∧
            ∀ other ∈ option :: rest, other.1.toLower ∉ seen := by
        rw [List.map_cons, List.nodup_cons, List.forall_mem_cons]
        constructor
        · rintro ⟨hnodup, hnew⟩
          refine ⟨⟨?_, hnodup⟩, hseen, fun other ho hs => ?_⟩
          · intro hmem
            obtain ⟨other, ho, heq⟩ := List.mem_map.mp hmem
            exact hnew other ho (heq ▸ List.mem_cons_self)
          · exact hnew other ho (List.mem_cons_of_mem _ hs)
        · rintro ⟨⟨hfirst, hnodup⟩, -, hnew⟩
          refine ⟨hnodup, fun other ho hmem => ?_⟩
          rcases List.mem_cons.mp hmem with heq | hs
          · exact hfirst (List.mem_map.mpr ⟨other, ho, heq⟩)
          · exact hnew other ho hs
      simp only [hseen, if_false, ih, hiff]
      split <;> rfl

/-- The fields of a request are read as that request in lower case, unless an option is named
twice. -/
theorem decodeRequest_terminated (h : ∀ field ∈ q.fields, 0 ∉ field) :
    decodeRequest (Bytes.terminated q.fields) =
      if q.names.Nodup then .ok q.folded else .error .repeatedOption := by
  have hlength : (q.fields ++ [[]]).length = 2 * q.options.length + 3 := by
    simp [Request.fields, Draft.length_optionFields]
  have hlong : ¬ (q.fields ++ [[]]).length < 3 := by omega
  have hodd : ¬ (q.fields ++ [[]]).length % 2 = 0 := by omega
  have hpairs : pairOptions [] (Draft.optionFields q.options) =
      if q.names.Nodup then .ok q.folded.options else .error .repeatedOption := by
    rw [pairOptions_optionFields]
    by_cases hnodup : q.names.Nodup
    · rw [if_pos hnodup, if_pos ⟨hnodup, fun _ _ => List.not_mem_nil⟩]
      rfl
    · rw [if_neg hnodup, if_neg fun hboth => hnodup hboth.1]
  rw [decodeRequest]
  simp only [Bytes.splitOn_terminated h, hlong, if_false, hodd, List.dropLast_concat,
    Bytes.getLast?_terminated q.fields_ne_nil, ne_eq, not_true_eq_false]
  rw [Request.fields]
  dsimp only
  rw [hpairs]
  split <;> rfl

/-- Whatever is read as a request is made of the fields of one. Each check of the reader gives one
part: the null byte at the end gives the fields, their number gives the file name and the mode, and
that it is even gives the pairs. -/
theorem exists_eq_terminated_of_decodeRequest (h : decodeRequest body = .ok q) :
    ∃ r : Request, (∀ field ∈ r.fields, 0 ∉ field) ∧ body = Bytes.terminated r.fields := by
  unfold decodeRequest at h
  dsimp only at h
  split at h
  · cases h
  · next hlong =>
    split at h
    · cases h
    · next hlast =>
      split at h
      · cases h
      · next hodd =>
        obtain ⟨fields, hnull, rfl⟩ := Bytes.exists_eq_terminated (not_not.mp hlast)
        rw [Bytes.splitOn_terminated hnull, List.length_append, List.length_singleton]
          at hlong hodd
        match fields with
        | [] => exact absurd (by decide) hlong
        | [field] => exact absurd (Nat.lt_succ_self 2) hlong
        | filename :: mode :: rest =>
          have heven : rest.length % 2 = 0 := by
            rw [List.length_cons, List.length_cons] at hodd
            omega
          obtain ⟨options, rfl⟩ := Draft.exists_eq_optionFields heven
          exact ⟨⟨filename, mode, options⟩, hnull, rfl⟩

/-- Both ways together: a request is read from just those bytes that it is written in, up to letter
case. -/
theorem decodeRequest_eq_ok_iff :
    decodeRequest body = .ok q ↔
      ∃ r : Request, r.Readable ∧ body = Bytes.terminated r.fields ∧ q = r.folded := by
  constructor
  · intro h
    obtain ⟨r, hnull, rfl⟩ := exists_eq_terminated_of_decodeRequest h
    rw [decodeRequest_terminated hnull] at h
    split at h
    · next hnodup =>
      cases h
      exact ⟨r, ⟨hnull, hnodup⟩, rfl, rfl⟩
    · cases h
  · rintro ⟨r, hr, rfl, rfl⟩
    rw [decodeRequest_terminated hr.zero_not_mem, if_pos hr.nodup_names]

/-! ## Reading the other packets

They have their parts at fixed places, so the grammar can be read off the checks. -/

/-- Two bytes of a number, and the rest is payload. -/
theorem decodeData_eq_ok_iff :
    decodeData body = .ok p ↔
      ∃ block payload, block.length = 2 ∧ body = block ++ payload ∧ p = .data block payload := by
  unfold decodeData
  constructor
  · intro h
    split at h
    · cases h
    · next hlen =>
      cases h
      refine ⟨body.take 2, body.drop 2, ?_, (List.take_append_drop 2 body).symm, rfl⟩
      rw [List.length_take]
      omega
  · rintro ⟨block, payload, hlen, rfl, rfl⟩
    rw [if_neg (by rw [List.length_append]; omega), List.take_left' hlen, List.drop_left' hlen]

/-- Two bytes of a number, and nothing else. -/
theorem decodeAck_eq_ok_iff :
    decodeAck body = .ok p ↔ body.length = 2 ∧ p = .ack body := by
  unfold decodeAck
  split
  · next h => exact ⟨nofun, fun hp => absurd hp.1 h⟩
  · next h =>
    refine ⟨?_, ?_⟩
    · intro hp
      cases hp
      exact ⟨not_not.mp h, rfl⟩
    · rintro ⟨-, rfl⟩
      rfl

/-- Two bytes of a code, a message, and a null byte at the end. The message may hold null bytes
itself, since it is not split. -/
theorem decodeError_eq_ok_iff :
    decodeError body = .ok p ↔
      ∃ code message, code.length = 2 ∧ body = code ++ message ++ [0] ∧
        p = .error code message := by
  unfold decodeError
  constructor
  · intro h
    split at h
    · cases h
    · next hlen =>
      split at h
      · cases h
      · next hlast =>
        cases h
        obtain ⟨init, rfl⟩ := List.getLast?_eq_some_iff.mp (not_not.mp hlast)
        rw [List.length_append, List.length_singleton] at hlen
        have htwo : 2 ≤ init.length := by omega
        refine ⟨init.take 2, init.drop 2, ?_, ?_, ?_⟩
        · rw [List.length_take]
          omega
        · rw [List.take_append_drop]
        · rw [List.take_append_of_le_length htwo, List.drop_append_of_le_length htwo,
            List.dropLast_concat]
  · rintro ⟨code, message, hlen, rfl, rfl⟩
    have hlong : ¬ (code ++ message ++ [0]).length < 3 := by
      simp only [List.length_append, List.length_singleton]
      omega
    rw [if_neg hlong, if_neg (by simp), List.append_assoc, List.take_left' hlen,
      List.drop_left' hlen, List.dropLast_concat]

/-! ## Reading a datagram

The first two bytes tell which of the readers is asked. -/

/-- What is read begins with the two bytes of a kind. -/
theorem exists_eq_append_of_decode (h : decode datagram = .ok p) :
    ∃ (o : Opcode) (body : Bytes), datagram = o.bytes ++ body := by
  cases ho : Opcode.ofBytes? (datagram.take 2) with
  | none =>
    simp only [decode, ho] at h
    cases h
  | some o =>
    refine ⟨o, datagram.drop 2, ?_⟩
    rw [← Opcode.ofBytes?_eq_some ho, List.take_append_drop]

theorem exists_of_map_eq_ok {r : Except DecodeError Request} {kind : Request → Packet}
    (h : r.map kind = .ok p) : ∃ q, r = .ok q ∧ p = kind q := by
  cases r with
  | error e => cases h
  | ok q =>
    cases h
    exact ⟨q, rfl, rfl⟩

/-- Reading a datagram gives a packet exactly when it stands in the datagram. -/
theorem decode_eq_ok_iff : decode datagram = .ok p ↔ p.StandsIn datagram := by
  constructor
  · intro h
    obtain ⟨o, body, rfl⟩ := exists_eq_append_of_decode h
    -- the bytes of the kind decide which reader reads the rest
    cases o with
    | readRequest =>
      obtain ⟨q, hq, rfl⟩ := exists_of_map_eq_ok h
      obtain ⟨r, hr, rfl, rfl⟩ := decodeRequest_eq_ok_iff.mp hq
      exact .readRequest hr
    | writeRequest =>
      obtain ⟨q, hq, rfl⟩ := exists_of_map_eq_ok h
      obtain ⟨r, hr, rfl, rfl⟩ := decodeRequest_eq_ok_iff.mp hq
      exact .writeRequest hr
    | data =>
      obtain ⟨block, payload, hlen, rfl, rfl⟩ := decodeData_eq_ok_iff.mp h
      exact .data hlen payload
    | ack =>
      obtain ⟨hlen, rfl⟩ := decodeAck_eq_ok_iff.mp h
      exact .ack hlen
    | error =>
      obtain ⟨code, message, hlen, rfl, rfl⟩ := decodeError_eq_ok_iff.mp h
      exact .error hlen message
    | optionAck => cases h
  · intro h
    cases h with
    | readRequest h =>
      exact congrArg (Except.map Packet.readRequest)
        (decodeRequest_eq_ok_iff.mpr ⟨_, h, rfl, rfl⟩)
    | writeRequest h =>
      exact congrArg (Except.map Packet.writeRequest)
        (decodeRequest_eq_ok_iff.mpr ⟨_, h, rfl, rfl⟩)
    | data h payload => exact decodeData_eq_ok_iff.mpr ⟨_, payload, h, rfl, rfl⟩
    | ack h => exact decodeAck_eq_ok_iff.mpr ⟨h, rfl⟩
    | error h message => exact decodeError_eq_ok_iff.mpr ⟨_, message, h, rfl, rfl⟩

/-- No option of a decoded request is named twice. -/
theorem nodup_of_decode (h : decode datagram = .ok (.readRequest q)) :
    (q.options.map Prod.fst).Nodup := by
  cases decode_eq_ok_iff.mp h with
  | @readRequest q hq =>
    have hnames : q.folded.options.map Prod.fst = q.names := List.map_map
    rw [hnames]
    exact hq.nodup_names

/-- The block number of a decoded acknowledgement has two bytes. -/
theorem length_of_decode_ack {block : Bytes} (h : decode datagram = .ok (.ack block)) :
    block.length = 2 := by
  cases decode_eq_ok_iff.mp h with
  | ack hlength => exact hlength

/-- **A datagram is read just by its grammar.** The packet that stands in it is what reading it
gives, and if there is none the datagram is malformed. -/
theorem reads_by_grammar (datagram : Bytes) :
    (∀ p, decode datagram = .ok p ↔ p.StandsIn datagram) ∧
      ((∀ p, ¬ StandsIn p datagram) ↔
        ∃ text, (decode datagram).mapError Fault.ofDecodeError = .error (.malformed text)) := by
  refine ⟨fun p => decode_eq_ok_iff, ?_⟩
  cases h : decode datagram with
  | error e =>
    refine ⟨fun _ => ⟨e.message, rfl⟩, fun _ p hp => ?_⟩
    rw [decode_eq_ok_iff.mpr hp] at h
    cases h
  | ok p =>
    refine ⟨fun hnone => absurd (decode_eq_ok_iff.mp h) (hnone p), ?_⟩
    rintro ⟨text, htext⟩
    cases htext

end Packet

end Tftp
