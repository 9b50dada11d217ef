import Tftp.Proofs.Packet.Grammar

/-!
# Writing a datagram and reading it

What can be written, and what is read from it.

* `Draft.IsFaulty` — what keeps a draft from being written, field by field;
* `Packet.datagram` and `Packet.encode_spec` — how a packet is written, unless it is faulty;
* `Packet.IsReadBack` — what reading gives for the datagram of a packet.

The main theorem is `Draft.decode_undoes_encode`. Writer and reader do not check the same things:
the writer does not look at letter case and at names given twice, and the reader has no kind for
acknowledgements of options, whose fields are read as those of a request instead.
-/

namespace Tftp

/-! ## Drafts

A draft is what a caller puts together, and may be at fault in ways that a packet cannot be. -/

namespace Draft

/-- The fields of a draft that have a null byte after them: those of a request, the names and values
of options, and the message of an error. -/
def texts (d : Draft) : List Bytes :=
  d.filename.toList ++ d.mode.toList ++ optionFields (d.options.getD []) ++ d.message.toList

/-- What keeps a draft from being written. -/
inductive IsFaulty (d : Draft) : Prop
  /-- its kind is unknown -/
  | opcode {bytes : Bytes} (h : d.opcode = some bytes) (hkind : Opcode.ofBytes? bytes = none)
  /-- its block number does not have two bytes -/
  | block {bytes : Bytes} (h : d.block = some bytes) (hlength : bytes.length ≠ 2)
  /-- its code does not have two bytes -/
  | code {bytes : Bytes} (h : d.code = some bytes) (hlength : bytes.length ≠ 2)
  /-- a null byte would cut a field short -/
  | null {field : Bytes} (h : field ∈ d.texts) (hnull : 0 ∈ field)

/-- A draft has the fields of its kind and no others. A kind that is unknown has none of its own. -/
inductive IsWhole : Draft → Prop
  /-- a packet -/
  | known (p : Packet) : IsWhole p.toDraft
  /-- of a kind that there is not -/
  | unknown {d : Draft} {bytes : Bytes} (h : d.opcode = some bytes)
      (hkind : Opcode.ofBytes? bytes = none) : IsWhole d

end Draft

namespace Packet

/-- The rest of the datagram of a packet, after the bytes of its kind. -/
def body : Packet → Bytes
  | readRequest q | writeRequest q => Bytes.terminated q.fields
  | data block payload => block ++ payload
  | ack block => block
  | error code message => code ++ message ++ [0]
  | optionAck options => Draft.joinFields (Draft.optionFields options)

/-- The datagram of a packet. -/
def datagram (p : Packet) : Bytes :=
  p.opcode.bytes ++ p.body

/-- A packet cannot be written. -/
def IsFaulty : Packet → Prop
  | readRequest q | writeRequest q => ∃ field ∈ q.fields, 0 ∈ field
  | data block _ | ack block => block.length ≠ 2
  | error code message => code.length ≠ 2 ∨ 0 ∈ message
  | optionAck options => ∃ field ∈ Draft.optionFields options, 0 ∈ field

/-- What is read from the datagram of a packet. A request comes back in lower case, if no two of its
options have the same name then. The fields of an acknowledgement of options come back as options
when they are put behind the file name and the mode of a request. -/
def IsReadBack (datagram : Bytes) : Packet → Prop
  | readRequest q => decode datagram =
      if q.names.Nodup then .ok (.readRequest q.folded) else .error .repeatedOption
  | writeRequest q => decode datagram =
      if q.names.Nodup then .ok (.writeRequest q.folded) else .error .repeatedOption
  | optionAck options => options ≠ [] → (∀ option ∈ options, option.1.toLower = option.1) →
      (options.map Prod.fst).Nodup →
        decode ([0, 1] ++ [102, 0] ++ octetMode ++ [0] ++ datagram.drop 2) =
          .ok (.readRequest ⟨[102], octetMode, options⟩)
  | p => decode datagram = .ok p

/-! ## Writing

Writing checks the fields of a kind and puts them together. What is checked and what is put together
are said apart. -/

/-- What comes of writing a packet, where `written` is what is written of it. -/
inductive Encoded (p : Packet) (written : Bytes) : Except EncodeError Bytes → Prop
  /-- it was written -/
  | written (h : ¬ p.IsFaulty) : Encoded p written (.ok written)
  /-- it was refused for a fault, with some words for that -/
  | refused {e : EncodeError} {text : String} (h : p.IsFaulty)
      (he : Fault.ofEncodeError e = .malformed text) : Encoded p written (.error e)

/-- The kind of a packet is known, so only its fields can be at fault. Which fields there are
depends on the kind, and a field that is not there cannot be at fault. -/
theorem isFaulty_toDraft (p : Packet) : p.toDraft.IsFaulty ↔ p.IsFaulty := by
  have hfields : p.toDraft.IsFaulty ↔
      (∃ bytes, p.toDraft.block = some bytes ∧ bytes.length ≠ 2) ∨
        (∃ bytes, p.toDraft.code = some bytes ∧ bytes.length ≠ 2) ∨
          ∃ field ∈ p.toDraft.texts, 0 ∈ field := by
    constructor
    · intro h
      cases h with
      | opcode h hkind =>
        rw [opcode_toDraft, Option.some.injEq] at h
        rw [← h, Opcode.ofBytes?_bytes] at hkind
        cases hkind
      | block h hlength => exact .inl ⟨_, h, hlength⟩
      | code h hlength => exact .inr (.inl ⟨_, h, hlength⟩)
      | null h hnull => exact .inr (.inr ⟨_, h, hnull⟩)
    · rintro (⟨bytes, h, hlength⟩ | ⟨bytes, h, hlength⟩ | ⟨field, h, hnull⟩)
      · exact .block h hlength
      · exact .code h hlength
      · exact .null h hnull
  rw [hfields]
  cases p <;> simp [toDraft, Draft.texts, IsFaulty, Request.fields]

theorem encode_toDraft (p : Packet) :
    p.toDraft.encode = (p.toDraft.encodeBody p.opcode).map (p.opcode.bytes ++ ·) := by
  cases p <;> rfl

variable {p : Packet} {e : EncodeError} {text : String} {c : Prop} [Decidable c]

/-- A packet is written after a check that finds what is faulty. -/
theorem encoded_ite {written : Bytes} (hc : c ↔ p.IsFaulty)
    (he : Fault.ofEncodeError e = .malformed text) :
    Encoded p written (if c then .error e else .ok written) := by
  split
  · next h => exact .refused (hc.mp h) he
  · next h => exact .written (mt hc.mpr h)

/-- Each kind of packet is checked for its own faults, and for no others. -/
theorem encodeBody_spec (p : Packet) : Encoded p p.body (p.toDraft.encodeBody p.opcode) := by
  cases p with
  | readRequest q =>
    rw [body, ← Draft.joinFields_eq_terminated q.fields_ne_nil]
    exact encoded_ite Bytes.any_contains_zero_iff rfl
  | writeRequest q =>
    rw [body, ← Draft.joinFields_eq_terminated q.fields_ne_nil]
    exact encoded_ite Bytes.any_contains_zero_iff rfl
  | data block payload =>
    have hencode : (data block payload).toDraft.encodeBody .data =
        if block.length ≠ 2 then .error .badBlock else .ok (block ++ payload) := by
      change (if block.length ≠ 2 then .error .badBlock else .ok block) >>=
        (fun bytes => .ok (bytes ++ payload)) = (_ : Except EncodeError Bytes)
      split <;> rfl
    rw [opcode, hencode]
    exact encoded_ite Iff.rfl rfl
  | ack block => exact encoded_ite Iff.rfl rfl
  | error code message =>
    -- the code is checked first, and then the message
    change Encoded _ _ (if code.length ≠ 2 then .error .badCode
      else if message.contains 0 then .error .nullInMessage else .ok (code ++ message ++ [0]))
    split
    · next hlength => exact .refused (.inl hlength) rfl
    · next hlength => exact encoded_ite (by simp [IsFaulty, hlength]) rfl
  | optionAck options => exact encoded_ite Bytes.any_contains_zero_iff rfl

/-- A packet is written, unless it is faulty. -/
theorem encode_spec (p : Packet) : Encoded p p.datagram p.toDraft.encode := by
  rw [encode_toDraft]
  have h := p.encodeBody_spec
  generalize p.toDraft.encodeBody p.opcode = result at h
  cases h with
  | written h => exact .written h
  | refused h he => exact .refused h he

/-- A packet that is not faulty is written as its datagram. -/
theorem encode_of_not_isFaulty (h : ¬ p.IsFaulty) : p.toDraft.encode = .ok p.datagram := by
  have hspec := p.encode_spec
  generalize p.toDraft.encode = result at hspec
  cases hspec with
  | written => rfl
  | refused hp => exact absurd hp h

/-! ## Reading what was written

What was written is a datagram of the grammar, unless a name stands in it twice, and the grammar
says how it is read. -/

variable {q : Request} {options : Options}

/-- The fields of options make up a request when a file name and a mode come before them. This is
how a client that has no reader for options can read them. -/
theorem decode_options (hnull : ∀ field ∈ Draft.optionFields options, 0 ∉ field)
    (hlower : ∀ option ∈ options, option.1.toLower = option.1)
    (hnodup : (options.map Prod.fst).Nodup) :
    decode ([0, 1] ++ [102, 0] ++ octetMode ++ [0] ++
        Bytes.terminated (Draft.optionFields options)) =
      .ok (.readRequest ⟨[102], octetMode, options⟩) := by
  let q : Request := ⟨[102], octetMode, options⟩
  have hnames : q.names = options.map Prod.fst := List.map_congr_left hlower
  have hoptions : options.map (fun option => (option.1.toLower, option.2)) = options := by
    refine (List.map_congr_left ?_).trans (List.map_id options)
    intro option ho
    rw [hlower option ho]
    rfl
  have hmode : octetMode.toLower = octetMode := by decide +kernel
  have hfolded : q.folded = q := by
    simp only [q, Request.folded, hoptions, hmode]
  have hreadable : q.Readable := by
    have hname : (0 : UInt8) ∉ ([102] : Bytes) := by decide
    have hoctet : (0 : UInt8) ∉ octetMode := by decide +kernel
    refine ⟨?_, hnames ▸ hnodup⟩
    exact List.forall_mem_cons.mpr ⟨hname, List.forall_mem_cons.mpr ⟨hoctet, hnull⟩⟩
  have hstands := StandsIn.readRequest hreadable
  rw [hfolded] at hstands
  rw [← decode_eq_ok_iff.mpr hstands]
  simp [q, Request.fields]

/-- The fields of a request are read as that request in lower case. -/
theorem decode_request {kind : Request → Packet} {bytes : Bytes}
    (hkind : ∀ s, decode (bytes ++ s) = (decodeRequest s).map kind)
    (h : ¬ ∃ field ∈ q.fields, 0 ∈ field) :
    decode (bytes ++ Bytes.terminated q.fields) =
      if q.names.Nodup then .ok (kind q.folded) else .error .repeatedOption := by
  have hnull : ∀ field ∈ q.fields, 0 ∉ field := fun field hf hmem => h ⟨field, hf, hmem⟩
  rw [hkind, decodeRequest_terminated hnull]
  split <;> rfl

/-- What was written is read. For each kind the datagram is one of the grammar, where a packet that
is not faulty has the lengths that the grammar asks for. -/
theorem isReadBack_datagram (h : ¬ p.IsFaulty) : p.IsReadBack p.datagram := by
  cases p with
  | readRequest q => exact decode_request (fun _ => rfl) h
  | writeRequest q => exact decode_request (fun _ => rfl) h
  | data block payload => exact decode_eq_ok_iff.mpr (.data (not_not.mp h) payload)
  | ack block => exact decode_eq_ok_iff.mpr (.ack (not_not.mp h))
  | error code message =>
    exact decode_eq_ok_iff.mpr (.error (not_not.mp fun hlength => h (.inl hlength)) message)
  | optionAck options =>
    intro hne hlower hnodup
    have hfields : Draft.optionFields options ≠ [] := by
      cases options with
      | nil => exact absurd rfl hne
      | cons option rest => exact List.cons_ne_nil _ _
    have hbody : (optionAck options).datagram.drop 2 =
        Bytes.terminated (Draft.optionFields options) :=
      Draft.joinFields_eq_terminated hfields
    rw [hbody]
    exact decode_options (fun field hf hmem => h ⟨field, hf, hmem⟩) hlower hnodup

end Packet

namespace Draft

/-- **Reading undoes writing.** A draft with the fields of its kind is malformed where it is faulty
and only there: its kind is unknown, a block number or a code has not two bytes, or a null byte is
in a field that one comes after. Every other draft is a packet and is written, and reading what was
written gives that packet back, with a request in lower case. -/
theorem decode_undoes_encode {d : Draft} (h : d.IsWhole) :
    (d.IsFaulty ↔
      ∃ text, d.encode.mapError Fault.ofEncodeError = .error (.malformed text)) ∧
      (¬ d.IsFaulty → ∃ (p : Packet) (datagram : Bytes), d = p.toDraft ∧
        d.encode = .ok datagram ∧ p.IsReadBack datagram) := by
  cases h with
  | unknown h hkind =>
    have hfaulty : d.IsFaulty := .opcode h hkind
    have hencode : d.encode = .error .unknownOpcode := by
      simp [encode, require, h, hkind, bind, Except.bind]
    refine ⟨⟨fun _ => ⟨"invalid opcode", ?_⟩, fun _ => hfaulty⟩, fun hn => absurd hfaulty hn⟩
    rw [hencode]
    rfl
  | known p =>
    have hspec := p.encode_spec
    generalize hencode : p.toDraft.encode = result at hspec
    cases hspec with
    | written hp =>
      have hd : ¬ p.toDraft.IsFaulty := mt p.isFaulty_toDraft.mp hp
      refine ⟨⟨fun hf => absurd hf hd, ?_⟩, fun _ => ?_⟩
      · rintro ⟨text, htext⟩
        cases htext
      · exact ⟨p, _, rfl, rfl, Packet.isReadBack_datagram hp⟩
    | @refused e text hp he =>
      have hd : p.toDraft.IsFaulty := p.isFaulty_toDraft.mpr hp
      refine ⟨⟨fun _ => ⟨text, ?_⟩, fun _ => hd⟩, fun hn => absurd hd hn⟩
      rw [Except.mapError, he]

/-- The mode and the first name are in capitals. They are read in lower case, and the values as they
were written. -/
theorem decode_undoes_encode_capitals :
    let q : Request := ⟨[], [79, 67, 84, 69, 84], [([65], [66]), ([98], [])]⟩
    (Packet.readRequest q).toDraft.IsWhole ∧ ¬ (Packet.readRequest q).toDraft.IsFaulty ∧
      ∃ datagram, (Packet.readRequest q).toDraft.encode = .ok datagram ∧
        Packet.decode datagram =
          .ok (.readRequest ⟨[], octetMode, [([97], [66]), ([98], [])]⟩) := by
  intro q
  have hwhole : (Packet.readRequest q).toDraft.IsWhole := .known _
  have hfaulty : ¬ (Packet.readRequest q).toDraft.IsFaulty := by
    rw [Packet.isFaulty_toDraft, Packet.IsFaulty]
    decide
  obtain ⟨p, datagram, hp, hencode, hread⟩ := (decode_undoes_encode hwhole).2 hfaulty
  obtain rfl := Packet.toDraft_inj hp
  have hnodup : q.names.Nodup := by decide
  have hfolded : q.folded = ⟨[], octetMode, [([97], [66]), ([98], [])]⟩ := by decide +kernel
  have hdecode : Packet.decode datagram = .ok (.readRequest q.folded) := by
    rw [Packet.IsReadBack, if_pos hnodup] at hread
    exact hread
  exact ⟨hwhole, hfaulty, datagram, hencode, hfolded ▸ hdecode⟩

end Draft

end Tftp
