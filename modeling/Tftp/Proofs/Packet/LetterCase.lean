import Tftp.Proofs.Packet.RoundTrip

/-!
# Datagrams in lower case

A request may be written in any letter case, and what is read of it does not show in which. Apart
from that a datagram is written again as it was.

* `Packet.isCaseless` — the fields of a request in which letter case does not count;
* `Packet.lowerFields` and `Packet.inLowerCase` — a datagram with these fields in lower case, where
  they are;
* `Packet.SameButCase` — datagrams that differ in the letter case of these fields only;
* `Packet.HasInnerNull` — errors with a null byte in the message, which can be read and not written.

The main theorem is `Packet.encode_undoes_decode`. The fields are counted by the null bytes between
them, so that nothing here needs to be read first; `lowerFields_fields` is the way from there to
requests in lower case.
-/

namespace Tftp

namespace Packet

/-! ## Letter case in place

To compare two datagrams up to letter case it must be known where in them case counts. Counting null
bytes is enough for that. -/

/-- Whether letter case does not count in a field of a request, numbered from zero: in the mode, and
after it in the name of each option, but not in its value. -/
def isCaseless (field : Nat) : Bool :=
  field == 1 || (field != 0 && field % 2 == 0)

/-- A byte string in which some fields have ended already, with the letters of the fields in which
case does not count in lower case. -/
def lowerFields (field : Nat) : Bytes → Bytes
  | [] => []
  | b :: rest =>
    (if isCaseless field then Bytes.lowerByte b else b) ::
      lowerFields (if b = 0 then field + 1 else field) rest

/-- A request in lower case where case does not count. Other datagrams stay as they are. -/
def inLowerCase (datagram : Bytes) : Bytes :=
  match Opcode.ofBytes? (datagram.take 2) with
  | some .readRequest | some .writeRequest => datagram.take 2 ++ lowerFields 0 (datagram.drop 2)
  | _ => datagram

/-- Byte strings in which some fields have ended already are the same but for the case of letters in
fields in which it does not count. -/
inductive SameButCase : Nat → Bytes → Bytes → Prop
  /-- nothing is left -/
  | nil (field : Nat) : SameButCase field [] []
  /-- the next bytes are the same, or the same letter where case does not count -/
  | cons {field : Nat} {b b' : UInt8} {s s' : Bytes}
      (h : b = b' ∨ isCaseless field = true ∧ Bytes.lowerByte b = Bytes.lowerByte b')
      (hrest : SameButCase (if b = 0 then field + 1 else field) s s') :
      SameButCase field (b :: s) (b' :: s')

/-- Whether a packet is a request. -/
def IsRequest : Packet → Prop
  | readRequest _ | writeRequest _ => True
  | _ => False

/-- The datagram of an error with a null byte in its message, before the one at its end. -/
def HasInnerNull (datagram : Bytes) : Prop :=
  ∃ code message : Bytes, code.length = 2 ∧ 0 ∈ message ∧
    datagram = [0, 5] ++ (code ++ message ++ [0])

variable {s s' : Bytes} {field : Nat} {q : Request}

/-- No letter is a null byte, nor becomes one. -/
theorem lowerByte_eq_zero_iff {b : UInt8} : Bytes.lowerByte b = 0 ↔ b = 0 := by
  rw [Bytes.lowerByte]
  split
  · next h =>
    simp only [UInt8.le_iff_toNat_le] at h
    have hadd := UInt8.toNat_add b 32
    constructor
    · intro hzero
      rw [hzero] at hadd
      simp at h hadd
      omega
    · rintro rfl
      simp at h
  · exact Iff.rfl

/-- Where case does not count, a byte may be the other letter. -/
theorem eq_or_lowerByte_eq_iff {b b' : UInt8} {c : Bool} :
    (b = b' ∨ c = true ∧ Bytes.lowerByte b = Bytes.lowerByte b') ↔
      (if c then Bytes.lowerByte b else b) = if c then Bytes.lowerByte b' else b' := by
  cases c with
  | false => simp
  | true =>
    simp only [true_and, if_true, or_iff_right_iff_imp]
    rintro rfl
    rfl

/-- Bytes that are the same but for letter case both end a field, or neither does. -/
theorem zero_iff_of_eq_or_lowerByte_eq {b b' : UInt8} {c : Prop}
    (h : b = b' ∨ c ∧ Bytes.lowerByte b = Bytes.lowerByte b') : b = 0 ↔ b' = 0 := by
  rcases h with rfl | ⟨-, h⟩
  · exact Iff.rfl
  · rw [← lowerByte_eq_zero_iff, h, lowerByte_eq_zero_iff]

/-- Byte strings are the same but for letter case just if they are the same in lower case. Both
sides count fields by null bytes, and a null byte is its own lower case, so that the counts
agree. -/
theorem sameButCase_iff : SameButCase field s s' ↔ lowerFields field s = lowerFields field s' := by
  constructor
  · intro h
    induction h with
    | nil => rfl
    | cons h _ ih =>
      rw [lowerFields, lowerFields, eq_or_lowerByte_eq_iff.mp h, ih]
      simp only [zero_iff_of_eq_or_lowerByte_eq h]
  · intro h
    induction s generalizing field s' with
    | nil =>
      cases s' with
      | nil => exact .nil field
      | cons => cases h
    | cons b s ih =>
      cases s' with
      | nil => cases h
      | cons b' s' =>
        obtain ⟨hhead, htail⟩ := List.cons.inj h
        have hsame := eq_or_lowerByte_eq_iff.mpr hhead
        simp only [← zero_iff_of_eq_or_lowerByte_eq hsame] at htail
        exact .cons hsame (ih htail)

/-! ## Requests in lower case

Where a datagram is a request, putting it into lower case in place comes to the same as putting the
request into lower case. -/

/-- A field is in lower case if case does not count in it, and then the next field follows. -/
theorem lowerFields_append_zero {text : Bytes} (h : 0 ∉ text) (field : Nat) (rest : Bytes) :
    lowerFields field (text ++ 0 :: rest) =
      (if isCaseless field then text.toLower else text) ++ 0 :: lowerFields (field + 1) rest := by
  induction text with
  | nil =>
    have hzero : Bytes.lowerByte 0 = 0 := rfl
    simp [lowerFields, hzero]
  | cons b text ih =>
    obtain ⟨hb, htext⟩ := not_or.mp (mt List.mem_cons.mpr h)
    rw [List.cons_append, lowerFields, if_neg (Ne.symm hb), ih htext]
    split <;> rfl

/-- The names of options are in lower case, and the values are as they were. Names have even numbers
and values odd ones, and the induction goes on by two. -/
theorem lowerFields_options {options : Options} {k : Nat}
    (h : ∀ text ∈ Draft.optionFields options, 0 ∉ text) :
    lowerFields (2 * k + 2) (Bytes.terminated (Draft.optionFields options)) =
      Bytes.terminated
        (Draft.optionFields (options.map fun option => (option.1.toLower, option.2))) := by
  induction options generalizing k with
  | nil => rfl
  | cons option rest ih =>
    rw [Draft.optionFields_cons] at h
    obtain ⟨hname, hvalue, hrest⟩ : 0 ∉ option.1 ∧ 0 ∉ option.2 ∧
        ∀ text ∈ Draft.optionFields rest, 0 ∉ text := by
      simpa only [List.forall_mem_cons] using h
    have heven : isCaseless (2 * k + 2) = true := by simp [isCaseless]
    have hodd : isCaseless (2 * k + 2 + 1) = false := by
      simp [isCaseless]
      omega
    have hnext := ih (k := k + 1) hrest
    rw [List.map_cons, Draft.optionFields_cons, Draft.optionFields_cons, Bytes.terminated_cons,
      Bytes.terminated_cons, lowerFields_append_zero hname, lowerFields_append_zero hvalue, heven,
      hodd, if_pos rfl, if_neg Bool.false_ne_true, Bytes.terminated_cons, Bytes.terminated_cons,
      ← hnext]
    rfl

/-- In lower case the fields of a request are those of the request in lower case. -/
theorem lowerFields_fields (h : ∀ text ∈ q.fields, 0 ∉ text) :
    lowerFields 0 (Bytes.terminated q.fields) = Bytes.terminated q.folded.fields := by
  rw [Request.fields] at h
  obtain ⟨hfilename, hmode, hoptions⟩ : 0 ∉ q.filename ∧ 0 ∉ q.mode ∧
      ∀ text ∈ Draft.optionFields q.options, 0 ∉ text := by
    simpa only [List.forall_mem_cons] using h
  have hrest := lowerFields_options (k := 0) hoptions
  rw [Request.fields, Request.fields, Bytes.terminated_cons, Bytes.terminated_cons,
    lowerFields_append_zero hfilename, lowerFields_append_zero hmode, Bytes.terminated_cons,
    Bytes.terminated_cons]
  exact congrArg (fun rest => q.filename ++ 0 :: (q.mode.toLower ++ 0 :: rest)) hrest

theorem zero_not_mem_toLower {text : Bytes} (h : 0 ∉ text) : 0 ∉ text.toLower := by
  intro hmem
  obtain ⟨b, hb, hzero⟩ := List.mem_map.mp hmem
  rw [lowerByte_eq_zero_iff.mp hzero] at hb
  exact h hb

end Packet

namespace Request

variable {q : Request}

/-- Lower case stays as it is. -/
theorem folded_folded (q : Request) : q.folded.folded = q.folded := by
  simp [folded, Function.comp_def, Bytes.toLower_toLower]

/-- A request in lower case can be read, too. -/
theorem Readable.folded (h : q.Readable) : q.folded.Readable := by
  have hnames : q.folded.names = q.names := by
    simp [names, Request.folded, Function.comp_def, Bytes.toLower_toLower]
  refine ⟨?_, hnames ▸ h.nodup_names⟩
  have hnull := h.zero_not_mem
  simp only [fields, List.forall_mem_cons] at hnull
  obtain ⟨hfilename, hmode, hoptions⟩ := hnull
  simp only [fields, List.forall_mem_cons]
  refine ⟨hfilename, Packet.zero_not_mem_toLower hmode, fun field hfield => ?_⟩
  obtain ⟨option, hoption, hfield⟩ := Draft.mem_optionFields.mp hfield
  obtain ⟨before, hbefore, rfl⟩ := List.mem_map.mp hoption
  rcases hfield with rfl | rfl
  · exact Packet.zero_not_mem_toLower
      (hoptions _ (Draft.mem_optionFields.mpr ⟨before, hbefore, .inl rfl⟩))
  · exact hoptions _ (Draft.mem_optionFields.mpr ⟨before, hbefore, .inr rfl⟩)

end Request

namespace Packet

variable {datagram datagram' : Bytes} {p p' : Packet}

/-! ## Writing what was read

A request is read in lower case and is written as that. All other packets are written as they came,
but for an error that could not have been written. -/

/-- Only an error has a message. -/
theorem not_hasInnerNull (h : datagram.take 2 ≠ [0, 5]) : ¬ HasInnerNull datagram := by
  rintro ⟨code, message, -, -, rfl⟩
  exact h rfl

/-- What was read can be written, unless a null byte is in the message of an error. Whatever the
writer checks of the other packets was made sure of by reading them. -/
theorem StandsIn.isFaulty_iff (h : p.StandsIn datagram) : p.IsFaulty ↔ HasInnerNull datagram := by
  have hrequest {q : Request} (hq : q.Readable) : ¬ ∃ field ∈ q.folded.fields, 0 ∈ field := by
    rintro ⟨field, hfield, hnull⟩
    exact hq.folded.zero_not_mem field hfield hnull
  cases h with
  | readRequest h => exact iff_of_false (hrequest h) (not_hasInnerNull (by simp))
  | writeRequest h => exact iff_of_false (hrequest h) (not_hasInnerNull (by simp))
  | data h payload => exact iff_of_false (not_not.mpr h) (not_hasInnerNull (by simp))
  | ack h => exact iff_of_false (not_not.mpr h) (not_hasInnerNull (by simp))
  | @error code h message =>
    constructor
    · rintro (hlength | hnull)
      · exact absurd h hlength
      · exact ⟨code, message, h, hnull, rfl⟩
    · rintro ⟨code', message', h', hnull, heq⟩
      obtain ⟨heq, -⟩ := List.append_inj' (List.append_cancel_left heq) rfl
      obtain ⟨-, rfl⟩ := List.append_inj heq (h.trans h'.symm)
      exact .inr hnull

/-- What was read is written as the datagram in lower case. -/
theorem StandsIn.datagram_eq (h : p.StandsIn datagram) : p.datagram = inLowerCase datagram := by
  cases h with
  | readRequest h => exact congrArg ([0, 1] ++ ·) (lowerFields_fields h.zero_not_mem).symm
  | writeRequest h => exact congrArg ([0, 2] ++ ·) (lowerFields_fields h.zero_not_mem).symm
  | data | ack | error => rfl

/-- What was read stands in the datagram in lower case, too. -/
theorem StandsIn.inLowerCase (h : p.StandsIn datagram) : p.StandsIn (inLowerCase datagram) := by
  rw [← h.datagram_eq]
  cases h with
  | @readRequest q h =>
    have hfolded := StandsIn.readRequest h.folded
    rwa [q.folded_folded] at hfolded
  | @writeRequest q h =>
    have hfolded := StandsIn.writeRequest h.folded
    rwa [q.folded_folded] at hfolded
  | data h payload => exact .data h payload
  | ack h => exact .ack h
  | error h message => exact .error h message

/-- Packets are the same just if their datagrams are the same in lower case. -/
theorem StandsIn.eq_iff (h : p.StandsIn datagram) (h' : p'.StandsIn datagram') :
    p = p' ↔ Packet.inLowerCase datagram = Packet.inLowerCase datagram' := by
  constructor
  · rintro rfl
    rw [← h.datagram_eq, ← h'.datagram_eq]
  · intro heq
    have hread := decode_eq_ok_iff.mpr h.inLowerCase
    rw [heq, decode_eq_ok_iff.mpr h'.inLowerCase] at hread
    exact (Except.ok.inj hread).symm

/-- A request in lower case has its kind first, and then its fields. -/
theorem StandsIn.inLowerCase_eq (h : p.StandsIn datagram) (hp : p.IsRequest) :
    Packet.inLowerCase datagram = datagram.take 2 ++ lowerFields 0 (datagram.drop 2) ∧
      (datagram.take 2).length = 2 := by
  cases h with
  | readRequest | writeRequest => exact ⟨rfl, rfl⟩
  | data | ack | error => exact hp.elim

/-- Requests are the same just if their datagrams are the same but for letter case. -/
theorem StandsIn.eq_iff_sameButCase (h : p.StandsIn datagram) (h' : p'.StandsIn datagram')
    (hp : p.IsRequest) (hp' : p'.IsRequest) :
    p = p' ↔ datagram.take 2 = datagram'.take 2 ∧
      SameButCase 0 (datagram.drop 2) (datagram'.drop 2) := by
  obtain ⟨heq, hlength⟩ := h.inLowerCase_eq hp
  obtain ⟨heq', hlength'⟩ := h'.inLowerCase_eq hp'
  rw [h.eq_iff h', heq, heq', sameButCase_iff]
  constructor
  · intro hsame
    exact List.append_inj hsame (hlength.trans hlength'.symm)
  · rintro ⟨hkind, hfields⟩
    rw [hkind, hfields]

/-- What comes of writing is malformed just if the packet is faulty. -/
theorem malformed_iff (p : Packet) :
    (∃ text, p.toDraft.encode.mapError Fault.ofEncodeError = .error (.malformed text)) ↔
      p.IsFaulty := by
  have hspec := p.encode_spec
  generalize p.toDraft.encode = result at hspec
  cases hspec with
  | written h =>
    refine iff_of_false ?_ h
    rintro ⟨text, htext⟩
    cases htext
  | @refused e text h he => exact iff_of_true ⟨text, congrArg Except.error he⟩ h

/-- **Writing undoes reading.** A packet that was read cannot be written if its datagram was an
error with a null byte inside the message, and only then. It is written as the datagram was, but for
the mode and the names of options of a request, which are in lower case now, and what is written is
read as the same packet. So two datagrams are read as the same request, with the same options in the
same order, just if they differ in the letter case of these fields only. -/
theorem encode_undoes_decode (h : decode datagram = .ok p) :
    ((∃ text, p.toDraft.encode.mapError Fault.ofEncodeError = .error (.malformed text)) ↔
        HasInnerNull datagram) ∧
      (¬ HasInnerNull datagram → p.toDraft.encode = .ok (inLowerCase datagram) ∧
        decode (inLowerCase datagram) = .ok p) ∧
      ∀ {datagram' : Bytes} {p' : Packet}, decode datagram' = .ok p' → p.IsRequest →
        p'.IsRequest → (p = p' ↔ datagram.take 2 = datagram'.take 2 ∧
          SameButCase 0 (datagram.drop 2) (datagram'.drop 2)) := by
  have hstands := decode_eq_ok_iff.mp h
  refine ⟨p.malformed_iff.trans hstands.isFaulty_iff, fun hnull => ⟨?_, ?_⟩, ?_⟩
  · rw [encode_of_not_isFaulty (mt hstands.isFaulty_iff.mp hnull), hstands.datagram_eq]
  · exact decode_eq_ok_iff.mpr hstands.inLowerCase
  · intro datagram' p' h' hp hp'
    exact hstands.eq_iff_sameButCase (decode_eq_ok_iff.mp h') hp hp'

/-- The mode and the name of the option are in capitals in one datagram and not in the other, which
is what is written for both. An error whose message is a null byte is read and not written. -/
theorem encode_undoes_decode_capitals :
    let p : Packet := .readRequest ⟨[102], octetMode, [([97], [66])]⟩
    let capitals : Bytes := [0, 1, 102, 0, 79, 67, 84, 69, 84, 0, 65, 0, 66, 0]
    let small : Bytes := [0, 1, 102, 0, 111, 99, 116, 101, 116, 0, 97, 0, 66, 0]
    let null : Bytes := [0, 5, 0, 0, 0, 0]
    (decode capitals = .ok p ∧ decode small = .ok p ∧ ¬ HasInnerNull capitals ∧
      p.toDraft.encode = .ok small ∧ SameButCase 0 (capitals.drop 2) (small.drop 2)) ∧
      decode null = .ok (.error [0, 0] [0]) ∧
        ∃ text, (Packet.error [0, 0] [0]).toDraft.encode.mapError Fault.ofEncodeError =
          .error (.malformed text) := by
  intro p capitals small null
  have hcapitals : decode capitals = .ok p := by decide +kernel
  have hsmall : decode small = .ok p := by decide +kernel
  have hnull : decode null = .ok (.error [0, 0] [0]) := by rfl
  have hinner : ¬ HasInnerNull capitals := not_hasInnerNull (by decide)
  obtain ⟨-, hwrite, hsame⟩ := encode_undoes_decode hcapitals
  refine ⟨⟨hcapitals, hsmall, hinner, (hwrite hinner).1, ?_⟩, hnull, ?_⟩
  · exact ((hsame hsmall trivial trivial).mp rfl).2
  · exact (encode_undoes_decode hnull).1.mpr ⟨[0, 0], [0], rfl, List.mem_singleton_self 0, rfl⟩

end Packet

end Tftp
