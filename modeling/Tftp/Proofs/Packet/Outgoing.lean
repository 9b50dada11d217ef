import Tftp.Proofs.Negotiation.Agreement
import Tftp.Proofs.Packet.RoundTrip

/-!
# Packets of a server

A server writes packets of three kinds: errors, acknowledgements of options, and data. This module
says what is in them, and that they get to the client.

* `Bytes.IsText` — the bytes that the words of an error are made of, which any text gives;
* `Decimal.IsPlain` and `Negotiable.Announces` — how the value of an option is acknowledged, which
  is so for every option that was agreed on;
* `Packet.IsOutgoing` — a packet as a server makes it up;
* `Packet.Arrives` — a datagram that a client reads as the server meant it.

The main theorem is `Packet.IsOutgoing.arrives`. What is checked before a packet is written never
stands in the way of these packets.
-/

namespace Tftp

/-! ## Words

The words of an error may come from anywhere, such as the name of a file or the fault of a system.
They are made fit to be sent before they are put into a packet. -/

/-- A byte string is in ASCII and has no null byte. -/
def Bytes.IsText (s : Bytes) : Prop :=
  ∀ b ∈ s, 1 ≤ b ∧ b ≤ 127

theorem Bytes.IsText.zero_not_mem {s : Bytes} (h : s.IsText) : 0 ∉ s := by
  intro hmem
  have := (h 0 hmem).1
  contradiction

/-- Each character is put into a byte of ASCII, if need be as a question mark. -/
theorem Bytes.byteOfChar_le (c : Char) : byteOfChar c ≤ 127 := by
  rw [byteOfChar]
  split
  · next h =>
    rw [UInt8.le_iff_toNat_le, UInt8.toNat_ofNat']
    change c.toNat % 2 ^ 8 ≤ 127
    omega
  · decide

/-- Whatever characters a text has, its message is in ASCII and has no null byte. -/
theorem Fault.isText_messageOfText (s : String) : (messageOfText s).IsText := by
  intro b hb
  obtain ⟨hmem, hne⟩ := List.mem_filter.mp hb
  obtain ⟨c, -, rfl⟩ := List.mem_map.mp hmem
  have hzero : Bytes.byteOfChar c ≠ 0 := by simpa using hne
  exact ⟨by grind, Bytes.byteOfChar_le c⟩

/-! ## Values of options

A value is written with the digits of a number and read as that number again. -/

/-- Digits, the first of which is not a zero. -/
def Decimal.IsPlain (s : Bytes) : Prop :=
  IsDigits s ∧ s.head? ≠ some 48

theorem Decimal.ofNat_ne_nil (n : Nat) : ofNat n ≠ [] := by
  rw [ofNat]
  split <;> simp

/-- A number is written without leading zeros. -/
theorem Decimal.isPlain_ofNat {n : Nat} (h : 0 < n) : IsPlain (ofNat n) := by
  refine ⟨⟨ofNat_ne_nil n, isDigit_of_mem_ofNat n⟩, ?_⟩
  induction n using ofNat.induct with
  | case1 n hlt =>
    rw [ofNat, if_pos hlt, List.head?_cons, ne_eq, Option.some.injEq]
    intro heq
    have hdigit := toNat_digit hlt
    rw [heq] at hdigit
    change 48 = 48 + n at hdigit
    omega
  | case2 n hge ih =>
    rw [ofNat, if_neg hge, List.head?_append_of_ne_nil _ (ofNat_ne_nil _)]
    apply ih
    omega

namespace Negotiable

/-- An option announces a value: it has the name of one that can be negotiated, and for a value a
plain number in range. -/
structure Announces (o : Negotiable) (option : Bytes × Bytes) : Prop where
  /-- it has the name -/
  name_eq : option.1 = o.bytes
  /-- its value has no sign and no leading zeros -/
  isPlain : Decimal.IsPlain option.2
  /-- it is not below the range -/
  least_le : o.least ≤ Decimal.value option.2
  /-- it is not above the range -/
  le_greatest : Decimal.value option.2 ≤ o.greatest

theorem announces_clamp (o : Negotiable) (n : Int) :
    o.Announces (o.bytes, Decimal.ofInt (o.clamp n)) where
  name_eq := rfl
  isPlain := by
    have hpos : 0 < o.clamp n := by
      have := o.least_le_clamp n
      cases o <;> simp only [least] at this <;> omega
    obtain ⟨m, hm⟩ := Int.eq_ofNat_of_zero_le (Int.le_of_lt hpos)
    rw [hm] at hpos ⊢
    exact Decimal.isPlain_ofNat (Int.natCast_pos.mp hpos)
  least_le := by
    rw [value_ofInt_clamp]
    exact o.least_le_clamp n
  le_greatest := by
    rw [value_ofInt_clamp]
    exact o.clamp_le_greatest n

variable {o : Negotiable} {option : Bytes × Bytes}

/-- The names that can be negotiated are in lower case, and neither they nor digits hold a null
byte. -/
theorem Announces.zero_not_mem (h : o.Announces option) : 0 ∉ option.1 ∧ 0 ∉ option.2 := by
  constructor
  · rw [h.name_eq]
    cases o <;> decide +kernel
  · intro hmem
    have := h.isPlain.1.2 0 hmem
    contradiction

end Negotiable

/-- What was agreed on is announced. Each accepted option has its name from the request and its
value from the range. -/
theorem announces_of_negotiate {options : Options} {terms : Terms} {a : Agreement}
    (h : negotiate options terms = .ok a) :
    ∀ option ∈ a.accepted, ∃ o, Negotiable.Announces o option := by
  induction options generalizing terms a with
  | nil =>
    simp only [negotiate, Except.ok.injEq] at h
    subst h
    exact List.forall_mem_nil _
  | cons option rest ih =>
    obtain ⟨name, raw⟩ := option
    simp only [negotiate] at h
    split at h
    · exact ih h
    · next o ho =>
      split at h
      · cases h
      · next n hr =>
        split at h
        · cases h
        · next a' hn =>
          simp only [Except.ok.injEq] at h
          subst h
          obtain rfl := Negotiable.eq_bytes_of_ofBytes? ho
          exact List.forall_mem_cons.mpr ⟨⟨o, o.announces_clamp n⟩, ih hn⟩

/-! ## Packets

For each kind of packet there are conditions on what a server puts in, and from them on what a
client gets out. -/

namespace Packet

/-- A packet as a server makes it up. -/
inductive IsOutgoing : Packet → Prop
  /-- words, with a code -/
  | error (code : ErrorCode) {message : Bytes} (h : message.IsText) :
      IsOutgoing (.error code.bytes message)
  /-- options, all of them announced -/
  | optionAck {options : Options} (hne : options ≠ []) (hnodup : (options.map Prod.fst).Nodup)
      (h : ∀ option ∈ options, ∃ o, Negotiable.Announces o option) :
      IsOutgoing (.optionAck options)
  /-- a payload of no more than the greatest block -/
  | data (number : UInt16) {payload : Bytes}
      (h : (payload.length : Int) ≤ Negotiable.blockSize.greatest) :
      IsOutgoing (.data (Bytes.ofWord number) payload)

/-- A client reads a datagram as the server meant it. The words of an error are in ASCII and without
null bytes, options are acknowledged with plain numbers in range, and data are no more than fit into
a datagram. -/
inductive Arrives : Packet → Bytes → Prop
  /-- the error is read as it was meant -/
  | error {code message datagram : Bytes} (hread : decode datagram = .ok (.error code message))
      (h : message.IsText) : Arrives (.error code message) datagram
  /-- the options stand there in order -/
  | optionAck {options : Options} (hne : options ≠ []) (hnodup : (options.map Prod.fst).Nodup)
      (h : ∀ option ∈ options, ∃ o, Negotiable.Announces o option) :
      Arrives (.optionAck options)
        (Opcode.optionAck.bytes ++ Bytes.terminated (Draft.optionFields options))
  /-- the block is read as it was meant, and fits -/
  | data {block payload datagram : Bytes} (hread : decode datagram = .ok (.data block payload))
      (hlength : datagram.length ≤ 4 + 65464) : Arrives (.data block payload) datagram

variable {p : Packet}

/-- There is nothing in such a packet that keeps it from being written. -/
theorem IsOutgoing.not_isFaulty (h : p.IsOutgoing) : ¬ p.IsFaulty := by
  cases h with
  | error code h =>
    rintro (hlength | hnull)
    · exact hlength code.length_bytes
    · exact h.zero_not_mem hnull
  | optionAck hne hnodup h =>
    rintro ⟨field, hfield, hnull⟩
    obtain ⟨option, hoption, hpart⟩ := Draft.mem_optionFields.mp hfield
    obtain ⟨o, ho⟩ := h option hoption
    rcases hpart with rfl | rfl
    · exact ho.zero_not_mem.1 hnull
    · exact ho.zero_not_mem.2 hnull
  | data number h => exact not_not.mpr (Bytes.length_ofWord number)

/-- **What a server makes up gets to the client**: it is written without a fault. Errors and data
are read as they were meant; options have no reader of their own, and for them it is said what
stands in the datagram. -/
theorem IsOutgoing.arrives (h : p.IsOutgoing) :
    ∃ datagram, p.toDraft.encode = .ok datagram ∧ p.Arrives datagram := by
  have hfaulty := h.not_isFaulty
  refine ⟨p.datagram, encode_of_not_isFaulty hfaulty, ?_⟩
  have hread := isReadBack_datagram hfaulty
  cases h with
  | error code h => exact .error hread h
  | @optionAck options hne hnodup h =>
    have hfields : Draft.optionFields options ≠ [] := by
      cases options with
      | nil => exact absurd rfl hne
      | cons option rest => exact List.cons_ne_nil _ _
    rw [datagram, body, Draft.joinFields_eq_terminated hfields]
    exact .optionAck hne hnodup h
  | @data number payload h =>
    refine .data hread ?_
    have hgreatest : payload.length ≤ 65464 := Int.ofNat_le.mp h
    rw [datagram, body, List.length_append, List.length_append, Opcode.length_bytes,
      Bytes.length_ofWord]
    omega

end Packet

end Tftp
