import Tftp.Fault
import Tftp.Number.Decimal
import Tftp.Number.Numeral

/-!
# Negotiation of options

A request may ask for a block size and a timeout. Every other option is passed over without an
answer. The value of an option is a decimal number with an optional sign; a number out of range
is moved to the nearest bound, and the bound is what the answer says.

* `Terms` — the block size and the timeout that a session works with;
* `negotiate` — the terms after a request and the options to acknowledge, in the order of the
  request, or the fault of the first option with a value that is no number;
* `Terms.Valid` — the terms are in range, which negotiation keeps.
-/

namespace Tftp

/-- What a session works with: the payload of a full block in bytes and the seconds it waits for
an answer. -/
structure Terms where
  blockSize : Int := 512
  timeout : Int := 3
  deriving DecidableEq, Repr, Inhabited

/-- The terms of a session for which nothing was negotiated. -/
def Terms.default : Terms := {}

/-- The options that can be negotiated. -/
inductive Negotiable where
  | blockSize
  | timeout
  deriving DecidableEq, Repr, Inhabited

namespace Negotiable

/-- The name of the option in messages. -/
def name : Negotiable → String
  | blockSize => "blksize"
  | timeout => "timeout"

/-- The name of the option in a request. -/
def bytes (o : Negotiable) : Bytes :=
  Bytes.ofText o.name

/-- The option of a name. -/
def ofBytes? (s : Bytes) : Option Negotiable :=
  if s = blockSize.bytes then some blockSize
  else if s = timeout.bytes then some timeout
  else none

/-- The least value of the option. -/
def least : Negotiable → Int
  | blockSize => 8
  | timeout => 1

/-- The greatest value of the option. -/
def greatest : Negotiable → Int
  | blockSize => 65464
  | timeout => 255

/-- The value in range that is nearest to a number. -/
def clamp (o : Negotiable) (n : Int) : Int :=
  max o.least (min n o.greatest)

theorem least_le_clamp (o : Negotiable) (n : Int) : o.least ≤ o.clamp n := by
  simp only [clamp]
  omega

theorem clamp_le_greatest (o : Negotiable) (n : Int) : o.clamp n ≤ o.greatest := by
  have : o.least ≤ o.greatest := by cases o <;> decide
  simp only [clamp]
  omega

/-- A sign in front of a value, as whether it is a minus, and the rest of the value. -/
def splitSign : Bytes → Bool × Bytes
  | 45 :: s => (true, s)
  | 43 :: s => (false, s)
  | s => (false, s)

/-- The number that the value of an option denotes. A numeral that is too long to be read is not
a value of the wrong form, but a fault of its own. -/
def read (o : Negotiable) (raw : Bytes) : Except Fault Int :=
  let (negative, digits) := splitSign raw
  if digits.isEmpty || !digits.all Decimal.isDigit then
    .error (.negotiation ("invalid " ++ o.name ++ " value - not a number"))
  else if Numeral.maxDigits < digits.length then
    .error (.numeralTooLong digits.length)
  else
    let n : Int := Decimal.value digits
    .ok (if negative then -n else n)

end Negotiable

namespace Terms

/-- The terms with the value of one option replaced. -/
def set (t : Terms) : Negotiable → Int → Terms
  | .blockSize, n => { t with blockSize := n }
  | .timeout, n => { t with timeout := n }

/-- The value of one option. -/
def get (t : Terms) : Negotiable → Int
  | .blockSize => t.blockSize
  | .timeout => t.timeout

/-- The terms are in the range of the options. -/
def Valid (t : Terms) : Prop :=
  ∀ o : Negotiable, o.least ≤ t.get o ∧ t.get o ≤ o.greatest

theorem valid_default : Terms.default.Valid := by
  intro o
  cases o <;> decide

theorem Valid.set {t : Terms} (h : t.Valid) (o : Negotiable) (n : Int) :
    (t.set o (o.clamp n)).Valid := by
  intro p
  have inRange : o.least ≤ o.clamp n ∧ o.clamp n ≤ o.greatest :=
    ⟨o.least_le_clamp n, o.clamp_le_greatest n⟩
  match o, p with
  | .blockSize, .blockSize => exact inRange
  | .timeout, .timeout => exact inRange
  | .blockSize, .timeout => exact h .timeout
  | .timeout, .blockSize => exact h .blockSize

theorem Valid.blockSize_pos {t : Terms} (h : t.Valid) : 0 < t.blockSize := by
  have := (h .blockSize).1
  simp only [Negotiable.least, get] at this
  omega

end Terms

/-- What was agreed on: the terms, and the options to acknowledge with the values in use. -/
structure Agreement where
  terms : Terms
  accepted : Options
  deriving DecidableEq, Repr, Inhabited

/-- The terms and the acknowledged options for the options of a request, from the terms in use
before. Nothing is agreed on when one of the options has a value that cannot be used. -/
def negotiate : Options → Terms → Except Fault Agreement
  | [], terms => .ok ⟨terms, []⟩
  | (name, raw) :: rest, terms =>
    match Negotiable.ofBytes? name with
    | none => negotiate rest terms
    | some o =>
      match o.read raw with
      | .error f => .error f
      | .ok n =>
        match negotiate rest (terms.set o (o.clamp n)) with
        | .error f => .error f
        | .ok a => .ok { a with accepted := (name, Decimal.ofInt (o.clamp n)) :: a.accepted }

/-- The names of the options that are passed over, up to the first option with a value that cannot
be used. -/
def passedOver : Options → List Bytes
  | [] => []
  | (name, raw) :: rest =>
    match Negotiable.ofBytes? name with
    | none => name :: passedOver rest
    | some o =>
      match o.read raw with
      | .error _ => []
      | .ok _ => passedOver rest

/-- Negotiation from valid terms gives valid terms. -/
theorem valid_of_negotiate {requested : Options} {terms : Terms} {a : Agreement}
    (h : terms.Valid) (ha : negotiate requested terms = .ok a) : a.terms.Valid := by
  induction requested generalizing terms a with
  | nil =>
    simp only [negotiate, Except.ok.injEq] at ha
    subst ha
    exact h
  | cons option rest ih =>
    obtain ⟨name, raw⟩ := option
    simp only [negotiate] at ha
    split at ha
    · exact ih h ha
    · split at ha
      · exact nomatch ha
      · split at ha
        · exact nomatch ha
        · next hn =>
          simp only [Except.ok.injEq] at ha
          subst ha
          have := ih (h.set _ _) hn
          exact this

end Tftp
