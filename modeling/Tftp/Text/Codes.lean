/-!
# Texts with unpaired surrogates

A text in a file may name code points by number, and so hold halves of surrogate pairs that no
character stands for. Such a text is a list of code points. One without such halves is a `String`.
-/

namespace Tftp

/-- A text as code points, of which some may be halves of a surrogate pair. -/
abbrev Codes := List Nat

namespace Codes

/-- The code points of characters. -/
def ofChars (cs : List Char) : Codes := cs.map Char.toNat

/-- The character of a code point, which half of a surrogate pair lacks. -/
def char? (n : Nat) : Option Char :=
  if h : n.isValidChar then some (Char.ofNatAux n h) else none

/-- The characters of a text without unpaired halves. -/
def toChars? (cs : Codes) : Option (List Char) := cs.mapM char?

theorem char?_of_isValidChar {n : Nat} (h : n.isValidChar) :
    char? n = some (Char.ofNatAux n h) :=
  dif_pos h

theorem toNat_of_char? {n : Nat} {c : Char} (h : char? n = some c) : c.toNat = n := by
  by_cases hn : n.isValidChar
  · rw [char?_of_isValidChar hn] at h
    obtain rfl := Option.some.inj h
    rfl
  · have hnone : char? n = none := dif_neg hn
    rw [hnone] at h
    cases h

/-- A character has the number that it was made of. -/
theorem toNat_ofNat {n : Nat} (h : n.isValidChar) : (Char.ofNat n).toNat = n := by
  have hchar : Char.ofNat n = Char.ofNatAux n h := dif_pos h
  rw [hchar]
  rfl

/-- The characters of a text have its code points. -/
theorem ofChars_of_toChars? {cs : Codes} {chars : List Char} (h : cs.toChars? = some chars) :
    ofChars chars = cs := by
  induction cs generalizing chars with
  | nil =>
    obtain rfl := Option.some.inj h
    rfl
  | cons n cs ih =>
    rw [toChars?, List.mapM_cons] at h
    obtain ⟨c, hc, h⟩ := Option.bind_eq_some_iff.mp h
    obtain ⟨rest, hrest, h⟩ := Option.bind_eq_some_iff.mp h
    obtain rfl := Option.some.inj h
    rw [ofChars, List.map_cons, toNat_of_char? hc]
    exact congrArg (n :: ·) (ih hrest)

end Codes

end Tftp
