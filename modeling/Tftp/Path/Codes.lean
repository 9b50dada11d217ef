import Tftp.Path
import Tftp.Text.Codes

/-!
# Paths with unpaired surrogates

The names in a path of a configuration file may have halves of surrogate pairs in them, which no
character stands for. The normal form leaves names as they are, and so the path is spelled in
characters, and the names of its normal form are read back.

* `Codes.spell` and `Codes.unspell` — a text with unpaired halves in characters, and back;
* `Path.absoluteCodes` — the normal form of a path seen from a current directory.
-/

namespace Tftp

namespace Codes

/-- The character in front of one that stands for half of a surrogate pair. -/
def mark : Char := '\uffff'

/-- How far a half is from the character that stands for it. -/
def shift : Nat := 0xd000

/-- A code point in characters. The mark itself is written twice. -/
def spellOne (n : Nat) : List Char :=
  match char? n with
  | some c => if c = mark then [mark, mark] else [c]
  | none => [mark, Char.ofNat (n - shift)]

/-- A text in characters. -/
def spell (cs : Codes) : List Char := cs.flatMap spellOne

/-- The text that characters spell. -/
def unspell : List Char → Codes
  | [] => []
  | [c] => [c.toNat]
  | c :: d :: rest =>
    if c = mark then (if d = mark then d.toNat else d.toNat + shift) :: unspell rest
    else c.toNat :: unspell (d :: rest)

/-- A character that is not the mark spells itself, whatever comes after it. -/
theorem unspell_cons {c : Char} (h : c ≠ mark) (rest : List Char) :
    unspell (c :: rest) = c.toNat :: unspell rest := by
  cases rest with
  | nil => rfl
  | cons d rest => exact if_neg h

/-- What stands for half of a surrogate pair is a character, and it is not the mark. -/
theorem toNat_standIn {n : Nat} (h : char? n = none) (hn : n < 0x110000) :
    (Char.ofNat (n - shift)).toNat + shift = n ∧ Char.ofNat (n - shift) ≠ mark := by
  have hinvalid : ¬ n.isValidChar := by
    intro hn
    rw [char?_of_isValidChar hn] at h
    cases h
  have hhalf : 0xd800 ≤ n ∧ n < 0xe000 := by
    simp only [Nat.isValidChar] at hinvalid
    omega
  have hvalid : (n - shift).isValidChar := by
    simp only [Nat.isValidChar, shift]
    omega
  have htoNat : (Char.ofNat (n - shift)).toNat = n - shift := toNat_ofNat hvalid
  refine ⟨?_, fun hmark => ?_⟩
  · rw [htoNat, shift]
    omega
  · have hlt : mark.toNat = n - shift := by rw [← hmark, htoNat]
    have hmark' : mark.toNat = 0xffff := rfl
    rw [hmark', shift] at hlt
    omega

/-- A code point is read back from its characters, whatever comes after them. -/
theorem unspell_spellOne {n : Nat} (hn : n < 0x110000) (rest : List Char) :
    unspell (spellOne n ++ rest) = n :: unspell rest := by
  unfold spellOne
  split
  · next c hc =>
    split
    · next hmark =>
      subst hmark
      simp [unspell, toNat_of_char? hc]
    · next hmark => rw [List.singleton_append, unspell_cons hmark, toNat_of_char? hc]
  · next hnone =>
    obtain ⟨hback, hmark⟩ := toNat_standIn hnone hn
    simp [unspell, hmark, hback]

/-- **A text is read back from its characters.** -/
theorem unspell_spell {cs : Codes} (h : ∀ n ∈ cs, n < 0x110000) : unspell (spell cs) = cs := by
  induction cs with
  | nil => rfl
  | cons n cs ih =>
    have hspell : spell (n :: cs) = spellOne n ++ spell cs := List.flatMap_cons
    rw [hspell, unspell_spellOne (h n List.mem_cons_self),
      ih fun m hm => h m (List.mem_cons_of_mem _ hm)]

end Codes

namespace Path

/-- The normal form of a path seen from a current directory, with the names as they are. -/
def absoluteCodes (current : List Char) (cs : Codes) : Codes :=
  let path := absoluteFrom (Codes.spell (.ofChars current)) cs.spell
  ['/'.toNat].intercalate ((components path).map Codes.unspell)

example : absoluteCodes ['/', 'a'] [97, 0xd800, 47, 46, 46, 47, 0xffff, 0xdfff, 47] =
    [47, 97, 47, 0xffff, 0xdfff] := by
  decide +kernel

end Path

end Tftp
