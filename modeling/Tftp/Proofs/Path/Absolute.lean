import Tftp.Path.Codes
import Tftp.Proofs.Path.Normal
import Tftp.Value

/-!
# Absolute paths among the values

A path may be given as a text, as a text with unpaired surrogates, or in bytes. In each case its
normal form seen from the root has one slash or two in front, and then names with single slashes
between them.

* `Path.IsAbsolute` — the normal forms seen from the root, as code points;
* `Value.IsAbsolutePath` — the values that are such a normal form;
* `Path.isAbsolute_map_components` — the names of a normal form, read one by one, are one again.

The checks of a configuration accept a path of any of the three kinds. They need not be told apart
where the path is used, for the names of an absolute path are plain whichever kind it is.
-/

namespace Tftp

namespace Path

/-- A name as it stands in a normal form, as code points. -/
structure IsPlainCodes (name : Codes) : Prop where
  /-- it is not empty -/
  ne_nil : name ≠ []
  /-- it does not stand for the directory itself -/
  ne_here : name ≠ .ofChars here
  /-- it does not lead up -/
  ne_parent : name ≠ .ofChars parent
  /-- it is one name -/
  slash : '/'.toNat ∉ name

/-- A path in normal form, seen from the root. -/
def IsAbsolute (path : Codes) : Prop :=
  ∃ (slashes : Nat) (names : List Codes), (slashes = 1 ∨ slashes = 2) ∧
    (∀ name ∈ names, IsPlainCodes name) ∧
    path = List.replicate slashes '/'.toNat ++ ['/'.toNat].intercalate names

variable {current path name : List Char} {names stack : List (List Char)} {slashes : Nat}

/-! ## The characters of a normal form

A path in bytes is turned into characters, made absolute and turned back. That works if the normal
form has no new characters. -/

theorem mem_intercalate_of_mem {α : Type} {a : α} {xs : List α} {lists : List (List α)}
    (sep : List α) (hxs : xs ∈ lists) (ha : a ∈ xs) : a ∈ sep.intercalate lists := by
  induction lists with
  | nil => cases hxs
  | cons ys rest ih =>
    by_cases hrest : rest = []
    · subst hrest
      rw [List.mem_singleton.mp hxs] at ha
      simpa using ha
    · rw [List.intercalate_cons_of_ne_nil hrest, List.append_assoc]
      rcases List.mem_cons.mp hxs with rfl | hxs
      · exact List.mem_append_left _ ha
      · exact List.mem_append_right _ (List.mem_append_right _ (ih hxs))

/-- Nothing comes onto the stack that is not a component. A component is put on top or it takes the
top away, and in no case is a name changed. -/
theorem mem_or_mem_of_mem_foldl_push {parts : List (List Char)}
    (h : name ∈ parts.foldl (push true) stack) : name ∈ stack ∨ name ∈ parts := by
  induction parts generalizing stack with
  | nil => exact .inl h
  | cons part rest ih =>
    rcases ih h with hpush | hrest
    · unfold push at hpush
      split at hpush
      · rcases List.mem_cons.mp hpush with rfl | hstack
        · exact .inr List.mem_cons_self
        · exact .inl hstack
      · split at hpush
        · cases hpush
        · split at hpush
          · rcases List.mem_cons.mp hpush with rfl | hstack
            · exact .inr List.mem_cons_self
            · exact .inl hstack
          · exact .inl (List.mem_cons_of_mem _ hpush)
    · exact .inr (List.mem_cons_of_mem _ hrest)

/-- A normal form has no characters but those of its path. -/
theorem mem_of_mem_collapse {c : Char} (h : name ∈ collapse true (components path))
    (hc : c ∈ name) : c ∈ path := by
  rcases mem_or_mem_of_mem_foldl_push (List.mem_reverse.mp h) with hnil | hmem
  · cases hnil
  · have hparts := mem_intercalate_of_mem ['/'] (List.mem_filter.mp hmem).1 hc
    rwa [components, List.intercalate_splitOn] at hparts

/-- The normal form of a rooted path is made of plain names, with the characters of the path. -/
theorem exists_rooted_of_head? (h : path.head? = some '/') :
    ∃ slashes names, normalise path = rooted slashes names ∧ (slashes = 1 ∨ slashes = 2) ∧
      ∀ n ∈ names, IsPlain n ∧ ∀ c ∈ n, c ∈ path :=
  ⟨_, _, normalise_of_head? h, leadingSlashes_of_head? h, fun n hn =>
    ⟨isPlain_of_mem_collapse path n hn, fun _ => mem_of_mem_collapse hn⟩⟩

theorem head?_append (h : current.head? = some '/') (path : List Char) :
    (append current path).head? = some '/' := by
  obtain ⟨tail, rfl⟩ := List.head?_eq_some_iff.mp h
  rw [append]
  split <;> rfl

/-- A path below a directory has their characters, and perhaps a slash between them. -/
theorem mem_or_mem_of_mem_append {c : Char} (h : c ∈ append current path) (hc : c ≠ '/') :
    c ∈ current ∨ c ∈ path := by
  unfold append at h
  split at h
  · exact List.mem_append.mp h
  · rcases List.mem_append.mp h with hcurrent | htail
    · exact .inl hcurrent
    · exact .inr ((List.mem_cons.mp htail).resolve_left hc)

/-- **A path seen from a rooted directory is made of plain names.** Their characters are those of
the path and of the directory, which is what a path in bytes needs to be turned back into bytes. -/
theorem exists_absoluteFrom_eq_rooted_mem (h : current.head? = some '/') (path : List Char) :
    ∃ slashes names, absoluteFrom current path = rooted slashes names ∧
      (slashes = 1 ∨ slashes = 2) ∧
      ∀ n ∈ names, IsPlain n ∧ ∀ c ∈ n, c ∈ current ∨ c ∈ path := by
  unfold absoluteFrom
  split
  · next hpath =>
    obtain ⟨slashes, names, heq, hs, hplain⟩ := exists_rooted_of_head? hpath
    exact ⟨slashes, names, heq, hs, fun n hn => ⟨(hplain n hn).1, fun c hc =>
      .inr ((hplain n hn).2 c hc)⟩⟩
  · obtain ⟨slashes, names, heq, hs, hplain⟩ := exists_rooted_of_head? (head?_append h path)
    refine ⟨slashes, names, heq, hs, fun n hn => ⟨(hplain n hn).1, fun c hc => ?_⟩⟩
    have hslash : c ≠ '/' := fun heq => (hplain n hn).1.slash (heq ▸ hc)
    exact mem_or_mem_of_mem_append ((hplain n hn).2 c hc) hslash

/-! ## Names read one by one

Text, bytes and texts with unpaired surrogates differ in how a name is read. What they have in
common is that slashes are read as slashes and names by themselves. -/

/-- The slashes of a path stay where its names are read one by one. The slashes in front are empty
components, which are read as nothing. -/
theorem intercalate_map_components {read : List Char → Codes} (hnil : read [] = [])
    (h : ∀ n ∈ names, IsPlain n) :
    ['/'.toNat].intercalate ((components (rooted slashes names)).map read) =
      List.replicate slashes '/'.toNat ++ ['/'.toNat].intercalate (names.map read) := by
  induction slashes with
  | zero =>
    by_cases hne : names = []
    · subst hne
      have hcomponents : components (rooted 0 []) = [[]] := rfl
      rw [hcomponents, List.map_singleton, hnil]
      rfl
    · have hcomponents : components (rooted 0 names) = names := components_join h hne
      rw [hcomponents, List.replicate_zero, List.nil_append]
  | succ k ih =>
    have hcons : rooted (k + 1) names = '/' :: rooted k names := rfl
    have hne : (components (rooted k names)).map read ≠ [] := by
      rw [ne_eq, List.map_eq_nil_iff]
      exact List.splitOn_ne_nil _ _
    rw [hcons, components_slash, List.map_cons, hnil, List.intercalate_cons_of_ne_nil hne, ih]
    rfl

/-- **The names of a normal form, read one by one, are one again.** What is read from a plain name
must be a plain name. -/
theorem isAbsolute_map_components {read : List Char → Codes} (h : current.head? = some '/')
    (hnil : read [] = [])
    (hread : ∀ n, IsPlain n → (∀ c ∈ n, c ∈ current ∨ c ∈ path) → IsPlainCodes (read n)) :
    IsAbsolute (['/'.toNat].intercalate ((components (absoluteFrom current path)).map read)) := by
  obtain ⟨slashes, names, heq, hs, hplain⟩ := exists_absoluteFrom_eq_rooted_mem h path
  rw [heq, intercalate_map_components hnil fun n hn => (hplain n hn).1]
  refine ⟨slashes, _, hs, fun codes hcodes => ?_, rfl⟩
  obtain ⟨n, hn, rfl⟩ := List.mem_map.mp hcodes
  exact hread n (hplain n hn).1 (hplain n hn).2

theorem map_intercalate {α β : Type} (f : α → β) (sep : List α) (lists : List (List α)) :
    (sep.intercalate lists).map f = (sep.map f).intercalate (lists.map (List.map f)) := by
  induction lists with
  | nil => rfl
  | cons xs rest ih =>
    by_cases hrest : rest = []
    · subst hrest
      simp
    · have hmap : rest.map (List.map f) ≠ [] := mt List.map_eq_nil_iff.mp hrest
      rw [List.intercalate_cons_of_ne_nil hrest, List.map_cons,
        List.intercalate_cons_of_ne_nil hmap, List.map_append, List.map_append, ih]

/-! ## Texts and bytes

A character is a code point and a byte is a number, each read by itself. -/

/-- A plain name stays plain as code points. -/
theorem IsPlain.codes (h : IsPlain name) : IsPlainCodes (.ofChars name) := by
  have hinj : Function.Injective Codes.ofChars :=
    List.map_injective_iff.mpr fun _ _ => Char.toNat_inj.mp
  refine ⟨?_, ?_, ?_, ?_⟩
  · exact fun hnil => h.ne_nil (hinj hnil)
  · exact fun hhere => h.ne_here (hinj hhere)
  · exact fun hparent => h.ne_parent (hinj hparent)
  · intro hslash
    obtain ⟨c, hc, heq⟩ := List.mem_map.mp hslash
    rw [Char.toNat_inj.mp heq] at hc
    exact h.slash hc

/-- The names of a path are read one by one where each character is read by itself. -/
theorem map_eq_intercalate_map_components (f : Char → Nat) (h : f '/' = '/'.toNat)
    (path : List Char) :
    path.map f = ['/'.toNat].intercalate ((components path).map (List.map f)) := by
  rw [← h, ← List.map_singleton, ← map_intercalate, components, List.intercalate_splitOn]

/-- A text is made absolute. -/
theorem isAbsolute_codes_absoluteFrom (h : current.head? = some '/') (path : List Char) :
    IsAbsolute (.ofChars (absoluteFrom current path)) := by
  rw [Codes.ofChars, map_eq_intercalate_map_components _ rfl]
  exact isAbsolute_map_components h rfl fun n hn _ => hn.codes

/-- A path in bytes is made absolute. Each byte stands for the character of its number, so that the
characters of the normal form are turned back into bytes without loss. -/
theorem isAbsolute_bytes_absoluteFrom (h : current.head? = some '/')
    (hbytes : ∀ c, c ∈ current ∨ c ∈ path → c.toNat < 256) :
    IsAbsolute
      (((absoluteFrom current path).map fun c => UInt8.ofNat c.toNat).map UInt8.toNat) := by
  let code (c : Char) : Nat := (UInt8.ofNat c.toNat).toNat
  rw [List.map_map, show UInt8.toNat ∘ (fun c : Char => UInt8.ofNat c.toNat) = code from rfl,
    map_eq_intercalate_map_components code rfl]
  refine isAbsolute_map_components h rfl fun n hn hmem => ?_
  have hbyte : ∀ c ∈ n, code c = c.toNat := by
    intro c hc
    have hlt := hbytes c (hmem c hc)
    simpa [code] using hlt
  rw [List.map_congr_left hbyte]
  exact hn.codes

/-! ## Texts with unpaired surrogates

An unpaired surrogate is spelled with a mark before a character of its own. What is special in a
name is neither, and so it is read only from itself. -/

/-- Dots are read only from dots. With a mark before it a character is read as one beyond those of
texts, or as the mark itself, and neither is a dot. -/
theorem eq_of_unspell_eq {other : List Char} (h : Codes.unspell name = .ofChars other)
    (hdots : ∀ c ∈ other, c = '.') : name = other := by
  induction name using Codes.unspell.induct generalizing other with
  | case1 =>
    cases other with
    | nil => rfl
    | cons d other => cases h
  | case2 c =>
    cases other with
    | nil => cases h
    | cons d other =>
      obtain ⟨hc, hrest⟩ := List.cons.inj h
      obtain rfl : other = [] := List.map_eq_nil_iff.mp hrest.symm
      rw [Char.toNat_inj.mp hc]
  | case3 d rest ih =>
    cases other with
    | nil => cases h
    | cons e other =>
      have hhead : (if d = Codes.mark then d.toNat else d.toNat + Codes.shift) = e.toNat :=
        (List.cons.inj h).1
      have hlow : e.toNat < Codes.shift := by
        rw [hdots e List.mem_cons_self]
        decide
      have hmark : Codes.shift ≤ Codes.mark.toNat := by decide
      split at hhead
      · next hd =>
        subst hd
        omega
      · omega
  | case4 c d rest hc ih =>
    rw [Codes.unspell_cons hc] at h
    cases other with
    | nil => cases h
    | cons e other =>
      obtain ⟨hhead, hrest⟩ := List.cons.inj h
      rw [Char.toNat_inj.mp hhead, ih hrest fun c hc => hdots c (List.mem_cons_of_mem _ hc)]

/-- A low code point is read only from its own character. This is used for the slash, which would
otherwise part a name. -/
theorem mem_of_mem_unspell {c : Char} (h : c.toNat ∈ Codes.unspell name)
    (hlow : c.toNat < Codes.shift) : c ∈ name := by
  induction name using Codes.unspell.induct with
  | case1 => cases h
  | case2 d =>
    rw [Char.toNat_inj.mp (List.mem_singleton.mp h)]
    exact List.mem_singleton.mpr rfl
  | case3 d rest ih =>
    rcases List.mem_cons.mp (h : c.toNat ∈ (if d = Codes.mark then _ else _) :: _) with hd | hrest
    · have hmark : Codes.shift ≤ Codes.mark.toNat := by decide
      split at hd
      · next heq =>
        subst heq
        omega
      · omega
    · exact List.mem_cons_of_mem _ (List.mem_cons_of_mem _ (ih hrest))
  | case4 d e rest hd ih =>
    rw [Codes.unspell_cons hd] at h
    rcases List.mem_cons.mp h with hhead | hrest
    · rw [Char.toNat_inj.mp hhead]
      exact List.mem_cons_self
    · exact List.mem_cons_of_mem _ (ih hrest)

theorem IsPlain.unspell (h : IsPlain name) : IsPlainCodes (Codes.unspell name) := by
  have hne {other : List Char} (hother : name ≠ other) (hdots : ∀ c ∈ other, c = '.') :
      Codes.unspell name ≠ .ofChars other := fun heq => hother (eq_of_unspell_eq heq hdots)
  exact ⟨hne h.ne_nil nofun, hne h.ne_here (by simp [here]), hne h.ne_parent (by simp [parent]),
    fun hslash => h.slash (mem_of_mem_unspell hslash (by decide))⟩

theorem head?_spell (h : current.head? = some '/') :
    (Codes.spell (.ofChars current)).head? = some '/' := by
  obtain ⟨tail, rfl⟩ := List.head?_eq_some_iff.mp h
  have hslash : Codes.spellOne '/'.toNat = ['/'] := by decide +kernel
  rw [Codes.ofChars, List.map_cons, Codes.spell, List.flatMap_cons, hslash]
  rfl

/-- A text with unpaired surrogates is made absolute. -/
theorem isAbsolute_absoluteCodes (h : current.head? = some '/') (path : Codes) :
    IsAbsolute (absoluteCodes current path) :=
  isAbsolute_map_components (head?_spell h) rfl fun _ hn _ => hn.unspell

end Path

namespace Value

/-- The code points of a path: those of a text, or the bytes. -/
def pathCodes? : Value → Option Codes
  | bytes s => some (s.map UInt8.toNat)
  | v => v.codes?

/-- Whether a value is a path in normal form, seen from the root. -/
def IsAbsolutePath (v : Value) : Prop :=
  ∃ path, v.pathCodes? = some path ∧ Path.IsAbsolute path

/-- A text is the value of its code points. -/
theorem pathCodes?_ofCodes (cs : Codes) : (ofCodes cs).pathCodes? = some cs := by
  unfold ofCodes
  split
  · next chars h =>
    have hcodes : Codes.ofChars chars = cs := Codes.ofChars_of_toChars? h
    simp [pathCodes?, codes?, hcodes]
  · rfl

end Value

end Tftp
