import Mathlib.Data.List.Basic
import Tftp.Path

/-!
# Normal forms of paths

The normal form of a path with a slash in front has one or two slashes there, and then names with
single slashes between them.

* `Path.IsPlain` — the names that a normal form is made of;
* `Path.rooted` — names below some slashes;
* `Path.parts` — the components of a path, without the empty ones;
* `Path.exists_normalise_eq_rooted` — a normal form is made of plain names, and of nothing else;
* `Path.normalise_rooted` — what is made of plain names is a normal form;
* `Path.commonDirectory_rooted` — the common directory has the names in common.

The stack of components that makes a normal form never has a `..` on it while it is rooted, which
is the invariant behind all of this (`Path.isPlain_of_mem_push`).
-/

namespace Tftp.Path

/-! ## Plain names

A plain name is what is left of a component when nothing about it is special. -/

/-- A name as it stands in a normal form below the root. -/
structure IsPlain (part : List Char) : Prop where
  /-- it is not empty -/
  ne_nil : part ≠ []
  /-- it does not stand for the directory itself -/
  ne_here : part ≠ here
  /-- it does not lead up -/
  ne_parent : part ≠ parent
  /-- it is one name -/
  slash : '/' ∉ part

/-- The components of a path, without the empty ones. -/
def parts (path : List Char) : List (List Char) :=
  (components path).filter (!·.isEmpty)

/-- Names below some slashes. -/
def rooted (slashes : Nat) (names : List (List Char)) : List Char :=
  List.replicate slashes '/' ++ join names

variable {path : List Char} {part : List Char} {names stack : List (List Char)} {slashes : Nat}

theorem IsPlain.isName (h : IsPlain part) : isName part = true := by
  simp [Path.isName, h.ne_nil, h.ne_here]

theorem ne_nil_of_isName (h : isName part = true) : part ≠ [] := by
  rintro rfl
  cases h

theorem ne_here_of_isName (h : isName part = true) : part ≠ here := by
  rintro rfl
  cases h

/-! ## Components

Components are what stands between slashes. A path with slashes side by side has empty ones among
them. -/

@[simp] theorem components_slash (path : List Char) :
    components ('/' :: path) = [] :: components path :=
  List.splitOn_append_cons_self [] path

/-- Plain names are the components of what they make. -/
theorem components_join (h : ∀ n ∈ names, IsPlain n) (hne : names ≠ []) :
    components (join names) = names :=
  List.splitOn_intercalate '/' (fun n hn => (h n hn).slash) hne

/-- No component has a slash in it. The path is read from its end, where each slash begins a new
component and every other character comes to the one that was begun. -/
theorem slash_not_mem_of_mem_components (h : part ∈ components path) : '/' ∉ part := by
  induction path generalizing part with
  | nil =>
    rw [List.mem_singleton.mp h]
    exact List.not_mem_nil
  | cons c path ih =>
    rw [components, List.splitOn_cons_eq_if_modifyHead] at h
    split at h
    · rcases List.mem_cons.mp h with rfl | h
      · exact List.not_mem_nil
      · exact ih h
    · next hc =>
      cases hs : List.splitOn '/' path with
      | nil => exact absurd hs (List.splitOn_ne_nil _ _)
      | cons first rest =>
        rw [hs, List.modifyHead_cons] at h
        have hmem (q : List Char) (hq : q ∈ first :: rest) : '/' ∉ q := by
          rw [← hs] at hq
          exact ih hq
        rcases List.mem_cons.mp h with rfl | h
        · intro hslash
          rcases List.mem_cons.mp hslash with rfl | hslash
          · exact hc (beq_self_eq_true _)
          · exact hmem first List.mem_cons_self hslash
        · exact hmem part (List.mem_cons_of_mem _ h)

/-- What is kept of the components below some slashes, if nothing empty is kept. -/
theorem filter_components_rooted {keep : List Char → Bool} (hnil : keep [] = false)
    (h : ∀ n ∈ names, IsPlain n) (hkeep : ∀ n ∈ names, keep n = true) :
    (components (rooted slashes names)).filter keep = names := by
  induction slashes with
  | zero =>
    rw [rooted, List.replicate_zero, List.nil_append]
    by_cases hne : names = []
    · subst hne
      exact List.filter_cons_of_neg (by simp [hnil])
    · rw [components_join h hne]
      exact List.filter_eq_self.mpr hkeep
  | succ k ih =>
    have hcons : rooted (k + 1) names = '/' :: rooted k names := rfl
    rw [hcons, components_slash, List.filter_cons_of_neg (by simp [hnil])]
    exact ih

theorem parts_rooted (h : ∀ n ∈ names, IsPlain n) : parts (rooted slashes names) = names :=
  filter_components_rooted rfl h fun n hn => by simp [(h n hn).ne_nil]

theorem filter_isName_rooted (h : ∀ n ∈ names, IsPlain n) :
    (components (rooted slashes names)).filter isName = names :=
  filter_components_rooted rfl h fun n hn => (h n hn).isName

/-! ## Slashes in front

Two slashes in front mean something of their own, and are kept. -/

/-- Names do not begin with a slash. -/
theorem head?_join_ne_slash (h : ∀ n ∈ names, IsPlain n) : (join names).head? ≠ some '/' := by
  cases names with
  | nil => exact nofun
  | cons n rest =>
    have hn := h n List.mem_cons_self
    obtain ⟨c, tail, rfl⟩ := List.exists_cons_of_ne_nil hn.ne_nil
    have hc : c ≠ '/' := by
      rintro rfl
      exact hn.slash List.mem_cons_self
    cases rest with
    | nil => simpa [join] using hc
    | cons m rest => simpa [join, List.intercalate_cons_cons] using hc

/-- One slash or two in front of a path without any are counted. -/
theorem leadingSlashes_replicate (hs : slashes = 1 ∨ slashes = 2) (h : path.head? ≠ some '/') :
    leadingSlashes (List.replicate slashes '/' ++ path) = slashes := by
  cases path with
  | nil => rcases hs with rfl | rfl <;> rfl
  | cons c path =>
    have hc : c ≠ '/' := fun hc => h (congrArg some hc)
    rcases hs with rfl | rfl <;> simp [List.replicate, leadingSlashes, hc]

theorem leadingSlashes_rooted (hs : slashes = 1 ∨ slashes = 2) (h : ∀ n ∈ names, IsPlain n) :
    leadingSlashes (rooted slashes names) = slashes :=
  leadingSlashes_replicate hs (head?_join_ne_slash h)

/-- With a slash in front there are one or two. Three and more count as one. -/
theorem leadingSlashes_of_head? (h : path.head? = some '/') :
    leadingSlashes path = 1 ∨ leadingSlashes path = 2 := by
  unfold leadingSlashes
  split
  · exact .inl rfl
  · exact .inr rfl
  · exact .inl rfl
  · next hnot =>
    obtain ⟨tail, rfl⟩ := List.head?_eq_some_iff.mp h
    exact absurd rfl (hnot tail)

theorem head?_rooted (names : List (List Char)) (hs : slashes = 1 ∨ slashes = 2) :
    (rooted slashes names).head? = some '/' := by
  rcases hs with rfl | rfl <;> rfl

/-! ## The stack of components

The components of a path are put on a stack, from which a `..` takes the top. A stack that is rooted
has nothing to keep a `..` for. -/

/-- On a rooted stack of plain names a component leaves plain names. -/
theorem isPlain_of_mem_push (h : ∀ n ∈ stack, IsPlain n) (hname : isName part = true)
    (hslash : '/' ∉ part) : ∀ n ∈ push true stack part, IsPlain n := by
  intro n hn
  unfold push at hn
  split at hn
  · next hparent =>
    rcases List.mem_cons.mp hn with rfl | hn
    · exact ⟨ne_nil_of_isName hname, ne_here_of_isName hname, hparent, hslash⟩
    · exact h n hn
  · split at hn
    · cases hn
    · next top below =>
      -- the top is a name, and so it is cancelled
      rw [if_neg (h top List.mem_cons_self).ne_parent] at hn
      exact h n (List.mem_cons_of_mem _ hn)

/-- Component by component the stack keeps to plain names. -/
theorem isPlain_of_mem_foldl {list : List (List Char)} (hstack : ∀ n ∈ stack, IsPlain n)
    (h : ∀ n ∈ list, isName n = true ∧ '/' ∉ n) :
    ∀ n ∈ list.foldl (push true) stack, IsPlain n := by
  induction list generalizing stack with
  | nil => exact hstack
  | cons part rest ih =>
    obtain ⟨hname, hslash⟩ := h part List.mem_cons_self
    exact ih (isPlain_of_mem_push hstack hname hslash)
      fun n hn => h n (List.mem_cons_of_mem _ hn)

/-- The components of a rooted path leave plain names. -/
theorem isPlain_of_mem_collapse (path : List Char) :
    ∀ n ∈ collapse true (components path), IsPlain n := by
  intro n hn
  refine isPlain_of_mem_foldl (fun m hm => absurd hm List.not_mem_nil) ?_ n (List.mem_reverse.mp hn)
  intro part hpart
  obtain ⟨hmem, hname⟩ := List.mem_filter.mp hpart
  exact ⟨hname, slash_not_mem_of_mem_components hmem⟩

/-- Plain names are piled up as they are. -/
theorem foldl_push (h : ∀ n ∈ names, IsPlain n) (rooted : Bool) (stack : List (List Char)) :
    names.foldl (push rooted) stack = names.reverse ++ stack := by
  induction names generalizing stack with
  | nil => rfl
  | cons n rest ih =>
    have hpush : push rooted stack n = n :: stack := by
      unfold push
      exact if_pos (h n List.mem_cons_self).ne_parent
    rw [List.foldl_cons, hpush, ih (fun m hm => h m (List.mem_cons_of_mem _ hm)),
      List.reverse_cons, List.append_assoc, List.singleton_append]

/-! ## Normal forms

Plain names and slashes are a normal form, and each normal form is made so. From here on a path that
begins with a slash is its names. -/

/-- A path with a slash in front is not empty, and so it is never replaced by the directory
itself. -/
theorem normalise_of_head? (h : path.head? = some '/') :
    normalise path = rooted (leadingSlashes path) (collapse true (components path)) := by
  have hbool : (leadingSlashes path != 0) = true := by
    rcases leadingSlashes_of_head? h with hs | hs <;> rw [hs] <;> rfl
  have hne : (rooted (leadingSlashes path) (collapse true (components path))).isEmpty = false := by
    rw [List.isEmpty_eq_false_iff]
    intro hnil
    have hhead := head?_rooted (collapse true (components path)) (leadingSlashes_of_head? h)
    rw [hnil] at hhead
    cases hhead
  rw [rooted] at hne
  rw [normalise]
  simp only [hbool, hne, Bool.false_eq_true, if_false, rooted]

/-- **A normal form below the root is made of plain names.** -/
theorem exists_normalise_eq_rooted (h : path.head? = some '/') :
    ∃ slashes names, normalise path = rooted slashes names ∧ (slashes = 1 ∨ slashes = 2) ∧
      ∀ n ∈ names, IsPlain n :=
  ⟨_, _, normalise_of_head? h, leadingSlashes_of_head? h, isPlain_of_mem_collapse path⟩

/-- **What is made of plain names is a normal form.** -/
theorem normalise_rooted (hs : slashes = 1 ∨ slashes = 2) (h : ∀ n ∈ names, IsPlain n) :
    normalise (rooted slashes names) = rooted slashes names := by
  rw [normalise_of_head? (head?_rooted names hs), leadingSlashes_rooted hs h, collapse,
    filter_isName_rooted h, foldl_push h, List.append_nil, List.reverse_reverse]

/-- Plain names and slashes are told from the path that they make. -/
theorem rooted_inj {slashes' : Nat} {names' : List (List Char)} (hs : slashes = 1 ∨ slashes = 2)
    (hs' : slashes' = 1 ∨ slashes' = 2) (h : ∀ n ∈ names, IsPlain n)
    (h' : ∀ n ∈ names', IsPlain n) (heq : rooted slashes names = rooted slashes' names') :
    slashes = slashes' ∧ names = names' := by
  have hslashes := congrArg leadingSlashes heq
  have hparts := congrArg parts heq
  rw [leadingSlashes_rooted hs h, leadingSlashes_rooted hs' h'] at hslashes
  rw [parts_rooted h, parts_rooted h'] at hparts
  exact ⟨hslashes, hparts⟩

/-! ## The common directory

The common directory of two paths is found by their names. It begins with one slash in any case,
which is why a directory with two is never found to be common. -/

/-- What two lists have in common stands at the front of both. -/
theorem commonFront_prefix_right (xs ys : List (List Char)) : commonFront xs ys <+: ys := by
  induction xs generalizing ys with
  | nil => exact List.nil_prefix
  | cons x xs ih =>
    cases ys with
    | nil => exact List.nil_prefix
    | cons y ys =>
      rw [commonFront]
      split
      · next heq =>
        subst heq
        exact (List.prefix_cons_inj x).mpr (ih ys)
      · exact List.nil_prefix

/-- The common directory of two normal forms starts with one slash, whatever they start with. -/
theorem commonDirectory_rooted {slashes' : Nat} {names' : List (List Char)}
    (h : ∀ n ∈ names, IsPlain n) (h' : ∀ n ∈ names', IsPlain n) :
    commonDirectory (rooted slashes names) (rooted slashes' names') =
      rooted 1 (commonFront names names') := by
  rw [commonDirectory, filter_isName_rooted h, filter_isName_rooted h']
  rfl

end Tftp.Path
