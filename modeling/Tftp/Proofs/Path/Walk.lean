import Mathlib.Data.List.Induction
import Mathlib.Data.List.Infix
import Tftp.Proofs.Path.Normal

/-!
# Walks along the components of a path

Read from left to right, the components of a relative path lead first up and then down: a name goes
down, and a `..` takes back the last name that is left, or else goes up.

* `Path.named` — the components that count, which are names and `..`;
* `Path.Walk` — how far up the components lead, and then down along which names;
* `Path.StaysBelow` — at no point of a walk are there more `..` than names;
* `Path.Padded` — slashes, `.` and names that are taken back at once are put into a path.

A walk says what becomes of every stack of names: `Walk.foldl_push_true` for a directory seen from
the root, of which it drops the last names and adds others, and `Walk.foldl_push_false` for the
relative path by itself.
-/

namespace Tftp.Path

variable {path part : List Char}

/-! ## The components that count

Empty components and single dots change nothing on any stack. -/

/-- The components of a path without the empty ones and the directory itself. -/
def named (path : List Char) : List (List Char) :=
  (components path).filter isName

/-- Each of them is a plain name or the parent directory. -/
theorem isPlain_or_eq_parent_of_mem_named (h : part ∈ named path) :
    IsPlain part ∨ part = parent := by
  obtain ⟨hmem, hname⟩ := List.mem_filter.mp h
  by_cases hparent : part = parent
  · exact .inr hparent
  · exact .inl ⟨ne_nil_of_isName hname, ne_here_of_isName hname, hparent,
      slash_not_mem_of_mem_components hmem⟩

/-- A slash keeps apart the components before it and after it. -/
theorem components_append_slash (a b : List Char) :
    components (a ++ '/' :: b) = components a ++ components b :=
  List.splitOn_append_cons_self a b

theorem named_append_slash (a b : List Char) : named (a ++ '/' :: b) = named a ++ named b := by
  rw [named, components_append_slash, List.filter_append]
  rfl

@[simp] theorem named_nil : named [] = [] := rfl

@[simp] theorem named_slash (path : List Char) : named ('/' :: path) = named path :=
  named_append_slash [] path

/-- Slashes in front do not count. -/
theorem named_dropWhile (path : List Char) : named (path.dropWhile (· == '/')) = named path := by
  induction path with
  | nil => rfl
  | cons c path ih =>
    by_cases hc : c = '/'
    · subst hc
      rw [List.dropWhile_cons_of_pos rfl, ih, named_slash]
    · rw [List.dropWhile_cons_of_neg (by simpa using hc)]

/-- A path below a directory has the components of both. -/
theorem named_append (directory path : List Char) :
    named (append directory path) = named directory ++ named path := by
  unfold append
  split
  · next hend =>
    rcases Bool.or_eq_true_iff.mp hend with hnil | hslash
    · obtain rfl := List.isEmpty_iff.mp hnil
      rfl
    · -- the directory brings the slash itself
      obtain ⟨init, rfl⟩ := List.getLast?_eq_some_iff.mp (beq_iff_eq.mp hslash)
      rw [List.append_assoc, List.singleton_append, named_append_slash, named_append_slash,
        named_nil, List.append_nil]
  · exact named_append_slash directory path

/-! ## Walks

A walk is read from the left, so its constructors add a component on the right. -/

/-- Where components lead, read from left to right: some directories up, and then down along some
names. -/
inductive Walk : List (List Char) → Nat → List (List Char) → Prop
  /-- nothing leads nowhere -/
  | here : Walk [] 0 []
  /-- a name goes down -/
  | down {parts : List (List Char)} {up : Nat} {names : List (List Char)} {name : List Char}
      (h : Walk parts up names) (hname : IsPlain name) : Walk (parts ++ [name]) up (names ++ [name])
  /-- a `..` takes back the last name that is left -/
  | back {parts : List (List Char)} {up : Nat} {names : List (List Char)} {name : List Char}
      (h : Walk parts up (names ++ [name])) : Walk (parts ++ [parent]) up names
  /-- a `..` goes up where no name is left -/
  | up {parts : List (List Char)} {up : Nat} (h : Walk parts up []) :
      Walk (parts ++ [parent]) (up + 1) []

variable {parts names stack : List (List Char)} {up : Nat}

/-- What is left of a walk are names. -/
theorem Walk.isPlain (h : Walk parts up names) : ∀ name ∈ names, IsPlain name := by
  induction h with
  | here => exact nofun
  | down _ hname ih =>
    intro name hmem
    rcases List.mem_append.mp hmem with hmem | hmem
    · exact ih name hmem
    · rw [List.mem_singleton.mp hmem]
      exact hname
  | back _ ih => exact fun name hmem => ih name (List.mem_append_left _ hmem)
  | up => exact nofun

/-- Names and `..` lead somewhere. -/
theorem exists_walk (h : ∀ part ∈ parts, IsPlain part ∨ part = parent) :
    ∃ up names, Walk parts up names := by
  induction parts using List.reverseRecOn with
  | nil => exact ⟨0, [], .here⟩
  | append_singleton parts last ih =>
    obtain ⟨up, names, hwalk⟩ := ih fun part hpart => h part (List.mem_append_left _ hpart)
    rcases h last (List.mem_append_right _ (List.mem_singleton.mpr rfl)) with hname | rfl
    · exact ⟨up, _, hwalk.down hname⟩
    · rcases List.eq_nil_or_concat names with rfl | ⟨init, name, rfl⟩
      · exact ⟨up + 1, [], hwalk.up⟩
      · rw [List.concat_eq_append] at hwalk
        exact ⟨up, init, hwalk.back⟩

/-- So every path has a walk. -/
theorem exists_walk_named (path : List Char) : ∃ up names, Walk (named path) up names :=
  exists_walk fun _ => isPlain_or_eq_parent_of_mem_named

/-! ## Stacks

The stack is read in the order in which it is piled up, the last name first. On an empty stack a
`..` is kept if the path is relative and dropped if it is rooted, which is the only difference
between the two. -/

/-- A name comes on top of the stack. -/
theorem push_of_ne_parent (h : part ≠ parent) (rooted : Bool) (stack : List (List Char)) :
    push rooted stack part = part :: stack :=
  if_pos h

/-- A `..` takes the name on top away. -/
theorem push_parent_cons (h : part ≠ parent) (rooted : Bool) (stack : List (List Char)) :
    push rooted (part :: stack) parent = stack := by
  rw [push, if_neg (not_not.mpr rfl)]
  exact if_neg h

/-- On a rooted stack of names a `..` takes the top away, if there is one. -/
theorem push_true_parent (h : ∀ name ∈ stack, name ≠ parent) :
    push true stack parent = stack.tail := by
  cases stack with
  | nil => rfl
  | cons top below => exact push_parent_cons (h top List.mem_cons_self) true below

/-- A walk puts its names on top of what the `..` that lead up have made of the stack. -/
theorem Walk.foldl_push {rooted : Bool} {base : Nat → List (List Char)}
    (hbase : ∀ up, push rooted (base up) parent = base (up + 1)) (h : Walk parts up names) :
    parts.foldl (push rooted) (base 0) = names.reverse ++ base up := by
  induction h with
  | here => rfl
  | down _ hname ih =>
    rw [List.foldl_concat, ih, push_of_ne_parent hname.ne_parent, List.reverse_concat,
      List.cons_append]
  | @back parts up names name h ih =>
    have hname := h.isPlain name (List.mem_append_right _ (List.mem_singleton.mpr rfl))
    rw [List.foldl_concat, ih, List.reverse_concat, List.cons_append,
      push_parent_cons hname.ne_parent]
  | up _ ih => rw [List.foldl_concat, ih, List.reverse_nil, List.nil_append, hbase, List.nil_append]

/-- **Of a rooted stack a walk drops some names and adds others.** -/
theorem Walk.foldl_push_true (h : Walk parts up names) (hstack : ∀ name ∈ stack, name ≠ parent) :
    parts.foldl (push true) stack = names.reverse ++ stack.drop up := by
  have hbase (up : Nat) : push true (stack.drop up) parent = stack.drop (up + 1) := by
    rw [push_true_parent fun name hmem => hstack name (List.mem_of_mem_drop hmem), List.tail_drop]
  exact h.foldl_push hbase

/-- A relative path keeps the `..` that lead up. -/
theorem Walk.foldl_push_false (h : Walk parts up names) :
    parts.foldl (push false) [] = names.reverse ++ List.replicate up parent := by
  have hbase (up : Nat) : push false (List.replicate up parent) parent =
      List.replicate (up + 1) parent := by
    cases up <;> rfl
  exact h.foldl_push hbase

/-- There is only one walk along given components. -/
theorem Walk.unique {up' : Nat} {names' : List (List Char)} (h : Walk parts up names)
    (h' : Walk parts up' names') : up = up' ∧ names = names' := by
  have heq := h.foldl_push_false.symm.trans h'.foldl_push_false
  have hcount {up : Nat} {names : List (List Char)} (h : Walk parts up names) :
      (names.reverse ++ List.replicate up parent).count parent = up := by
    have hnone : names.reverse.count parent = 0 := List.count_eq_zero.mpr fun hmem =>
      (h.isPlain parent (List.mem_reverse.mp hmem)).ne_parent rfl
    rw [List.count_append, hnone, List.count_replicate_self, Nat.zero_add]
  have hup := hcount h
  rw [heq, hcount h'] at hup
  subst hup
  exact ⟨rfl, List.reverse_injective (List.append_cancel_right heq)⟩

/-- A name that is taken back at once leaves the stack as it was. -/
theorem foldl_push_detour {name : List Char} (h : name ≠ parent) (rooted : Bool)
    (stack : List (List Char)) : [name, parent].foldl (push rooted) stack = stack := by
  rw [List.foldl_cons, push_of_ne_parent h, List.foldl_cons, push_parent_cons h, List.foldl_nil]

/-! ## Walks that stay below

That a request stays below could be said of its walk. It is said by counting instead, which can be
checked without knowing the walk. -/

/-- Read from left to right, a path never has more `..` than names. -/
def StaysBelow (path : List Char) : Prop :=
  ∀ front, front <+: named path → front.count parent ≤ front.countP (· ≠ parent)

instance (path : List Char) : Decidable (StaysBelow path) :=
  decidable_of_iff (∀ front ∈ (named path).inits, front.count parent ≤ front.countP (· ≠ parent))
    (forall_congr' fun front => by rw [List.mem_inits])

theorem countP_concat (h : part ≠ parent) (parts : List (List Char)) :
    (parts ++ [part]).countP (· ≠ parent) = parts.countP (· ≠ parent) + 1 ∧
      (parts ++ [part]).count parent = parts.count parent := by
  rw [List.countP_append, List.countP_singleton, if_pos (decide_eq_true h), List.count_append,
    List.count_singleton, if_neg (by simpa using h)]
  exact ⟨rfl, rfl⟩

theorem countP_concat_parent (parts : List (List Char)) :
    (parts ++ [parent]).countP (· ≠ parent) = parts.countP (· ≠ parent) ∧
      (parts ++ [parent]).count parent = parts.count parent + 1 := by
  rw [List.countP_append, List.countP_singleton, if_neg (by simp), List.count_append,
    List.count_singleton_self]
  exact ⟨rfl, rfl⟩

/-- On a walk each name is left or taken back, and each `..` takes one back or goes up. -/
theorem Walk.countP_add (h : Walk parts up names) :
    parts.countP (· ≠ parent) + up = parts.count parent + names.length := by
  induction h with
  | here => rfl
  | @down parts up names name _ hname ih =>
    obtain ⟨hdowns, hups⟩ := countP_concat hname.ne_parent parts
    rw [hdowns, hups, List.length_append, List.length_singleton]
    omega
  | @back parts up names name _ ih =>
    obtain ⟨hdowns, hups⟩ := countP_concat_parent parts
    rw [List.length_append, List.length_singleton] at ih
    rw [hdowns, hups]
    omega
  | @up parts up _ ih =>
    obtain ⟨hdowns, hups⟩ := countP_concat_parent parts
    rw [hdowns, hups]
    omega

/-- A walk that never has more `..` than names does not lead up. -/
theorem Walk.up_eq_zero (h : Walk parts up names)
    (hstays : ∀ front, front <+: parts → front.count parent ≤ front.countP (· ≠ parent)) :
    up = 0 := by
  induction h with
  | here => rfl
  | down _ _ ih => exact ih fun front hfront => hstays front (hfront.trans (List.prefix_append _ _))
  | back _ ih => exact ih fun front hfront => hstays front (hfront.trans (List.prefix_append _ _))
  | @up parts up h ih =>
    -- every name so far was taken back, and so this `..` is one too many
    obtain rfl := ih fun front hfront => hstays front (hfront.trans (List.prefix_append _ _))
    have hbalance := h.countP_add
    have hlast := hstays _ List.prefix_rfl
    obtain ⟨hdowns, hups⟩ := countP_concat_parent parts
    rw [hdowns, hups] at hlast
    rw [List.length_nil] at hbalance
    omega

theorem StaysBelow.exists_walk (h : StaysBelow path) : ∃ names, Walk (named path) 0 names := by
  obtain ⟨up, names, hwalk⟩ := exists_walk_named path
  obtain rfl := hwalk.up_eq_zero h
  exact ⟨names, hwalk⟩

/-! ## Padding

There are many ways to write one path. What the padding puts in leaves every stack as it was, so
that it does not matter at any directory. -/

/-- Something is put into a path that should not matter. -/
inductive Padded : List Char → List Char → Prop
  /-- a slash in front -/
  | leading (path : List Char) : Padded path ('/' :: path)
  /-- a slash at the end -/
  | trailing (path : List Char) : Padded path (path ++ ['/'])
  /-- a second slash beside a slash -/
  | doubled (before after : List Char) :
      Padded (before ++ '/' :: after) (before ++ '/' :: '/' :: after)
  /-- a component that stands for the directory itself -/
  | here {path path' : List Char} {before after : List (List Char)}
      (h : components path = before ++ after) (h' : components path' = before ++ here :: after) :
      Padded path path'
  /-- a name and the `..` that takes it back -/
  | detour {path path' name : List Char} {before after : List (List Char)} (hname : IsPlain name)
      (h : components path = before ++ after)
      (h' : components path' = before ++ name :: parent :: after) : Padded path path'

/-- Padding leaves every stack with what it had without it. Slashes and single dots are not among
the components that count, and a name with the `..` behind it comes and goes. -/
theorem Padded.foldl_push {request : List Char} (h : Padded path request) (rooted : Bool)
    (stack : List (List Char)) :
    (named request).foldl (push rooted) stack = (named path).foldl (push rooted) stack := by
  cases h with
  | leading => rw [named_slash]
  | trailing => rw [named_append_slash, named_nil, List.append_nil]
  | doubled before after =>
    rw [named_append_slash, named_slash, named_append_slash]
  | here h h' =>
    rw [named, named, h, h', List.filter_append, List.filter_append,
      List.filter_cons_of_neg (by decide)]
  | @detour _ _ name before after hname h h' =>
    have hpair : (name :: parent :: after).filter isName =
        [name, parent] ++ after.filter isName := by
      rw [List.filter_cons_of_pos hname.isName, List.filter_cons_of_pos (by decide)]
      rfl
    rw [named, named, h, h', List.filter_append, List.filter_append, hpair, List.foldl_append,
      List.foldl_append, List.foldl_append, foldl_push_detour hname.ne_parent]

end Tftp.Path
