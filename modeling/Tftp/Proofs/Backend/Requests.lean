import Mathlib.Logic.Relation
import Tftp.Proofs.Backend.Containment
import Tftp.Proofs.Path.Walk

/-!
# Which requests a directory answers

A request that does not lead out of a directory is answered, and its names say where it leads. One
that leads out is refused, unless it comes back by the names that it has left. A directory with two
slashes in front answers no request at all.

* `Path.resolve?_rooted_eq_some_iff` — both of it, in terms of the walk along the request;
* `Path.LeadsUp` — a request that refers to the parent of whatever directory it is seen from;
* `Path.Returns` — one that comes back by the names of the directory;
* `Path.relative?` — where a request leads, seen from the directory.

The main theorems are `Path.finds_below_unless_doubled` and `Backend.refuses_unless_returning`. The
last names of a directory are dropped by a request that leads up (`Path.target_of_walk`), and
whether the rest is still below the directory is a matter of these names alone.

Two normal forms are compared, that of the directory and that of where the request leads. Both are
slashes and plain names, and the comparison says that the names of the one are the first names of
the other and that the directory has one slash in front. The second condition comes from how a
common directory is put together: it has one slash in any case. What follows here is to say the
first condition in terms of the request.
-/

namespace Tftp

namespace Path

variable {current root directory path request name : List Char} {names below : List (List Char)}
  {slashes up : Nat}

/-! ## Directories in normal form

How a request is appended to a directory depends on whether the directory has a slash at its end,
and only the root has. -/

theorem named_rooted (h : ∀ n ∈ names, IsPlain n) : named (rooted slashes names) = names :=
  filter_isName_rooted h

/-- Components that are not empty are not an empty path together. -/
theorem join_ne_nil (h : ∀ n ∈ names, n ≠ [] ∧ '/' ∉ n) (hne : names ≠ []) : join names ≠ [] := by
  intro hnil
  have hnames : components (join names) = names :=
    List.splitOn_intercalate '/' (fun n hn => (h n hn).2) hne
  rw [hnil] at hnames
  exact (h [] (hnames ▸ List.mem_singleton.mpr rfl)).1 rfl

theorem join_ne_nil_of_isPlain (h : ∀ n ∈ names, IsPlain n) (hne : names ≠ []) : join names ≠ [] :=
  join_ne_nil (fun n hn => ⟨(h n hn).ne_nil, (h n hn).slash⟩) hne

/-- Names do not end in a slash. -/
theorem getLast?_rooted_ne_slash (h : ∀ n ∈ names, IsPlain n) (hne : names ≠ []) :
    (rooted slashes names).getLast? ≠ some '/' := by
  rw [rooted, List.getLast?_append_of_ne_nil _ (join_ne_nil_of_isPlain h hne)]
  intro hlast
  obtain ⟨init, heq⟩ := List.getLast?_eq_some_iff.mp hlast
  have hnames := components_join h hne
  rw [heq, components_append_slash] at hnames
  have hempty : [] ∈ names := hnames ▸ List.mem_append_right _ (List.mem_singleton.mpr rfl)
  exact (h [] hempty).ne_nil rfl

theorem append_rooted_nil (hs : slashes = 1 ∨ slashes = 2) (path : List Char) :
    append (rooted slashes []) path = List.replicate slashes '/' ++ path := by
  rcases hs with rfl | rfl <;> rfl

theorem append_rooted_of_ne_nil (h : ∀ n ∈ names, IsPlain n) (hne : names ≠ []) (path : List Char) :
    append (rooted slashes names) path =
      List.replicate slashes '/' ++ (join names ++ '/' :: path) := by
  have hlast : (rooted slashes names).getLast? ≠ some '/' := getLast?_rooted_ne_slash h hne
  have hnil : rooted slashes names ≠ [] :=
    List.append_ne_nil_of_right_ne_nil _ (join_ne_nil_of_isPlain h hne)
  rw [append, if_neg, rooted, List.append_assoc]
  simp [hlast, hnil]

theorem join_concat (h : ∀ n ∈ names, IsPlain n) (hne : names ≠ []) (hname : '/' ∉ name) :
    join (names ++ [name]) = join names ++ '/' :: name := by
  have hcomponents : components (join names ++ '/' :: name) = names ++ [name] := by
    rw [components_append_slash, components_join h hne]
    exact congrArg (names ++ ·) (List.splitOn_eq_singleton hname)
  rw [← hcomponents]
  exact List.intercalate_splitOn '/'

/-- A name below a directory comes after the names of the directory. -/
theorem append_rooted (hs : slashes = 1 ∨ slashes = 2) (h : ∀ n ∈ names, IsPlain n)
    (hname : IsPlain name) :
    append (rooted slashes names) name = rooted slashes (names ++ [name]) := by
  by_cases hne : names = []
  · subst hne
    rw [append_rooted_nil hs, List.nil_append, rooted, join, List.intercalate_singleton]
  · rw [append_rooted_of_ne_nil h hne, rooted, join_concat h hne hname.slash]

theorem foldl_append_rooted (hs : slashes = 1 ∨ slashes = 2) (h : ∀ n ∈ names, IsPlain n)
    (hbelow : ∀ n ∈ below, IsPlain n) :
    below.foldl append (rooted slashes names) = rooted slashes (names ++ below) := by
  induction below generalizing names with
  | nil => rw [List.foldl_nil, List.append_nil]
  | cons n rest ih =>
    obtain ⟨hn, hrest⟩ := List.forall_mem_cons.mp hbelow
    have hnames : ∀ m ∈ names ++ [n], IsPlain m :=
      List.forall_mem_append.mpr ⟨h, List.forall_mem_singleton.mpr hn⟩
    rw [List.foldl_cons, append_rooted hs h hn, ih hnames hrest, List.append_assoc,
      List.singleton_append]

/-- The slashes in front are those of the directory. -/
theorem leadingSlashes_append (hs : slashes = 1 ∨ slashes = 2) (h : ∀ n ∈ names, IsPlain n)
    (hpath : path.head? ≠ some '/') :
    leadingSlashes (append (rooted slashes names) path) = slashes := by
  by_cases hne : names = []
  · subst hne
    rw [append_rooted_nil hs]
    exact leadingSlashes_replicate hs hpath
  · rw [append_rooted_of_ne_nil h hne]
    refine leadingSlashes_replicate hs ?_
    obtain ⟨c, rest, hjoin⟩ := List.exists_cons_of_ne_nil (join_ne_nil_of_isPlain h hne)
    have hhead := head?_join_ne_slash h
    rw [hjoin] at hhead ⊢
    exact hhead

/-! ## Where a request leads

The names of the directory are on the stack when the request is read. How far its walk leads up says
how many of them it drops. -/

/-- Without its slashes in front a request is relative. -/
theorem head?_dropWhile_ne_slash (path : List Char) :
    (path.dropWhile (· == '/')).head? ≠ some '/' := by
  intro hhead
  have hnot := List.head?_dropWhile_not (· == '/') path
  rw [hhead] at hnot
  cases hnot

/-- The names of the directory are the stack on which the request is read. -/
theorem target_rooted (hs : slashes = 1 ∨ slashes = 2) (h : ∀ n ∈ names, IsPlain n)
    (request : List Char) :
    target (rooted slashes names) request =
      rooted slashes ((named request).foldl (push true) names.reverse).reverse := by
  have hhead := head?_append (head?_rooted names hs) (request.dropWhile (· == '/'))
  have hstack : ∀ path, collapse true (components path) =
      ((named path).foldl (push true) []).reverse := fun _ => rfl
  rw [target, normalise_of_head? hhead,
    leadingSlashes_append hs h (head?_dropWhile_ne_slash request), hstack, named_append,
    named_dropWhile, named_rooted h, List.foldl_append, foldl_push h, List.append_nil]

/-- **A request drops the last names of the directory and adds others.** -/
theorem target_of_walk (hs : slashes = 1 ∨ slashes = 2) (h : ∀ n ∈ names, IsPlain n)
    (hwalk : Walk (named request) up below) : target (rooted slashes names) request =
      rooted slashes (names.take (names.length - up) ++ below) := by
  have hstack : ∀ n ∈ names.reverse, n ≠ parent := fun n hn =>
    (h n (List.mem_reverse.mp hn)).ne_parent
  rw [target_rooted hs h, hwalk.foldl_push_true hstack, List.reverse_append, List.reverse_reverse,
    List.reverse_drop, List.reverse_reverse, List.length_reverse]

/-! ## Which requests are answered

What a request drops must be the first that it adds. If it does not lead up it drops nothing, and if
it does its answer depends on the names of the directory. -/

theorem commonFront_eq_left_iff {xs ys : List (List Char)} :
    commonFront xs ys = xs ↔ xs <+: ys := by
  constructor
  · intro h
    rw [← h]
    exact commonFront_prefix_right xs ys
  · intro h
    induction xs generalizing ys with
    | nil => rfl
    | cons x xs ih =>
      obtain ⟨rest, rfl⟩ := h
      rw [List.cons_append, commonFront, if_pos rfl, ih (List.prefix_append xs rest)]

/-- **A request is answered if the names that it drops are the first that it adds**, and the
directory has one slash in front. The names that are kept are those of the directory already, and so
only the dropped ones have to come back. -/
theorem resolve?_rooted_eq_some_iff (hs : slashes = 1 ∨ slashes = 2) (h : ∀ n ∈ names, IsPlain n)
    (hwalk : Walk (named request) up below) : resolve? (rooted slashes names) request = some path ↔
      (slashes = 1 ∧ names.drop (names.length - up) <+: below) ∧
        path = rooted slashes (names.take (names.length - up) ++ below) := by
  have hkept : ∀ n ∈ names.take (names.length - up) ++ below, IsPlain n :=
    List.forall_mem_append.mpr ⟨fun n hn => h n (List.mem_of_mem_take hn), hwalk.isPlain⟩
  have hfront : ∀ n ∈ commonFront names (names.take (names.length - up) ++ below), IsPlain n :=
    fun n hn => hkept n ((commonFront_prefix_right _ _).subset hn)
  -- the names that are kept are those of the directory, so only the others count
  have hprefix : names <+: names.take (names.length - up) ++ below ↔
      names.drop (names.length - up) <+: below := by
    nth_rewrite 1 [← List.take_append_drop (names.length - up) names]
    exact List.prefix_append_right_inj _
  have hcommon : commonDirectory (rooted slashes names)
      (rooted slashes (names.take (names.length - up) ++ below)) = rooted slashes names ↔
        slashes = 1 ∧ names.drop (names.length - up) <+: below := by
    rw [commonDirectory_rooted h hkept, ← hprefix, ← commonFront_eq_left_iff]
    constructor
    · intro heq
      obtain ⟨hone, hnames⟩ := rooted_inj (.inl rfl) hs hfront h heq
      exact ⟨hone.symm, hnames⟩
    · rintro ⟨rfl, hnames⟩
      rw [hnames]
  rw [resolve?_eq_some_iff, target_of_walk hs h hwalk]
  constructor
  · rintro ⟨heq, rfl⟩
    exact ⟨hcommon.mp heq, rfl⟩
  · rintro ⟨hboth, rfl⟩
    exact ⟨hcommon.mpr hboth, rfl⟩

/-- What is put into a request without changing its walk does not change where it leads. -/
theorem Padded.resolve?_eq (hs : slashes = 1 ∨ slashes = 2) (h : ∀ n ∈ names, IsPlain n)
    (hpadded : Padded request path) :
    resolve? (rooted slashes names) path = resolve? (rooted slashes names) request := by
  have htarget : target (rooted slashes names) path = target (rooted slashes names) request := by
    rw [target_rooted hs h, target_rooted hs h, hpadded.foldl_push]
  refine Option.ext fun found => ?_
  rw [resolve?_eq_some_iff, resolve?_eq_some_iff, htarget]

/-- **A request that does not lead out of a directory is answered**, whatever the directory, unless
its normal form has two slashes in front: then no request is. The answer is the directory with the
names after it that the request has not taken back, and slashes, `.` and names that are taken back
at once do not change it. -/
theorem finds_below_unless_doubled (hcurrent : current.head? = some '/') (root : List Char)
    (hstays : StaysBelow request) :
    let directory := absoluteFrom current root
    ∃ names, Walk (named request) 0 names ∧
      resolve? directory request =
        (if leadingSlashes directory = 2 then none else some (names.foldl append directory)) ∧
      ∀ request', Relation.ReflTransGen Padded request request' →
        resolve? directory request' = resolve? directory request := by
  intro directory
  obtain ⟨slashes, names, hdirectory, hs, hplain⟩ := exists_absoluteFrom_eq_rooted hcurrent root
  obtain ⟨below, hwalk⟩ := hstays.exists_walk
  rw [show directory = rooted slashes names from hdirectory]
  refine ⟨below, hwalk, ?_, ?_⟩
  · have hdropped : names.drop (names.length - 0) <+: below := by
      rw [Nat.sub_zero, List.drop_length]
      exact List.nil_prefix
    rw [leadingSlashes_rooted hs hplain, foldl_append_rooted hs hplain hwalk.isPlain]
    refine Option.ext fun found => ?_
    rw [resolve?_rooted_eq_some_iff hs hplain hwalk, Nat.sub_zero, List.take_length]
    rcases hs with rfl | rfl
    · simp [eq_comm]
    · simp
  · intro request' hpadded
    induction hpadded with
    | refl => rfl
    | tail _ hlast ih => exact (hlast.resolve?_eq hs hplain).trans ih

/-- A request with every kind of padding is answered like the name that is left of it. -/
theorem finds_below_unless_doubled_padded :
    let directory := absoluteFrom ['/', 'h'] "s/./tftp".toList
    let request := "a/..//./b".toList
    ['/', 'h'].head? = some '/' ∧ StaysBelow request ∧ (∃ names, Walk (named request) 0 names) ∧
      resolve? directory ('/' :: request ++ ['/']) = some "/h/s/tftp/b".toList := by
  intro directory request
  have hcurrent : ['/', 'h'].head? = some '/' := rfl
  have hstays : StaysBelow request := by decide
  obtain ⟨names, hwalk, -, hpadded⟩ :=
    finds_below_unless_doubled hcurrent "s/./tftp".toList hstays
  have hanswer : resolve? directory request = some "/h/s/tftp/b".toList := by decide
  have hboth : Relation.ReflTransGen Padded request ('/' :: request ++ ['/']) :=
    .tail (.single (.leading request)) (.trailing ('/' :: request))
  exact ⟨hcurrent, hstays, ⟨names, hwalk⟩, (hpadded _ hboth).trans hanswer⟩

/-- A directory with two slashes in front does not find what is in it. -/
theorem resolve?_doubled : StaysBelow ['x'] ∧
    absoluteFrom ['/'] "//srv".toList = "//srv".toList ∧
    resolve? (absoluteFrom ['/'] "//srv".toList) ['x'] = none := by
  decide

/-! ## Requests that lead up

Whether a request refers to the parent of its directory is a matter of the request alone. Whether it
returns is not. -/

/-- A request that, by itself and without the slashes in front, has a normal form that begins with
the parent directory. -/
def LeadsUp (request : List Char) : Prop :=
  (components (normalise (request.dropWhile (· == '/')))).head? = some parent

instance (request : List Char) : Decidable (LeadsUp request) :=
  inferInstanceAs (Decidable (_ = _))

/-- A request leads up out of a directory, and then down again by the names that it has left. A
directory at the top is its own parent and has none. -/
def Returns (directory request : List Char) : Prop :=
  ∃ up names, Walk (named request) up names ∧ 0 < up ∧
    (parts directory).drop ((parts directory).length - up) <+: names

/-- The names that lead from the directory to where a request leads. -/
def relative? (directory request : List Char) : Option (List (List Char)) :=
  (resolve? directory request).map fun path => (parts path).drop (parts directory).length

/-- The normal form of a path without a slash in front. -/
theorem normalise_of_head?_ne (h : path.head? ≠ some '/') : normalise path =
    if (join (collapse false (components path))).isEmpty then here
    else join (collapse false (components path)) := by
  have hzero : leadingSlashes path = 0 := by
    unfold leadingSlashes
    split <;> first | rfl | exact absurd rfl h
  rw [normalise, hzero]
  rfl

/-- A request has in normal form the `..` and the names of its walk. Only if both are missing there
is a component that is neither, which stands for the directory itself. -/
theorem components_normalise_of_walk (hwalk : Walk (named request) up below) :
    components (normalise (request.dropWhile (· == '/'))) =
      if up = 0 ∧ below = [] then [here] else List.replicate up parent ++ below := by
  have hcollapse : collapse false (components (request.dropWhile (· == '/'))) =
      List.replicate up parent ++ below := by
    have hstack : collapse false (components (request.dropWhile (· == '/'))) =
        ((named (request.dropWhile (· == '/'))).foldl (push false) []).reverse := rfl
    rw [hstack, named_dropWhile, hwalk.foldl_push_false, List.reverse_append, List.reverse_reverse,
      List.reverse_replicate]
  rw [normalise_of_head?_ne (head?_dropWhile_ne_slash request), hcollapse]
  by_cases hnone : up = 0 ∧ below = []
  · obtain ⟨rfl, rfl⟩ := hnone
    rfl
  · have hne : List.replicate up parent ++ below ≠ [] := by
      intro hnil
      obtain ⟨hup, hbelow⟩ := List.append_eq_nil_iff.mp hnil
      exact hnone ⟨(List.replicate_eq_nil_iff parent).mp hup, hbelow⟩
    have hparts : ∀ part ∈ List.replicate up parent ++ below, part ≠ [] ∧ '/' ∉ part := by
      refine List.forall_mem_append.mpr ⟨fun part hpart => ?_, fun part hpart => ?_⟩
      · rw [List.eq_of_mem_replicate hpart]
        exact ⟨by decide, by decide⟩
      · exact ⟨(hwalk.isPlain part hpart).ne_nil, (hwalk.isPlain part hpart).slash⟩
    have hjoin : components (join (List.replicate up parent ++ below)) =
        List.replicate up parent ++ below :=
      List.splitOn_intercalate '/' (fun part hpart => (hparts part hpart).2) hne
    have hempty : ¬ (join (List.replicate up parent ++ below)).isEmpty = true :=
      mt List.isEmpty_iff.mp (join_ne_nil hparts hne)
    rw [if_neg hempty, if_neg hnone, hjoin]

/-- A request refers to the parent of its directory just if its walk leads up. -/
theorem leadsUp_iff (hwalk : Walk (named request) up below) : LeadsUp request ↔ 0 < up := by
  rw [LeadsUp, components_normalise_of_walk hwalk]
  cases up with
  | succ up => simp [List.replicate_succ]
  | zero =>
    refine iff_of_false (fun hhead => ?_) (Nat.lt_irrefl 0)
    cases below with
    | nil =>
      rw [if_pos ⟨rfl, rfl⟩] at hhead
      exact absurd (Option.some.inj hhead) (by decide)
    | cons name rest =>
      have hne : ¬ (0 = 0 ∧ name :: rest = []) := fun hboth => List.cons_ne_nil _ _ hboth.2
      rw [if_neg hne] at hhead
      exact (hwalk.isPlain name List.mem_cons_self).ne_parent (Option.some.inj hhead)

/-- There is only one walk to look at. -/
theorem returns_iff (hwalk : Walk (named request) up below) : Returns directory request ↔
    0 < up ∧ (parts directory).drop ((parts directory).length - up) <+: below := by
  constructor
  · rintro ⟨up', below', hwalk', hup, hprefix⟩
    obtain ⟨rfl, rfl⟩ := hwalk.unique hwalk'
    exact ⟨hup, hprefix⟩
  · rintro ⟨hup, hprefix⟩
    exact ⟨up, below, hwalk, hup, hprefix⟩

/-- A request that leads up is answered just if it returns. It drops at least one name, unless the
directory is at the top, and returns if these names come first among those that it adds. -/
theorem resolve?_eq_none_iff_of_leadsUp (hs : slashes = 1 ∨ slashes = 2)
    (h : ∀ n ∈ names, IsPlain n) (hup : LeadsUp request) :
    resolve? (rooted slashes names) request = none ↔
      ¬ Returns (rooted slashes names) request ∨ slashes = 2 := by
  obtain ⟨up, below, hwalk⟩ := exists_walk_named request
  have hpos := (leadsUp_iff hwalk).mp hup
  rw [Option.eq_none_iff_forall_ne_some, returns_iff hwalk, parts_rooted h]
  constructor
  · intro hnone
    by_contra hnot
    rw [not_or, not_not] at hnot
    obtain ⟨⟨-, hprefix⟩, htwo⟩ := hnot
    exact hnone _ ((resolve?_rooted_eq_some_iff hs h hwalk).mpr
      ⟨⟨hs.resolve_right htwo, hprefix⟩, rfl⟩)
  · intro hnot found hfound
    obtain ⟨⟨hone, hprefix⟩, -⟩ := (resolve?_rooted_eq_some_iff hs h hwalk).mp hfound
    rcases hnot with hnot | htwo
    · exact hnot ⟨hpos, hprefix⟩
    · rw [hone] at htwo
      cases htwo

/-- A request that does not return leads along its own names, or is refused if it leads up. -/
theorem relative?_of_not_returns (h : ∀ n ∈ names, IsPlain n)
    (hwalk : Walk (named request) up below) (hnot : ¬ Returns (rooted 1 names) request) :
    relative? (rooted 1 names) request = if up = 0 then some below else none := by
  cases up with
  | zero =>
    have hplain : ∀ n ∈ names ++ below, IsPlain n := List.forall_mem_append.mpr ⟨h, hwalk.isPlain⟩
    have hanswer : resolve? (rooted 1 names) request = some (rooted 1 (names ++ below)) := by
      rw [resolve?_rooted_eq_some_iff (.inl rfl) h hwalk, Nat.sub_zero, List.take_length,
        List.drop_length]
      exact ⟨⟨rfl, List.nil_prefix⟩, rfl⟩
    rw [relative?, hanswer, Option.map_some, parts_rooted hplain, parts_rooted h, List.drop_left,
      if_pos rfl]
  | succ up =>
    have hup := (leadsUp_iff hwalk).mpr (Nat.succ_pos up)
    rw [relative?, (resolve?_eq_none_iff_of_leadsUp (.inl rfl) h hup).mpr (.inl hnot),
      if_neg (Nat.succ_ne_zero up)]
    rfl

end Path

namespace Backend

/-! ## Refusal

A request that leads nowhere is answered with a fault, and the answer is the same for all of
them. -/

/-- The answer to a request that leads out of the directory: permission is denied and nothing is
opened. -/
def denied : Opening :=
  { answer := .failure (.backend .permissionDenied "Invalid filename") }

/-- A refusal can be told from every other answer, for nothing is opened with it. -/
theorem openUnder_eq_denied_iff (files : FileSystem) {directory : List Char} {filename : String} :
    openUnder files directory filename = denied ↔
      Path.resolve? directory filename.toList = none := by
  constructor
  · intro hdenied
    cases hr : Path.resolve? directory filename.toList with
    | none => rfl
    | some path =>
      have hpaths := paths_openUnder_of_resolve? hr files
      rw [hdenied] at hpaths
      cases hpaths
  · exact fun h => openUnder_of_resolve?_eq_none h files

/-- **A request that refers to the parent of its directory is refused, unless it returns.** What it
is refused with is the denial of permission, and a directory with two slashes in front refuses every
such request. So of any two directories with one slash in front the requests that return to neither
are answered alike: the same are answered, and they lead to the same names below the directory. -/
theorem refuses_unless_returning {current : List Char} (hcurrent : current.head? = some '/')
    (root : List Char) (filename : String) :
    let directory := Path.absoluteFrom current root
    let request := filename.toList
    (Path.LeadsUp request → ∀ files, openUnder files directory filename = denied ↔
      ¬ Path.Returns directory request ∨ Path.leadingSlashes directory = 2) ∧
    ∀ current' : List Char, current'.head? = some '/' → ∀ root' : List Char,
      let directory' := Path.absoluteFrom current' root'
      Path.leadingSlashes directory ≠ 2 → Path.leadingSlashes directory' ≠ 2 →
        ¬ Path.Returns directory request → ¬ Path.Returns directory' request →
          Path.relative? directory request = Path.relative? directory' request := by
  intro directory request
  obtain ⟨slashes, names, hdirectory, hs, hplain⟩ :=
    Path.exists_absoluteFrom_eq_rooted hcurrent root
  rw [show directory = Path.rooted slashes names from hdirectory]
  refine ⟨fun hup files => ?_, fun current' hcurrent' root' => ?_⟩
  · rw [openUnder_eq_denied_iff, Path.leadingSlashes_rooted hs hplain]
    exact Path.resolve?_eq_none_iff_of_leadsUp hs hplain hup
  · intro directory' hone hone' hnot hnot'
    obtain ⟨slashes', names', hdirectory', hs', hplain'⟩ :=
      Path.exists_absoluteFrom_eq_rooted hcurrent' root'
    rw [show directory' = Path.rooted slashes' names' from hdirectory'] at hone' hnot' ⊢
    rw [Path.leadingSlashes_rooted hs hplain] at hone
    rw [Path.leadingSlashes_rooted hs' hplain'] at hone'
    obtain rfl := hs.resolve_right hone
    obtain rfl := hs'.resolve_right hone'
    obtain ⟨up, below, hwalk⟩ := Path.exists_walk_named request
    rw [Path.relative?_of_not_returns hplain hwalk hnot,
      Path.relative?_of_not_returns hplain' hwalk hnot']

/-- A request leads up, and down again by a name that is not the one it has left. -/
theorem refuses_unless_returning_sibling :
    let directory := Path.absoluteFrom ['/'] "/srv/tftp".toList
    let directory' := Path.absoluteFrom ['/', 'h'] ['a']
    let request := "//../srv/x".toList
    (['/'].head? = some '/' ∧ ['/', 'h'].head? = some '/') ∧ Path.LeadsUp request ∧
      Path.leadingSlashes directory ≠ 2 ∧ Path.leadingSlashes directory' ≠ 2 ∧
      ¬ Path.Returns directory request ∧ ¬ Path.Returns directory' request ∧
      openUnder .empty directory "//../srv/x" = denied ∧
      Path.relative? directory request = Path.relative? directory' request := by
  intro directory directory' request
  have hwalk : Path.Walk (Path.named request) 1 [['s', 'r', 'v'], ['x']] := by
    have hnamed : Path.named request = [Path.parent, ['s', 'r', 'v'], ['x']] := by decide
    have hsrv : Path.IsPlain ['s', 'r', 'v'] := by constructor <;> decide
    have hx : Path.IsPlain ['x'] := by constructor <;> decide
    rw [hnamed]
    exact ((Path.Walk.up .here).down hsrv).down hx
  have hup : Path.LeadsUp request := by decide
  have hone : Path.leadingSlashes directory ≠ 2 := by decide
  have hone' : Path.leadingSlashes directory' ≠ 2 := by decide
  have hnot : ¬ Path.Returns directory request := by
    rw [Path.returns_iff hwalk]
    decide
  have hnot' : ¬ Path.Returns directory' request := by
    rw [Path.returns_iff hwalk]
    decide
  have hcurrent : ['/'].head? = some '/' := rfl
  obtain ⟨hrefused, halike⟩ :=
    refuses_unless_returning hcurrent "/srv/tftp".toList "//../srv/x"
  exact ⟨⟨hcurrent, rfl⟩, hup, hone, hone', hnot, hnot', (hrefused hup .empty).mpr (.inl hnot),
    halike ['/', 'h'] rfl ['a'] hone hone' hnot hnot'⟩

/-- A request that comes back by the name of the directory is answered, and so its answer depends on
what the directory is called. -/
theorem answers_returning :
    let directory := Path.absoluteFrom ['/'] "/srv/tftp".toList
    let request := "../tftp".toList
    Path.LeadsUp request ∧ Path.resolve? directory request = some directory ∧
      Path.resolve? (Path.absoluteFrom ['/'] "/srv/boot".toList) request = none := by
  decide

end Backend

end Tftp
