import Tftp.Backend
import Tftp.Proofs.Path.Absolute

/-!
# Files below a directory

A backend that serves a directory opens nothing outside of it, whatever the name of the requested
file and however many hooks and logs are around the backend.

* `Path.Below` — a normal form whose names are those of a directory and then further names;
* `Path.below_of_resolve?` — a request that is not refused leads below the directory;
* `Backend.Serves` — the backends of a directory, with hooks and logs around them.

The main theorem is `Backend.opens_only_below`.
-/

namespace Tftp

namespace Path

/-! ## The directory

The directory is made absolute once, when the backend is made. All that is known of it afterwards is
that it is a normal form. -/

variable {current directory path request : List Char}

/-- A directory is given by a normal form below the root. -/
theorem exists_absoluteFrom_eq_rooted (h : current.head? = some '/') (root : List Char) :
    ∃ slashes names, absoluteFrom current root = rooted slashes names ∧
      (slashes = 1 ∨ slashes = 2) ∧ ∀ n ∈ names, IsPlain n := by
  obtain ⟨slashes, names, heq, hs, hplain⟩ := exists_absoluteFrom_eq_rooted_mem h root
  exact ⟨slashes, names, heq, hs, fun n hn => (hplain n hn).1⟩

/-! ## Requests

A request is seen from the directory even if it begins with slashes. It may lead anywhere, and is
then compared with the directory by their common front. -/

/-- The path that a request leads to, before it is compared with the directory. -/
def target (directory request : List Char) : List Char :=
  normalise (append directory (request.dropWhile (· == '/')))

/-- A request leads to its target, if that has the directory in common with the directory. -/
theorem resolve?_eq_some_iff : resolve? directory request = some path ↔
    commonDirectory directory path = directory ∧ target directory request = path := by
  have hresolve : resolve? directory request =
      if commonDirectory directory (target directory request) = directory then
        some (target directory request) else none := rfl
  rw [hresolve, Option.ite_none_right_eq_some]
  constructor
  · rintro ⟨hcommon, htarget⟩
    obtain rfl := Option.some.inj htarget
    exact ⟨hcommon, rfl⟩
  · rintro ⟨hcommon, rfl⟩
    exact ⟨hcommon, rfl⟩

theorem head?_target (h : directory.head? = some '/') (request : List Char) :
    (target directory request).head? = some '/' := by
  obtain ⟨slashes, names, heq, hs, -⟩ := exists_normalise_eq_rooted
    (head?_append h (request.dropWhile (· == '/')))
  rw [target, heq]
  exact head?_rooted _ hs

/-- A path is below a directory, or it is the directory: it is a normal form seen from the root, and
its names are those of the directory and then others that do not lead up again. -/
structure Below (directory path : List Char) : Prop where
  /-- it is a normal form -/
  normal : normalise path = path
  /-- it is seen from the root -/
  absolute : path.head? = some '/'
  /-- it has the names of the directory, and others that go down -/
  parts : ∃ below, parts path = parts directory ++ below ∧
    ∀ part ∈ below, part ≠ [] ∧ part ≠ here ∧ part ≠ parent

/-- **A request that is not refused leads below the directory.** -/
theorem below_of_resolve? (h : current.head? = some '/') {root : List Char}
    (hr : resolve? (absoluteFrom current root) request = some path) :
    Below (absoluteFrom current root) path := by
  obtain ⟨slashes, names, hdirectory, hs, hplain⟩ := exists_absoluteFrom_eq_rooted h root
  rw [hdirectory] at hr ⊢
  obtain ⟨hcommon, htarget⟩ := resolve?_eq_some_iff.mp hr
  obtain ⟨slashes', names', hpath, hs', hplain'⟩ := exists_normalise_eq_rooted
    (head?_append (head?_rooted names hs) (request.dropWhile (· == '/')))
  obtain rfl : path = rooted slashes' names' := htarget.symm.trans hpath
  -- the names in common are those of the directory, and so these come first
  rw [commonDirectory_rooted hplain hplain'] at hcommon
  have hfront : ∀ n ∈ commonFront names names', IsPlain n := fun n hn =>
    hplain' n ((commonFront_prefix_right names names').subset hn)
  obtain ⟨-, hnames⟩ := rooted_inj (.inl rfl) hs hfront hplain hcommon
  obtain ⟨below, hbelow⟩ := commonFront_prefix_right names names'
  rw [hnames] at hbelow
  refine ⟨normalise_rooted hs' hplain', head?_rooted _ hs', below, ?_, ?_⟩
  · rw [parts_rooted hplain', parts_rooted hplain, hbelow]
  · intro part hpart
    have hn := hplain' part (by rw [← hbelow]; exact List.mem_append_right _ hpart)
    exact ⟨hn.ne_nil, hn.ne_here, hn.ne_parent⟩

end Path

namespace Backend

/-! ## Backends of a directory

A server may wrap its backend several times. The wraps note what they are asked for, and the answer
is that of the backend inside. -/

/-- A backend that serves a directory, with any hooks and logs around it. -/
inductive Serves (directory : List Char) : Backend → Prop where
  /-- the directory by itself -/
  | directory : Serves directory (.directory directory)
  /-- a hook around one -/
  | hook {inner : Backend} (h : Serves directory inner) : Serves directory (.hook inner)
  /-- a log around one -/
  | logged (log : Log) {inner : Backend} (h : Serves directory inner) :
      Serves directory (.logged log inner)

/-- The paths that were opened. -/
def Opening.paths (o : Opening) : List String :=
  o.events.filterMap fun
    | .opened path => some path
    | _ => none

@[simp] theorem Opening.paths_log (o : Opening) (log : Log) (line : String) :
    (o.log log line).paths = o.paths := by
  cases log <;> rfl

@[simp] theorem Opening.answer_log (o : Opening) (log : Log) (line : String) :
    (o.log log line).answer = o.answer := by
  cases log <;> rfl

variable {directory : List Char} {b : Backend}

/-- Hooks and logs open nothing, and leave the answer as it is. -/
theorem Serves.openFile (h : b.Serves directory) (files : FileSystem) (peer : Address)
    (filename : String) :
    (b.openFile files peer filename).answer = (openUnder files directory filename).answer ∧
      (b.openFile files peer filename).paths = (openUnder files directory filename).paths := by
  induction h with
  | directory => exact ⟨rfl, rfl⟩
  | hook _ ih => exact ih
  | logged log _ ih => simpa only [Backend.openFile, Opening.answer_log, Opening.paths_log] using ih

/-- What hooks and logs do does not depend on any file. -/
theorem Serves.openFile_congr (h : b.Serves directory) {files files' : FileSystem}
    {filename : String}
    (hsame : openUnder files' directory filename = openUnder files directory filename)
    (peer : Address) : b.openFile files' peer filename = b.openFile files peer filename := by
  induction h with
  | directory => exact hsame
  | hook _ ih => exact ih
  | logged log _ ih => rw [Backend.openFile, Backend.openFile, ih]

/-- A request that leads nowhere is refused. -/
theorem openUnder_of_resolve?_eq_none {filename : String}
    (h : Path.resolve? directory filename.toList = none) (files : FileSystem) :
    openUnder files directory filename =
      { answer := .failure (.backend .permissionDenied "Invalid filename") } := by
  simp only [openUnder, h]

/-- A request that leads somewhere opens just that path, whether there is a file or not. -/
theorem paths_openUnder_of_resolve? {filename : String} {path : List Char}
    (h : Path.resolve? directory filename.toList = some path) (files : FileSystem) :
    (openUnder files directory filename).paths = [String.ofList path] := by
  simp only [openUnder, h]
  rfl

/-- Of all files only the one that is opened counts. -/
theorem openUnder_congr {files files' : FileSystem} {filename : String}
    (h : ∀ path ∈ (openUnder files directory filename).paths, files'.read path = files.read path) :
    openUnder files' directory filename = openUnder files directory filename := by
  cases hr : Path.resolve? directory filename.toList with
  | none => rw [openUnder_of_resolve?_eq_none hr, openUnder_of_resolve?_eq_none hr]
  | some path =>
    rw [paths_openUnder_of_resolve? hr] at h
    have hread := h _ List.mem_cons_self
    simp only [openUnder, hr, hread]

/-! ## Containment

What is opened could be read off the events of an opening. That nothing else was read is said
without them: the answer is the same with any other files. -/

/-- **A backend of a directory opens nothing outside of it.** The directory may be given by any
path, seen from any current directory, and a file may be asked for under any name. The name is
refused with the verdict that permission is denied, and nothing is opened. Or it leads to a path
below the directory, and that path is opened and no other: the answer does not depend on any other
file. The two paths that are compared are always seen from the root, so that they can be. -/
theorem opens_only_below {current : List Char} (hcurrent : current.head? = some '/')
    (root : List Char) {b : Backend} (hb : b.Serves (Path.absoluteFrom current root))
    (files : FileSystem) (peer : Address) (filename : String) :
    let directory := Path.absoluteFrom current root
    let opening := b.openFile files peer filename
    directory.head? = some '/' ∧ (Path.target directory filename.toList).head? = some '/' ∧
      (match Path.resolve? directory filename.toList with
        | none => opening.answer = .failure (.backend .permissionDenied "Invalid filename") ∧
            opening.paths = []
        | some path => Path.Below directory path ∧ opening.paths = [String.ofList path]) ∧
      ∀ files' : FileSystem, (∀ path ∈ opening.paths, files'.read path = files.read path) →
        b.openFile files' peer filename = opening := by
  intro directory opening
  obtain ⟨slashes, names, hdirectory, hs, -⟩ := Path.exists_absoluteFrom_eq_rooted hcurrent root
  have hhead : directory.head? = some '/' := by
    rw [show directory = _ from hdirectory]
    exact Path.head?_rooted _ hs
  obtain ⟨hanswer, hpaths⟩ := hb.openFile files peer filename
  refine ⟨hhead, Path.head?_target hhead _, ?_, ?_⟩
  · split
    · next hr =>
      rw [openUnder_of_resolve?_eq_none hr] at hanswer hpaths
      exact ⟨hanswer, hpaths⟩
    · next path hr =>
      rw [paths_openUnder_of_resolve? hr] at hpaths
      exact ⟨Path.below_of_resolve? hcurrent hr, hpaths⟩
  · intro files' hsame
    refine hb.openFile_congr (openUnder_congr ?_) peer
    rw [← hpaths]
    exact hsame

/-- A request leaves the directory and comes back. -/
theorem opens_only_below_detour :
    let directory := Path.absoluteFrom ['/', 'h'] ['s', '/', '.']
    let b : Backend := .logged .observer (.hook (.directory directory))
    ['/', 'h'].head? = some '/' ∧ b.Serves directory ∧
      Path.Below directory ['/', 'h', '/', 's', '/', 'a'] ∧
      (b.openFile .empty .null "//x/../../s/a").paths = ["/h/s/a"] := by
  intro directory b
  have hb : b.Serves directory := .logged _ (.hook .directory)
  have hresolve : Path.resolve? directory "//x/../../s/a".toList =
      some ['/', 'h', '/', 's', '/', 'a'] := by decide
  have htext : String.ofList ['/', 'h', '/', 's', '/', 'a'] = "/h/s/a" := by decide
  obtain ⟨-, -, hbelow, -⟩ := opens_only_below rfl ['s', '/', '.'] hb .empty .null "//x/../../s/a"
  rw [hresolve] at hbelow
  rw [← htext]
  exact ⟨rfl, hb, hbelow⟩

end Backend

end Tftp
