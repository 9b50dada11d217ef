import Mathlib.Data.List.Basic
import Mathlib.Data.List.Forall2
import Tftp.Config.Load
import Tftp.Proofs.Config.Keys

/-!
# Reading the configuration files

What a file says is said without the reader: a file that is not there says nothing, and the text of
a file means null or a mapping. The readers are shown to find exactly that.

* `Config.Says` — the entries of a file;
* `Config.sources` — the files that are read, in order;
* `Config.IsRaw` — the configurations as they are before the check;
* `Config.load_eq_ok_iff` and `Config.load_eq_error_iff` — what comes of a command line;
* `Config.SameSources` — file systems that do not differ in what is read.
-/

namespace Tftp.Config

variable {files files' : FileSystem} {format : Format} {path : String} {paths : List String}
  {bytes : Bytes} {es es' : Entries} {ess ess' : List Entries} {e : ConfigError}
  {s : CommandLine.Settings} {c : Config} {current : List Char}

/-! ## One file

What a file says is a relation and not a function, so that nothing of the reader is in it. It is
shown to be what the reader finds in `readFile_eq_ok_iff`, and everything below leans on the
relation. -/

/-- The value that the bytes of a file mean. -/
def Means (format : Format) (bytes : Bytes) (v : Value) : Prop :=
  ∃ text, String.fromUTF8? ⟨bytes.toArray⟩ = some text ∧ format text = .ok v

/-- The entries of a file. -/
inductive Says (files : FileSystem) (format : Format) (path : String) : Entries → Prop
  | missing {error : SystemError} (hread : files.read path = .error error)
      (hnone : error.number? = some SystemError.noEntry) : Says files format path []
  | null {bytes : Bytes} {v : Value} (hread : files.read path = .ok bytes)
      (hmeans : Means format bytes v) (hv : v.opened = .null) : Says files format path []
  | mapping {bytes : Bytes} {v : Value} {es : Entries} (hread : files.read path = .ok bytes)
      (hmeans : Means format bytes v) (hv : v.opened = .map es) : Says files format path es

/-- Bytes are understood where they are a text that means null or a mapping. A collection that
leads to itself is opened before it is looked at, which is why the value is told through
`Value.opened`. -/
theorem understand_eq_ok_iff : understand format path bytes = .ok es ↔
    ∃ v, Means format bytes v ∧ (v.opened = .null ∧ es = [] ∨ v.opened = .map es) := by
  unfold understand Means
  cases htext : String.fromUTF8? ⟨bytes.toArray⟩ with
  | none => simp
  | some text =>
    cases hformat : format text with
    | error problem => cases problem <;> simp [Except.map, hformat]
    | ok v => cases hv : v.opened <;> simp [Except.map, hformat, hv, eq_comm]

theorem readFile_of_ok (h : files.read path = .ok bytes) :
    readFile files format path = { opened := [path], result := understand format path bytes } := by
  rw [readFile, h]

/-- A file that cannot be opened is passed over only if it is not there. Every other failure of the
system is reported with the path. -/
theorem readFile_of_error {error : SystemError} (h : files.read path = .error error) :
    (readFile files format path).result =
      if error.number? = some SystemError.noEntry then .ok []
      else .error (.unreadable path error) := by
  simp only [readFile, h]
  split <;> rfl

/-- **A file is read as what it says.** A file that is not there says nothing, and so does one whose
text means null. Any other text has to mean a mapping. -/
theorem readFile_eq_ok_iff :
    (readFile files format path).result = .ok es ↔ Says files format path es := by
  constructor
  · intro h
    cases hread : files.read path with
    | error error =>
      rw [readFile_of_error hread] at h
      split at h
      · next hnone =>
        obtain rfl := Except.ok.inj h
        exact .missing hread hnone
      · cases h
    | ok bytes =>
      rw [readFile_of_ok hread] at h
      obtain ⟨v, hmeans, ⟨hv, rfl⟩ | hv⟩ := understand_eq_ok_iff.mp h
      · exact .null hread hmeans hv
      · exact .mapping hread hmeans hv
  · rintro (⟨hread, hnone⟩ | ⟨hread, hmeans, hv⟩ | ⟨hread, hmeans, hv⟩)
    · rw [readFile_of_error hread, if_pos hnone]
    · rw [readFile_of_ok hread]
      exact understand_eq_ok_iff.mpr ⟨_, hmeans, .inl ⟨hv, rfl⟩⟩
    · rw [readFile_of_ok hread]
      exact understand_eq_ok_iff.mpr ⟨_, hmeans, .inr hv⟩

/-- A file says one thing only. -/
theorem Says.unique (h : Says files format path es) (h' : Says files format path es') :
    es = es' :=
  Except.ok.inj ((readFile_eq_ok_iff.mpr h).symm.trans (readFile_eq_ok_iff.mpr h'))

/-- To read a file is to try to open it, whether it is there or not. -/
theorem opened_readFile (files : FileSystem) (format : Format) (path : String) :
    (readFile files format path).opened = [path] := by
  unfold readFile
  split
  · rfl
  · split <;> rfl

/-- Reading a file depends on that file alone. This is the first step of `load_congr`. -/
theorem readFile_congr (h : files'.read path = files.read path) :
    readFile files' format path = readFile files format path := by
  rw [readFile, readFile, h]

/-! ## Several files

The files are read until one of them fails. Which one that is can be told from what the files before
it say (`readFiles_eq_error_iff`). -/

/-- Where the first of several files was read, the reading goes on with the others. -/
theorem readFiles_cons_of_ok (h : (readFile files format path).result = .ok es) :
    readFiles files format (path :: paths) =
      { opened := path :: (readFiles files format paths).opened
        notices := (readFile files format path).notices ++ (readFiles files format paths).notices
        result := (readFiles files format paths).result.map (es :: ·) } := by
  rw [readFiles, h, opened_readFile]
  rfl

/-- Where the first of several files cannot be read, nothing that comes after it counts. -/
theorem readFiles_cons_of_error (h : (readFile files format path).result = .error e) :
    (readFiles files format (path :: paths)).result = .error e := by
  rw [readFiles, h]

/-- **Files are read as what they say, one by one.** -/
theorem readFiles_eq_ok_iff :
    (readFiles files format paths).result = .ok ess ↔
      List.Forall₂ (Says files format) paths ess := by
  induction paths generalizing ess with
  | nil => cases ess <;> simp [readFiles]
  | cons path paths ih =>
    cases hfile : (readFile files format path).result with
    | error e =>
      rw [readFiles_cons_of_error hfile]
      refine ⟨nofun, fun h => ?_⟩
      cases h with
      | cons htold _ =>
        rw [readFile_eq_ok_iff.mpr htold] at hfile
        cases hfile
    | ok es =>
      rw [readFiles_cons_of_ok hfile]
      cases hrest : (readFiles files format paths).result with
      | error e =>
        refine ⟨nofun, fun h => ?_⟩
        cases h with
        | cons _ hall =>
          rw [ih.mpr hall] at hrest
          cases hrest
      | ok rest =>
        constructor
        · intro h
          obtain rfl := Except.ok.inj h
          exact .cons (readFile_eq_ok_iff.mp hfile) (ih.mp hrest)
        · intro h
          cases h with
          | cons htold hall =>
            obtain rfl := htold.unique (readFile_eq_ok_iff.mp hfile)
            obtain rfl := Except.ok.inj ((ih.mpr hall).symm.trans hrest)
            rfl

/-- Where all files were read, all of them were opened. -/
theorem opened_readFiles (h : (readFiles files format paths).result = .ok ess) :
    (readFiles files format paths).opened = paths := by
  induction paths generalizing ess with
  | nil => rfl
  | cons path paths ih =>
    cases readFiles_eq_ok_iff.mp h with
    | cons htold hall =>
      rw [readFiles_cons_of_ok (readFile_eq_ok_iff.mpr htold), ih (readFiles_eq_ok_iff.mpr hall)]

/-- **The first file that cannot be read ends the reading.** All files before it say something, and
those after it are not opened. The induction is on the files, and each half of the statement needs
both cases for the first of them. -/
theorem readFiles_eq_error_iff :
    (readFiles files format paths).result = .error e ↔
      ∃ before path after ess, paths = before ++ path :: after ∧
        List.Forall₂ (Says files format) before ess ∧
        (readFile files format path).result = .error e := by
  induction paths with
  | nil => simp [readFiles]
  | cons path paths ih =>
    cases hfile : (readFile files format path).result with
    | error e' =>
      rw [readFiles_cons_of_error hfile]
      constructor
      · intro h
        rw [Except.error.inj h] at hfile
        exact ⟨[], path, paths, [], rfl, .nil, hfile⟩
      · rintro ⟨before, last, after, ess, hpaths, hall, herror⟩
        cases before with
        | nil =>
          obtain ⟨rfl, rfl⟩ := List.cons.inj hpaths
          rw [Except.error.inj (hfile.symm.trans herror)]
        | cons first before =>
          obtain ⟨rfl, rfl⟩ := List.cons.inj hpaths
          cases hall with
          | cons htold _ =>
            rw [readFile_eq_ok_iff.mpr htold] at hfile
            cases hfile
    | ok es =>
      rw [readFiles_cons_of_ok hfile]
      constructor
      · intro h
        cases hrest : (readFiles files format paths).result with
        | ok rest =>
          rw [hrest] at h
          cases h
        | error e' =>
          rw [hrest] at h
          obtain rfl := Except.error.inj h
          obtain ⟨before, last, after, ess, rfl, hall, herror⟩ := ih.mp hrest
          exact ⟨path :: before, last, after, es :: ess, rfl,
            .cons (readFile_eq_ok_iff.mp hfile) hall, herror⟩
      · rintro ⟨before, last, after, ess, hpaths, hall, herror⟩
        cases hall with
        | nil =>
          obtain ⟨rfl, rfl⟩ := List.cons.inj hpaths
          rw [hfile] at herror
          cases herror
        | cons _ hall =>
          obtain ⟨rfl, rfl⟩ := List.cons.inj hpaths
          rw [ih.mpr ⟨_, _, _, _, rfl, hall, herror⟩]
          rfl

/-- Reading several files depends on these files alone. -/
theorem readFiles_congr (h : ∀ path ∈ paths, files'.read path = files.read path) :
    readFiles files' format paths = readFiles files format paths := by
  induction paths with
  | nil => rfl
  | cons path paths ih =>
    rw [readFiles, readFiles, readFile_congr (h path List.mem_cons_self),
      ih fun path hpath => h path (List.mem_cons_of_mem _ hpath)]

/-! ## The files of the directory

The directory is listed in no particular order, and the names are sorted before they are read. What
counts is said in `IsConfigName` and `IsExtra`, without a word of sorting. -/

/-- A name that counts: it ends in `.yml` and does not start with a dot. -/
structure IsConfigName (name : String) : Prop where
  ending : ".yml".toList <:+ name.toList
  not_hidden : name.toList.head? ≠ some '.'

/-- A file of the directory that counts. -/
structure IsExtra (files : FileSystem) (name : String) : Prop where
  isDirectory : files.isDirectory extraDirectory = true
  mem_list : name ∈ files.list extraDirectory
  isConfigName : IsConfigName name

/-- The path of a file of the directory. -/
def extraPath (name : String) : String :=
  extraDirectory ++ "/" ++ name

/-- The names that the program looks for are those that count. -/
theorem isConfigName_iff {name : String} : isConfigName name = true ↔ IsConfigName name := by
  rw [isConfigName, Bool.and_eq_true, bne_iff_ne, List.isSuffixOf_iff_suffix]
  exact ⟨fun h => ⟨h.2, h.1⟩, fun h => ⟨h.not_hidden, h.ending⟩⟩

/-- The names of the files of the directory that are read, in order. -/
def configNames (files : FileSystem) : List String :=
  if files.isDirectory extraDirectory then
    ((files.list extraDirectory).mergeSort fun a b => decide (a ≤ b)).filter isConfigName
  else []

/-- The directory does not end in a slash, so that there is one between it and a name. -/
theorem ofList_append_extraDirectory (name : String) :
    String.ofList (Path.append extraDirectory.toList name.toList) = extraPath name := by
  have happend : Path.append extraDirectory.toList name.toList =
      extraDirectory.toList ++ '/' :: name.toList := rfl
  rw [happend, extraPath, ← String.toList_inj, String.toList_ofList]
  simp

/-- The paths that are read are those of the names that count, in their order. -/
theorem extraFiles_extraDirectory (files : FileSystem) :
    extraFiles files extraDirectory = (configNames files).map extraPath := by
  unfold extraFiles configNames
  split
  · exact List.map_congr_left fun name _ => ofList_append_extraDirectory name
  · rfl

/-- Names that are sorted and then sifted are still sorted. The order of names is that of their code
points, which `String.le_trans` and `String.le_total` know of. -/
theorem pairwise_filter_mergeSort (names : List String) (p : String → Bool) :
    ((names.mergeSort fun a b => decide (a ≤ b)).filter p).Pairwise (· ≤ ·) := by
  refine List.Pairwise.filter _ ((List.pairwise_mergeSort ?_ ?_ names).imp ?_)
  · intro a b c hab hbc
    exact decide_eq_true (String.le_trans (of_decide_eq_true hab) (of_decide_eq_true hbc))
  · intro a b
    simpa using String.le_total a b
  · exact fun hab => of_decide_eq_true hab

/-- The files of the directory are read in the order of their names. -/
theorem pairwise_configNames (files : FileSystem) : (configNames files).Pairwise (· ≤ ·) := by
  unfold configNames
  split
  · exact pairwise_filter_mergeSort _ _
  · exact .nil

/-- The names do not depend on the order in which they are listed: a sorted list is known from its
members and how often each of them occurs. -/
theorem configNames_eq_of_perm {names : List String} (hsorted : names.Pairwise (· ≤ ·))
    (h : names.Perm ((files.list extraDirectory).filter isConfigName))
    (hdirectory : files.isDirectory extraDirectory = true) : configNames files = names := by
  rw [configNames, if_pos hdirectory]
  refine List.Perm.eq_of_pairwise (fun a b _ _ => String.le_antisymm)
    (pairwise_filter_mergeSort _ _) hsorted ?_
  exact ((List.mergeSort_perm _ _).filter _).trans h.symm

/-- The names that are read are those of the files that count. -/
theorem mem_configNames {name : String} : name ∈ configNames files ↔ IsExtra files name := by
  unfold configNames
  split
  · next hdirectory =>
    rw [List.mem_filter, List.mem_mergeSort, isConfigName_iff]
    exact ⟨fun h => ⟨hdirectory, h.1, h.2⟩, fun h => ⟨h.mem_list, h.isConfigName⟩⟩
  · next hdirectory => exact ⟨nofun, fun h => absurd h.isDirectory hdirectory⟩

/-! ## One step after the other

Loading is a chain of steps each of which may fail. The two lemmas of this section take such a chain
apart at its first step. -/

section Bind

variable {ε α β : Type} {x : Except ε α} {f : α → Except ε β}

/-- Two steps come to an end where each of them does. Every function below that may fail is taken
apart with this lemma, so that none of them has to be unfolded twice. -/
theorem bind_eq_ok_iff {b : β} : x.bind f = .ok b ↔ ∃ a, x = .ok a ∧ f a = .ok b := by
  cases x <;> simp [Except.bind]

/-- Two steps fail where the first one does, or where it does not and the second one does. -/
theorem bind_eq_error_iff {problem : ε} :
    x.bind f = .error problem ↔ x = .error problem ∨ ∃ a, x = .ok a ∧ f a = .error problem := by
  cases x <;> simp [Except.bind]

end Bind

/-! ## The files of a command line

The main file comes first, and is the one that the command line names if it names one. The
configurations of a command line are then those that the files, read in this order, give. -/

/-- The main file of a command line: the one that it names, or the default one. -/
inductive IsMain (s : CommandLine.Settings) : String → Prop
  | named {path : String} (h : s.configFile = some path) : IsMain s path
  | default (h : s.configFile = none) : IsMain s defaultFile

/-- The files that a configuration is made of. -/
inductive IsSource (files : FileSystem) (s : CommandLine.Settings) : String → Prop
  | main {path : String} (h : IsMain s path) : IsSource files s path
  | extra {name : String} (h : IsExtra files name) : IsSource files s (extraPath name)

/-- The files that are read, in order. -/
def sources (files : FileSystem) (s : CommandLine.Settings) : List String :=
  mainFile s :: extraFiles files extraDirectory

/-- The main file that is read is the main file of the command line. -/
theorem isMain_iff : IsMain s path ↔ path = mainFile s := by
  rw [mainFile]
  constructor
  · rintro (h | h) <;> rw [h] <;> rfl
  · rintro rfl
    cases h : s.configFile with
    | some path => exact .named h
    | none => exact .default h

/-- **The files that are read are those that a configuration is made of.** -/
theorem mem_sources_iff : path ∈ sources files s ↔ IsSource files s path := by
  rw [sources, extraFiles_extraDirectory, List.mem_cons, List.mem_map, ← isMain_iff]
  constructor
  · rintro (h | ⟨name, hname, rfl⟩)
    · exact .main h
    · exact .extra (mem_configNames.mp hname)
  · rintro (h | h)
    · exact .inl h
    · exact .inr ⟨_, mem_configNames.mpr h, rfl⟩

/-- The configurations as they are before the general section is checked. -/
def IsRaw (files : FileSystem) (format : Format) (s : CommandLine.Settings) (raw : Config) : Prop :=
  ∃ fromFiles, List.Forall₂ (Says files format) (sources files s) fromFiles ∧
    merge (layers s fromFiles) = .ok raw

/-- To load a configuration is to read its files and to make it of the layers that they give. -/
theorem load_result (files : FileSystem) (format : Format) (s : CommandLine.Settings) :
    (load files format s).result =
      (readFiles files format (sources files s)).result.bind fun fromFiles =>
        ofLayers files.current (layers s fromFiles) :=
  rfl

/-- The layers are merged first, and their general sections after that. -/
theorem merge_eq_bind (ls : List Entries) :
    merge ls = (Layer.merge (ls.map .map)).bind fun entries =>
      (Layer.merge (ls.map sectionOf)).bind fun general =>
        .ok { entries := entries.erase sectionKey, general } :=
  rfl

/-- A configuration before the check is known from two mergings: that of the layers, from which the
general section is erased, and that of the general sections. -/
theorem merge_eq_ok_iff {ls : List Entries} {raw : Config} : merge ls = .ok raw ↔
    ∃ entries, Layer.merge (ls.map .map) = .ok entries ∧
      Layer.merge (ls.map sectionOf) = .ok raw.general ∧
      raw.entries = entries.erase sectionKey := by
  simp only [merge_eq_bind, bind_eq_ok_iff]
  constructor
  · rintro ⟨entries, hentries, general, hgeneral, hraw⟩
    obtain rfl := Except.ok.inj hraw
    exact ⟨entries, hentries, hgeneral, rfl⟩
  · rintro ⟨entries, hentries, hgeneral, herase⟩
    refine ⟨entries, hentries, raw.general, hgeneral, ?_⟩
    rw [← herase]

/-- Once the layers are merged, only the check of the general section can fail. -/
theorem ofLayers_of_merge {ls : List Entries} {raw : Config} (h : merge ls = .ok raw) :
    ofLayers current ls =
      (check raw.general current).bind fun general => .ok { raw with general } := by
  simp only [ofLayers, h]
  cases check raw.general current <;> rfl

/-- The check has no say in the entries apart from the general section. -/
theorem ofLayers_eq_ok_iff {ls : List Entries} : ofLayers current ls = .ok c ↔
    ∃ raw, merge ls = .ok raw ∧ check raw.general current = .ok c.general ∧
      c.entries = raw.entries := by
  cases hmerge : merge ls with
  | error problem => simp [ofLayers, hmerge]
  | ok raw =>
    rw [ofLayers_of_merge hmerge, bind_eq_ok_iff]
    constructor
    · rintro ⟨general, hcheck, hc⟩
      obtain rfl := Except.ok.inj hc
      exact ⟨raw, rfl, hcheck, rfl⟩
    · rintro ⟨other, hother, hcheck, hentries⟩
      obtain rfl := Except.ok.inj hother
      refine ⟨c.general, hcheck, ?_⟩
      rw [← hentries]

/-- Layers make no configuration where they cannot be merged, and where their general section does
not pass the check. -/
theorem ofLayers_eq_error_iff {ls : List Entries} : ofLayers current ls = .error e ↔
    (∃ problem, merge ls = .error problem ∧ e = .badSection problem) ∨
      ∃ raw, merge ls = .ok raw ∧ check raw.general current = .error e := by
  cases hmerge : merge ls with
  | error problem => simp [ofLayers, hmerge, eq_comm]
  | ok raw =>
    rw [ofLayers_of_merge hmerge, bind_eq_error_iff]
    simp

/-- **A configuration is made of what the files say, with its general section checked.** -/
theorem load_eq_ok_iff : (load files format s).result = .ok c ↔
    ∃ raw, IsRaw files format s raw ∧ check raw.general files.current = .ok c.general ∧
      c.entries = raw.entries := by
  rw [load_result, bind_eq_ok_iff]
  simp only [readFiles_eq_ok_iff, ofLayers_eq_ok_iff]
  constructor
  · rintro ⟨fromFiles, hall, raw, hmerge, hcheck, hentries⟩
    exact ⟨raw, ⟨fromFiles, hall, hmerge⟩, hcheck, hentries⟩
  · rintro ⟨raw, ⟨fromFiles, hall, hmerge⟩, hcheck, hentries⟩
    exact ⟨fromFiles, hall, raw, hmerge, hcheck, hentries⟩

/-- **There is no configuration where a file cannot be read, where the general sections cannot be
merged and where the general section does not pass the check.** -/
theorem load_eq_error_iff : (load files format s).result = .error e ↔
    (readFiles files format (sources files s)).result = .error e ∨
    (∃ fromFiles problem, List.Forall₂ (Says files format) (sources files s) fromFiles ∧
      merge (layers s fromFiles) = .error problem ∧ e = .badSection problem) ∨
    ∃ raw, IsRaw files format s raw ∧ check raw.general files.current = .error e := by
  rw [load_result, bind_eq_error_iff]
  simp only [readFiles_eq_ok_iff, ofLayers_eq_error_iff]
  refine or_congr_right ?_
  constructor
  · rintro ⟨fromFiles, hall, ⟨problem, hmerge, he⟩ | ⟨raw, hmerge, hcheck⟩⟩
    · exact .inl ⟨fromFiles, problem, hall, hmerge, he⟩
    · exact .inr ⟨raw, ⟨fromFiles, hall, hmerge⟩, hcheck⟩
  · rintro (⟨fromFiles, problem, hall, hmerge, he⟩ | ⟨raw, ⟨fromFiles, hall, hmerge⟩, hcheck⟩)
    · exact ⟨fromFiles, hall, .inl ⟨problem, hmerge, he⟩⟩
    · exact ⟨fromFiles, hall, .inr ⟨raw, hmerge, hcheck⟩⟩

/-- Where there is a configuration, all files were opened. -/
theorem opened_load (h : (load files format s).result = .ok c) :
    (load files format s).opened = sources files s := by
  obtain ⟨raw, ⟨fromFiles, hall, -⟩, -⟩ := load_eq_ok_iff.mp h
  exact opened_readFiles (readFiles_eq_ok_iff.mpr hall)

/-! ## Files with a known text

The theorems about the configuration are tried on files with a few lines each. What such a text
means is told by evaluation. -/

/-- Whether a text means a value, which is told by evaluation. -/
def isMeaning (format : Format) (text : String) (v : Value) : Bool :=
  match format text with
  | .ok w => w.isEqual v
  | .error _ => false

/-- A text means what evaluation finds. The values of the examples are made of texts, numbers and
mappings, for which `Value.isEqual` tells that two of them are equal. -/
theorem eq_ok_of_isMeaning {text : String} {v : Value} (h : isMeaning format text v = true) :
    format text = .ok v := by
  unfold isMeaning at h
  split at h
  · next w hw => rw [hw, Value.eq_of_isEqual h]
  · cases h

/-- A file with a known text says what the text means. -/
theorem says_of_text {text : String} {v : Value}
    (hread : files.read path = .ok text.toUTF8.data.toList) (h : format text = .ok v)
    (hv : v.opened = .map es) : Says files format path es := by
  have htext : String.fromUTF8? ⟨text.toUTF8.data.toList.toArray⟩ = some text := by
    rw [Array.toArray_toList, String.fromUTF8?]
    exact dif_pos text.isValidUTF8
  exact .mapping hread ⟨text, htext, h⟩ hv

/-- The file system with a main file only. -/
def onlyMain (text : String) : FileSystem :=
  .ofEntries [(defaultFile, .content text.toUTF8.data.toList)] []

/-- The main file is there, and has the bytes of its text. -/
theorem read_onlyMain (text : String) :
    (onlyMain text).read defaultFile = .ok text.toUTF8.data.toList :=
  rfl

/-- With a main file alone there are three layers: those of the command line, of the file, and of
the defaults. -/
theorem load_onlyMain {text : String} {v : Value} (h : format text = .ok v)
    (hv : v.opened = .map es) :
    (load (onlyMain text) format {}).result = ofLayers ['/'] (layers {} [es]) := by
  have hall : List.Forall₂ (Says (onlyMain text) format) (sources (onlyMain text) {}) [es] :=
    .cons (says_of_text (read_onlyMain text) h hv) .nil
  rw [load_result, readFiles_eq_ok_iff.mpr hall]
  rfl

/-! ## What is not read

Two file systems give the same configuration if they agree on what is read. This is what makes the
order of a listing and the names that do not count irrelevant. -/

/-- File systems that do not differ in what is read: the files of the directory are listed in any
order, among others whose names do not count. -/
structure SameSources (files files' : FileSystem) (s : CommandLine.Settings) : Prop where
  isDirectory : files'.isDirectory extraDirectory = files.isDirectory extraDirectory
  count_list : ∀ name, IsConfigName name →
    (files'.list extraDirectory).count name = (files.list extraDirectory).count name
  read : ∀ path, IsSource files s path → files'.read path = files.read path
  current : files'.current = files.current

/-- The names that count are listed equally often in both file systems, whatever else is listed. -/
theorem SameSources.filter_list_perm (h : SameSources files files' s) :
    ((files'.list extraDirectory).filter isConfigName).Perm
      ((files.list extraDirectory).filter isConfigName) := by
  rw [List.perm_iff_count]
  intro name
  cases hname : isConfigName name with
  | true =>
    rw [List.count_filter hname, List.count_filter hname]
    exact h.count_list name (isConfigName_iff.mp hname)
  | false =>
    have hnot (names : List String) : name ∉ names.filter isConfigName := by
      simp [List.mem_filter, hname]
    rw [List.count_eq_zero_of_not_mem (hnot _), List.count_eq_zero_of_not_mem (hnot _)]

/-- The same files of the directory are read in the same order. -/
theorem SameSources.configNames_eq (h : SameSources files files' s) :
    configNames files' = configNames files := by
  cases hdirectory : files.isDirectory extraDirectory with
  | false =>
    have hdirectory' := h.isDirectory.trans hdirectory
    simp [configNames, hdirectory, hdirectory']
  | true =>
    refine configNames_eq_of_perm (pairwise_configNames files) ?_ (h.isDirectory.trans hdirectory)
    rw [configNames, if_pos hdirectory]
    exact ((List.mergeSort_perm _ _).filter _).trans h.filter_list_perm.symm

/-- The same files are read in the same order. -/
theorem SameSources.sources_eq (h : SameSources files files' s) :
    sources files' s = sources files s := by
  rw [sources, sources, extraFiles_extraDirectory, extraFiles_extraDirectory, h.configNames_eq]

/-- **Nothing else has an effect.** -/
theorem load_congr (h : SameSources files files' s) :
    load files' format s = load files format s := by
  have hread : readFiles files' format (sources files' s) =
      readFiles files format (sources files s) := by
    rw [h.sources_eq]
    exact readFiles_congr fun path hpath => h.read path (mem_sources_iff.mp hpath)
  rw [sources] at hread
  rw [load, load, hread, sources, h.current]

end Tftp.Config
