import Tftp.Proofs.Config.Options
import Tftp.Proofs.Config.Reading
import Tftp.Yaml.Meaning

/-!
# Which layer a value comes from

The value of a key is that of the command line, or else that of the file of the directory with the
greatest name among those that have the key, or else that of the main file, or else the default. The
rule is the same for the entries of the general section and for the other entries, and it does not
depend on the order in which the directory is listed.

* `Config.sectionEntries` — the general section of a layer, where one that is missing or null has no
  entries;
* `Config.FromFiles` and `Config.Prevails` — the rule;
* `Config.findSome?_layers_eq_some_iff` — the layers in their order follow the rule;
* `Config.values_by_precedence` — so does a configuration, for every key.
-/

namespace Tftp

namespace Config

variable {files files' : FileSystem} {format : Format} {s : CommandLine.Settings} {c raw : Config}
  {part : Part} {layer : Entries} {ls fromFiles : List Entries} {key v w : Value}
  {name path : String}

/-! ## The general section of a layer

The theorem is about layers that have keys, and a general section that is missing, null or a
mapping. The layers that are not read from files are of this form in any case, so that it is a
condition on the files alone. -/

/-- A layer with keys, whose general section is missing, null or a mapping with keys. -/
structure IsLayer (layer : Entries) : Prop where
  /-- a mapping has values as keys that can be keys -/
  keys : ∀ e ∈ layer, e.1.IsKey
  /-- the general section is null or a mapping, if there is one -/
  section_null_or_map : ∀ v, layer.get? sectionKey = some v →
    v.opened = .null ∨ ∃ es, v.opened = .map es
  /-- the general section has keys, too -/
  section_keys : ∀ e ∈ sectionEntries layer, e.1.IsKey

/-- The section of such a layer is merged as a mapping. One that is missing or null has no entries,
and neither has an empty mapping, which counts as no section at all. -/
theorem IsLayer.sectionOf_eq (h : IsLayer layer) :
    sectionOf layer = .map (sectionEntries layer) := by
  unfold sectionOf sectionEntries
  cases hv : layer.get? sectionKey with
  | none => rfl
  | some v =>
    rcases h.section_null_or_map v hv with hnull | ⟨es, hmap⟩
    · simp [Value.isTruthy, hnull]
    · cases es <;> simp [Value.isTruthy, hmap]

/-- A layer with keys, the general section of which is a mapping with keys. -/
theorem isLayer_of_get?_eq_map {es : Entries} (hkeys : ∀ e ∈ layer, e.1.IsKey)
    (h : layer.get? sectionKey = some (.map es)) (hes : ∀ e ∈ es, e.1.IsKey) : IsLayer layer := by
  refine ⟨hkeys, ?_, ?_⟩
  · rintro v hv
    obtain rfl := Option.some.inj (h.symm.trans hv)
    exact .inr ⟨_, rfl⟩
  · have hentries : sectionEntries layer = es := by
      rw [sectionEntries, h]
      rfl
    rwa [hentries]

/-- Entries that are given one by one have texts as keys. -/
theorem isKey_of_mem_given {xs : List (String × Option Value)} : ∀ e ∈ given xs, e.1.IsKey := by
  intro e he
  obtain ⟨⟨key, value⟩, -, he⟩ := List.mem_filterMap.mp he
  obtain ⟨v, -, rfl⟩ := Option.map_eq_some_iff.mp he
  exact .text key

/-- The layer of the command line has a general section, even where no option sets anything in
it. -/
theorem isLayer_ofSettings (s : CommandLine.Settings) : IsLayer (ofSettings s) :=
  isLayer_of_get?_eq_map isKey_of_mem_given (Entries.get?_cons ..) isKey_of_mem_given

/-- The defaults are a layer like any other. -/
theorem isLayer_defaults : IsLayer defaults :=
  isLayer_of_get?_eq_map isKey_of_mem_given rfl isKey_of_mem_given

/-! ## The rule

What a file gives, which of the files comes first, and what comes before and after the files are
said here without the mapping that is merged. The rule is the same for both parts of a
configuration. -/

/-- A file has a value for a key, in one of the parts of what it says. -/
def Gives (files : FileSystem) (format : Format) (part : Part) (path : String) (key v : Value) :
    Prop :=
  ∃ es, Says files format path es ∧ (part.entries es).find? key = some v

/-- The value of a key among the files: that of the file of the directory with the greatest name
among those that have the key, or that of the main file where there is no such file. -/
inductive FromFiles (files : FileSystem) (format : Format) (s : CommandLine.Settings) (part : Part)
    (key v : Value) : Prop
  /-- a file of the directory has the key, and none with a greater name has it -/
  | extra (name : String) (hname : IsExtra files name)
      (h : Gives files format part (extraPath name) key v)
      (hgreatest : ∀ other, IsExtra files other →
        (∃ w, Gives files format part (extraPath other) key w) → other ≤ name)
  /-- the main file has the key, and no file of the directory has it -/
  | main {path : String}
      (hextra : ∀ name, IsExtra files name → ∀ w, ¬ Gives files format part (extraPath name) key w)
      (hmain : IsMain s path) (h : Gives files format part path key v)

/-- The value of a key: what an option of the command line sets, or else the value among the files,
or else the default. -/
inductive Prevails (files : FileSystem) (format : Format) (s : CommandLine.Settings) (part : Part)
    (key v : Value) : Prop
  /-- an option sets the key -/
  | commandLine (h : LineSets s part key v)
  /-- no option sets the key, and one of the files does -/
  | file (hline : ∀ w, ¬ LineSets s part key w) (h : FromFiles files format s part key v)
  /-- neither an option nor a file sets the key -/
  | default (hline : ∀ w, ¬ LineSets s part key w)
      (hfiles : ∀ w, ¬ FromFiles files format s part key w) (h : IsDefault part key v)

/-- A file says one thing only, so that what it gives can be read off that. -/
theorem gives_iff {es : Entries} (h : Says files format path es) :
    Gives files format part path key v ↔ (part.entries es).find? key = some v := by
  constructor
  · rintro ⟨es', htold, hv⟩
    rwa [htold.unique h] at hv
  · exact fun hv => ⟨es, h, hv⟩

/-! ## The layers in their order

A value of the merged mapping is the first one from the highest layer down. That this is the value
of the rule is shown in three steps: for the files of the directory, which are sorted by their
names; for all files; and for all layers. -/

/-- What is found first from the end belongs to the greatest name. -/
theorem findSome?_reverse_eq_some_iff {α : Type} {g : String → Option α} {names : List String}
    {a : α} (h : names.Pairwise (· ≤ ·)) :
    names.reverse.findSome? g = some a ↔ ∃ name ∈ names, g name = some a ∧
      ∀ other ∈ names, (∃ b, g other = some b) → other ≤ name := by
  induction names generalizing a with
  | nil => simp
  | cons first names ih =>
    obtain ⟨hfirst, h⟩ := List.pairwise_cons.mp h
    rw [List.reverse_cons, List.findSome?_append, List.findSome?_singleton]
    -- the last name that has a value is in the rest of the list, or it is the first one
    cases hrest : names.reverse.findSome? g with
    | some b =>
      obtain ⟨last, hlast, hb, hgreatest⟩ := (ih h).mp hrest
      have hle : ∀ other ∈ first :: names, (∃ w, g other = some w) → other ≤ last := by
        intro other hother hw
        rcases List.mem_cons.mp hother with rfl | hother
        · exact hfirst last hlast
        · exact hgreatest other hother hw
      rw [Option.some_or]
      constructor
      · intro hba
        exact ⟨last, List.mem_cons_of_mem _ hlast, hb.trans hba, hle⟩
      · rintro ⟨name, hname, ha, hname_greatest⟩
        obtain rfl : name = last := String.le_antisymm (hle name hname ⟨a, ha⟩)
          (hname_greatest last (List.mem_cons_of_mem _ hlast) ⟨b, hb⟩)
        exact hb.symm.trans ha
    | none =>
      have hnone : ∀ other ∈ names, g other = none := by
        simpa using List.findSome?_eq_none_iff.mp hrest
      rw [Option.none_or]
      constructor
      · intro ha
        refine ⟨first, List.mem_cons_self, ha, fun other hother hw => ?_⟩
        rcases List.mem_cons.mp hother with rfl | hother
        · exact String.le_refl _
        · obtain ⟨w, hw⟩ := hw
          rw [hnone other hother] at hw
          cases hw
      · rintro ⟨name, hname, ha, -⟩
        rcases List.mem_cons.mp hname with rfl | hname
        · exact ha
        · rw [hnone name hname] at ha
          cases ha

/-- The entries that a file has, or none where it cannot be read. -/
def entriesOf (files : FileSystem) (format : Format) (path : String) : Entries :=
  (readFile files format path).result.toOption.getD []

/-- What a file says is what is read from it. -/
theorem Says.entriesOf_eq {es : Entries} (h : Says files format path es) :
    entriesOf files format path = es := by
  rw [entriesOf, readFile_eq_ok_iff.mpr h]
  rfl

/-- What several files say is what is read from each of them. -/
theorem eq_map_entriesOf {paths : List String}
    (h : List.Forall₂ (Says files format) paths fromFiles) :
    fromFiles = paths.map (entriesOf files format) := by
  induction h with
  | nil => rfl
  | cons htold _ ih => rw [List.map_cons, htold.entriesOf_eq, ← ih]

/-- Files that were all read say what was read from them. -/
theorem says_entriesOf {paths : List String}
    (h : List.Forall₂ (Says files format) paths fromFiles) :
    ∀ path ∈ paths, Says files format path (entriesOf files format path) := by
  induction h with
  | nil => nofun
  | cons htold _ ih =>
    refine List.forall_mem_cons.mpr ⟨?_, ih⟩
    rwa [htold.entriesOf_eq]

/-- What one of the files says is among what all of them say. -/
theorem Says.mem {paths : List String} {es : Entries} (hes : Says files format path es)
    (hpath : path ∈ paths) (h : List.Forall₂ (Says files format) paths fromFiles) :
    es ∈ fromFiles := by
  rw [eq_map_entriesOf h, ← hes.entriesOf_eq]
  exact List.mem_map_of_mem hpath

section Extras

variable (htold : ∀ name ∈ configNames files,
  Says files format (extraPath name) (entriesOf files format (extraPath name)))

include htold

/-- The files of the directory, the last one first, have the value of the greatest name. The
names are in order and no name is there twice, so that the last one of those with a value is the
greatest. -/
theorem findSome?_extras_eq_some_iff :
    ((configNames files).reverse.findSome? fun name =>
        (part.entries (entriesOf files format (extraPath name))).find? key) = some v ↔
      ∃ name, IsExtra files name ∧ Gives files format part (extraPath name) key v ∧
        ∀ other, IsExtra files other →
          (∃ w, Gives files format part (extraPath other) key w) → other ≤ name := by
  rw [findSome?_reverse_eq_some_iff (pairwise_configNames files)]
  constructor
  · rintro ⟨name, hname, hv, hgreatest⟩
    refine ⟨name, mem_configNames.mp hname, (gives_iff (htold name hname)).mpr hv, ?_⟩
    rintro other hother ⟨w, hw⟩
    have hother := mem_configNames.mpr hother
    exact hgreatest other hother ⟨w, (gives_iff (htold other hother)).mp hw⟩
  · rintro ⟨name, hname, hv, hgreatest⟩
    have hname := mem_configNames.mpr hname
    refine ⟨name, hname, (gives_iff (htold name hname)).mp hv, ?_⟩
    rintro other hother ⟨w, hw⟩
    exact hgreatest other (mem_configNames.mp hother) ⟨w, (gives_iff (htold other hother)).mpr hw⟩

/-- No file of the directory has a value exactly where the search through them comes to nothing. -/
theorem findSome?_extras_eq_none_iff :
    ((configNames files).reverse.findSome? fun name =>
        (part.entries (entriesOf files format (extraPath name))).find? key) = none ↔
      ∀ name, IsExtra files name → ∀ w, ¬ Gives files format part (extraPath name) key w := by
  rw [List.findSome?_eq_none_iff]
  constructor
  · intro h name hname w hw
    have hname := mem_configNames.mpr hname
    have hnone := h name (List.mem_reverse.mpr hname)
    rw [(gives_iff (htold name hname)).mp hw] at hnone
    cases hnone
  · intro h name hname
    have hname := List.mem_reverse.mp hname
    rw [Option.eq_none_iff_forall_ne_some]
    exact fun w hw => h name (mem_configNames.mp hname) w ((gives_iff (htold name hname)).mpr hw)

end Extras

/-- The files, the last one first, have the value that they are said to have. The main file is the
last of them to be asked, and it is asked only where no file of the directory has anything. -/
theorem findSome?_reverse_fromFiles
    (h : List.Forall₂ (Says files format) (sources files s) fromFiles) :
    (fromFiles.reverse.findSome? fun layer => (part.entries layer).find? key) = some v ↔
      FromFiles files format s part key v := by
  have htold := says_entriesOf h
  have hmain := htold (mainFile s) List.mem_cons_self
  have hextra (name : String) (hname : name ∈ configNames files) :
      Says files format (extraPath name) (entriesOf files format (extraPath name)) := by
    refine htold _ (List.mem_cons_of_mem _ ?_)
    rw [extraFiles_extraDirectory]
    exact List.mem_map_of_mem hname
  have hreverse : fromFiles.reverse =
      (configNames files).reverse.map (fun name => entriesOf files format (extraPath name)) ++
        [entriesOf files format (mainFile s)] := by
    rw [eq_map_entriesOf h, sources, extraFiles_extraDirectory]
    simp [Function.comp_def]
  rw [hreverse, List.findSome?_append, List.findSome?_map, List.findSome?_singleton,
    Option.or_eq_some_iff, ← gives_iff hmain]
  constructor
  · rintro (h | ⟨hnone, h⟩)
    · obtain ⟨name, hname, h, hgreatest⟩ := (findSome?_extras_eq_some_iff hextra).mp h
      exact .extra name hname h hgreatest
    · exact .main ((findSome?_extras_eq_none_iff hextra).mp hnone) (isMain_iff.mpr rfl) h
  · rintro (⟨name, hname, h, hgreatest⟩ | ⟨hnone, hpath, h⟩)
    · exact .inl ((findSome?_extras_eq_some_iff hextra).mpr ⟨name, hname, h, hgreatest⟩)
    · obtain rfl := isMain_iff.mp hpath
      exact .inr ⟨(findSome?_extras_eq_none_iff hextra).mpr hnone, h⟩

/-- **The first layer that has a key is that of the rule.** -/
theorem findSome?_layers_eq_some_iff
    (h : List.Forall₂ (Says files format) (sources files s) fromFiles) :
    ((layers s fromFiles).findSome? fun layer => (part.entries layer).find? key) = some v ↔
      Prevails files format s part key v := by
  have hline : (part.entries (ofSettings s)).find? key = none ↔
      ∀ w, ¬ LineSets s part key w := by
    rw [Option.eq_none_iff_forall_ne_some]
    exact forall_congr' fun w => not_congr find?_ofSettings_eq_some_iff
  have hfiles : (fromFiles.reverse.findSome? fun layer => (part.entries layer).find? key) = none ↔
      ∀ w, ¬ FromFiles files format s part key w := by
    rw [Option.eq_none_iff_forall_ne_some]
    exact forall_congr' fun w => not_congr (findSome?_reverse_fromFiles h)
  -- the search goes through the command line, the files and the defaults
  have hfirst : ((layers s fromFiles).findSome? fun layer => (part.entries layer).find? key) =
      ((part.entries (ofSettings s)).find? key).or
        ((fromFiles.reverse.findSome? fun layer => (part.entries layer).find? key).or
          ((part.entries defaults).find? key)) := by
    rw [layers, List.cons_append, List.findSome?_cons, List.findSome?_append,
      List.findSome?_singleton]
    cases (part.entries (ofSettings s)).find? key <;> rfl
  rw [hfirst, Option.or_eq_some_iff, Option.or_eq_some_iff, find?_ofSettings_eq_some_iff,
    findSome?_reverse_fromFiles h, find?_defaults_eq_some_iff, hline, hfiles]
  constructor
  · rintro (h | ⟨hline, h | ⟨hfiles, h⟩⟩)
    · exact .commandLine h
    · exact .file hline h
    · exact .default hline hfiles h
  · rintro (h | ⟨hline, h⟩ | ⟨hline, hfiles, h⟩)
    · exact .inl h
    · exact .inr ⟨hline, .inl h⟩
    · exact .inr ⟨hline, .inr ⟨hfiles, h⟩⟩

/-! ## The merged configuration

Both parts of a configuration are merged from the same layers. The general section is merged from
the sections, and erased from the rest. -/

/-- The layers are those of the command line, of the files, and of the defaults. -/
theorem mem_layers_iff : layer ∈ layers s fromFiles ↔
    layer = ofSettings s ∨ layer ∈ fromFiles ∨ layer = defaults := by
  simp [layers]

/-- If the files say layers, all layers are. -/
theorem isLayer_of_mem_layers
    (hlayers : ∀ path, IsSource files s path → ∀ es, Says files format path es → IsLayer es)
    (h : List.Forall₂ (Says files format) (sources files s) fromFiles) :
    ∀ layer ∈ layers s fromFiles, IsLayer layer := by
  intro layer hlayer
  rcases mem_layers_iff.mp hlayer with rfl | hlayer | rfl
  · exact isLayer_ofSettings s
  · rw [eq_map_entriesOf h] at hlayer
    obtain ⟨path, hpath, rfl⟩ := List.mem_map.mp hlayer
    exact hlayers path (mem_sources_iff.mp hpath) _ (says_entriesOf h path hpath)
  · exact isLayer_defaults

/-- The general section of a merged configuration, as it is before the check. -/
theorem find?_general (hmerge : merge ls = .ok raw) (hls : ∀ layer ∈ ls, IsLayer layer)
    (hkey : key.IsKey) :
    raw.general.find? key = ls.findSome? fun layer => (Part.general.entries layer).find? key := by
  obtain ⟨-, -, hgeneral, -⟩ := merge_eq_ok_iff.mp hmerge
  have hsections : ls.map sectionOf = (ls.map sectionEntries).map .map := by
    rw [List.map_map]
    exact List.map_congr_left fun layer hlayer => (hls layer hlayer).sectionOf_eq
  rw [hsections] at hgeneral
  rw [Layer.find?_merge ?_ hkey hgeneral, List.findSome?_map]
  · rfl
  · intro es hes
    obtain ⟨layer, hlayer, rfl⟩ := List.mem_map.mp hes
    exact (hls layer hlayer).section_keys

/-- The other entries of a merged configuration. The general section is erased after the layers are
merged, and it makes no difference that it is erased from each of them. -/
theorem find?_entries (hmerge : merge ls = .ok raw) (hls : ∀ layer ∈ ls, IsLayer layer)
    (hkey : key.IsKey) :
    raw.entries.find? key = ls.findSome? fun layer => (Part.top.entries layer).find? key := by
  obtain ⟨entries, hentries, -, herase⟩ := merge_eq_ok_iff.mp hmerge
  rw [herase]
  by_cases hne : key = .text sectionKey
  · subst hne
    rw [Entries.find?_erase_self]
    exact (List.findSome?_eq_none_iff.mpr fun layer _ => Entries.find?_erase_self layer _).symm
  · rw [Entries.find?_erase_of_ne _ hne,
      Layer.find?_merge (fun layer hlayer => (hls layer hlayer).keys) hkey hentries]
    exact Layer.findSome?_congr fun layer _ => (Entries.find?_erase_of_ne layer hne).symm

/-! ## The check of the general section

The rule tells the general section as it is before the check. What the check leaves alone is told by
the rule afterwards as well. -/

/-- The keys of the general section whose values are converted by the check. -/
inductive IsConverted : Value → Prop
  | port : IsConverted (.text "tftp_port")
  | verbose : IsConverted (.text "verbose")
  | rootDirectory : IsConverted (.text "root_dir")

/-- What passes the check has three entries set, and is otherwise as it was. -/
theorem exists_sets_of_check {general checked : Entries} {current : List Char}
    (h : check general current = .ok checked) :
    ∃ (n : Int) (verbose : Bool) (path : Value), checked =
      ((general.set "tftp_port" (.int n)).set "verbose" (.bool verbose)).set "root_dir" path := by
  obtain ⟨port, -, h⟩ := bind_eq_ok_iff.mp h
  obtain ⟨n, -, h⟩ := bind_eq_ok_iff.mp h
  obtain ⟨verbose, -, h⟩ := bind_eq_ok_iff.mp h
  obtain ⟨root, -, h⟩ := bind_eq_ok_iff.mp h
  obtain ⟨path, -, h⟩ := bind_eq_ok_iff.mp h
  exact ⟨n, verbose.isTruthy, path, (Except.ok.inj h).symm⟩

/-- The check changes the values of three keys, and of no other key of any kind. -/
theorem find?_of_check {general checked : Entries} {current : List Char}
    (h : check general current = .ok checked) (hkey : ¬ IsConverted key) :
    checked.find? key = general.find? key := by
  obtain ⟨n, verbose, path, rfl⟩ := exists_sets_of_check h
  rw [Entries.find?_set_of_ne _ _ (by rintro rfl; exact hkey .rootDirectory),
    Entries.find?_set_of_ne _ _ (by rintro rfl; exact hkey .verbose),
    Entries.find?_set_of_ne _ _ (by rintro rfl; exact hkey .port)]

/-- **Every value of a configuration is that of the layer that comes first by the rule.** The
general section is told as it is before the check, which changes the values of three of its keys
only. -/
theorem values_by_precedence (hload : (load files format s).result = .ok c)
    (hlayers : ∀ path, IsSource files s path → ∀ es, Says files format path es → IsLayer es) :
    (∃ raw, IsRaw files format s raw ∧ check raw.general files.current = .ok c.general ∧
      (∀ key, ¬ IsConverted key → c.general.find? key = raw.general.find? key) ∧
      ∀ key, key.IsKey → ∀ v,
        raw.general.find? key = some v ↔ Prevails files format s .general key v) ∧
    (∀ key, key.IsKey → ∀ v,
      c.entries.find? key = some v ↔ Prevails files format s .top key v) ∧
    ∀ files', SameSources files files' s → load files' format s = load files format s := by
  obtain ⟨raw, ⟨fromFiles, hall, hmerge⟩, hcheck, hentries⟩ := load_eq_ok_iff.mp hload
  have hls := isLayer_of_mem_layers hlayers hall
  refine ⟨⟨raw, ⟨fromFiles, hall, hmerge⟩, hcheck, fun key => find?_of_check hcheck,
    fun key hkey v => ?_⟩, fun key hkey v => ?_, fun files' h => load_congr h⟩
  · rw [find?_general hmerge hls hkey]
    exact findSome?_layers_eq_some_iff hall
  · rw [hentries, find?_entries hmerge hls hkey]
    exact findSome?_layers_eq_some_iff hall

/-! ## Layers with the same keys

All four kinds of layers set the port here, or the log file, or the interface, so that each of them
could prevail. -/

/-- The text of a main file. -/
def mainText : String :=
  "general:\n  tftp_port: 6969\n  listen_interface: 127.0.0.1\n  log_file: /main.log\n"

/-- The text of a file of the directory. -/
def firstText : String := "general:\n  tftp_port: 1069\n  log_file: /first.log\n"

/-- The text of a file with a greater name. It names a main file, which has no effect on what is
read. -/
def lastText : String :=
  "config_file: /other.yml\ngeneral:\n  tftp_port: 2069\n  log_file: /last.log\n"

/-- What the main file means. -/
def mainEntries : Entries :=
  [(.text "general", .map [(.text "tftp_port", .int 6969),
    (.text "listen_interface", .text "127.0.0.1"), (.text "log_file", .text "/main.log")])]

/-- What the file of the directory means. -/
def firstEntries : Entries :=
  [(.text "general", .map [(.text "tftp_port", .int 1069), (.text "log_file", .text "/first.log")])]

/-- What the file with the greater name means. -/
def lastEntries : Entries :=
  [(.text "config_file", .text "/other.yml"),
    (.text "general", .map [(.text "tftp_port", .int 2069), (.text "log_file", .text "/last.log")])]

/-- A main file that has to be named, and three files of the directory. One of them does not count,
and the other two are not listed in the order of their names. -/
def overlapping : FileSystem :=
  .ofEntries
    [("/srv/tftp.yml", .content mainText.toUTF8.data.toList),
      ("/etc/wazo-tftpd/conf.d/20-last.yml", .content lastText.toUTF8.data.toList),
      ("/etc/wazo-tftpd/conf.d/30-last.bak", .content firstText.toUTF8.data.toList),
      ("/etc/wazo-tftpd/conf.d/10-first.yml", .content firstText.toUTF8.data.toList)]
    ["/etc/wazo-tftpd/conf.d"]

/-- A command line that names the main file and sets the port. -/
def overlappingLine : List String := ["--tftp-port", "7069", "-f", "/srv/tftp.yml"]

/-- What the command line sets. -/
def overlappingSettings : CommandLine.Settings where
  configFile := some "/srv/tftp.yml"
  port := some "7069"

/-- Two of the three names count, and they are read in their order and not in that of the
listing. -/
theorem configNames_overlapping : configNames overlapping = ["10-first.yml", "20-last.yml"] := by
  refine configNames_eq_of_perm ?_ ?_ rfl
  · decide +kernel
  · have hlist : (overlapping.list extraDirectory).filter isConfigName =
        ["20-last.yml", "10-first.yml"] := by
      decide +kernel
    rw [hlist]
    exact .swap ..

/-- The files of the directory that count. -/
theorem isExtra_overlapping_iff :
    IsExtra overlapping name ↔ name = "10-first.yml" ∨ name = "20-last.yml" := by
  rw [← mem_configNames, configNames_overlapping]
  simp

/-- The main file gives a port, an interface and a log file. -/
theorem says_mainText : Says overlapping Yaml.read "/srv/tftp.yml" mainEntries := by
  have hmeans : Yaml.read mainText = .ok (.map mainEntries) :=
    eq_ok_of_isMeaning (by decide +kernel)
  exact says_of_text rfl hmeans rfl

/-- The first file of the directory gives a port and a log file. -/
theorem says_firstText : Says overlapping Yaml.read (extraPath "10-first.yml") firstEntries := by
  have hmeans : Yaml.read firstText = .ok (.map firstEntries) :=
    eq_ok_of_isMeaning (by decide +kernel)
  exact says_of_text rfl hmeans rfl

/-- The last file of the directory gives a port and a log file, and the name of a main file. -/
theorem says_lastText : Says overlapping Yaml.read (extraPath "20-last.yml") lastEntries := by
  have hmeans : Yaml.read lastText = .ok (.map lastEntries) :=
    eq_ok_of_isMeaning (by decide +kernel)
  exact says_of_text rfl hmeans rfl

/-- The files are read in this order, and say this. -/
theorem says_overlapping : List.Forall₂ (Says overlapping Yaml.read)
    (sources overlapping overlappingSettings) [mainEntries, firstEntries, lastEntries] := by
  rw [sources, extraFiles_extraDirectory, configNames_overlapping]
  exact .cons says_mainText (.cons says_firstText (.cons says_lastText .nil))

/-- The files that are read can be merged, and what they set passes the check. -/
theorem exists_load_overlapping :
    ∃ c, (load overlapping Yaml.read overlappingSettings).result = .ok c := by
  rw [load_result, readFiles_eq_ok_iff.mpr says_overlapping]
  exact ⟨_, rfl⟩

/-- All of them are layers, so that the theorem applies. -/
theorem isLayer_overlapping : ∀ layer ∈ [mainEntries, firstEntries, lastEntries],
    IsLayer layer := by
  intro layer hlayer
  simp only [List.mem_cons, List.not_mem_nil, or_false] at hlayer
  obtain rfl | rfl | rfl := hlayer <;>
    refine isLayer_of_get?_eq_map ?_ rfl ?_ <;>
    simp [mainEntries, firstEntries, lastEntries, Value.IsKey.text]

/-- Each of the four kinds of layers prevails somewhere: the command line for the port, the last
file for the log file, the main file for the interface, and the defaults for the verbosity. -/
theorem values_by_precedence_overlapping :
    ∃ s c, CommandLine.parse overlappingLine = .ok (.serve s) ∧
      (load overlapping Yaml.read s).result = .ok c ∧
      (∀ path, IsSource overlapping s path → ∀ es, Says overlapping Yaml.read path es →
        IsLayer es) ∧
      c.entries.find? (.text "config_file") = some (.text "/srv/tftp.yml") ∧
      ∃ raw, IsRaw overlapping Yaml.read s raw ∧
        check raw.general overlapping.current = .ok c.general ∧
        raw.general.find? (.text "tftp_port") = some (.text "7069") ∧
        raw.general.find? (.text "log_file") = some (.text "/last.log") ∧
        raw.general.find? (.text "listen_interface") = some (.text "127.0.0.1") ∧
        raw.general.find? (.text "verbose") = some (.bool false) := by
  obtain ⟨c, hload⟩ := exists_load_overlapping
  have hlayers : ∀ path, IsSource overlapping overlappingSettings path →
      ∀ es, Says overlapping Yaml.read path es → IsLayer es := fun path hpath es hes =>
    isLayer_overlapping es (hes.mem (mem_sources_iff.mpr hpath) says_overlapping)
  obtain ⟨⟨raw, hraw, hcheck, -, hvalues⟩, hentries, -⟩ := values_by_precedence hload hlayers
  refine ⟨overlappingSettings, c, by decide +kernel, hload, hlayers,
    (hentries _ (.text _) _).mpr (.commandLine (.configFile rfl)), raw, hraw, hcheck,
    (hvalues _ (.text _) _).mpr (.commandLine (.port rfl)), (hvalues _ (.text _) _).mpr ?_,
    (hvalues _ (.text _) _).mpr ?_, (hvalues _ (.text _) _).mpr ?_⟩
  · -- both files of the directory have a log file
    refine .file (fun w => ?_) (.extra "20-last.yml" (isExtra_overlapping_iff.mpr (.inr rfl))
      ⟨_, says_lastText, rfl⟩ fun other hother _ => ?_)
    · rw [← find?_ofSettings_eq_some_iff]
      nofun
    · obtain rfl | rfl := isExtra_overlapping_iff.mp hother <;> decide +kernel
  · -- neither of them has an interface
    refine .file (fun w => ?_) (.main (fun name hname w => ?_) (.named rfl)
      ⟨_, says_mainText, rfl⟩)
    · rw [← find?_ofSettings_eq_some_iff]
      nofun
    · obtain rfl | rfl := isExtra_overlapping_iff.mp hname
      · rw [gives_iff says_firstText]
        nofun
      · rw [gives_iff says_lastText]
        nofun
  · -- no file has a verbosity
    refine .default (fun w => ?_) (fun w => ?_) .verbose
    · rw [← find?_ofSettings_eq_some_iff]
      nofun
    · rw [← findSome?_reverse_fromFiles says_overlapping]
      nofun

end Config

end Tftp
