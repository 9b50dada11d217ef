import Tftp.Config
import Tftp.Proofs.Config.Merging

/-!
# The layers that are not read from files

Two layers of a configuration come from no file: that of the command line, which is the highest, and
that of the defaults, which is the lowest. Both are told here entry by entry, in the words of the
options and not in those of the mappings that are built from them. Each row of `LineSets` is an
option, and each row of `IsDefault` a default.

The entries of a layer are seen in two parts, since the general section is merged by itself.

* `Config.Part` — a part of a layer, with `Config.Part.entries` as its entries;
* `Config.LineSets` — what the options of a command line set;
* `Config.IsDefault` — what is set by default;
* `Config.find?_ofSettings_eq_some_iff` and `Config.find?_defaults_eq_some_iff` — the two layers
  have these entries and no others.
-/

namespace Tftp

namespace Entries

/-- Erasing a key leaves every other key alone, of whatever kind it is. -/
theorem find?_erase_of_ne {key : Value} {name : String} (es : Entries) (h : key ≠ .text name) :
    (es.erase name).find? key = es.find? key :=
  es.find?_erase (Value.text_same_of_ne h)

/-- Setting a key leaves every other key alone, of whatever kind it is. -/
theorem find?_set_of_ne {key : Value} {name : String} (es : Entries) (value : Value)
    (h : key ≠ .text name) : (es.set name value).find? key = es.find? key :=
  es.find?_set value (Value.text_same_of_ne h)

/-- The key that is erased has no value, whatever value it had. -/
theorem find?_erase_self (es : Entries) (name : String) :
    (es.erase name).find? (.text name) = none :=
  get?_erase_self es name

/-- Erasing a key takes it away and nothing else. -/
theorem find?_erase_eq_some_iff {es : Entries} {name : String} {key v : Value} :
    (es.erase name).find? key = some v ↔ key ≠ .text name ∧ es.find? key = some v := by
  by_cases hkey : key = .text name
  · subst hkey
    refine iff_of_false (fun h => ?_) (fun h => h.1 rfl)
    rw [find?_erase_self] at h
    cases h
  · rw [find?_erase_of_ne es hkey]
    exact (and_iff_right hkey).symm

end Entries

namespace Config

/-! ## The parts of a layer

Apart from the general section, the entries of a layer are merged as they are. The section is merged
with the sections of the other layers, so that a layer which has one does not hide all that the
layers below it have in theirs. -/

/-- The parts of a layer, each of which is merged by itself. -/
inductive Part where
  /-- the entries apart from the general section -/
  | top
  /-- the entries of the general section -/
  | general

/-- The entries of the general section of a layer. A section that is missing or null has none, and
hides nothing of the layers below it. -/
def sectionEntries (layer : Entries) : Entries :=
  match (layer.get? sectionKey).map Value.opened with
  | some (.map es) => es
  | _ => []

/-- The entries of a part of a layer. -/
def Part.entries : Part → Entries → Entries
  | top, layer => layer.erase sectionKey
  | general, layer => sectionEntries layer

variable {s : CommandLine.Settings} {xs : List (String × Option Value)} {part : Part}
  {key v : Value}

/-! ## Entries that are given one by one

The layers of the command line and of the defaults are written down as lists of names with values,
some of which may be missing. What such a list has under a key is what stands in it. -/

/-- What is not given has no entry. -/
@[simp] theorem given_cons_none (name : String) (xs : List (String × Option Value)) :
    given ((name, none) :: xs) = given xs := rfl

/-- What is given has an entry, and the first one given comes first. -/
@[simp] theorem given_cons_some (name : String) (v : Value) (xs : List (String × Option Value)) :
    given ((name, some v) :: xs) = (.text name, v) :: given xs := rfl

/-- An entry is found where it is given. The names must be different, since of two entries with one
name the first hides the second. -/
theorem find?_given_eq_some_iff (h : (xs.map Prod.fst).Nodup) :
    (given xs).find? key = some v ↔ ∃ name, key = .text name ∧ (name, some v) ∈ xs := by
  induction xs with
  | nil => simp [given, Entries.find?]
  | cons x xs ih =>
    obtain ⟨name, value⟩ := x
    obtain ⟨hname, hxs⟩ := List.nodup_cons.mp h
    cases value with
    | none =>
      rw [given_cons_none, ih hxs]
      simp
    | some w =>
      rw [given_cons_some, Entries.find?_cons]
      cases hkey : (Value.text name).same key with
      | true =>
        obtain rfl := Value.eq_of_same_of_isExact hkey trivial
        rw [if_pos rfl, Option.some.injEq]
        constructor
        · rintro rfl
          exact ⟨name, rfl, List.mem_cons_self⟩
        · rintro ⟨other, hother, hmem⟩
          obtain rfl := Value.text.inj hother
          rcases List.mem_cons.mp hmem with heq | hmem
          · exact (Option.some.inj (Prod.mk.inj heq).2).symm
          · exact absurd (List.mem_map_of_mem hmem) hname
      | false =>
        rw [if_neg Bool.false_ne_true, ih hxs]
        have hne : key ≠ .text name := by
          rintro rfl
          rw [Value.same_text, beq_self_eq_true] at hkey
          cases hkey
        constructor
        · rintro ⟨other, rfl, hmem⟩
          exact ⟨other, rfl, List.mem_cons_of_mem _ hmem⟩
        · rintro ⟨other, rfl, hmem⟩
          rcases List.mem_cons.mp hmem with heq | hmem
          · exact absurd (congrArg Value.text (Prod.mk.inj heq).1) hne
          · exact ⟨other, rfl, hmem⟩

/-! ## The command line

An option is set if it was given, and the verbosity only ever to true. An option that was given with
an empty argument is set to the empty text. -/

/-- What the options of a command line set, option by option. An option that is not given sets
nothing, and the option that logs to the standard error stream is no part of the configuration. -/
inductive LineSets (s : CommandLine.Settings) : Part → Value → Value → Prop
  | configFile {path : String} (h : s.configFile = some path) :
      LineSets s .top (.text "config_file") (.text path)
  | rootDirectory {path : String} (h : s.rootDirectory = some path) :
      LineSets s .general (.text "root_dir") (.text path)
  | port {number : String} (h : s.port = some number) :
      LineSets s .general (.text "tftp_port") (.text number)
  | interface {address : String} (h : s.interface = some address) :
      LineSets s .general (.text "listen_interface") (.text address)
  | verbose (h : s.verbose = true) : LineSets s .general (.text "verbose") (.bool true)

/-- Outside of the general section the command line sets the main file only. -/
theorem LineSets.eq_configFile (h : LineSets s .top key v) : key = .text "config_file" := by
  cases h
  rfl

/-- The general section of the command line has an entry for each of four options, or none for
it. -/
theorem sectionEntries_ofSettings (s : CommandLine.Settings) :
    sectionEntries (ofSettings s) = given
      [("root_dir", s.rootDirectory.map .text), ("tftp_port", s.port.map .text),
       ("listen_interface", s.interface.map .text),
       ("verbose", if s.verbose then some (.bool true) else none)] :=
  rfl

/-- **The highest layer has what the options set, and nothing else.** Each option that was given
stands in the layer under its own key, and one that was not given has no entry there. The two cases
are the two parts of the layer, for the configuration file is named outside of the section. -/
theorem find?_ofSettings_eq_some_iff :
    (part.entries (ofSettings s)).find? key = some v ↔ LineSets s part key v := by
  cases part with
  | top =>
    rw [Part.entries, ofSettings, Entries.find?_erase_eq_some_iff,
      find?_given_eq_some_iff (by simp [sectionKey])]
    simp only [List.mem_cons, Prod.mk.injEq, List.not_mem_nil, or_false]
    constructor
    · rintro ⟨hne, name, rfl, ⟨rfl, -⟩ | ⟨rfl, hv⟩⟩
      · exact absurd rfl hne
      · obtain ⟨path, hpath, rfl⟩ := Option.map_eq_some_iff.mp hv.symm
        exact .configFile hpath
    · rintro ⟨h⟩
      exact ⟨by simp [sectionKey], "config_file", rfl, .inr ⟨rfl, by rw [h]; rfl⟩⟩
  | general =>
    rw [Part.entries, sectionEntries_ofSettings, find?_given_eq_some_iff (by simp)]
    simp only [List.mem_cons, Prod.mk.injEq, List.not_mem_nil, or_false]
    constructor
    · rintro ⟨name, rfl, ⟨rfl, hv⟩ | ⟨rfl, hv⟩ | ⟨rfl, hv⟩ | ⟨rfl, hv⟩⟩
      · obtain ⟨path, hpath, rfl⟩ := Option.map_eq_some_iff.mp hv.symm
        exact .rootDirectory hpath
      · obtain ⟨number, hnumber, rfl⟩ := Option.map_eq_some_iff.mp hv.symm
        exact .port hnumber
      · obtain ⟨address, haddress, rfl⟩ := Option.map_eq_some_iff.mp hv.symm
        exact .interface haddress
      · split at hv
        · next hverbose =>
          obtain rfl := Option.some.inj hv
          exact .verbose hverbose
        · cases hv
    · rintro (_ | h | h | h | h)
      · exact ⟨"root_dir", rfl, .inl ⟨rfl, by rw [h]; rfl⟩⟩
      · exact ⟨"tftp_port", rfl, .inr (.inl ⟨rfl, by rw [h]; rfl⟩)⟩
      · exact ⟨"listen_interface", rfl, .inr (.inr (.inl ⟨rfl, by rw [h]; rfl⟩))⟩
      · exact ⟨"verbose", rfl, .inr (.inr (.inr ⟨rfl, by rw [if_pos h]⟩))⟩

/-! ## The defaults

The defaults set every key that is needed, so that none of them is missing in the end. -/

/-- What is set by default. -/
inductive IsDefault : Part → Value → Value → Prop
  | configFile : IsDefault .top (.text "config_file") (.text "/etc/wazo-tftpd/config.yml")
  | extraFiles : IsDefault .top (.text "extra_config_files") (.text "/etc/wazo-tftpd/conf.d")
  | interface : IsDefault .general (.text "listen_interface") (.text "")
  | port : IsDefault .general (.text "tftp_port") (.int 69)
  | rootDirectory :
      IsDefault .general (.text "root_dir") (.text "/var/lib/wazo-tftpd/tftpboot")
  | logFile : IsDefault .general (.text "log_file") (.text "/var/log/wazo-tftpd.log")
  | verbose : IsDefault .general (.text "verbose") (.bool false)

/-- **The lowest layer has the defaults, and nothing else.** Both parts are lists of entries with
distinct names, which are told by membership. -/
theorem find?_defaults_eq_some_iff :
    (part.entries defaults).find? key = some v ↔ IsDefault part key v := by
  cases part with
  | top =>
    rw [Part.entries, defaults, Entries.find?_erase_eq_some_iff,
      find?_given_eq_some_iff (by decide)]
    simp only [List.mem_cons, Prod.mk.injEq, List.not_mem_nil, or_false, Option.some.injEq]
    constructor
    · rintro ⟨hne, name, rfl, ⟨rfl, rfl⟩ | ⟨rfl, rfl⟩ | ⟨rfl, -⟩⟩
      · exact .configFile
      · exact .extraFiles
      · exact absurd rfl hne
    · rintro (_ | _) <;> simp [sectionKey, defaultFile, extraDirectory]
  | general =>
    have hsection : sectionEntries defaults = given
        [("listen_interface", some (.text "")), ("tftp_port", some (.int 69)),
         ("root_dir", some (.text "/var/lib/wazo-tftpd/tftpboot")),
         ("log_file", some (.text "/var/log/wazo-tftpd.log")),
         ("verbose", some (.bool false))] := rfl
    rw [Part.entries, hsection, find?_given_eq_some_iff (by decide)]
    simp only [List.mem_cons, Prod.mk.injEq, List.not_mem_nil, or_false, Option.some.injEq]
    constructor
    · rintro ⟨name, rfl, ⟨rfl, rfl⟩ | ⟨rfl, rfl⟩ | ⟨rfl, rfl⟩ | ⟨rfl, rfl⟩ | ⟨rfl, rfl⟩⟩
      · exact .interface
      · exact .port
      · exact .rootDirectory
      · exact .logFile
      · exact .verbose
    · rintro (_ | _) <;> simp

end Config

end Tftp
