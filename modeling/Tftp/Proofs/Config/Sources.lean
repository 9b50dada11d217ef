import Tftp.Proofs.Config.Layering
import Tftp.Service
import Tftp.Yaml.Meaning

/-!
# What a configuration says of its own files

A configuration says which main file and which directory it was made of. The files are found before
any of them is read, and the entries that say so may be set in the files as well. What is reported
is then what the files say of themselves, and not what was read.

* `Config.get?_entries_eq_some_iff` — the rule of the layers for a key that is a text, whatever else
  the files hold;
* `Config.names_sources_unless_renamed` — the files that are opened, the line of the log about them,
  and when both reports are true;
* `Config.exists_renamed` — a file that gives itself another name.
-/

namespace Tftp.Config

variable {files : FileSystem} {format : Format} {s : CommandLine.Settings} {c : Config}
  {name : String} {v : Value} {d : Daemon}

/-- **The entries follow the rule of the layers.** Since the key is a text, the other keys of the
files may be of any kind. -/
theorem get?_entries_eq_some_iff (hload : (load files format s).result = .ok c)
    (hne : name ≠ sectionKey) :
    c.entries.get? name = some v ↔ Prevails files format s .top (.text name) v := by
  obtain ⟨raw, ⟨fromFiles, hall, hmerge⟩, -, hentries⟩ := load_eq_ok_iff.mp hload
  obtain ⟨entries, hmerged, -, herase⟩ := merge_eq_ok_iff.mp hmerge
  have hlayers : ((layers s fromFiles).findSome? fun layer => layer.get? name) =
      (layers s fromFiles).findSome? fun layer => (Part.top.entries layer).find? (.text name) :=
    Layer.findSome?_congr fun layer _ => (Entries.get?_erase_of_ne layer hne).symm
  rw [hentries, herase, Entries.get?_erase_of_ne _ hne, Layer.get?_merge hmerged, hlayers]
  exact findSome?_layers_eq_some_iff hall

/-- The value of an entry that only the files and the defaults have. -/
theorem get?_entries_eq_default_iff {default : Value}
    (hload : (load files format s).result = .ok c) (hne : name ≠ sectionKey)
    (hline : ∀ w, ¬ LineSets s .top (.text name) w)
    (hdefault : IsDefault .top (.text name) default) :
    c.entries.get? name = some default ↔
      ∀ v, FromFiles files format s .top (.text name) v → v = default := by
  constructor
  · intro h v hv
    rw [(get?_entries_eq_some_iff hload hne).mpr (.file hline hv)] at h
    exact Option.some.inj h
  · intro h
    rw [get?_entries_eq_some_iff hload hne]
    by_cases hfiles : ∃ v, FromFiles files format s .top (.text name) v
    · obtain ⟨v, hv⟩ := hfiles
      exact .file hline (h v hv ▸ hv)
    · exact .default hline (fun w hw => hfiles ⟨w, hw⟩) hdefault

/-- The path that is reported is the entry for it. -/
theorem file_eq_text_iff (path : String) :
    c.file = .text path ↔ c.entries.get? "config_file" = some (.text path) := by
  rw [file]
  cases c.entries.get? "config_file" <;> simp

/-- The main file is reported where the command line names it, and where the files do not name
another one. -/
theorem file_eq_mainFile_iff (hload : (load files format s).result = .ok c) :
    c.file = .text (mainFile s) ↔ ∀ v, s.configFile = none →
      FromFiles files format s .top (.text "config_file") v → v = .text (mainFile s) := by
  have hne : "config_file" ≠ sectionKey := by decide
  rw [file_eq_text_iff, mainFile]
  cases hfile : s.configFile with
  | some path =>
    have hget := (get?_entries_eq_some_iff hload hne).mpr (.commandLine (.configFile hfile))
    exact iff_of_true hget fun _ hnone => absurd hnone (Option.some_ne_none path)
  | none =>
    have hline : ∀ w, ¬ LineSets s .top (.text "config_file") w := by
      rintro w ⟨h⟩
      rw [hfile] at h
      cases h
    simp only [forall_const]
    exact get?_entries_eq_default_iff hload hne hline .configFile

/-- The service opens the files of its configuration and no others. -/
theorem opened_make (hload : (load d.files format s).result = .ok c) :
    (d.make format s).1.opened = sources d.files s := by
  simp only [Daemon.make, hload]
  exact opened_load hload

/-- The last line of the log is the one about the main file. It is shown at either level that the
log may have. -/
theorem shown_make (hload : (load d.files format s).result = .ok c) :
    (d.make format s).1.shown =
      d.shown (load d.files format s).notices ++ [.configurationRead c.file] := by
  simp only [Daemon.make, hload, Daemon.configureLog]
  -- both levels that the log may be set to show the line
  cases s.verbose <;> rfl

/-- **The files that are opened are the main file and those of the directory, and the reports name
them exactly where the files do not name others.** -/
theorem names_sources_unless_renamed (hload : (load d.files format s).result = .ok c) :
    (d.make format s).1.opened = mainFile s :: extraFiles d.files extraDirectory ∧
    (d.make format s).1.shown =
      d.shown (load d.files format s).notices ++ [.configurationRead c.file] ∧
    (c.file = .text (mainFile s) ↔ ∀ v, s.configFile = none →
      FromFiles d.files format s .top (.text "config_file") v → v = .text (mainFile s)) ∧
    (c.entries.get? "extra_config_files" = some (.text extraDirectory) ↔
      ∀ v, FromFiles d.files format s .top (.text "extra_config_files") v →
        v = .text extraDirectory) := by
  have hline : ∀ w, ¬ LineSets s .top (.text "extra_config_files") w := fun w h => by
    simpa using h.eq_configFile
  refine ⟨opened_make hload, shown_make hload, file_eq_mainFile_iff hload, ?_⟩
  exact get?_entries_eq_default_iff hload (by decide) hline .extraFiles

/-- One of the files of the directory names another main file. The one that was opened is reported
all the same, since the command line names it. -/
theorem names_sources_unless_renamed_overlapping :
    ∃ (d : Daemon) (c : Config), d.files = overlapping ∧
      CommandLine.parse overlappingLine = .ok (.serve overlappingSettings) ∧
      (load d.files Yaml.read overlappingSettings).result = .ok c ∧
      Gives d.files Yaml.read .top (extraPath "20-last.yml") (.text "config_file")
        (.text "/other.yml") ∧
      (d.make Yaml.read overlappingSettings).1.opened =
        ["/srv/tftp.yml", extraPath "10-first.yml", extraPath "20-last.yml"] ∧
      c.file = .text "/srv/tftp.yml" ∧
      c.entries.get? "extra_config_files" = some (.text extraDirectory) := by
  obtain ⟨c, hload⟩ := exists_load_overlapping
  obtain ⟨hopened, -, hfile, hextra⟩ :=
    names_sources_unless_renamed (d := { files := overlapping }) hload
  refine ⟨{ files := overlapping }, c, rfl, by decide +kernel, hload, ⟨_, says_lastText, rfl⟩, ?_,
    hfile.mpr nofun, hextra.mpr fun v hv => ?_⟩
  · rw [hopened, extraFiles_extraDirectory, configNames_overlapping]
    rfl
  · rw [← findSome?_reverse_fromFiles says_overlapping] at hv
    cases hv

/-- A main file that gives itself another name. -/
def renamed : String := "config_file: /other.yml\n"

/-- The text means one entry, which is the name. -/
theorem read_renamed :
    Yaml.read renamed = .ok (.map [(.text "config_file", .text "/other.yml")]) :=
  eq_ok_of_isMeaning (by decide +kernel)

/-- The log names a file that was not opened. -/
theorem exists_renamed :
    ∃ (d : Daemon) (c : Config), d.files.read defaultFile = .ok renamed.toUTF8.data.toList ∧
      (load d.files Yaml.read {}).result = .ok c ∧
      (d.make Yaml.read {}).1.opened = [defaultFile] ∧ c.file = .text "/other.yml" ∧
      .configurationRead (.text "/other.yml") ∈ (d.make Yaml.read {}).1.shown := by
  let d : Daemon := { files := onlyMain renamed }
  obtain ⟨c, hload, hfile⟩ :
      ∃ c, (load d.files Yaml.read {}).result = .ok c ∧ c.file = .text "/other.yml" := by
    rw [load_onlyMain read_renamed rfl]
    exact ⟨_, rfl, rfl⟩
  refine ⟨d, c, read_onlyMain renamed, hload, opened_make hload, hfile, ?_⟩
  rw [shown_make hload, hfile]
  exact List.mem_append_right _ (List.mem_singleton.mpr rfl)

end Tftp.Config
