import Tftp.Proofs.Config.Layering
import Tftp.Proofs.Path.Absolute
import Tftp.Yaml.Meaning

/-!
# How a configuration fails

A configuration has a port number, a truth value and an absolute path, or there is none. Most of the
reasons why there is none are foreseen, and told in words of their own. What is not foreseen is a
file that is no text, a general section that is no mapping, a port that is infinite or too long to
be shown, and a root directory that is no path. That a directory which is there cannot be listed is
left out of account, as it is in `FileSystem.list`.

* `ConfigError.isForeseen` — the errors that are told in words of their own;
* `Config.IsChecked` — a configuration that can be used;
* `Config.Escapes` — what is not foreseen;
* `Config.fails_foreseen_unless_escapes` — there is a configuration that can be used, or an error
  that is foreseen, exactly where nothing escapes;
* `Config.exists_infinite_port` — a file that lets something escape.
-/

namespace Tftp

/-- Whether an error is told in words of its own. The others are faults that are met on the way. -/
def ConfigError.isForeseen : ConfigError → Bool
  | unreadable .. | refused _ | notMapping _ | badPort _ | portOutOfRange _ => true
  | _ => false

namespace Config

variable {files : FileSystem} {format : Format} {s : CommandLine.Settings} {c raw : Config}
  {general checked : Entries} {ls fromFiles : List Entries} {v w p r : Value} {path name : String}
  {e : ConfigError} {n : Int} {current : List Char}

/-! ## The checks

The port, the truth value and the root directory are checked in this order. A truth value is found
for every value, so that only the port and the root directory can be refused. -/

/-- A configuration that can be used. -/
structure IsChecked (c : Config) : Prop where
  /-- the port is a number in range -/
  port : ∃ n : Int, c.general.get? "tftp_port" = some (.int n) ∧ 0 ≤ n ∧ n ≤ 65535
  /-- the verbosity is a truth value -/
  verbose : ∃ b, c.general.get? "verbose" = some (.bool b)
  /-- the root directory is an absolute path in normal form -/
  root : ∃ path, c.general.get? "root_dir" = some path ∧ path.IsAbsolutePath

/-- The values for which the check of the port has no words. -/
inductive EscapingPort : Value → Prop
  /-- there is no whole number for it -/
  | infinite (negative : Bool) : EscapingPort (.float (.infinite negative))
  /-- it is no number, and cannot be shown -/
  | noNumber {v : Value} (hnumber : number? v = .ok none) (hlong : v.literal? = none) :
      EscapingPort v
  /-- it is a number out of range, and has too many digits to be shown -/
  | outOfRange {v : Value} {n : Int} (hnumber : number? v = .ok (some n))
      (hrange : ¬ (0 ≤ n ∧ n ≤ maxPort)) (hlong : Numeral.isWritable n = false) : EscapingPort v

/-- Only an infinite number cannot be made a whole number without a word. -/
theorem number?_eq_error_iff :
    number? v = .error e ↔ e = .infinitePort ∧ ∃ negative, v = .float (.infinite negative) := by
  cases v with
  | float x => cases x <;> simp [number?, eq_comm]
  | _ => simp [number?]

/-- A fault on the way to a number is the fault of the port. -/
theorem portOf_of_error (h : number? v = .error e) : portOf v = .error e := by
  rw [portOf, h]
  rfl

/-- A value that is no number is refused, in words that show the value. Where it cannot be shown,
there are no words. -/
theorem portOf_of_none (h : number? v = .ok none) :
    portOf v = .error (if v.literal?.isSome then .badPort v else .tooLongToShow) := by
  rw [portOf, h]
  rfl

/-- A number is a port if it is in range. One that is not is refused in words that show it, which a
number of too many digits cannot be. -/
theorem portOf_of_some (h : number? v = .ok (some n)) :
    portOf v = if 0 ≤ n ∧ n ≤ maxPort then .ok n
      else .error (if Numeral.isWritable n then .portOutOfRange n else .tooLongToShow) := by
  rw [portOf, h]
  rfl

/-- A port that passes is in range. -/
theorem le_maxPort_of_portOf (h : portOf v = .ok n) : 0 ≤ n ∧ n ≤ maxPort := by
  cases hnumber : number? v with
  | error e =>
    rw [portOf_of_error hnumber] at h
    cases h
  | ok found =>
    cases found with
    | none =>
      rw [portOf_of_none hnumber] at h
      cases h
    | some m =>
      rw [portOf_of_some hnumber] at h
      split at h
      · next hrange =>
        obtain rfl := Except.ok.inj h
        exact hrange
      · cases h

/-- **A port is refused in words, unless there are none for it.** A number is asked for first, and
one without an end fails there. Of what is left the words show the value, which fails for a number
of too many digits. -/
theorem portOf_unforeseen_iff :
    (∃ e, portOf v = .error e ∧ e.isForeseen = false) ↔ EscapingPort v := by
  constructor
  · rintro ⟨e, h, he⟩
    cases hnumber : number? v with
    | error e' =>
      obtain ⟨-, negative, rfl⟩ := number?_eq_error_iff.mp hnumber
      exact .infinite negative
    | ok found =>
      cases found with
      | none =>
        rw [portOf_of_none hnumber] at h
        obtain rfl := Except.error.inj h
        cases hlong : v.literal? with
        | none => exact .noNumber hnumber hlong
        | some t => simp [hlong, ConfigError.isForeseen] at he
      | some n =>
        rw [portOf_of_some hnumber] at h
        split at h
        · cases h
        · next hrange =>
          obtain rfl := Except.error.inj h
          cases hlong : Numeral.isWritable n with
          | false => exact .outOfRange hnumber hrange hlong
          | true => simp [hlong, ConfigError.isForeseen] at he
  · rintro (⟨negative⟩ | ⟨hnumber, hlong⟩ | ⟨hnumber, hrange, hlong⟩)
    · exact ⟨.infinitePort, rfl, rfl⟩
    · refine ⟨.tooLongToShow, ?_, rfl⟩
      rw [portOf_of_none hnumber, hlong]
      rfl
    · refine ⟨.tooLongToShow, ?_, rfl⟩
      rw [portOf_of_some hnumber, if_neg hrange, hlong]
      rfl

/-- A byte stands for the character of its number. -/
theorem toNat_charOf_lt (b : UInt8) : (charOf b).toNat < 256 := by
  have hb : b.toNat < 256 := b.toNat_lt
  have hvalid : b.toNat.isValidChar := .inl (by omega)
  rw [charOf, Codes.toNat_ofNat hvalid]
  exact hb

/-- The bytes of a text are those of its characters, one character after the other. -/
theorem toUTF8_ofList (cs : List Char) :
    (String.ofList cs).toUTF8.data.toList = cs.flatMap String.utf8EncodeChar := by
  rw [String.toUTF8_eq_toByteArray, String.toByteArray_ofList, List.utf8Encode,
    List.data_toByteArray]

/-- A directory that is given from the root is so in bytes, too. -/
theorem head?_bytes (h : current.head? = some '/') :
    ((String.ofList current).toUTF8.data.toList.map charOf).head? = some '/' := by
  obtain ⟨tail, rfl⟩ := List.head?_eq_some_iff.mp h
  rw [toUTF8_ofList, List.flatMap_cons]
  rfl

/-- **A path is made absolute, and only what is no path is refused.** The current directory must be
given from the root, since its slash is what makes the path absolute. -/
theorem rootOf_eq (hcurrent : current.head? = some '/') (v : Value) :
    (v.pathCodes? = none ∧ rootOf current v = .error .badRoot) ∨
      ∃ path, rootOf current v = .ok path ∧ v.pathCodes? ≠ none ∧ path.IsAbsolutePath := by
  cases v with
  | text t =>
    refine .inr ⟨_, rfl, nofun, _, rfl, ?_⟩
    rw [String.toList_ofList]
    exact Path.isAbsolute_codes_absoluteFrom hcurrent _
  | codes cs => exact .inr ⟨_, rfl, nofun, _, Value.pathCodes?_ofCodes _,
      Path.isAbsolute_absoluteCodes hcurrent cs⟩
  | bytes t =>
    refine .inr ⟨_, rfl, nofun, _, rfl,
      Path.isAbsolute_bytes_absoluteFrom (head?_bytes hcurrent) fun c hc => ?_⟩
    rcases hc with hc | hc
    all_goals
      obtain ⟨b, -, rfl⟩ := List.mem_map.mp hc
      exact toNat_charOf_lt b
  | _ => exact .inl ⟨rfl, rfl⟩

section Check

variable (hcurrent : current.head? = some '/') (hport : general.get? "tftp_port" = some p)
  (hverbose : general.get? "verbose" = some v) (hroot : general.get? "root_dir" = some r)

include hport hverbose hroot

/-- The check of a section that has what is needed: the port comes first and the root directory
last, so that a port that is refused hides a root directory that is none. -/
theorem check_of_get? : check general current = (portOf p).bind fun n =>
    (rootOf current r).map fun path =>
      ((general.set "tftp_port" (.int n)).set "verbose" (.bool v.isTruthy)).set "root_dir"
        path := by
  rw [check, required, required, required, hport, hverbose, hroot]
  cases hn : portOf p with
  | error e => simp only [bind, Except.bind, hn]
  | ok n => cases hpath : rootOf current r <;> simp only [bind, Except.bind, hn, hpath] <;> rfl

include hcurrent

/-- **What passes the check can be used.** -/
theorem isChecked_of_check (h : check general current = .ok c.general) : IsChecked c := by
  rw [check_of_get? hport hverbose hroot] at h
  obtain ⟨n, hn, h⟩ := bind_eq_ok_iff.mp h
  obtain ⟨-, hbad⟩ | ⟨path, hpath, -, habsolute⟩ := rootOf_eq hcurrent r
  · rw [hbad] at h
    cases h
  · rw [hpath] at h
    have hgeneral := (Except.ok.inj h).symm
    refine ⟨⟨n, ?_, le_maxPort_of_portOf hn⟩, ⟨v.isTruthy, ?_⟩, ⟨path, ?_, habsolute⟩⟩
    · rw [hgeneral, Entries.get?_set_of_ne _ _ (by decide),
        Entries.get?_set_of_ne _ _ (by decide), Entries.get?_set_self]
    · rw [hgeneral, Entries.get?_set_of_ne _ _ (by decide), Entries.get?_set_self]
    · rw [hgeneral, Entries.get?_set_self]

/-- **The check fails in words, unless there are none for the port or the root is no path.** -/
theorem check_unforeseen_iff : (∃ e, check general current = .error e ∧ e.isForeseen = false) ↔
    EscapingPort p ∨ (∃ n, portOf p = .ok n) ∧ r.pathCodes? = none := by
  rw [check_of_get? hport hverbose hroot, ← portOf_unforeseen_iff]
  cases hn : portOf p with
  | error e => simp [Except.bind]
  | ok n =>
    obtain ⟨hnone, hbad⟩ | ⟨path, hpath, hsome, -⟩ := rootOf_eq hcurrent r
    · simp [Except.bind, Except.map, hbad, hnone, ConfigError.isForeseen]
    · simp [Except.bind, Except.map, hpath, hsome]

end Check

/-! ## The general section

The general section that is checked is merged from those of the layers. Where each of these is a
mapping nothing can go wrong, and what the defaults have is there. -/

/-- The sections can be merged where they are mappings, and nothing else can fail. -/
theorem merge_eq_error_iff {problem : LayerError} :
    merge ls = .error problem ↔ Layer.merge (ls.map sectionOf) = .error problem := by
  obtain ⟨entries, hentries⟩ := Layer.exists_merge_map ls
  simp [merge_eq_bind, bind_eq_error_iff, hentries]

/-- **Sections clash only where one of them is no mapping.** -/
theorem exists_sectionOf_ne_map {problem : LayerError}
    (h : Layer.merge (ls.map sectionOf) = .error problem) :
    ∃ layer ∈ ls, ∀ es, sectionOf layer ≠ .map es := by
  by_contra hall
  push Not at hall
  choose! es hes using hall
  have hmap : ls.map sectionOf = (ls.map es).map .map := by
    rw [List.map_map]
    exact List.map_congr_left hes
  obtain ⟨merged, hmerged⟩ := Layer.exists_merge_map (ls.map es)
  rw [hmap, hmerged] at h
  cases h

/-- **What has a default is there.** -/
theorem IsRaw.exists_get? (h : IsRaw files format s raw)
    (hdefault : IsDefault .general (.text name) v) : ∃ w, raw.general.get? name = some w := by
  obtain ⟨fromFiles, -, hmerge⟩ := h
  obtain ⟨-, -, hgeneral, -⟩ := merge_eq_ok_iff.mp hmerge
  have hmem : sectionOf defaults ∈ (layers s fromFiles).map sectionOf :=
    List.mem_map_of_mem (mem_layers_iff.mpr (.inr (.inr rfl)))
  rw [isLayer_defaults.sectionOf_eq] at hmem
  have hfind := find?_defaults_eq_some_iff.mpr hdefault
  obtain ⟨w, -, hw⟩ := Layer.lookupFirst_of_merge hgeneral hmem hfind
  exact ⟨w, hw⟩

/-! ## The files

A file that is not there is passed over, and one that cannot be opened is foreseen. So is a text
that is refused as malformed, and one that means neither null nor a mapping. What remains is said in
`IsFaulty`. -/

/-- A file that cannot be read for a reason that is not foreseen. -/
inductive IsFaulty (files : FileSystem) (format : Format) (path : String) : Prop
  /-- its bytes are no text -/
  | notText {bytes : Bytes} (hread : files.read path = .ok bytes)
      (htext : String.fromUTF8? ⟨bytes.toArray⟩ = none)
  /-- its text has no value, although its form is not refused -/
  | noValue {bytes : Bytes} {text : String} {problem : Yaml.Problem}
      (hread : files.read path = .ok bytes)
      (htext : String.fromUTF8? ⟨bytes.toArray⟩ = some text)
      (hformat : format text = .error problem) (hproblem : problem ≠ .refused)

/-- Bytes are misunderstood without words where they are no text, and where the text is refused for
another reason than its form. -/
theorem understand_unforeseen_iff {bytes : Bytes} :
    (∃ e, understand format path bytes = .error e ∧ e.isForeseen = false) ↔
      String.fromUTF8? ⟨bytes.toArray⟩ = none ∨
      ∃ text problem, String.fromUTF8? ⟨bytes.toArray⟩ = some text ∧
        format text = .error problem ∧ problem ≠ .refused := by
  unfold understand
  cases String.fromUTF8? ⟨bytes.toArray⟩ with
  | none => simp [ConfigError.isForeseen]
  | some text =>
    cases hformat : format text with
    | error problem =>
      cases problem <;> simp [Except.map, hformat, ConfigError.isForeseen]
    | ok v =>
      cases hv : v.opened <;> simp [Except.map, hformat, hv, ConfigError.isForeseen]

/-- A file cannot be read without words exactly where it is faulty. That it cannot be opened is
always foreseen. -/
theorem readFile_unforeseen_iff :
    (∃ e, (readFile files format path).result = .error e ∧ e.isForeseen = false) ↔
      IsFaulty files format path := by
  cases hread : files.read path with
  | error error =>
    constructor
    · rintro ⟨e, h, he⟩
      rw [readFile_of_error hread] at h
      split at h
      · cases h
      · rw [← Except.error.inj h] at he
        cases he
    · rintro (⟨hbytes, -⟩ | ⟨hbytes, -, -, -⟩) <;> (rw [hread] at hbytes; cases hbytes)
  | ok bytes =>
    rw [readFile_of_ok hread, understand_unforeseen_iff]
    constructor
    · rintro (htext | ⟨text, problem, htext, hformat, hproblem⟩)
      · exact .notText hread htext
      · exact .noValue hread htext hformat hproblem
    · rintro (⟨hbytes, htext⟩ | ⟨hbytes, htext, hformat, hproblem⟩) <;>
        obtain rfl := Except.ok.inj (hread.symm.trans hbytes)
      · exact .inl htext
      · exact .inr ⟨_, _, htext, hformat, hproblem⟩

/-! ## The configuration

A configuration fails in its files, in the merging of the general sections, or in the check. Each of
these has its own way of letting something escape. -/

/-- What is not foreseen: a file, a clash of the general sections, a port or a root directory. -/
inductive Escapes (files : FileSystem) (format : Format) (s : CommandLine.Settings) : Prop
  /-- one of the files, after others that were read -/
  | reading {before after : List String} {path : String} {fromFiles : List Entries}
      (hsources : sources files s = before ++ path :: after)
      (hbefore : List.Forall₂ (Says files format) before fromFiles)
      (hfaulty : IsFaulty files format path)
  /-- the general sections, one of which is no mapping -/
  | clash {fromFiles : List Entries} {layer : Entries} {problem : LayerError}
      (hfiles : List.Forall₂ (Says files format) (sources files s) fromFiles)
      (hlayer : layer ∈ fromFiles) (hsection : ∀ es, sectionOf layer ≠ .map es)
      (hmerge : Layer.merge ((layers s fromFiles).map sectionOf) = .error problem)
  /-- the port -/
  | port {raw : Config} {v : Value} (hraw : IsRaw files format s raw)
      (hport : raw.general.get? "tftp_port" = some v) (hescaping : EscapingPort v)
  /-- the root directory, after a port that passed -/
  | root {raw : Config} {v r : Value} {n : Int} (hraw : IsRaw files format s raw)
      (hport : raw.general.get? "tftp_port" = some v) (hn : portOf v = .ok n)
      (hroot : raw.general.get? "root_dir" = some r) (hnone : r.pathCodes? = none)

/-- One of several files is the first that cannot be read, and those before it say something. -/
theorem readFiles_unforeseen_iff {paths : List String} :
    (∃ e, (readFiles files format paths).result = .error e ∧ e.isForeseen = false) ↔
      ∃ before path after fromFiles, paths = before ++ path :: after ∧
        List.Forall₂ (Says files format) before fromFiles ∧ IsFaulty files format path := by
  simp only [readFiles_eq_error_iff, ← readFile_unforeseen_iff]
  constructor
  · rintro ⟨e, ⟨before, path, after, fromFiles, hpaths, hbefore, herror⟩, he⟩
    exact ⟨before, path, after, fromFiles, hpaths, hbefore, e, herror, he⟩
  · rintro ⟨before, path, after, fromFiles, hpaths, hbefore, e, herror, he⟩
    exact ⟨e, ⟨before, path, after, fromFiles, hpaths, hbefore, herror⟩, he⟩

/-- The values that are checked are there before the check. -/
theorem IsRaw.exists_checked_keys (h : IsRaw files format s raw) :
    (∃ p, raw.general.get? "tftp_port" = some p) ∧ (∃ v, raw.general.get? "verbose" = some v) ∧
      ∃ r, raw.general.get? "root_dir" = some r :=
  ⟨h.exists_get? .port, h.exists_get? .verbose, h.exists_get? .rootDirectory⟩

/-- A configuration that is loaded passed the check, and has what is checked. -/
theorem isChecked_of_load (h : (load files format s).result = .ok c) : IsChecked c := by
  obtain ⟨raw, hraw, hcheck, -⟩ := load_eq_ok_iff.mp h
  obtain ⟨⟨p, hport⟩, ⟨v, hverbose⟩, r, hroot⟩ := hraw.exists_checked_keys
  exact isChecked_of_check files.head?_current hport hverbose hroot hcheck

/-- **A configuration can be used, and where there is none the reason is foreseen, unless something
escapes.** -/
theorem fails_foreseen_unless_escapes (files : FileSystem) (format : Format)
    (s : CommandLine.Settings) :
    (∀ c, (load files format s).result = .ok c → IsChecked c) ∧
      ((∃ e, (load files format s).result = .error e ∧ e.isForeseen = false) ↔
        Escapes files format s) := by
  refine ⟨fun c => isChecked_of_load, ?_⟩
  simp only [load_eq_error_iff]
  constructor
  · rintro ⟨e, hread | ⟨fromFiles, problem, hall, hmerge, rfl⟩ | ⟨raw, hraw, hcheck⟩, he⟩
    · obtain ⟨before, path, after, fromFiles, hsources, hbefore, hfaulty⟩ :=
        readFiles_unforeseen_iff.mp ⟨e, hread, he⟩
      exact .reading hsources hbefore hfaulty
    · have hclash := merge_eq_error_iff.mp hmerge
      obtain ⟨layer, hlayer, hsection⟩ := exists_sectionOf_ne_map hclash
      rcases mem_layers_iff.mp hlayer with rfl | hlayer | rfl
      · exact absurd (isLayer_ofSettings s).sectionOf_eq (hsection _)
      · exact .clash hall hlayer hsection hclash
      · exact absurd isLayer_defaults.sectionOf_eq (hsection _)
    · obtain ⟨⟨p, hport⟩, ⟨v, hverbose⟩, r, hroot⟩ := hraw.exists_checked_keys
      obtain hescaping | ⟨⟨n, hn⟩, hnone⟩ :=
        (check_unforeseen_iff files.head?_current hport hverbose hroot).mp ⟨e, hcheck, he⟩
      · exact .port hraw hport hescaping
      · exact .root hraw hport hn hroot hnone
  · rintro (⟨hsources, hbefore, hfaulty⟩ | ⟨hall, -, -, hclash⟩ | ⟨hraw, hport, hescaping⟩ |
      ⟨hraw, hport, hn, hroot, hnone⟩)
    · obtain ⟨e, hread, he⟩ :=
        readFiles_unforeseen_iff.mpr ⟨_, _, _, _, hsources, hbefore, hfaulty⟩
      exact ⟨e, .inl hread, he⟩
    · exact ⟨_, .inr (.inl ⟨_, _, hall, merge_eq_error_iff.mpr hclash, rfl⟩), rfl⟩
    · obtain ⟨-, ⟨v, hverbose⟩, r, hroot⟩ := hraw.exists_checked_keys
      obtain ⟨e, hcheck, he⟩ :=
        (check_unforeseen_iff files.head?_current hport hverbose hroot).mpr (.inl hescaping)
      exact ⟨e, .inr (.inr ⟨_, hraw, hcheck⟩), he⟩
    · obtain ⟨-, ⟨v, hverbose⟩, -⟩ := hraw.exists_checked_keys
      obtain ⟨e, hcheck, he⟩ :=
        (check_unforeseen_iff files.head?_current hport hverbose hroot).mpr (.inr ⟨⟨_, hn⟩, hnone⟩)
      exact ⟨e, .inr (.inr ⟨_, hraw, hcheck⟩), he⟩

/-- A main file that sets the port to infinity. -/
def infinitePort : String := "general: \x7btftp_port: .inf\x7d\n"

/-- The text means a mapping with a mapping in it, and is refused for nothing in its form. -/
theorem read_infinitePort : Yaml.read infinitePort =
    .ok (.map [(.text sectionKey, .map [(.text "tftp_port", .float (.infinite false))])]) :=
  eq_ok_of_isMeaning (by decide +kernel)

/-- The main file is a mapping, and its port is refused without words. -/
theorem exists_infinite_port :
    ∃ (files : FileSystem) (e : ConfigError),
      files.read defaultFile = .ok infinitePort.toUTF8.data.toList ∧
        (load files Yaml.read {}).result = .error e ∧ e.isForeseen = false := by
  refine ⟨onlyMain infinitePort, .infinitePort, read_onlyMain infinitePort, ?_, rfl⟩
  rw [load_onlyMain read_infinitePort rfl]
  rfl

end Config

end Tftp
