import Mathlib.Data.List.Basic
import Tftp.Packet.Decode
import Tftp.Packet.Encode

/-!
# Fields in a byte string

The fields of a request are byte strings without a null byte in them, and a null byte follows each.
This module is about such fields alone, without what they mean:

* `Bytes.terminated` — fields with a null byte after each;
* `Bytes.splitOn_terminated` and `Bytes.exists_eq_terminated` — where they are in a byte string,
  which is made of fields as soon as it ends in a null byte;
* `Draft.joinFields_eq_terminated` — fields are written just so;
* `Draft.exists_eq_optionFields` — fields in an even number are names and values of options.
-/

namespace Tftp

namespace Bytes

/-- Fields, with a null byte after each. No field has a null byte in it, which is what makes their
ends known. -/
def terminated (fields : List Bytes) : Bytes :=
  fields.flatMap fun field => field ++ [0]

@[simp] theorem terminated_nil : terminated [] = [] := rfl

/-- The first field ends at the first null byte. -/
@[simp] theorem terminated_cons (field : Bytes) (rest : List Bytes) :
    terminated (field :: rest) = field ++ 0 :: terminated rest := by
  simp [terminated]

variable {fields : List Bytes}

/-- The test that is made before fields are written finds the null bytes in them. -/
theorem any_contains_zero_iff :
    fields.any (·.contains 0) = true ↔ ∃ field ∈ fields, 0 ∈ field := by
  simp

/-- A byte string of fields is split at their ends, with nothing left after the last. The empty rest
is there since the last field, too, is followed by a null byte. -/
theorem splitOn_terminated (h : ∀ field ∈ fields, 0 ∉ field) :
    (terminated fields).splitOn 0 = fields ++ [[]] := by
  induction fields with
  | nil => rfl
  | cons field rest ih =>
    have hrest := ih fun f hf => h f (List.mem_cons_of_mem _ hf)
    rw [terminated_cons, List.splitOn_append_cons_self_of_not_mem (h field List.mem_cons_self),
      hrest, List.cons_append]

/-- A byte string of fields ends in a null byte, unless it has no fields. The converse is
`exists_eq_terminated`. -/
theorem getLast?_terminated (h : fields ≠ []) : (terminated fields).getLast? = some 0 := by
  obtain ⟨init, last, rfl⟩ := (List.eq_nil_or_concat fields).resolve_left h
  simp [List.concat_eq_append, terminated]

/-- A byte string that ends in a null byte is made of fields. The induction is on the bytes: one
that is put in front begins an empty field if it is null, and is the first byte of the first field
otherwise. -/
theorem exists_eq_terminated {s : Bytes} (h : s.getLast? = some 0) :
    ∃ fields, (∀ field ∈ fields, 0 ∉ field) ∧ s = terminated fields := by
  induction s with
  | nil => cases h
  | cons b rest ih =>
    by_cases hrest : rest = []
    · subst hrest
      obtain rfl : b = 0 := by simpa using h
      exact ⟨[[]], by simp, rfl⟩
    · rw [List.getLast?_cons_of_ne_nil hrest] at h
      obtain ⟨fields, hnull, rfl⟩ := ih h
      by_cases hb : b = 0
      · -- an empty field comes first
        subst hb
        refine ⟨[] :: fields, ?_, by simp⟩
        exact List.forall_mem_cons.mpr ⟨List.not_mem_nil, hnull⟩
      · -- the byte belongs to the first field
        cases fields with
        | nil => exact absurd rfl hrest
        | cons field fields =>
          obtain ⟨hfield, hfields⟩ := List.forall_mem_cons.mp hnull
          refine ⟨(b :: field) :: fields, ?_, by simp⟩
          refine List.forall_mem_cons.mpr ⟨?_, hfields⟩
          rw [List.mem_cons, not_or]
          exact ⟨Ne.symm hb, hfield⟩

end Bytes

namespace Draft

/-- Fields are written with a null byte after each. They are put together with null bytes between
them and one at the end, which is the same as soon as there is a field. -/
theorem joinFields_eq_terminated {fields : List Bytes} (h : fields ≠ []) :
    joinFields fields = Bytes.terminated fields := by
  induction fields with
  | nil => exact absurd rfl h
  | cons field rest ih =>
    cases rest with
    | nil => simp [joinFields, List.intercalate]
    | cons next rest =>
      have hrest := ih (List.cons_ne_nil _ _)
      rw [joinFields] at hrest
      rw [joinFields, List.intercalate_cons_cons, Bytes.terminated_cons, ← hrest]
      simp

/-- No options have no fields. -/
@[simp] theorem optionFields_nil : optionFields [] = [] := rfl

/-- An option has two fields, its name and its value. -/
@[simp] theorem optionFields_cons (option : Bytes × Bytes) (rest : Options) :
    optionFields (option :: rest) = option.1 :: option.2 :: optionFields rest := rfl

/-- Options have fields in an even number, so that a datagram with an odd number of them is
refused. -/
theorem length_optionFields (options : Options) :
    (optionFields options).length = 2 * options.length := by
  induction options with
  | nil => rfl
  | cons option rest ih =>
    rw [optionFields_cons, List.length_cons, List.length_cons, List.length_cons, ih]
    omega

/-- A field of options is the name or the value of one. -/
theorem mem_optionFields {options : Options} {field : Bytes} :
    field ∈ optionFields options ↔ ∃ option ∈ options, field = option.1 ∨ field = option.2 := by
  simp [optionFields]

/-- Fields in an even number are those of options. They are taken two by two, and every one of them
may be a name or a value. -/
theorem exists_eq_optionFields {fields : List Bytes} (h : fields.length % 2 = 0) :
    ∃ options, fields = optionFields options := by
  match fields with
  | [] => exact ⟨[], rfl⟩
  | [_] => cases h
  | name :: value :: rest =>
    have hrest : rest.length % 2 = 0 := by
      rw [List.length_cons, List.length_cons] at h
      omega
    obtain ⟨options, rfl⟩ := exists_eq_optionFields hrest
    exact ⟨(name, value) :: options, rfl⟩

end Draft

end Tftp
