import Tftp.Value

/-!
# Layers of configuration

A configuration is looked up in several layers, the highest priority first. The first layer that
has a key gives its value; a key that is set to null in a layer is set.

* `Entries` — the entries of a mapping, with every key at most once, in the order in which the
  keys were first set;
* `Layer.merge` — one mapping from layers that should be mappings.

A layer that is no mapping is a fault as soon as something is looked up in it. Collections offer
their items as keys, so that the fault depends on what is looked up and in which layer it is found.
-/

namespace Tftp

/-- The entries of a mapping. -/
abbrev Entries := List (Value × Value)

namespace Entries

/-- The value of a key. -/
def find? (es : Entries) (key : Value) : Option Value :=
  (List.find? (fun e => e.1.same key) es).map Prod.snd

/-- The value of a key that is a text. -/
def get? (es : Entries) (key : String) : Option Value :=
  es.find? (.text key)

/-- The entries with a key set. A key that was there keeps its place. -/
def insert (es : Entries) (key value : Value) : Entries :=
  match es with
  | [] => [(key, value)]
  | (k, v) :: rest =>
    if k.same key then (k, value) :: rest else (k, v) :: Entries.insert rest key value

/-- The entries with a key that is a text set. -/
def set (es : Entries) (key : String) (value : Value) : Entries :=
  es.insert (.text key) value

/-- The entries without a key that is a text. -/
def erase (es : Entries) (key : String) : Entries :=
  es.filter fun e => !e.1.same (.text key)

/-- The entries that come of setting keys one after the other. -/
def ofList (xs : List (Value × Value)) : Entries :=
  xs.foldl (fun es (k, v) => es.insert k v) []

/-! ### Looking up after a change

Only the key that is set or erased is another one afterwards. It is a text, but what is looked up
may be a key of any kind. -/

/-- Looking up goes through the entries in order, and ends at the first key that is the same. -/
theorem find?_cons (k v : Value) (es : Entries) (key : Value) :
    find? ((k, v) :: es) key = if k.same key then some v else es.find? key := by
  cases h : k.same key <;> simp [find?, h]

/-- Setting a key leaves every key alone that is not the same. -/
theorem find?_set {key : Value} {name : String} (es : Entries) (value : Value)
    (h : (Value.text name).same key = false) : (es.set name value).find? key = es.find? key := by
  induction es with
  | nil => simp [set, insert, find?_cons, h]
  | cons e rest ih =>
    obtain ⟨k, v⟩ := e
    simp only [set, insert] at ih ⊢
    split
    · next hk =>
      obtain rfl := Value.eq_text_of_same hk
      simp [find?_cons, h]
    · simp [find?_cons, ih]

/-- Erasing a key leaves every key alone that is not the same. -/
theorem find?_erase {key : Value} {name : String} (es : Entries)
    (h : (Value.text name).same key = false) : (es.erase name).find? key = es.find? key := by
  induction es with
  | nil => rfl
  | cons e rest ih =>
    obtain ⟨k, v⟩ := e
    simp only [erase, List.filter_cons] at ih ⊢
    cases hk : k.same (.text name) with
    | false => simp [find?_cons, ih]
    | true =>
      obtain rfl := Value.eq_text_of_same hk
      simpa [find?_cons, h] using ih

@[simp] theorem get?_nil (key : String) : Entries.get? [] key = none := rfl

/-- Looking up a text goes through the entries in order as well. -/
theorem get?_cons (k v : Value) (es : Entries) (key : String) :
    Entries.get? ((k, v) :: es) key = if k.same (.text key) then some v else es.get? key :=
  find?_cons k v es (.text key)

/-- A key that was set has its value. -/
@[simp] theorem get?_set_self (es : Entries) (key : String) (value : Value) :
    (es.set key value).get? key = some value := by
  induction es with
  | nil => simp [set, insert, get?_cons]
  | cons e rest ih =>
    obtain ⟨k, v⟩ := e
    simp only [set, insert] at ih ⊢
    split
    · next h => simp [get?_cons, h]
    · next h => simpa [get?_cons, h] using ih

/-- Setting a key leaves the other texts alone. -/
theorem get?_set_of_ne {key other : String} (es : Entries) (value : Value) (h : other ≠ key) :
    (es.set key value).get? other = es.get? other :=
  es.find?_set value (by simp [Ne.symm h])

/-- A key that was erased has no value. -/
@[simp] theorem get?_erase_self (es : Entries) (key : String) :
    (es.erase key).get? key = none := by
  simp [erase, get?, find?, List.find?_eq_none]

/-- Erasing a key leaves the other texts alone. -/
theorem get?_erase_of_ne {key other : String} (es : Entries) (h : other ≠ key) :
    (es.erase key).get? other = es.get? other :=
  es.find?_erase (by simp [Ne.symm h])

end Entries

/-- Why a layer cannot be merged. -/
inductive LayerError where
  /-- the layer is of a kind that cannot be looked into in this way -/
  | wrongKind
  /-- a number that is not a position in a list -/
  | noSuchItem
  /-- a number that is not a position in a byte string -/
  | noSuchByte
  deriving DecidableEq, Repr, Inhabited

namespace Layer

/-- Whether a value can be a key. -/
def isKey : Value → Bool
  | .list _ | .set _ | .map _ | .cyclic .. => false
  | _ => true

/-- The keys that a layer offers. -/
def keys : Value → Except LayerError (List Value)
  | .map es => .ok (es.map Prod.fst)
  | .list xs | .tuple xs | .set xs => if xs.all isKey then .ok xs else .error .wrongKind
  | .text s => .ok (s.toList.map fun c => .text (String.singleton c))
  | .codes cs => .ok (cs.map fun n => .ofCodes [n])
  | .bytes s => .ok (s.map fun b => .int b.toNat)
  | _ => .error .wrongKind

/-- The position that a key names in a list of a length; negative ones count from the end. -/
def position (length : Nat) (outside : LayerError) (key : Value) : Except LayerError Nat :=
  let locate (n : Int) : Except LayerError Nat :=
    let i := if n < 0 then n + length else n
    if 0 ≤ i ∧ i < length then .ok i.toNat else .error outside
  match key with
  | .int n => locate n
  | .bool b => locate b.toInt
  | _ => .error .wrongKind

/-- The value of a key in a layer. Only a mapping can lack a key. -/
def lookup (key : Value) : Value → Except LayerError (Option Value)
  | .map es => .ok (Entries.find? es key)
  | .list xs | .tuple xs => do
    let i ← position xs.length .noSuchItem key
    return xs[i]?
  | .text s => do
    let i ← position s.length .noSuchItem key
    return s.toList[i]?.map fun c => .text (String.singleton c)
  | .codes cs => do
    let i ← position cs.length .noSuchItem key
    return cs[i]?.map fun n => .ofCodes [n]
  | .bytes s => do
    let i ← position s.length .noSuchByte key
    return s[i]?.map fun b => .int b.toNat
  | _ => .error .wrongKind

/-- The value of a key in the first layer that has it. -/
def lookupFirst (key : Value) : List Value → Except LayerError (Option Value)
  | [] => .ok none
  | layer :: layers => do
    match ← lookup key layer with
    | some v => return some v
    | none => lookupFirst key layers

/-- The keys of all layers, those of the lowest layer first. -/
def allKeys : List Value → Except LayerError (List Value)
  | [] => .ok []
  | layer :: layers => do
    let below ← allKeys layers
    let own ← keys layer
    return own.foldl (fun ks k => if ks.any (·.same k) then ks else ks ++ [k]) below

/-- The mapping of every key to its value in the first layer that has it. -/
def merge (layers : List Value) : Except LayerError Entries := do
  let ks ← allKeys layers
  ks.filterMapM fun k => do
    let v ← lookupFirst k layers
    return v.map fun v => (k, v)

end Layer

end Tftp
