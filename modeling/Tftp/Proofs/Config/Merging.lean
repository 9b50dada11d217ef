import Mathlib.Data.List.Basic
import Tftp.Proofs.Config.Keys

/-!
# What a merged mapping has

A mapping that is merged from layers has for every key the value that is found for it: the value in
the first layer that has the key.

* `Layer.found?` — the value that is found for a key;
* `Layer.exists_keys_of_merge` — a merged mapping is made of keys and what is found for them;
* `Layer.find?_merge` — layers that are mappings, looked up under any key;
* `Layer.get?_merge` — layers that are mappings, looked up under a text;
* `Layer.lookupFirst_of_merge` — layers of any kind, looked up under a text of the lowest one.

A key of the merged mapping is that of the lowest layer that has it, and may be another value than
the key of the layer above. That both find the same is where being the same key must be an
equivalence. A text is the same key as no other value, so that no such thing happens to it.
-/

namespace Tftp

namespace Entries

/-- The same key has the same value, whichever of its values is looked up. -/
theorem find?_congr {es : Entries} {k l : Value} (hes : ∀ e ∈ es, e.1.IsKey) (hk : k.IsKey)
    (hl : l.IsKey) (h : k.same l = true) : es.find? k = es.find? l := by
  induction es with
  | nil => rfl
  | cons e es ih =>
    have he := hes e List.mem_cons_self
    have hsame : e.1.same k = e.1.same l := by
      rw [Bool.eq_iff_iff]
      constructor
      · exact fun hek => he.same_trans hl hek h
      · exact fun hel => he.same_trans hk hel ((hk.same_comm l).symm.trans h)
    rw [find?_cons, find?_cons, hsame, ih fun e he => hes e (List.mem_cons_of_mem _ he)]

/-- What is found belongs to one of the entries. The key of the entry is the same as the one that
was looked up, and need not be equal to it. -/
theorem exists_mem_of_find? {es : Entries} {k v : Value} (h : es.find? k = some v) :
    ∃ e ∈ es, e.1.same k = true ∧ e.2 = v := by
  obtain ⟨e, he, hv⟩ := Option.map_eq_some_iff.mp h
  exact ⟨e, List.mem_of_find?_eq_some he, by simpa using List.find?_some he, hv⟩

/-- Entries are made of keys and what belongs to them. Where it does not matter which of the same
keys is asked for, the entries have what belongs to the key that is looked up. -/
theorem find?_filterMap {ks : List Value} {f : Value → Option Value} {key : Value}
    (h : ∀ k ∈ ks, k.same key = true → f k = f key) :
    Entries.find? (ks.filterMap fun k => (f k).map fun v => (k, v)) key =
      if ks.any (·.same key) then f key else none := by
  induction ks with
  | nil => rfl
  | cons k ks ih =>
    have ih := ih fun l hl => h l (List.mem_cons_of_mem _ hl)
    rw [List.any_cons]
    cases hk : k.same key with
    | false =>
      rw [Bool.false_or, ← ih]
      cases hv : f k <;> simp [hv, find?_cons, hk]
    | true =>
      have hf : f k = f key := h k List.mem_cons_self hk
      cases hv : f k with
      | none =>
        rw [List.filterMap_cons_none (by rw [hv]; rfl), ih, ← hf, hv]
        simp
      | some v =>
        rw [← hf, hv, List.filterMap_cons_some (by rw [hv]; rfl)]
        simp [find?_cons, hk]

end Entries

namespace Layer

/-- The value that is found for a key. -/
def found? (layers : List Value) (key : Value) : Option Value :=
  (lookupFirst key layers).toOption.join

variable {layers : List Value} {layer : Value} {key k : Value} {ks own : List Value} {es : Entries}

/-! ## The keys

The keys are gathered from the lowest layer up, and a key is added where none that is the same is
there. Two facts about this are all that is needed later: no key comes from nowhere, and no key of a
layer is lost. -/

/-- The keys with one more, unless it is among them already. A key that is there in another form
stays in that form. -/
def addKey (ks : List Value) (k : Value) : List Value :=
  if ks.any (·.same k) then ks else ks ++ [k]

/-- The keys with those of a layer. -/
def addKeys (ks own : List Value) : List Value :=
  own.foldl addKey ks

/-- A key that is there after one was added was there before, or is the one that was added. -/
theorem mem_addKey {o : Value} (h : k ∈ addKey ks o) : k ∈ ks ∨ k = o := by
  unfold addKey at h
  split at h
  · exact .inl h
  · simpa using h

/-- Adding a key takes none away, and changes the form of none. -/
theorem mem_addKey_of_mem (o : Value) (h : k ∈ ks) : k ∈ addKey ks o := by
  unfold addKey
  split
  · exact h
  · exact List.mem_append_left _ h

/-- A key that was added is there, in the form that it had first. -/
theorem exists_same_mem_addKey (ks : List Value) (h : k.same k = true) :
    ∃ l ∈ addKey ks k, l.same k = true := by
  unfold addKey
  split
  · next hany => exact List.any_eq_true.mp hany
  · exact ⟨k, List.mem_append_right _ (List.mem_singleton.mpr rfl), h⟩

/-- A key that is there after those of a layer were added was there before, or is one of the layer.
The induction is on the keys of the layer, with the keys before them left general. -/
theorem mem_addKeys (h : k ∈ addKeys ks own) : k ∈ ks ∨ k ∈ own := by
  induction own generalizing ks with
  | nil => exact .inl h
  | cons o own ih =>
    rcases ih h with hks | hown
    · rcases mem_addKey hks with hks | rfl
      · exact .inl hks
      · exact .inr List.mem_cons_self
    · exact .inr (List.mem_cons_of_mem _ hown)

/-- Adding the keys of a layer takes none away. -/
theorem mem_addKeys_of_mem (own : List Value) (h : k ∈ ks) : k ∈ addKeys ks own := by
  induction own generalizing ks with
  | nil => exact h
  | cons o own ih => exact ih (mem_addKey_of_mem o h)

/-- Each key of a layer that was added is there, in the form that it had first. It must be the same
as itself, without which it would not be found again once it was added. -/
theorem exists_same_mem_addKeys (h : k ∈ own) (hself : k.same k = true) :
    ∃ l ∈ addKeys ks own, l.same k = true := by
  induction own generalizing ks with
  | nil => cases h
  | cons o own ih =>
    rcases List.mem_cons.mp h with rfl | h
    · obtain ⟨l, hl, hsame⟩ := exists_same_mem_addKey ks hself
      exact ⟨l, mem_addKeys_of_mem own hl, hsame⟩
    · exact ih h

/-- The keys of several layers are those of the layers below, with those of the highest one
added. So a key has the form that it has in the lowest layer, although the highest layer gives
its value. -/
theorem allKeys_cons (h : allKeys (layer :: layers) = .ok ks) :
    ∃ below own, allKeys layers = .ok below ∧ keys layer = .ok own ∧ ks = addKeys below own := by
  rw [allKeys] at h
  cases hbelow : allKeys layers with
  | error e =>
    rw [hbelow] at h
    cases h
  | ok below =>
    rw [hbelow] at h
    cases hown : keys layer with
    | error e =>
      rw [hown] at h
      cases h
    | ok own =>
      rw [hown] at h
      exact ⟨below, own, rfl, rfl, (Except.ok.inj h).symm⟩

/-- No key comes from nowhere: each of them is a key of one of the layers, in this very form. -/
theorem exists_mem_keys_of_mem_allKeys (h : allKeys layers = .ok ks) (hk : k ∈ ks) :
    ∃ layer ∈ layers, ∃ own, keys layer = .ok own ∧ k ∈ own := by
  induction layers generalizing ks with
  | nil =>
    obtain rfl := Except.ok.inj h
    cases hk
  | cons layer layers ih =>
    obtain ⟨below, own, hbelow, hown, rfl⟩ := allKeys_cons h
    rcases mem_addKeys hk with hk | hk
    · obtain ⟨found, hmem, hfound⟩ := ih hbelow hk
      exact ⟨found, List.mem_cons_of_mem _ hmem, hfound⟩
    · exact ⟨layer, List.mem_cons_self, own, hown, hk⟩

/-- A key of one of the layers is there, in the form that it has in the lowest one. -/
theorem exists_same_mem_allKeys (h : allKeys layers = .ok ks) (hlayer : layer ∈ layers)
    (hown : keys layer = .ok own) (hk : k ∈ own) (hself : k.same k = true) :
    ∃ l ∈ ks, l.same k = true := by
  induction layers generalizing ks with
  | nil => cases hlayer
  | cons first layers ih =>
    obtain ⟨below, firstOwn, hbelow, hfirst, rfl⟩ := allKeys_cons h
    rcases List.mem_cons.mp hlayer with rfl | hlayer
    · obtain rfl := Except.ok.inj (hfirst.symm.trans hown)
      exact exists_same_mem_addKeys hk hself
    · obtain ⟨l, hl, hsame⟩ := ih hbelow hlayer
      exact ⟨l, mem_addKeys_of_mem firstOwn hl, hsame⟩

/-! ## The merged mapping

Each key that was gathered is looked up in the layers. Whether the merged mapping has something
under another key, which is the same as one that was gathered, is then the question of
`find?_of_merge`. -/

/-- What is gathered from several keys, where a key may come to nothing. Gathering fails with the
first key that fails, and so where it did not, none of the keys did. -/
theorem of_filterMapM_eq_ok {ε α β : Type} {f : α → Except ε (Option β)} {xs : List α}
    {ys : List β} (h : xs.filterMapM f = .ok ys) :
    (∀ x ∈ xs, ∃ y, f x = .ok y) ∧ ys = xs.filterMap fun x => (f x).toOption.join := by
  induction xs generalizing ys with
  | nil =>
    obtain rfl := Except.ok.inj h
    exact ⟨nofun, rfl⟩
  | cons x xs ih =>
    rw [List.filterMapM_cons] at h
    cases hx : f x with
    | error e =>
      rw [hx] at h
      cases h
    | ok y =>
      rw [hx] at h
      cases y with
      | none =>
        obtain ⟨hall, hys⟩ := ih h
        refine ⟨List.forall_mem_cons.mpr ⟨⟨_, hx⟩, hall⟩, ?_⟩
        rw [List.filterMap_cons_none (by rw [hx]; rfl), hys]
      | some y =>
        cases hxs : xs.filterMapM f with
        | error e =>
          simp only [hxs] at h
          cases h
        | ok rest =>
          simp only [hxs] at h
          obtain rfl := Except.ok.inj h
          obtain ⟨hall, hys⟩ := ih hxs
          refine ⟨List.forall_mem_cons.mpr ⟨⟨_, hx⟩, hall⟩, ?_⟩
          rw [List.filterMap_cons_some (by rw [hx]; rfl), hys]

/-- **A merged mapping is made of the keys of all layers, and of what is found for them.** This
takes the merging apart into its two loops, and nothing after it looks at them again. -/
theorem exists_keys_of_merge (h : merge layers = .ok es) :
    ∃ ks, allKeys layers = .ok ks ∧ (∀ k ∈ ks, ∃ v, lookupFirst k layers = .ok v) ∧
      es = ks.filterMap fun k => (found? layers k).map fun v => (k, v) := by
  rw [merge] at h
  cases hks : allKeys layers with
  | error e =>
    rw [hks] at h
    cases h
  | ok ks =>
    rw [hks] at h
    obtain ⟨hall, hes⟩ := of_filterMapM_eq_ok h
    refine ⟨ks, rfl, fun k hk => ?_, ?_⟩
    · obtain ⟨y, hy⟩ := hall k hk
      cases hfirst : lookupFirst k layers with
      | error e =>
        rw [hfirst] at hy
        cases hy
      | ok v => exact ⟨v, rfl⟩
    · rw [hes]
      congr 1
      funext k
      rw [found?]
      cases lookupFirst k layers with
      | error e => rfl
      | ok v => cases v <;> rfl

/-- What a merged mapping has, where it does not matter which of the same keys is asked for. -/
theorem find?_of_merge (h : merge layers = .ok es) (hks : allKeys layers = .ok ks)
    (hcongr : ∀ k ∈ ks, k.same key = true → found? layers k = found? layers key) :
    es.find? key = if ks.any (·.same key) then found? layers key else none := by
  obtain ⟨ks', hks', -, rfl⟩ := exists_keys_of_merge h
  obtain rfl := Except.ok.inj (hks.symm.trans hks')
  exact Entries.find?_filterMap hcongr

/-- A text is not asked for in any other form. -/
theorem get?_of_merge (h : merge layers = .ok es) (hks : allKeys layers = .ok ks) (key : String) :
    es.get? key = if ks.any (·.same (.text key)) then found? layers (.text key) else none :=
  find?_of_merge h hks fun _ _ hsame => by rw [Value.eq_text_of_same hsame]

/-! ## Layers that are mappings

Here nothing fails, and being the same key is the equivalence of `Value.IsKey`. The merged mapping
has what the first layer has, under whichever of the same keys it is asked. -/

variable {maps : List Entries} {m : Entries} {v : Value}

/-- In layers that are mappings nothing can fail, and the first layer that has the key gives its
value. -/
theorem lookupFirst_map (key : Value) (maps : List Entries) :
    lookupFirst key (maps.map .map) = .ok (maps.findSome? (·.find? key)) := by
  induction maps with
  | nil => rfl
  | cons m maps ih =>
    rw [List.map_cons, lookupFirst, lookup, List.findSome?_cons]
    cases hm : m.find? key with
    | some v => rfl
    | none => exact ih

/-- What is found in layers that are mappings is what the first of them has. -/
theorem found?_map (key : Value) (maps : List Entries) :
    found? (maps.map .map) key = maps.findSome? (·.find? key) := by
  rw [found?, lookupFirst_map]
  rfl

/-- Mappings have keys to offer. -/
theorem exists_allKeys_map (maps : List Entries) : ∃ ks, allKeys (maps.map .map) = .ok ks := by
  induction maps with
  | nil => exact ⟨[], rfl⟩
  | cons m maps ih =>
    obtain ⟨ks, hks⟩ := ih
    refine ⟨addKeys ks (m.map Prod.fst), ?_⟩
    rw [List.map_cons, allKeys, hks]
    rfl

/-- Mappings can be merged. No look-up in a mapping fails, whatever key is looked up. -/
theorem exists_merge_map (maps : List Entries) : ∃ es, merge (maps.map .map) = .ok es := by
  obtain ⟨ks, hks⟩ := exists_allKeys_map maps
  have hgather : ∀ xs : List Value, ∃ es, (xs.filterMapM fun k => do
      let v ← lookupFirst k (maps.map .map)
      return v.map fun v => (k, v) : Except LayerError Entries) = .ok es := by
    intro xs
    induction xs with
    | nil => exact ⟨[], rfl⟩
    | cons x xs ih =>
      obtain ⟨es, hes⟩ := ih
      rw [List.filterMapM_cons, hes, lookupFirst_map]
      cases maps.findSome? (·.find? x) with
      | none => exact ⟨es, rfl⟩
      | some v => exact ⟨(x, v) :: es, rfl⟩
  obtain ⟨es, hes⟩ := hgather ks
  refine ⟨es, ?_⟩
  rw [merge, hks]
  exact hes

/-- What a mapping among the layers has is found under one of the merged keys, provided that the key
of its entry is the same as itself. -/
theorem exists_same_mem_of_find? (hks : allKeys layers = .ok ks) (hm : .map m ∈ layers)
    (hv : m.find? key = some v) :
    ∃ e ∈ m, e.1.same key = true ∧ (e.1.same e.1 = true → ∃ l ∈ ks, l.same e.1 = true) := by
  obtain ⟨e, he, hsame, -⟩ := Entries.exists_mem_of_find? hv
  refine ⟨e, he, hsame, fun hself => ?_⟩
  exact exists_same_mem_allKeys hks hm rfl (List.mem_map_of_mem he) hself

/-- What is found first is the same for two functions that agree on the list. -/
theorem findSome?_congr {α β : Type} {f g : α → Option β} {xs : List α}
    (h : ∀ x ∈ xs, f x = g x) : xs.findSome? f = xs.findSome? g := by
  induction xs with
  | nil => rfl
  | cons x xs ih =>
    rw [List.findSome?_cons, List.findSome?_cons, h x List.mem_cons_self,
      ih fun x hx => h x (List.mem_cons_of_mem _ hx)]

/-- **A merged mapping has the value of the first layer that has the key.** -/
theorem find?_merge (hmaps : ∀ m ∈ maps, ∀ e ∈ m, e.1.IsKey) (hkey : key.IsKey)
    (h : merge (maps.map .map) = .ok es) : es.find? key = maps.findSome? (·.find? key) := by
  obtain ⟨ks, hks⟩ := exists_allKeys_map maps
  have hkeys : ∀ k ∈ ks, k.IsKey := by
    intro k hk
    obtain ⟨layer, hlayer, own, hown, hk⟩ := exists_mem_keys_of_mem_allKeys hks hk
    obtain ⟨m, hm, rfl⟩ := List.mem_map.mp hlayer
    obtain rfl := Except.ok.inj hown
    obtain ⟨e, he, rfl⟩ := List.mem_map.mp hk
    exact hmaps m hm e he
  have hcongr : ∀ k ∈ ks, k.same key = true →
      found? (maps.map .map) k = found? (maps.map .map) key := by
    intro k hk hsame
    rw [found?_map, found?_map]
    exact findSome?_congr fun m hm =>
      Entries.find?_congr (hmaps m hm) (hkeys k hk) hkey hsame
  rw [find?_of_merge h hks hcongr, found?_map]
  split
  · rfl
  · next hany =>
    -- no layer has the key, since the merged keys would have it
    refine (List.findSome?_eq_none_iff.mpr fun m hm => ?_).symm
    cases hv : m.find? key with
    | none => rfl
    | some v =>
      obtain ⟨e, he, hsame, hthere⟩ := exists_same_mem_of_find? hks (List.mem_map_of_mem hm) hv
      obtain ⟨l, hl, hle⟩ := hthere (hmaps m hm e he).same_self
      have hlkey := (hkeys l hl).same_trans hkey hle hsame
      exact absurd (List.any_eq_true.mpr ⟨l, hl, hlkey⟩) hany

/-- A text under which one of the layers has something is among the merged keys, and can be there in
no other form. -/
theorem text_mem_allKeys {name : String} (hks : allKeys layers = .ok ks) (hm : .map m ∈ layers)
    (hv : m.get? name = some v) : ks.any (·.same (.text name)) = true := by
  obtain ⟨e, he, hsame, hthere⟩ := exists_same_mem_of_find? hks hm hv
  obtain ⟨l, hl, hle⟩ := hthere (by rw [Value.eq_text_of_same hsame]; simp)
  rw [Value.eq_text_of_same hsame] at hle
  exact List.any_eq_true.mpr ⟨l, hl, hle⟩

/-- A text is looked up in the same way, whatever else the layers have as keys. -/
theorem get?_merge (h : merge (maps.map .map) = .ok es) (name : String) :
    es.get? name = maps.findSome? (·.get? name) := by
  obtain ⟨ks, hks⟩ := exists_allKeys_map maps
  rw [get?_of_merge h hks, found?_map]
  split
  · rfl
  · next hany =>
    refine (List.findSome?_eq_none_iff.mpr fun m hm => ?_).symm
    cases hv : m.get? name with
    | none => rfl
    | some v => exact absurd (text_mem_allKeys hks (List.mem_map_of_mem hm) hv) hany

/-! ## Layers of any kind

A layer may be a list or a text, in which only some keys can be looked up. What is said here is what
the check of the general section needs: where the merging came to an end, an entry that the lowest
layer has is there. -/

/-- Where the search comes to nothing, it has looked into each layer without a fault, and each of
them had nothing. -/
theorem lookup_of_lookupFirst (h : lookupFirst key layers = .ok none) (hlayer : layer ∈ layers) :
    lookup key layer = .ok none := by
  induction layers with
  | nil => cases hlayer
  | cons first layers ih =>
    rw [lookupFirst] at h
    cases hfirst : lookup key first with
    | error e =>
      rw [hfirst] at h
      cases h
    | ok found =>
      rw [hfirst] at h
      cases found with
      | some v => cases h
      | none =>
        rcases List.mem_cons.mp hlayer with rfl | hlayer
        · exact hfirst
        · exact ih h hlayer

/-- **Where layers of any kind could be merged, a text of one that is a mapping was found.** -/
theorem lookupFirst_of_merge {name : String} (h : merge layers = .ok es) (hm : .map m ∈ layers)
    (hv : m.get? name = some v) :
    ∃ w, lookupFirst (.text name) layers = .ok (some w) ∧ es.get? name = some w := by
  obtain ⟨ks, hks, hall, -⟩ := exists_keys_of_merge h
  have hany := text_mem_allKeys hks hm hv
  obtain ⟨l, hl, hle⟩ := List.any_eq_true.mp hany
  obtain ⟨found, hfound⟩ := hall l hl
  rw [Value.eq_text_of_same hle] at hfound
  cases found with
  | none =>
    have hlookup := lookup_of_lookupFirst hfound hm
    rw [lookup, show m.find? (.text name) = some v from hv] at hlookup
    cases hlookup
  | some w =>
    refine ⟨w, hfound, ?_⟩
    rw [get?_of_merge h hks, if_pos hany, found?, hfound]
    rfl

end Layer

end Tftp
