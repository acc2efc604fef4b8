import DeploySync.Proofs.Properties
import Mathlib.Data.Finset.Dedup
import Mathlib.Data.Finset.Card

/-!
# Properties put together by inserts

Properties are put together from a list of keys and values, or one by one, and a key may come more
than once. It keeps the place at which it came first and has the value that came last. The file of
the properties gives them back exactly if none of these values holds a line break.

## Main definitions

* `Properties.Built` — properties that are put together by inserts
* `Properties.IsLast` — the value that came last under a key
* `Properties.Records` — properties are what inserts leave

## Main results

* `Properties.keys_insert`, `Properties.get?_insert` — what one insert changes
* `Properties.keys_ofList`, `Properties.get?_ofList` — and what several of them leave
* `Properties.inserts_recorded` — properties are what inserts leave, and when their file gives them
  back
-/

namespace DeploySync

namespace Properties

variable {p : Properties} {inserts : List (String × String)} {key value : String}

/-- The keys in order. -/
def keys (p : Properties) : List String := p.entries.map (·.1)

/-- Properties that are put together by inserts: by a list of them at once, or by one more. -/
inductive Built : List (String × String) → Properties → Prop
  | ofList (inserts : List (String × String)) : Built inserts (ofList inserts)
  | insert {inserts : List (String × String)} {p : Properties} (h : Built inserts p)
    (key value : String) : Built (inserts ++ [(key, value)]) (p.insert key value)

/-- The value came under the key, and none came after it. -/
def IsLast (inserts : List (String × String)) (key value : String) : Prop :=
  ∃ before after, inserts = before ++ (key, value) :: after ∧ key ∉ after.map (·.1)

/-- The properties are what inserts leave: every key once, in the order in which the keys came
first, with the value that came last. -/
structure Records (inserts : List (String × String)) (p : Properties) : Prop where
  keys : p.keys = (inserts.map (·.1)).eraseDups
  values : ∀ key value, (key, value) ∈ p.entries ↔ IsLast inserts key value
  size : p.size = (inserts.map (·.1)).toFinset.card
  get : ∀ key value, p.get? key = some value ↔ (key, value) ∈ p.entries

/-! ### One insert -/

/-- An insert leaves the keys as they are, or adds one. -/
theorem keys_insert (p : Properties) (key value : String) :
    (p.insert key value).keys = if key ∈ p.keys then p.keys else p.keys ++ [key] := by
  split
  · next hmem => exact Table.keys_put_of_mem value hmem
  · next hmem => exact Table.keys_put_of_notMem value hmem

/-- Behind an insert its value stands under its key. -/
theorem get?_insert (p : Properties) (key value k : String) :
    (p.insert key value).get? k = if k = key then some value else p.get? k :=
  Table.lookup_put key k value p.entries

theorem nodup_keys_insert (h : p.keys.Nodup) (key value : String) :
    (p.insert key value).keys.Nodup := by
  rw [keys_insert]
  split
  · exact h
  · next hmem =>
    rw [← List.concat_eq_append, List.nodup_concat]
    exact ⟨hmem, h⟩

/-! ### Several inserts -/

theorem ofList_concat (inserts : List (String × String)) (key value : String) :
    ofList (inserts ++ [(key, value)]) = (ofList inserts).insert key value := by
  rw [ofList, List.foldl_append]
  rfl

/-- It does not matter whether inserts come in a list or one by one. -/
theorem Built.eq (h : Built inserts p) : p = Properties.ofList inserts := by
  induction h with
  | ofList => rfl
  | insert h key value ih => rw [ofList_concat, ← ih]

/-- Behind inserts the keys stand in the order in which they came first. -/
theorem keys_ofList (inserts : List (String × String)) :
    (ofList inserts).keys = (inserts.map (·.1)).eraseDups := by
  induction inserts using List.reverseRecOn with
  | nil => rfl
  | append_singleton inserts entry ih =>
    obtain ⟨key, value⟩ := entry
    rw [ofList_concat, keys_insert, ih, List.map_append, List.eraseDups_append, List.map_singleton]
    -- the last key is new, or it came before
    by_cases hmem : key ∈ inserts.map (·.1)
    · rw [if_pos (List.mem_eraseDups.2 hmem)]
      simp [List.removeAll, hmem]
    · rw [if_neg fun h => hmem (List.mem_eraseDups.1 h)]
      simp [List.removeAll, hmem, List.eraseDups_cons]

theorem nodup_keys_ofList (inserts : List (String × String)) : (ofList inserts).keys.Nodup := by
  induction inserts using List.reverseRecOn with
  | nil => exact List.nodup_nil
  | append_singleton inserts entry ih =>
    rw [ofList_concat]
    exact nodup_keys_insert ih entry.1 entry.2

/-- Behind inserts the value under a key is the first one to be found from the end. -/
theorem get?_ofList (inserts : List (String × String)) (key : String) :
    (ofList inserts).get? key = inserts.reverse.lookup key := by
  induction inserts using List.reverseRecOn with
  | nil => rfl
  | append_singleton inserts entry ih =>
    obtain ⟨k, value⟩ := entry
    rw [ofList_concat, get?_insert, ih, List.reverse_concat, Table.lookup_cons]

theorem lookup_reverse_eq_some_iff :
    inserts.reverse.lookup key = some value ↔ IsLast inserts key value := by
  rw [List.lookup_eq_some_iff]
  constructor
  · rintro ⟨after, before, heq, hafter⟩
    refine ⟨before.reverse, after.reverse, ?_, ?_⟩
    · rw [List.reverse_eq_iff.1 heq]
      simp
    · intro hmem
      obtain ⟨entry, hentry, rfl⟩ := List.mem_map.1 hmem
      simpa using hafter entry (List.mem_reverse.1 hentry)
  · rintro ⟨before, after, rfl, hafter⟩
    refine ⟨after.reverse, before.reverse, by simp, fun entry hentry => ?_⟩
    rw [bne_iff_ne]
    rintro rfl
    exact hafter (List.mem_map_of_mem (List.mem_reverse.1 hentry))

/-- Behind inserts a key has the value that came last. -/
theorem mem_entries_ofList_iff :
    (key, value) ∈ (ofList inserts).entries ↔ IsLast inserts key value := by
  rw [← Table.lookup_eq_some_iff_mem (nodup_keys_ofList inserts), ← lookup_reverse_eq_some_iff,
    ← get?_ofList]
  rfl

theorem size_ofList (inserts : List (String × String)) :
    (ofList inserts).size = (inserts.map (·.1)).toFinset.card := by
  have hkeys : (inserts.map (·.1)).toFinset = (ofList inserts).keys.toFinset := by
    ext key
    rw [List.mem_toFinset, List.mem_toFinset, keys_ofList, List.mem_eraseDups]
  rw [hkeys, List.toFinset_card_of_nodup (nodup_keys_ofList inserts), keys, List.length_map]
  rfl

theorem records_ofList (inserts : List (String × String)) : Records inserts (ofList inserts) where
  keys := keys_ofList inserts
  values _ _ := mem_entries_ofList_iff
  size := size_ofList inserts
  get _ _ := Table.lookup_eq_some_iff_mem (nodup_keys_ofList inserts)

/-- Properties are what the inserts leave that put them together. If the keys can be told from what
stands around them, the lines of the file are the properties exactly if no value has a line
break. -/
theorem inserts_recorded (h : Built inserts p) :
    Records inserts p ∧
      ((∀ entry ∈ inserts, IsKey entry.1) →
        (p.Assigned p.render ↔ ∀ entry ∈ p.entries, '\n' ∉ entry.2.toList)) := by
  obtain rfl := h.eq
  have hrecords := records_ofList inserts
  refine ⟨hrecords, fun hkeys => assigned_render_iff hrecords.keys fun key hkey => ?_⟩
  rw [List.mem_eraseDups] at hkey
  obtain ⟨entry, hentry, rfl⟩ := List.mem_map.1 hkey
  exact hkeys entry hentry

/-- Inserts with keys that come again. Values may be empty, blank at their ends or hold equals
signs. -/
def sampleInserts : List (String × String) := [("A", "1"), ("B", ""), ("A", "x=y"), ("C", " c ")]

/-- A key that comes again keeps its place. -/
theorem inserts_recorded_sample :
    Built (sampleInserts ++ [("B", "b")]) ((ofList sampleInserts).insert "B" "b") ∧
      ((ofList sampleInserts).insert "B" "b").entries = [("A", "x=y"), ("B", "b"), ("C", " c ")] ∧
      Records (sampleInserts ++ [("B", "b")]) ((ofList sampleInserts).insert "B" "b") ∧
      ((ofList sampleInserts).insert "B" "b").Assigned
        ((ofList sampleInserts).insert "B" "b").render := by
  have hbuilt := Built.insert (.ofList sampleInserts) "B" "b"
  obtain ⟨hrecords, hassigned⟩ := inserts_recorded hbuilt
  exact ⟨hbuilt, by decide, hrecords, (hassigned (by decide)).2 (by decide)⟩

end Properties

end DeploySync
