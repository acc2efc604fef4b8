import DeploySync.Proofs.Document
import DeploySync.Proofs.Text.Split

/-!
# Dotted paths

A dotted path is looked up segment by segment: each segment is the key of a mapping, whose tags do
not matter, and the value under it is gone on from. A path in two parts is one part behind the
other, and as every step goes down in the tree, no path leads back to where it started.

## Main definitions

* `Yaml.Value.Holds` — a mapping has a value under a text key
* `Document.Leads` — keys lead from one value to another

## Main results

* `Yaml.Value.get?_eq_some_iff`, `Document.walk_eq_some_iff` — a step, and several of them
* `Document.segments_intercalate`, `Document.segments_append` — the segments of joined paths
* `Document.Leads.sizeOf_lt` — keys lead down
* `Document.lookup_dotted` — what a dotted path finds, and what its error names
-/

namespace DeploySync

open Yaml (Value)

variable {d : Document} {u v w : Value} {key path : String} {keys more : List String}

namespace Yaml.Value

/-- The value, tags aside, is a mapping whose first entry under the text key has this value. -/
def Holds (v : Value) (key : String) (u : Value) : Prop :=
  ∃ before after, v.untagged = .mapping (before ++ (.string key, u) :: after) ∧
    ∀ entry ∈ before, entry.1 ≠ .string key

/-- The entry stands under the text key. -/
def isUnder (key : String) : Value × Value → Bool
  | (.string s, _) => s == key
  | _ => false

theorem isUnder_iff {entry : Value × Value} : isUnder key entry ↔ entry.1 = .string key := by
  obtain ⟨k, u⟩ := entry
  cases k <;> simp [isUnder]

theorem get?_of_mapping {entries : List (Value × Value)} (h : v.untagged = .mapping entries) :
    v.get? key = (entries.find? (isUnder key)).map (·.2) := by
  rw [get?, h]
  refine congrArg (fun p => (entries.find? p).map (·.2)) (funext fun entry => ?_)
  obtain ⟨k, u⟩ := entry
  cases k <;> rfl

theorem get?_eq_some_iff : v.get? key = some u ↔ v.Holds key u := by
  constructor
  · intro h
    cases huntagged : v.untagged with
    | mapping entries =>
      rw [get?_of_mapping huntagged, Option.map_eq_some_iff] at h
      obtain ⟨⟨k, u'⟩, hfind, rfl⟩ := h
      obtain ⟨hk, before, after, rfl, hbefore⟩ := List.find?_eq_some_iff_append.1 hfind
      obtain rfl : k = .string key := isUnder_iff.1 hk
      refine ⟨before, after, huntagged, fun entry hentry hunder => ?_⟩
      simpa [isUnder_iff.2 hunder] using hbefore entry hentry
    | _ => simp [get?, huntagged] at h
  · rintro ⟨before, after, huntagged, hbefore⟩
    rw [get?_of_mapping huntagged, Option.map_eq_some_iff]
    refine ⟨(.string key, u), List.find?_eq_some_iff_append.2 ⟨isUnder_iff.2 rfl, before, after,
      rfl, fun entry hentry => ?_⟩, rfl⟩
    rw [Bool.not_eq_true', Bool.eq_false_iff]
    exact fun hunder => hbefore entry hentry (isUnder_iff.1 hunder)

theorem sizeOf_untagged_le (v : Value) : sizeOf v.untagged ≤ sizeOf v := by
  fun_induction untagged v with
  | case1 tag v ih =>
    rw [tagged.sizeOf_spec]
    omega
  | case2 v hv => exact Nat.le_refl _

/-- What a mapping holds is smaller than the mapping. -/
theorem Holds.sizeOf_lt (h : v.Holds key u) : sizeOf u < sizeOf v := by
  obtain ⟨before, after, huntagged, -⟩ := h
  have hle := sizeOf_untagged_le v
  have hmem : (Value.string key, u) ∈ before ++ (Value.string key, u) :: after := by simp
  have hentry := List.sizeOf_lt_of_mem hmem
  rw [huntagged, mapping.sizeOf_spec] at hle
  rw [Prod.mk.sizeOf_spec] at hentry
  omega

end Yaml.Value

namespace Document

/-- The keys lead from a value to another one: through mappings, from each to the value that it
holds under the next key. -/
inductive Leads : Value → List String → Value → Prop
  | here (v : Value) : Leads v [] v
  | down {u v w : Value} {key : String} {keys : List String} (hkey : v.Holds key u)
      (hrest : Leads u keys w) : Leads v (key :: keys) w

theorem walk_cons (v : Value) (key : String) (keys : List String) :
    walk v (key :: keys) = (v.get? key).bind fun u => walk u keys := List.foldlM_cons

theorem walk_append (v : Value) (keys more : List String) :
    walk v (keys ++ more) = (walk v keys).bind fun u => walk u more := List.foldlM_append

theorem walk_eq_some_iff : walk v keys = some w ↔ Leads v keys w := by
  induction keys generalizing v with
  | nil =>
    constructor
    · intro h
      obtain rfl := Option.some.inj h
      exact .here v
    · rintro ⟨⟩
      rfl
  | cons key keys ih =>
    rw [walk_cons, Option.bind_eq_some_iff]
    -- the first key leads to a value, and the others go on from there
    constructor
    · rintro ⟨u, hkey, hrest⟩
      exact .down (Value.get?_eq_some_iff.1 hkey) (ih.1 hrest)
    · rintro (_ | ⟨hkey, hrest⟩)
      exact ⟨_, Value.get?_eq_some_iff.2 hkey, ih.2 hrest⟩

/-- Keys lead down. -/
theorem Leads.sizeOf_lt (h : Leads v keys w) (hne : keys ≠ []) : sizeOf w < sizeOf v := by
  induction h with
  | here v => exact absurd rfl hne
  | @down u v w key keys hkey hrest ih =>
    -- one step goes down, and the others do unless there are none
    have hstep := hkey.sizeOf_lt
    cases keys with
    | nil =>
      cases hrest
      exact hstep
    | cons next keys => exact Nat.lt_trans (ih (by simp)) hstep

/-! ### Segments -/

theorem segments_ne_nil (path : String) : segments path ≠ [] := by
  rw [segments, Ne, List.map_eq_nil_iff]
  exact Text.split_ne_nil '.' path.toList

/-- Segments without dots are those of the path that they are joined to. -/
theorem segments_intercalate (hne : keys ≠ []) (h : ∀ key ∈ keys, '.' ∉ key.toList) :
    segments (".".intercalate keys) = keys := by
  have hpieces : ∀ piece ∈ keys.map String.toList, '.' ∉ piece := by
    intro piece hpiece
    obtain ⟨key, hkey, rfl⟩ := List.mem_map.1 hpiece
    exact h key hkey
  have hjoin : (".".intercalate keys).toList = Text.join ['.'] (keys.map String.toList) := by
    rw [String.toList_intercalate, Text.join_eq_intercalate]
    rfl
  rw [segments, hjoin, Text.split_join (by simpa using hne) hpieces, List.map_map]
  simp [Function.comp_def]

/-- A path in two parts has the segments of both. -/
theorem segments_append (p q : String) : segments (p ++ "." ++ q) = segments p ++ segments q := by
  have hdot : (p ++ "." ++ q).toList = p.toList ++ '.' :: q.toList := by simp
  rw [segments, hdot, Text.split_append_cons, List.map_append]
  rfl

/-! ### Looking up -/

theorem lookup_eq_ok_iff : d.lookup path = .ok v ↔ Leads d.root (segments path) v := by
  rw [lookup, ← walk_eq_some_iff]
  cases walk d.root (segments path) <;> simp

theorem lookup_of_not_leads (h : ¬ ∃ v, Leads d.root (segments path) v) :
    d.lookup path = .error (.missingField path) := by
  cases hlookup : d.lookup path with
  | error e => rw [lookup_eq_error hlookup]
  | ok v => exact absurd ⟨v, lookup_eq_ok_iff.1 hlookup⟩ h

/-- A path in two parts is looked up part by part. -/
theorem lookup_append_eq_ok_iff {p q : String} :
    d.lookup (p ++ "." ++ q) = .ok v ↔
      ∃ u, d.lookup p = .ok u ∧ (Document.mk u).lookup q = .ok v := by
  simp only [lookup_eq_ok_iff, ← walk_eq_some_iff]
  rw [segments_append, walk_append, Option.bind_eq_some_iff]

/-- What a dotted path finds in a document of any shape: the value that its segments lead to, one
after the other through mappings. If they lead nowhere, the error names the whole path. A path in
two parts is looked up part by part, no path leads to the root, and what is found is a property
unless it is a mapping. -/
theorem lookup_dotted (d : Document) :
    (∀ keys : List String, keys ≠ [] → (∀ key ∈ keys, '.' ∉ key.toList) →
      (∀ v, d.lookup (".".intercalate keys) = .ok v ↔ Leads d.root keys v) ∧
        ((¬ ∃ v, Leads d.root keys v) →
          d.lookup (".".intercalate keys) = .error (.missingField (".".intercalate keys)))) ∧
    (∀ (p q : String) (v : Value), d.lookup (p ++ "." ++ q) = .ok v ↔
      ∃ u, d.lookup p = .ok u ∧ (Document.mk u).lookup q = .ok v) ∧
    (∀ path : String, d.lookup path ≠ .ok d.root) ∧
    ∀ path : String, (d.property path).isOk ↔
      ∃ v, d.lookup path = .ok v ∧ ∀ entries, v.untagged ≠ .mapping entries := by
  refine ⟨fun keys hne hdots => ?_, fun p q v => lookup_append_eq_ok_iff, fun path hroot => ?_,
    fun path => ?_⟩
  · have hsegments := segments_intercalate hne hdots
    refine ⟨fun v => ?_, fun hnot => ?_⟩
    · rw [lookup_eq_ok_iff, hsegments]
    · apply lookup_of_not_leads
      rwa [hsegments]
  · -- a path has a segment at least, so that it leads down
    have hlt := (lookup_eq_ok_iff.1 hroot).sizeOf_lt (segments_ne_nil path)
    exact Nat.lt_irrefl _ hlt
  · rw [isOk_property_iff, HasProperty]
    simp only [Value.IsMapping, not_exists, ne_eq]

end Document

end DeploySync
