import DeploySync.Proofs.Document.Lookup
import DeploySync.Proofs.Literal.Decoding

/-!
# Tags of values

The tags of the values of a document do not matter, however deep the values stand: neither for what
a dotted path finds, nor for the property that is made of it. Keys are another matter. A key with a
tag is not the text that stands behind the tag, so that the keys are left as they are here.

## Main definitions

* `Yaml.Value.bare`, `Document.bare` — a value, or a document, without the tags of its values
* `Yaml.Value.IsBare` — no value in it has a tag

## Main results

* `Yaml.Value.isBare_bare`, `Yaml.Value.IsBare.bare_eq` — these tags are removed, and nothing else
* `Yaml.Value.get?_bare`, `Document.walk_bare` — steps into a value without tags
* `Literal.chars_bare`, `Literal.property?_bare` — what is written of it
* `Document.tags_transparent` — fields and properties of a document without tags
-/

namespace DeploySync

open Yaml (Value)

/-! ### Removing tags -/

namespace Yaml.Value

mutual

/-- The value without its tags and those of the values in it. Keys stay as they are. -/
def bare : Value → Value
  | .null => .null
  | .bool b => .bool b
  | .number n => .number n
  | .string s => .string s
  | .sequence items => .sequence (bareItems items)
  | .mapping entries => .mapping (bareEntries entries)
  | .tagged _ v => v.bare

/-- The items of a list without tags. -/
def bareItems : List Value → List Value
  | [] => []
  | v :: rest => v.bare :: bareItems rest

/-- The entries of a mapping without tags on their values. -/
def bareEntries : List (Value × Value) → List (Value × Value)
  | [] => []
  | (k, v) :: rest => (k, v.bare) :: bareEntries rest

end

/-- No value in it has a tag, keys aside. -/
inductive IsBare : Value → Prop
  | null : IsBare .null
  | bool (b : Bool) : IsBare (.bool b)
  | number (n : Number) : IsBare (.number n)
  | string (s : String) : IsBare (.string s)
  | sequence {items : List Value} (h : ∀ v ∈ items, IsBare v) : IsBare (.sequence items)
  | mapping {entries : List (Value × Value)} (h : ∀ entry ∈ entries, IsBare entry.2) :
    IsBare (.mapping entries)

theorem bareItems_eq_map (items : List Value) : bareItems items = items.map bare := by
  induction items with
  | nil => rfl
  | cons v rest ih => rw [bareItems, ih, List.map_cons]

theorem bareEntries_eq_map (entries : List (Value × Value)) :
    bareEntries entries = entries.map fun entry => (entry.1, entry.2.bare) := by
  induction entries with
  | nil => rfl
  | cons entry rest ih => rw [bareEntries, ih, List.map_cons]

mutual

/-- No tag is left. -/
theorem isBare_bare : (v : Value) → v.bare.IsBare
  | .null => .null
  | .bool b => .bool b
  | .number n => .number n
  | .string s => .string s
  | .sequence items => .sequence (isBare_bareItems items)
  | .mapping entries => .mapping (isBare_bareEntries entries)
  | .tagged _ v => isBare_bare v

theorem isBare_bareItems : (items : List Value) → ∀ v ∈ bareItems items, v.IsBare
  | [] => nofun
  | v :: rest => List.forall_mem_cons.2 ⟨isBare_bare v, isBare_bareItems rest⟩

theorem isBare_bareEntries :
    (entries : List (Value × Value)) → ∀ entry ∈ bareEntries entries, entry.2.IsBare
  | [] => nofun
  | (_, v) :: rest => List.forall_mem_cons.2 ⟨isBare_bare v, isBare_bareEntries rest⟩

end

/-- Where there is no tag, nothing is removed. -/
theorem IsBare.bare_eq {v : Value} (h : v.IsBare) : v.bare = v := by
  induction h with
  | null => rfl
  | bool b => rfl
  | number n => rfl
  | string s => rfl
  | sequence h ih =>
    have hitems := (List.map_congr_left ih).trans (List.map_id _)
    rw [bare, bareItems_eq_map, hitems]
  | mapping h ih =>
    rw [bare, bareEntries_eq_map]
    congr 1
    refine (List.map_congr_left fun entry hentry => ?_).trans (List.map_id _)
    rw [ih entry hentry]
    rfl

mutual

/-- The tags of keys are all that is left to remove. -/
theorem erased_bare : (v : Value) → v.bare.erased = v.erased
  | .null => rfl
  | .bool _ => rfl
  | .number _ => rfl
  | .string _ => rfl
  | .sequence items => by rw [bare, erased, erased, erasedItems_bareItems]
  | .mapping entries => by rw [bare, erased, erased, erasedEntries_bareEntries]
  | .tagged _ v => erased_bare v

theorem erasedItems_bareItems :
    (items : List Value) → erasedItems (bareItems items) = erasedItems items
  | [] => rfl
  | v :: rest => by
    rw [bareItems, erasedItems, erasedItems, erased_bare, erasedItems_bareItems]

theorem erasedEntries_bareEntries :
    (entries : List (Value × Value)) → erasedEntries (bareEntries entries) = erasedEntries entries
  | [] => rfl
  | (k, v) :: rest => by
    rw [bareEntries, erasedEntries, erasedEntries, erased_bare, erasedEntries_bareEntries]

end

/-! ### Steps -/

theorem untagged_ne_tagged (v u : Value) (tag : String) : v.untagged ≠ .tagged tag u := by
  fun_induction untagged v with
  | case1 _ v ih => exact ih
  | case2 v hv => exact hv tag u

/-- It does not matter whether the value's own tags are removed first. -/
theorem untagged_bare (v : Value) : v.bare.untagged = v.untagged.bare := by
  fun_induction untagged v with
  | case1 tag v ih => exact ih
  | case2 v hv =>
    -- a value without tags of its own is still one without the tags in it
    cases v with
    | tagged tag v => exact absurd rfl (hv tag v)
    | _ => rfl

/-- Under a key there is what was there, without its tags. -/
theorem get?_bare (v : Value) (key : String) : v.bare.get? key = (v.get? key).map bare := by
  cases huntagged : v.untagged with
  | mapping entries =>
    have hbare : v.bare.untagged = .mapping (bareEntries entries) := by
      rw [untagged_bare, huntagged, bare]
    -- the keys are those that were there, so that the same entry is found
    have hkeys : isUnder key ∘ (fun entry : Value × Value => (entry.1, entry.2.bare)) =
        isUnder key := by
      funext entry
      rw [Bool.eq_iff_iff, isUnder_iff, Function.comp_apply, isUnder_iff]
    rw [get?_of_mapping hbare, get?_of_mapping huntagged, bareEntries_eq_map, List.find?_map,
      hkeys, Option.map_map, Option.map_map]
    rfl
  | tagged tag u => exact absurd huntagged (untagged_ne_tagged v u tag)
  | _ => simp [get?, untagged_bare, huntagged, bare]

end Yaml.Value

/-! ### Writing -/

namespace Literal

/-- Without tags a value has the same literal. -/
theorem chars_bare (v : Value) : chars v.bare = chars v := by
  rw [← chars_erased v.bare, Value.erased_bare, chars_erased]

theorem text_bare (v : Value) : text v.bare = text v := by
  rw [text, text, chars_bare]

/-- Without tags a value makes the same property. -/
theorem property?_bare (v : Value) : property? v.bare = property? v := by
  rw [property?, property?, Value.untagged_bare]
  cases huntagged : v.untagged with
  | sequence items => exact congrArg some (text_bare (.sequence items))
  | tagged tag u => exact absurd huntagged (Value.untagged_ne_tagged v u tag)
  | _ => rfl

end Literal

namespace Document

/-- The document without the tags of its values. -/
def bare (d : Document) : Document := ⟨d.root.bare⟩

/-- Keys lead to what they led to, without its tags. -/
theorem walk_bare (v : Value) (keys : List String) :
    walk v.bare keys = (walk v keys).map Value.bare := by
  induction keys generalizing v with
  | nil => rfl
  | cons key keys ih =>
    rw [walk_cons, walk_cons, Value.get?_bare]
    cases v.get? key with
    | none => rfl
    | some u => exact ih u

/-- A path finds what it found, without its tags, or its error is the same. -/
theorem lookup_bare (d : Document) (path : String) :
    d.bare.lookup path = (d.lookup path).map Value.bare := by
  rw [lookup, lookup, bare, walk_bare]
  cases walk d.root (segments path) <;> rfl

theorem property_bare (d : Document) (path : String) : d.bare.property path = d.property path := by
  rw [property, property, lookup_bare]
  cases d.lookup path with
  | error e => rfl
  | ok v =>
    dsimp only [Except.map]
    rw [Literal.property?_bare]

/-- The tags of the values of a document do not matter, however deep the values stand. Without them,
every path gives the same property, or the same error, and finds a value exactly if it did: the one
that it found, without its tags. -/
theorem tags_transparent (d : Document) :
    d.bare.root.IsBare ∧ (d.root.IsBare → d.bare = d) ∧
      ∀ path : String,
        d.bare.property path = d.property path ∧
        ((d.bare.lookup path).isOk ↔ (d.lookup path).isOk) ∧
        d.bare.lookup path = (d.lookup path).map Value.bare := by
  refine ⟨Value.isBare_bare d.root, fun hbare => ?_, fun path => ⟨property_bare d path, ?_,
    lookup_bare d path⟩⟩
  · rw [bare, hbare.bare_eq]
  · rw [lookup_bare]
    cases d.lookup path <;> rfl

/-- A tag on a text in a list does not matter, nor one on the list or on what holds the list. -/
example :
    (Document.mk (.tagged "a" (.mapping [(.string "k", .tagged "b" (.sequence
      [.tagged "c" (.string "x")]))]))).property "k" = .ok "['x']" := by
  cbv

end Document

end DeploySync
