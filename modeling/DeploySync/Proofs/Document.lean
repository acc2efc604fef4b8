import DeploySync.Document

/-!
# Fields of documents

A field has a value for a properties file if it is there and is no mapping; otherwise the error
names it.

## Main definitions

* `Yaml.Value.IsMapping` — mappings, with or without tags of their own
* `Document.HasProperty` — the fields that have a value
* `Document.missing` — the name in the error of a field that has none

## Main results

* `Document.isOk_property_iff`, `Document.property_of_not` — when a field has a value
* `Document.exists_mapM_property`, `Document.forall_hasProperty_of_mapM`,
  `Document.mapM_property_of_not` — the same for several fields; the first one without a value is
  named
-/

namespace DeploySync

variable {d : Document} {v : Yaml.Value} {path : String}

/-- The value is a mapping, tags aside. -/
def Yaml.Value.IsMapping (v : Yaml.Value) : Prop := ∃ entries, v.untagged = .mapping entries

theorem Literal.property?_eq_none_iff : Literal.property? v = none ↔ v.IsMapping := by
  rw [Literal.property?, Yaml.Value.IsMapping]
  cases v.untagged <;> simp

namespace Document

/-- The field is there and is no mapping. -/
def HasProperty (d : Document) (path : String) : Prop :=
  ∃ v, d.lookup path = .ok v ∧ ¬ v.IsMapping

/-- What the error says of a field without a value. -/
def missing (d : Document) (path : String) : String :=
  match d.lookup path with
  | .error _ => path
  | .ok _ => path ++ " (a mapping, not a value)"

theorem lookup_eq_error {e : Error} (h : d.lookup path = .error e) : e = .missingField path := by
  rw [lookup] at h
  split at h
  · cases h
  · exact (Except.error.inj h).symm

theorem HasProperty.property (h : d.HasProperty path) : ∃ text, d.property path = .ok text := by
  obtain ⟨v, hlookup, hv⟩ := h
  rw [Document.property, hlookup]
  cases htext : Literal.property? v with
  | none => exact absurd (Literal.property?_eq_none_iff.1 htext) hv
  | some text =>
    refine ⟨text, ?_⟩
    dsimp only
    rw [htext]

/-- A field without a value is named in the error. -/
theorem property_of_not (h : ¬ d.HasProperty path) :
    d.property path = .error (.missingField (d.missing path)) := by
  rw [property, missing]
  cases hlookup : d.lookup path with
  | error e => rw [lookup_eq_error hlookup]
  | ok v =>
    -- a value without a literal of its own is a mapping
    by_cases hv : v.IsMapping
    · dsimp only
      rw [Literal.property?_eq_none_iff.2 hv]
    · exact absurd ⟨v, hlookup, hv⟩ h

theorem isOk_property_iff : (d.property path).isOk ↔ d.HasProperty path := by
  constructor
  · intro h
    by_cases hhas : d.HasProperty path
    · exact hhas
    · rw [property_of_not hhas] at h
      cases h
  · intro h
    obtain ⟨text, htext⟩ := h.property
    rw [htext]
    rfl

/-! ### Several fields -/

theorem exists_mapM_property {paths : List String} (h : ∀ p ∈ paths, d.HasProperty p) :
    ∃ texts, paths.mapM d.property = .ok texts := by
  induction paths with
  | nil => exact ⟨[], rfl⟩
  | cons path rest ih =>
    obtain ⟨text, htext⟩ := (h path List.mem_cons_self).property
    obtain ⟨texts, htexts⟩ := ih fun p hp => h p (List.mem_cons_of_mem path hp)
    refine ⟨text :: texts, ?_⟩
    rw [List.mapM_cons, htext, htexts]
    rfl

/-- Several fields have values only if each of them has one. -/
theorem forall_hasProperty_of_mapM {paths texts : List String}
    (h : paths.mapM d.property = .ok texts) : ∀ p ∈ paths, d.HasProperty p := by
  induction paths generalizing texts with
  | nil => simp
  | cons path rest ih =>
    rw [List.mapM_cons] at h
    cases hpath : d.property path with
    | error e =>
      rw [hpath] at h
      cases h
    | ok text =>
      cases hrest : rest.mapM d.property with
      | error e =>
        rw [hpath, hrest] at h
        cases h
      | ok texts' =>
        intro p hp
        rcases List.mem_cons.1 hp with rfl | hp
        · rw [← isOk_property_iff, hpath]
          rfl
        · exact ih hrest p hp

/-- Of several fields the first one without a value is named in the error. -/
theorem mapM_property_of_not {before after : List String}
    (hbefore : ∀ p ∈ before, d.HasProperty p) (h : ¬ d.HasProperty path) :
    (before ++ path :: after).mapM d.property = .error (.missingField (d.missing path)) := by
  obtain ⟨texts, htexts⟩ := exists_mapM_property hbefore
  rw [List.mapM_append, htexts, List.mapM_cons, property_of_not h]
  rfl

end Document

end DeploySync
