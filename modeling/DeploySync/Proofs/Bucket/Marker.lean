import DeploySync.Bucket.Directory
import DeploySync.Proofs.Yaml.Mapping

/-!
# Markers read back

## Main results

* `DirectoryBucket.Marker.parse_toYaml` — a marker is read as it was written
-/

namespace DeploySync.DirectoryBucket.Marker

open Yaml (Content FieldsRead IsKey IsScalar)

variable {t : Yaml.Tree} {p : Partial} {node : Yaml.Node} {path : Yaml.Path} {jumps : Nat}

theorem isKey_locationField : IsKey locationField where
  isName := ⟨by decide, by decide, by decide, by decide⟩
  isSimpleKey := by decide
  written := by decide

theorem isKey_classField : IsKey classField where
  isName := ⟨by decide, by decide, by decide, by decide⟩
  isSimpleKey := by decide
  written := by decide

/-- A scalar without a tag is read as the name of the class that it names. -/
theorem readVariant_scalar {c : StorageClass} (h : IsScalar c.name node) :
    (Yaml.readVariant t StorageClass.names path node).run jumps = .ok (c.name, jumps) := by
  obtain ⟨style, mark, rfl⟩ := h
  cases c <;> rfl

/-- The location is read the first time that it comes. -/
theorem readField_location {location : String} (hp : p.location = none)
    (h : (Content.text location).IsNode node) :
    (readField t p locationField path node).run jumps =
      .ok ({ p with location := some location }, jumps) := by
  obtain ⟨hscalar⟩ := h
  rw [readField, if_pos rfl, hp, Option.isSome_none, if_neg (by simp), StateT.run_bind,
    Yaml.readText_scalar hscalar]
  rfl

/-- The class is read the first time that it comes. -/
theorem readField_class {c : StorageClass} (hp : p.storageClass = none)
    (h : (Content.text c.name).IsNode node) :
    (readField t p classField path node).run jumps =
      .ok ({ p with storageClass := some c }, jumps) := by
  obtain ⟨hscalar⟩ := h
  rw [readField, if_neg (by decide), if_pos rfl, hp, Option.isSome_none, if_neg (by simp),
    StateT.run_bind, readVariant_scalar hscalar]
  change Except.ok ({ p with storageClass := StorageClass.ofName? c.name }, jumps) = _
  rw [StorageClass.ofName?_name]

/-- The entries of a marker. -/
def fields (m : Marker) : List Yaml.Field :=
  [⟨locationField, .text m.location⟩, ⟨classField, .text m.storageClass.name⟩]

theorem toValue_eq_fieldMapping (m : Marker) : m.toValue = Yaml.fieldMapping m.fields := rfl

/-- A marker is read as it was written. -/
theorem parse_toYaml (m : Marker) : ∃ text, m.toYaml = .ok text ∧ parse text = .ok m := by
  have hkeys : ∀ f ∈ m.fields, IsKey f.name := by
    simp [fields, isKey_locationField, isKey_classField]
  have hfields (t : Yaml.Tree) :
      FieldsRead (readField t) {} m.fields ⟨some m.location, some m.storageClass⟩ :=
    .cons (fun _ _ _ => readField_location rfl) <| .cons (fun _ _ _ => readField_class rfl) (.nil _)
  have hfinish : Partial.finish ⟨some m.location, some m.storageClass⟩ = .ok m := rfl
  obtain ⟨text, hrender, hparse⟩ :=
    Yaml.parse_record hkeys (List.cons_ne_nil _ _) hfields hfinish "struct BucketMarker"
  refine ⟨text, ?_, ?_⟩
  · rw [toYaml, toValue_eq_fieldMapping, hrender]
  · have hread : Yaml.parse read text = .ok m := hparse
    rw [parse, hread]

end DeploySync.DirectoryBucket.Marker
