import DeploySync.Metadata
import DeploySync.Proofs.Yaml.Mapping

/-!
# Metadata reads back

Whatever the addresses are, metadata is written as a document of two entries, a list of texts and a
text, and this document is read as the same metadata.

## Main results

* `Metadata.toYaml_roundTrip` — what is written is read as the same metadata, and different metadata
  is written differently
-/

namespace DeploySync.Metadata

open Yaml (Content FieldsRead IsKey IsScalar)

variable {t : Yaml.Tree} {p : Partial} {node : Yaml.Node} {path : Yaml.Path} {jumps : Nat}

/-! ### Fields -/

theorem isKey_nodesField : IsKey nodesField where
  isName := ⟨by decide, by decide, by decide, by decide⟩
  isSimpleKey := by decide
  written := by decide

theorem isKey_gatewayField : IsKey gatewayField where
  isName := ⟨by decide, by decide, by decide, by decide⟩
  isSimpleKey := by decide
  written := by decide

/-- The entries of metadata. -/
def fields (m : Metadata) : List Yaml.Field :=
  [⟨nodesField, .texts m.nodes⟩, ⟨gatewayField, .text m.gateway⟩]

theorem toValue_eq_fieldMapping (m : Metadata) : m.toValue = Yaml.fieldMapping m.fields := rfl

/-- Scalars without tags are read as their texts, in their order. -/
theorem readItems_scalars {items : List String} {nodes : List Yaml.Node}
    (h : List.Forall₂ IsScalar items nodes) (path : Yaml.Path) (index jumps : Nat) :
    (Yaml.readItems (Yaml.readText t "a string") path index nodes).run jumps =
      .ok (items, jumps) := by
  induction h generalizing index with
  | nil => rfl
  | cons hitem _ ih =>
    rw [Yaml.readItems, StateT.run_bind, Yaml.readText_scalar hitem]
    change ((Yaml.readItems (Yaml.readText t "a string") path (index + 1) _).run jumps >>= _) = _
    rw [ih]
    rfl

/-- The addresses of the nodes are read the first time that they come. -/
theorem readField_nodes {nodes : List String} (hp : p.nodes = none)
    (h : (Content.texts nodes).IsNode node) :
    (readField t p nodesField path node).run jumps =
      .ok ({ p with nodes := some nodes }, jumps) := by
  obtain ⟨-⟩ | ⟨hscalars, mark⟩ := h
  have hread : (Yaml.readTexts t path (.sequence none _ mark)).run jumps = .ok (nodes, jumps) :=
    Yaml.located_of_ok (readItems_scalars hscalars path 0 jumps) mark path
  rw [readField, if_pos rfl, hp, Option.isSome_none, if_neg (by simp), StateT.run_bind, hread]
  rfl

/-- The address of the gateway is read the first time that it comes. -/
theorem readField_gateway {gateway : String} (hp : p.gateway = none)
    (h : (Content.text gateway).IsNode node) :
    (readField t p gatewayField path node).run jumps =
      .ok ({ p with gateway := some gateway }, jumps) := by
  obtain ⟨hscalar⟩ := h
  rw [readField, if_neg (by decide), if_pos rfl, hp, Option.isSome_none, if_neg (by simp),
    StateT.run_bind, Yaml.readText_scalar hscalar]
  rfl

/-! ### Documents -/

/-- Metadata is read as it was written. -/
theorem exists_toYaml_ofBytes (m : Metadata) :
    ∃ text, m.toYaml = .ok text ∧ ofBytes (Bytes.ofText text) = .ok m := by
  have hkeys : ∀ f ∈ m.fields, IsKey f.name := by
    simp [fields, isKey_nodesField, isKey_gatewayField]
  have hfields (t : Yaml.Tree) :
      FieldsRead (readField t) {} m.fields ⟨some m.nodes, some m.gateway⟩ :=
    .cons (fun _ _ _ => readField_nodes rfl) <| .cons (fun _ _ _ => readField_gateway rfl) (.nil _)
  have hfinish : Partial.finish ⟨some m.nodes, some m.gateway⟩ = .ok m := rfl
  obtain ⟨text, hrender, hparse⟩ :=
    Yaml.parse_record hkeys (List.cons_ne_nil _ _) hfields hfinish "struct Metadata"
  refine ⟨text, ?_, ?_⟩
  · rw [toYaml, toValue_eq_fieldMapping, hrender]
  · have hbytes : String.fromUTF8? (Bytes.ofText text) = some text := Bytes.text?_ofText text
    have hread : Yaml.parse read text = .ok m := hparse
    rw [ofBytes, Yaml.parseBytes, hbytes]
    dsimp only
    rw [hread]

/-- Metadata survives being written and read, and so different metadata is written differently. -/
theorem toYaml_roundTrip (m m' : Metadata) :
    (∃ text, m.toYaml = .ok text ∧ ofBytes (Bytes.ofText text) = .ok m) ∧
      (m.toYaml = m'.toYaml ↔ m = m') := by
  obtain ⟨text, hwrite, hread⟩ := exists_toYaml_ofBytes m
  refine ⟨⟨text, hwrite, hread⟩, fun h => ?_, fun h => h ▸ rfl⟩
  obtain ⟨text', hwrite', hread'⟩ := exists_toYaml_ofBytes m'
  obtain rfl : text = text' := Except.ok.inj (hwrite.symm.trans (h.trans hwrite'))
  exact Except.ok.inj (hread.symm.trans hread')

/-- What would be read as a number, as nothing or as an entry is quoted. -/
example : toYaml ⟨["10.0.0.1", "", "yes: no"], "1.50"⟩ =
    .ok "asdb-ips:\n- 10.0.0.1\n- ''\n- 'yes: no'\ngw-ip: '1.50'\n" := by decide +kernel

end DeploySync.Metadata
