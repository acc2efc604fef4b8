import DeploySync.Document
import DeploySync.Metadata

/-!
# Values that can be written

A value can be written unless a tag stands directly inside another one, and no document has such a
value: behind the tag of a node its content is read, and the content of a node has no tag. So a
document that was read can be written again.

## Main definitions

* `Yaml.Value.Writable` — no tag stands directly inside another one
* `Yaml.Read.Gives` — a reader gives only what has a property

## Main results

* `Yaml.Value.Writable.exists_render` — such a value can be written
* `Yaml.writable_of_parse` — values that are read are of that kind
* `Document.exists_toYaml_of_parse`, `Metadata.exists_toYaml` — what is published can be written
-/

namespace DeploySync

namespace Yaml

variable {α β : Type} {t : Tree} {v : Value}

/-- No tag stands directly inside another one. -/
inductive Value.Writable : Value → Prop
  | null : Writable .null
  | bool (value : Bool) : Writable (.bool value)
  | number (value : Number) : Writable (.number value)
  | string (value : String) : Writable (.string value)
  | sequence {items : List Value} (hitems : ∀ item ∈ items, Writable item) :
    Writable (.sequence items)
  | mapping {entries : List (Value × Value)} (hkeys : ∀ entry ∈ entries, Writable entry.1)
    (hvalues : ∀ entry ∈ entries, Writable entry.2) : Writable (.mapping entries)
  | tagged (tag : String) {value : Value} (hvalue : Writable value)
    (hbare : ∀ tag' value', value ≠ .tagged tag' value') : Writable (.tagged tag value)

/-! ### Writing -/

/-- The value can be written at every place. -/
def Value.Writes (v : Value) : Prop := ∀ p : Place, ∃ text, v.write p = .ok text

theorem exists_writeItems {items : List Value} (hitems : ∀ item ∈ items, item.Writes)
    (column : Nat) (lead : List Char) : ∃ text, writeItems column lead items = .ok text := by
  induction items generalizing lead with
  | nil => exact ⟨[], by rw [writeItems]⟩
  | cons item rest ih =>
    rw [List.forall_mem_cons] at hitems
    obtain ⟨text, htext⟩ := hitems.1 ⟨some column, false, true, true, false⟩
    obtain ⟨more, hmore⟩ := ih hitems.2 (lineEnd text ++ spaces column)
    exact ⟨lead ++ '-' :: text ++ more, by simp only [writeItems, htext, hmore]⟩

theorem exists_writeEntries {entries : List (Value × Value)}
    (hkeys : ∀ entry ∈ entries, entry.1.Writes) (hvalues : ∀ entry ∈ entries, entry.2.Writes)
    (column : Nat) (lead : List Char) : ∃ text, writeEntries column lead entries = .ok text := by
  induction entries generalizing lead with
  | nil => exact ⟨[], by rw [writeEntries]⟩
  | cons entry rest ih =>
    obtain ⟨key, value⟩ := entry
    rw [List.forall_mem_cons] at hkeys hvalues
    -- a key in front of its colon and one behind a question mark are written alike
    by_cases hsimple : key.isSimpleKey
    · obtain ⟨name, hname⟩ := hkeys.1 ⟨some column, true, false, false, true⟩
      obtain ⟨text, htext⟩ := hvalues.1 ⟨some column, true, false, true, false⟩
      obtain ⟨more, hmore⟩ := ih hkeys.2 hvalues.2 (lineEnd text ++ spaces column)
      refine ⟨lead ++ name ++ ':' :: text ++ more, ?_⟩
      simp only [writeEntries, hsimple, if_true, hname, htext, hmore]
    · obtain ⟨name, hname⟩ := hkeys.1 ⟨some column, true, true, true, false⟩
      obtain ⟨text, htext⟩ := hvalues.1 ⟨some column, true, true, true, false⟩
      obtain ⟨more, hmore⟩ := ih hkeys.2 hvalues.2 (lineEnd text ++ spaces column)
      refine ⟨lead ++ '?' :: name ++ lineEnd name ++ spaces column ++ ':' :: text ++ more, ?_⟩
      simp only [writeEntries, hsimple, Bool.false_eq_true, if_false, hname, htext, hmore]

/-- A value without a tag directly inside another one can be written at every place. -/
theorem Value.Writable.writes (h : v.Writable) : v.Writes := by
  induction h with
  | @sequence items _ ih =>
    intro p
    cases items with
    | nil => exact ⟨_, by rw [Value.write]⟩
    | cons item rest =>
      rw [Value.write]
      exact exists_writeItems ih _ _
  | @mapping entries _ _ ihkeys ihvalues =>
    intro p
    cases entries with
    | nil => exact ⟨_, by rw [Value.write]⟩
    | cons entry rest =>
      rw [Value.write]
      exact exists_writeEntries ihkeys ihvalues _ _
  | @tagged tag value _ hbare ih =>
    intro p
    -- the value has no tag of its own, so it is written behind this one
    obtain ⟨text, htext⟩ := ih { p with fresh := false, afterText := true }
    refine ⟨p.gap ++ writeTag tag ++ text, ?_⟩
    rw [Value.write]
    · rw [htext]
    · exact hbare
  | _ =>
    intro p
    exact ⟨_, by rw [Value.write] <;> nofun⟩

theorem Value.Writable.exists_render (h : v.Writable) : ∃ text, render v = .ok text := by
  obtain ⟨text, htext⟩ := h.writes ⟨none, false, true, false, false⟩
  exact ⟨_, by rw [render, htext]⟩

/-! ### Reading -/

/-- Whenever the reader gives something, it has the property. -/
def Read.Gives (r : Read α) (P : α → Prop) : Prop := ∀ jumps a rest, r jumps = .ok (a, rest) → P a

namespace Read.Gives

variable {P : α → Prop} {Q : β → Prop}

theorem pure {a : α} (ha : P a) : Read.Gives (Pure.pure a) P := by
  intro jumps a' rest h
  obtain ⟨rfl, -⟩ := Prod.mk.inj (Except.ok.inj h)
  exact ha

theorem throw (e : Error) : Read.Gives (MonadExcept.throw e : Read α) P := by
  intro jumps a rest h
  cases h

theorem misfit (m : Misfit) : Read.Gives (Read.misfit m : Read α) P := throw _

theorem bind {r : Read α} {f : α → Read β} (hr : r.Gives P) (hf : ∀ a, P a → (f a).Gives Q) :
    Read.Gives (r >>= f) Q := by
  intro jumps b rest h
  change (r jumps).bind (fun x => f x.1 x.2) = .ok (b, rest) at h
  cases hjumps : r jumps with
  | error e =>
    rw [hjumps] at h
    cases h
  | ok x =>
    obtain ⟨a, jumps'⟩ := x
    rw [hjumps] at h
    exact hf a (hr jumps a jumps' hjumps) jumps' b rest h

theorem located {r : Read α} (hr : r.Gives P) (mark : Mark) (path : Path) :
    (Read.located mark path r).Gives P := by
  intro jumps a rest h
  refine hr jumps a rest ?_
  rw [Read.located] at h
  split at h
  · cases h
  · exact h

end Read.Gives

/-- What is read from any node has the property. -/
abbrev Reads (child : Path → Node → Read α) (P : α → Prop) : Prop :=
  ∀ path node, (child path node).Gives P

theorem gives_readItems {child : Path → Node → Read α} {P : α → Prop} (hchild : Reads child P)
    (path : Path) (index : Nat) (items : List Node) :
    (readItems child path index items).Gives fun values => ∀ value ∈ values, P value := by
  induction items generalizing index with
  | nil => exact .pure (by simp)
  | cons item rest ih =>
    refine (hchild _ item).bind fun value hvalue => (ih (index + 1)).bind fun values hvalues => ?_
    exact .pure (List.forall_mem_cons.2 ⟨hvalue, hvalues⟩)

theorem gives_readEntries {child : Path → Node → Read Value} {P : Value → Prop}
    (hchild : Reads child P) (path : Path) {before : List (Value × Value)}
    (hbefore : ∀ entry ∈ before, P entry.1 ∧ P entry.2) (entries : List (Node × Node)) :
    (readEntries child path before entries).Gives fun entries =>
      ∀ entry ∈ entries, P entry.1 ∧ P entry.2 := by
  induction entries generalizing before with
  | nil => exact .pure hbefore
  | cons entry rest ih =>
    obtain ⟨key, value⟩ := entry
    refine (hchild path key).bind fun k hk => ?_
    cases before.find? (·.1.same k) with
    | some found => exact .misfit _
    | none =>
      refine (hchild _ value).bind fun v hv => ih ?_
      intro entry hentry
      rcases List.mem_append.1 hentry with hentry | hentry
      · exact hbefore entry hentry
      · obtain rfl := List.mem_singleton.1 hentry
        exact ⟨hk, hv⟩

/-- The value of a scalar is a scalar. -/
theorem writable_toValue {found : Found} (h : found.toValue = .ok v) :
    v.Writable ∧ ∀ tag value, v ≠ .tagged tag value := by
  cases found <;> cases h <;> exact ⟨by constructor, nofun⟩

/-- The content of a node has no tag. -/
theorem gives_readContent {child : Option (Path → Node → Read Value)}
    (hchild : ∀ c ∈ child, Reads c Value.Writable) (path : Path) (tagRead : Bool) (node : Node) :
    (readContent t child path tagRead node).Gives fun v =>
      v.Writable ∧ ∀ tag value, v ≠ .tagged tag value := by
  cases node with
  | scalar tag text style mark =>
    rw [readContent]
    -- a scalar is what it resolves to, and a tag that was read before no longer counts
    cases hvalue :
        (resolve (if tagRead then none else tag) text style).bind Found.toValue with
    | error m => exact .misfit m
    | ok v =>
      obtain ⟨found, -, hfound⟩ : ∃ found,
          resolve (if tagRead then none else tag) text style = .ok found ∧
            found.toValue = .ok v := by
        cases hresolve : resolve (if tagRead then none else tag) text style with
        | error m =>
          rw [hresolve] at hvalue
          cases hvalue
        | ok found => exact ⟨found, rfl, by rwa [hresolve] at hvalue⟩
      exact .pure (writable_toValue hfound)
  | sequence tag items mark =>
    cases child with
    | none => exact .throw _
    | some child =>
      refine (gives_readItems (hchild child rfl) path 0 items).bind fun values hvalues => ?_
      exact .pure ⟨.sequence hvalues, nofun⟩
  | mapping tag entries mark =>
    cases child with
    | none => exact .throw _
    | some child =>
      refine (gives_readEntries (hchild child rfl) path (by simp) entries).bind
        fun values hvalues => ?_
      exact .pure
        ⟨.mapping (fun entry h => (hvalues entry h).1) fun entry h => (hvalues entry h).2, nofun⟩
  | _ => exact .throw _

/-- A node has at most one tag, and that stands in front of its content. -/
theorem reads_readTagged {child : Option (Path → Node → Read Value)}
    (hchild : ∀ c ∈ child, Reads c Value.Writable) :
    Reads (readTagged t child) Value.Writable := by
  intro path node
  -- whatever an alias stands for is read as any other node
  refine Read.Gives.bind (P := fun _ => True) (fun _ _ _ _ => trivial) fun node _ => ?_
  refine Read.Gives.located ?_ node.mark path
  cases ownTag? node.tag with
  | none =>
    intro jumps v rest h
    exact (gives_readContent hchild path false node jumps v rest h).1
  | some tag =>
    exact (gives_readContent hchild path true node).bind fun v hv => .pure (.tagged tag hv.1 hv.2)

theorem reads_readValueWithin (depth : Nat) : Reads (readValueWithin t depth) Value.Writable := by
  induction depth with
  | zero => exact reads_readTagged nofun
  | succ depth ih =>
    refine reads_readTagged fun c hc => ?_
    obtain rfl := Option.some.inj hc
    exact ih

/-- A value that was read can be written. -/
theorem writable_of_parse {text : String} (h : parse readValue text = .ok v) : v.Writable := by
  rw [parse] at h
  split at h
  · cases h
  · dsimp only at h
    split at h
    · cases h
    next a rest hread =>
      -- the rest of the stream decides only whether the value counts
      split at h
      · cases h
      · split at h
        · cases h
        · obtain rfl := Except.ok.inj h
          exact reads_readValueWithin maxDepth _ _ _ _ _ hread

end Yaml

/-- A document that was read can be written. -/
theorem Document.exists_toYaml_of_parse {text : String} {d : Document}
    (hd : Document.parse text = .ok d) : ∃ yaml, d.toYaml = .ok yaml := by
  rw [Document.parse] at hd
  split at hd
  next root hroot =>
    obtain rfl := Except.ok.inj hd
    obtain ⟨yaml, hyaml⟩ := (Yaml.writable_of_parse hroot).exists_render
    exact ⟨yaml, by rw [toYaml, hyaml]⟩
  · cases hd

theorem Metadata.writable_toValue (m : Metadata) : m.toValue.Writable := by
  have hnodes : ∀ item ∈ m.nodes.map Yaml.Value.string, item.Writable := by
    intro item hitem
    obtain ⟨node, -, rfl⟩ := List.mem_map.1 hitem
    exact .string node
  refine .mapping ?_ ?_
  · simp only [List.forall_mem_cons]
    exact ⟨.string _, .string _, nofun⟩
  · simp only [List.forall_mem_cons]
    exact ⟨.sequence hnodes, .string _, nofun⟩

/-- Metadata can be written. -/
theorem Metadata.exists_toYaml (m : Metadata) : ∃ yaml, m.toYaml = .ok yaml := by
  obtain ⟨yaml, hyaml⟩ := m.writable_toValue.exists_render
  exact ⟨yaml, by rw [toYaml, hyaml]⟩

end DeploySync
