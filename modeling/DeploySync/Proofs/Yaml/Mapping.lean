import DeploySync.Proofs.Yaml.Entry
import Mathlib.Data.List.Forall2

/-!
# Mappings of names

A mapping whose keys are names and whose values are texts or lists of texts is written in lines, one
for each text unless it takes several; it reads back as a mapping of the same scalars.

## Main definitions

* `Yaml.IsKey` — a key that is written as it is
* `Yaml.Content.IsNode` — a node that is a text or a list of texts
* `Yaml.AreEntries` — nodes that are the entries of a mapping
* `Yaml.FieldsRead` — what is read of a record, field by field

## Main results

* `Yaml.render_fields` — how the mapping is written
* `Yaml.parse_record` — that it is read as the record of its fields
-/

namespace DeploySync.Yaml

open Scanner (IsName IsNameLetter)

variable {c : Char} {s t : List Char} {ts : List Token} {kinds : List TokenKind} {fuel : Nat}
variable {fields : List Field}

/-! ### Nodes -/

/-- A scalar of this text, without a tag. -/
def IsScalar (text : String) (node : Node) : Prop :=
  ∃ style mark, node = .scalar none text.toList style mark

/-- The node of a text, or of a list of texts. -/
inductive Content.IsNode : Content → Node → Prop
  | text {text : String} {node : Node} (scalar : IsScalar text node) : IsNode (.text text) node
  | texts {items : List String} {nodes : List Node} (scalars : List.Forall₂ IsScalar items nodes)
      (mark : Mark) : IsNode (.texts items) (.sequence none nodes mark)

/-- The nodes of the entries. -/
def AreEntries (fields : List Field) (nodes : List (Node × Node)) : Prop :=
  List.Forall₂ (fun f n => IsScalar f.name n.1 ∧ f.content.IsNode n.2) fields nodes

namespace Build

variable {directives : List (List Char × List UInt8)} {names : List (List Char × Nat)}
variable {anchored : List Anchored} {parts parts' : Nat} {rest rest' : List Token}

/-! #### Values -/

theorem blockItems_cons (text : List Char) (style : ScalarStyle) (m₁ m₁' m₂ m₂' : Mark) :
    (blockItems true (fuel + 3)).run
        ⟨⟨.blockEntry, m₁, m₁'⟩ :: ⟨.scalar text style, m₂, m₂'⟩ :: rest, directives, names,
          anchored, parts, none⟩ =
      let more := (blockItems true (fuel + 2)).run
        ⟨rest, directives, names, anchored, parts + 1, none⟩
      (.scalar none text style m₂ :: more.1, more.2) :=
  rfl

/-- A list without indentation ends where the next entry starts, or where the mapping ends. -/
theorem blockItems_end {token : Token} (h : token.kind = .key ∨ token.kind = .blockEnd) :
    (blockItems true (fuel + 1)).run
        ⟨token :: rest, directives, names, anchored, parts, none⟩ =
      ([], ⟨token :: rest, directives, names, anchored, parts + 1, none⟩) := by
  obtain ⟨kind, start, stop⟩ := token
  rcases h with rfl | rfl
  · rfl
  · rfl

/-- The items of a list are read from their tokens. -/
theorem blockItems_items {items : List String} {next : TokenKind}
    (hts : ts.map (·.kind) = items.flatMap itemKinds ++ next :: kinds)
    (hnext : next = .key ∨ next = .blockEnd) (hfuel : ts.length + 2 ≤ fuel)
    (directives : List (List Char × List UInt8)) (names : List (List Char × Nat))
    (anchored : List Anchored) (parts : Nat) :
    ∃ nodes rest parts', List.Forall₂ IsScalar items nodes ∧ rest.map (·.kind) = next :: kinds ∧
      (blockItems true fuel).run ⟨ts, directives, names, anchored, parts, none⟩ =
        (nodes, ⟨rest, directives, names, anchored, parts', none⟩) := by
  induction items generalizing ts fuel parts with
  | nil =>
    obtain ⟨⟨_, start, stop⟩, rest, rfl, rfl, hrest⟩ := List.map_eq_cons_iff.1 hts
    obtain ⟨fuel, rfl⟩ := Nat.exists_eq_add_of_le' (Nat.le_of_add_left_le hfuel)
    exact ⟨[], _, parts + 1, .nil, hts, blockItems_end hnext⟩
  | cons item more ih =>
    obtain ⟨⟨_, m₁, m₁'⟩, _, rfl, rfl, hts₁⟩ := List.map_eq_cons_iff.1 hts
    obtain ⟨⟨_, m₂, m₂'⟩, ts, rfl, rfl, hts₂⟩ := List.map_eq_cons_iff.1 hts₁
    rw [List.length_cons, List.length_cons] at hfuel
    obtain ⟨fuel, rfl⟩ : ∃ k, fuel = k + 3 := Nat.exists_eq_add_of_le' (by omega)
    have hmore : ts.length + 2 ≤ fuel + 2 := by omega
    obtain ⟨nodes, rest, parts', hnodes, hrest, hrun⟩ := ih hts₂ hmore (parts + 1)
    refine ⟨.scalar none item.toList (valueStyle item.toList) m₂ :: nodes, rest, parts',
      .cons ⟨_, _, rfl⟩ hnodes, hrest, ?_⟩
    rw [textKind, blockItems_cons, hrun]

/-- The kinds of token with which an entry of a block mapping ends. -/
abbrev entryEnds : Ends := oneOf [.key, .value, .blockEnd]

theorem nodeOrEmpty_scalar (text : List Char) (style : ScalarStyle) (mark m₁ m₁' : Mark) :
    (nodeOrEmpty entryEnds true true mark (fuel + 2)).run
        ⟨⟨.scalar text style, m₁, m₁'⟩ :: rest, directives, names, anchored, parts, none⟩ =
      (.scalar none text style m₁, ⟨rest, directives, names, anchored, parts + 1, none⟩) :=
  rfl

theorem nodeOrEmpty_brackets (mark m₁ m₁' m₂ m₂' : Mark) :
    (nodeOrEmpty entryEnds true true mark (fuel + 3)).run
        ⟨⟨.flowSequenceStart, m₁, m₁'⟩ :: ⟨.flowSequenceEnd, m₂, m₂'⟩ :: rest, directives, names,
          anchored, parts, none⟩ =
      (.sequence none [] m₁, ⟨rest, directives, names, anchored, parts + 2, none⟩) :=
  rfl

theorem nodeOrEmpty_items (mark m₁ m₁' : Mark) :
    (nodeOrEmpty entryEnds true true mark (fuel + 2)).run
        ⟨⟨.blockEntry, m₁, m₁'⟩ :: rest, directives, names, anchored, parts, none⟩ =
      let items := (blockItems true fuel).run
        ⟨⟨.blockEntry, m₁, m₁'⟩ :: rest, directives, names, anchored, parts + 1, none⟩
      (.sequence none items.1 m₁, items.2) :=
  rfl

/-- The node of a value is read from its tokens. -/
theorem nodeOrEmpty_content {content : Content} {next : TokenKind}
    (hts : ts.map (·.kind) = content.kinds ++ next :: kinds)
    (hnext : next = .key ∨ next = .blockEnd) (hfuel : ts.length + 4 ≤ fuel) (mark : Mark)
    (directives : List (List Char × List UInt8)) (names : List (List Char × Nat))
    (anchored : List Anchored) (parts : Nat) :
    ∃ node rest parts', content.IsNode node ∧ rest.map (·.kind) = next :: kinds ∧
      (nodeOrEmpty entryEnds true true mark fuel).run
          ⟨ts, directives, names, anchored, parts, none⟩ =
        (node, ⟨rest, directives, names, anchored, parts', none⟩) := by
  obtain ⟨fuel, rfl⟩ : ∃ k, fuel = k + 3 := Nat.exists_eq_add_of_le' (by omega)
  rcases content with text | (_ | ⟨item, items⟩)
  · obtain ⟨⟨_, m₁, m₁'⟩, rest, rfl, rfl, hrest⟩ := List.map_eq_cons_iff.1 hts
    exact ⟨_, rest, _, .text ⟨_, _, rfl⟩, hrest, nodeOrEmpty_scalar _ _ _ m₁ m₁'⟩
  · obtain ⟨⟨_, m₁, m₁'⟩, _, rfl, rfl, hts₁⟩ := List.map_eq_cons_iff.1 hts
    obtain ⟨⟨_, m₂, m₂'⟩, rest, rfl, rfl, hrest⟩ := List.map_eq_cons_iff.1 hts₁
    exact ⟨_, rest, _, .texts .nil m₁, hrest, nodeOrEmpty_brackets _ m₁ m₁' m₂ m₂'⟩
  · change ts.map (·.kind) = (item :: items).flatMap itemKinds ++ next :: kinds at hts
    have hitems : ts.length + 2 ≤ fuel + 1 := by omega
    obtain ⟨nodes, rest, parts', hnodes, hrest, hrun⟩ :=
      blockItems_items hts hnext hitems directives names anchored (parts + 1)
    obtain ⟨⟨_, m₁, m₁'⟩, _, rfl, rfl, -⟩ := List.map_eq_cons_iff.1 hts
    refine ⟨_, rest, parts', .texts hnodes m₁, hrest, ?_⟩
    rw [nodeOrEmpty_items, hrun]

/-! #### Entries -/

theorem blockEntries_end (start stop : Mark) :
    (blockEntries (fuel + 1)).run
        ⟨⟨.blockEnd, start, stop⟩ :: rest, directives, names, anchored, parts, none⟩ =
      ([], ⟨rest, directives, names, anchored, parts + 1, none⟩) :=
  rfl

/-- A key that is a scalar and the value behind it are the first entry. -/
theorem blockEntries_cons {value : Node} {m₃' : Mark}
    (hvalue : (nodeOrEmpty entryEnds true true m₃' (fuel + 2)).run
        ⟨rest, directives, names, anchored, parts + 1, none⟩ =
      (value, ⟨rest', directives, names, anchored, parts', none⟩))
    (name : List Char) (style : ScalarStyle) (m₁ m₁' m₂ m₂' m₃ : Mark) :
    (blockEntries (fuel + 4)).run
        ⟨⟨.key, m₁, m₁'⟩ :: ⟨.scalar name style, m₂, m₂'⟩ :: ⟨.value, m₃, m₃'⟩ :: rest, directives,
          names, anchored, parts, none⟩ =
      let more := (blockEntries (fuel + 3)).run
        ⟨rest', directives, names, anchored, parts', none⟩
      ((.scalar none name style m₂, value) :: more.1, more.2) := by
  have hblock : (blockValue (fuel + 3)).run
      ⟨⟨.value, m₃, m₃'⟩ :: rest, directives, names, anchored, parts + 1, none⟩ =
      (value, ⟨rest', directives, names, anchored, parts', none⟩) := hvalue
  change (fun r : Node × Builder => (do
    if ← isBroken then return [(.scalar none name style m₂, r.1)]
    return (.scalar none name style m₂, r.1) :: (← blockEntries (fuel + 3)) : Build _).run r.2)
      ((blockValue (fuel + 3)).run
        ⟨⟨.value, m₃, m₃'⟩ :: rest, directives, names, anchored, parts + 1, none⟩) = _
  rw [hblock]
  rfl

/-- Behind the entries stands the next key, or the end of the mapping. -/
theorem exists_flatMap_kinds (fields : List Field) (kinds : List TokenKind) :
    ∃ next more, fields.flatMap Field.kinds ++ .blockEnd :: kinds = next :: more ∧
      (next = .key ∨ next = .blockEnd) := by
  cases fields with
  | nil => exact ⟨_, _, rfl, .inr rfl⟩
  | cons f more => exact ⟨_, _, rfl, .inl rfl⟩

/-- The entries of a block mapping are read from their tokens. -/
theorem blockEntries_fields
    (hts : ts.map (·.kind) = fields.flatMap Field.kinds ++ .blockEnd :: kinds)
    (hfuel : ts.length + 8 ≤ fuel) (directives : List (List Char × List UInt8))
    (names : List (List Char × Nat)) (anchored : List Anchored) (parts : Nat) :
    ∃ nodes rest parts', AreEntries fields nodes ∧ rest.map (·.kind) = kinds ∧
      (blockEntries fuel).run ⟨ts, directives, names, anchored, parts, none⟩ =
        (nodes, ⟨rest, directives, names, anchored, parts', none⟩) := by
  induction fields generalizing ts fuel parts with
  | nil =>
    obtain ⟨⟨_, start, stop⟩, rest, rfl, rfl, hrest⟩ := List.map_eq_cons_iff.1 hts
    obtain ⟨fuel, rfl⟩ : ∃ k, fuel = k + 1 := Nat.exists_eq_add_of_le' (by omega)
    exact ⟨[], rest, parts + 1, .nil, hrest, blockEntries_end start stop⟩
  | cons f more ih =>
    -- The value ends where the next key stands, or the end of the mapping.
    obtain ⟨next, kinds', hbehind, hnext⟩ := exists_flatMap_kinds more kinds
    have hvalue : f.kinds ++ (more.flatMap Field.kinds ++ .blockEnd :: kinds) =
        .key :: .scalar f.name.toList .plain :: .value :: (f.content.kinds ++ next :: kinds') := by
      rw [hbehind, Field.kinds, List.cons_append, List.cons_append, List.cons_append]
    rw [List.flatMap_cons, List.append_assoc, hvalue] at hts
    obtain ⟨⟨_, m₁, m₁'⟩, _, rfl, rfl, hts₁⟩ := List.map_eq_cons_iff.1 hts
    obtain ⟨⟨_, m₂, m₂'⟩, _, rfl, rfl, hts₂⟩ := List.map_eq_cons_iff.1 hts₁
    obtain ⟨⟨_, m₃, m₃'⟩, ts, rfl, rfl, hts₃⟩ := List.map_eq_cons_iff.1 hts₂
    simp only [List.length_cons] at hfuel
    obtain ⟨fuel, rfl⟩ : ∃ k, fuel = k + 4 := Nat.exists_eq_add_of_le' (by omega)
    have hcontent : ts.length + 4 ≤ fuel + 2 := by omega
    obtain ⟨value, rest, parts', hnode, hrest, hrun⟩ :=
      nodeOrEmpty_content hts₃ hnext hcontent m₃' directives names anchored (parts + 1)
    have hlength : rest.length ≤ ts.length := by
      have hrest' := congrArg List.length hrest
      have hts' := congrArg List.length hts₃
      simp only [List.length_map, List.length_append] at hrest' hts'
      omega
    have hentries : rest.length + 8 ≤ fuel + 3 := by omega
    rw [← hbehind] at hrest
    obtain ⟨nodes, rest', parts'', hnodes, hrest', hmore⟩ := ih hrest hentries parts'
    refine ⟨(.scalar none f.name.toList .plain m₂, value) :: nodes, rest', parts'',
      .cons ⟨⟨_, _, rfl⟩, hnode⟩ hnodes, hrest', ?_⟩
    rw [blockEntries_cons hrun, hmore]

/-- A block mapping is read up to its end. -/
theorem node_mapping {nodes : List (Node × Node)} {b : Builder}
    (h : (blockEntries fuel).run ⟨rest, directives, names, anchored, parts + 1, none⟩ = (nodes, b))
    (start stop : Mark) :
    (node true false (fuel + 1)).run
        ⟨⟨.blockMappingStart, start, stop⟩ :: rest, directives, names, anchored, parts, none⟩ =
      (.mapping none nodes start, b) :=
  congrArg (fun r : List (Node × Node) × Builder => (Node.mapping none r.1 start, r.2)) h

/-- A mapping behind which the stream ends is the only document. -/
theorem document_mapping {root : Node} {start stop start' stop' : Mark}
    (h : (node true false fuel).run
        ⟨⟨.blockMappingStart, start, stop⟩ :: rest, standardHandles, [], [], 0, none⟩ =
      (root, ⟨[⟨.streamEnd, start', stop'⟩], directives, names, anchored, parts, none⟩)) :
    (document fuel).run { tokens := ⟨.blockMappingStart, start, stop⟩ :: rest } =
      ((root, false),
        ⟨[⟨.streamEnd, start', stop'⟩], directives, names, anchored, parts, none⟩) := by
  simp only [document, peek, isBroken, bind_pure_comp, bind_assoc, bind_map_left, StateT.run_bind,
    StateT.run_get, StateT.run_pure, StateT.run_modify, pure_bind, List.head?_cons, Bool.not_false,
    if_true, h]
  rfl

end Build

/-- The tokens of a mapping are a tree of its entries. -/
theorem ofTokens_fields
    (hts : ts.map (·.kind) =
      .blockMappingStart :: (fields.flatMap Field.kinds ++ [.blockEnd, .streamEnd])) :
    ∃ nodes mark parts, AreEntries fields nodes ∧
      Tree.ofTokens ts = { root := .mapping none nodes mark, parts := parts } := by
  obtain ⟨⟨_, start, stop⟩, rest, rfl, rfl, hrest⟩ := List.map_eq_cons_iff.1 hts
  obtain ⟨fuel, hfuel, hrestFuel⟩ : ∃ fuel,
      8 * (⟨.blockMappingStart, start, stop⟩ :: rest : List Token).length + 16 = fuel + 1 ∧
        rest.length + 8 ≤ fuel := by
    rw [List.length_cons]
    exact ⟨_, rfl, by omega⟩
  obtain ⟨nodes, behind, parts, hnodes, hbehind, hrun⟩ :=
    Build.blockEntries_fields hrest hrestFuel Build.standardHandles [] [] 1
  obtain ⟨⟨_, start', stop'⟩, _, rfl, rfl, hnil⟩ := List.map_eq_cons_iff.1 hbehind
  obtain rfl := List.map_eq_nil_iff.1 hnil
  refine ⟨nodes, start, parts, hnodes, ?_⟩
  have hnode := Build.node_mapping hrun start stop
  rw [Tree.ofTokens, hfuel, Build.document_mapping hnode]

/-! ### Text -/

/-- A key that is written as it is. -/
structure IsKey (name : String) : Prop where
  isName : IsName name.toList
  isSimpleKey : (Value.string name).isSimpleKey
  written : writeScalar true 2 name.toList = name.toList

/-- The value of a text, or of a list of texts. -/
def Content.toValue : Content → Value
  | .text s => .string s
  | .texts items => .sequence (items.map .string)

/-- A mapping of names. -/
def fieldMapping (fields : List Field) : Value :=
  .mapping (fields.map fun f => (.string f.name, f.content.toValue))

theorem lineEnd_append (s : List Char) (ht : t ≠ []) : lineEnd (s ++ t) = lineEnd t := by
  rw [lineEnd, lineEnd, List.getLast?_append_of_ne_nil s ht]

theorem textWritten_eq (s : String) :
    textWritten s =
      ' ' :: writeScalar false 2 s.toList ++ lineEnd (' ' :: writeScalar false 2 s.toList) := by
  rw [lineEnd_cons_space]
  rfl

/-- A text behind a colon or a dash, without the end of its line. -/
theorem write_string (inMapping fresh : Bool) (s : String) :
    Value.write ⟨some 0, inMapping, fresh, true, false⟩ (.string s) =
      .ok (' ' :: writeScalar false 2 s.toList) := by
  simp [Value.write, Place.gap, writeScalarValue, scalarIndent]

/-- An item is written behind what ends the line before it. -/
theorem writeItems_cons (item : String) (lead : List Char) (more : List Value) :
    writeItems 0 lead (.string item :: more) =
      (writeItems 0 (lineEnd (' ' :: writeScalar false 2 item.toList)) more).map
        fun text => lead ++ '-' :: ' ' :: writeScalar false 2 item.toList ++ text := by
  rw [writeItems, write_string]
  simp only [spaces, List.replicate_zero, List.append_nil]
  cases writeItems 0 (lineEnd (' ' :: writeScalar false 2 item.toList)) more with
  | error e => rfl
  | ok text => rfl

/-- The items are written one behind the other. The end of the last line is not among them. -/
theorem writeItems_items {items : List String} (hne : items ≠ []) (lead : List Char) :
    ∃ text, writeItems 0 lead (items.map .string) = .ok text ∧ text ≠ [] ∧
      text ++ lineEnd text = lead ++ items.flatMap itemWritten := by
  induction items generalizing lead with
  | nil => exact absurd rfl hne
  | cons item more ih =>
    rw [List.map_cons, writeItems_cons, List.flatMap_cons, itemWritten, textWritten_eq]
    by_cases hmore : more = []
    · subst hmore
      -- the last item ends the text, and its line stays open
      refine ⟨_, rfl, by simp, ?_⟩
      dsimp only
      rw [List.append_nil, lineEnd_append _ (List.cons_ne_nil _ _), ← List.singleton_append,
        lineEnd_append ['-'] (List.cons_ne_nil _ _)]
      simp
    · obtain ⟨text, hwrite, htext, hend⟩ :=
        ih hmore (lineEnd (' ' :: writeScalar false 2 item.toList))
      rw [hwrite]
      refine ⟨_, rfl, by simp, ?_⟩
      rw [lineEnd_append _ htext, List.append_assoc, hend]
      simp

/-- A value is written behind the colon, without the end of its last line. -/
theorem exists_write_toValue (content : Content) :
    ∃ text, content.toValue.write ⟨some 0, true, false, true, false⟩ = .ok text ∧ text ≠ [] ∧
      text ++ lineEnd text = content.written := by
  rcases content with text | (_ | ⟨item, items⟩)
  · exact ⟨_, write_string true false text, List.cons_ne_nil _ _, (textWritten_eq text).symm⟩
  · exact ⟨[' ', '[', ']'], rfl, by simp, rfl⟩
  · obtain ⟨text, hwrite, hne, hend⟩ := writeItems_items (List.cons_ne_nil item items) ['\n']
    refine ⟨text, ?_, hne, hend⟩
    rw [Content.toValue, List.map_cons, Value.write]
    exact hwrite

/-- An entry is written on lines of its own, behind what ends the line before it. -/
theorem writeEntries_cons {name : String} {value : Value} (hkey : IsKey name)
    (hvalue : value.write ⟨some 0, true, false, true, false⟩ = .ok t) (lead : List Char)
    (more : List (Value × Value)) :
    writeEntries 0 lead ((.string name, value) :: more) =
      (writeEntries 0 (lineEnd t) more).map fun text =>
        lead ++ name.toList ++ ':' :: t ++ text := by
  have hname : Value.write ⟨some 0, true, false, false, true⟩ (.string name) = .ok name.toList := by
    simp [Value.write, Place.gap, writeScalarValue, scalarIndent, hkey.written]
  rw [writeEntries, if_pos hkey.isSimpleKey, hname, hvalue]
  simp only [spaces, List.replicate_zero, List.append_nil]
  cases writeEntries 0 (lineEnd t) more with
  | error e => rfl
  | ok text => rfl

/-- The entries are written one behind the other. The end of the last line is not among them. -/
theorem writeEntries_fields (hkeys : ∀ f ∈ fields, IsKey f.name) (hne : fields ≠ [])
    (lead : List Char) :
    ∃ text, writeEntries 0 lead (fields.map fun f => (.string f.name, f.content.toValue)) =
        .ok text ∧ text ≠ [] ∧ text ++ lineEnd text = lead ++ fields.flatMap Field.written := by
  induction fields generalizing lead with
  | nil => exact absurd rfl hne
  | cons f more ih =>
    obtain ⟨value, hvalue, hvalueNe, hvalueEnd⟩ := exists_write_toValue f.content
    rw [List.forall_mem_cons] at hkeys
    rw [List.map_cons, writeEntries_cons hkeys.1 hvalue, List.flatMap_cons, Field.written,
      ← hvalueEnd]
    by_cases hmore : more = []
    · subst hmore
      -- the last entry ends the text, and its line stays open
      refine ⟨_, rfl, by simp, ?_⟩
      dsimp only
      rw [List.append_nil, lineEnd_append _ (List.cons_ne_nil _ _), ← List.singleton_append,
        lineEnd_append [':'] hvalueNe]
      simp
    · obtain ⟨text, hwrite, htext, hend⟩ := ih hkeys.2 hmore (lineEnd value)
      rw [hwrite]
      refine ⟨_, rfl, by simp, ?_⟩
      rw [lineEnd_append _ htext, List.append_assoc, hend]
      simp

/-- A mapping of names as a document. -/
theorem render_fields (hkeys : ∀ f ∈ fields, IsKey f.name) (hne : fields ≠ []) :
    render (fieldMapping fields) = .ok (String.ofList (fields.flatMap Field.written)) := by
  obtain ⟨text, hwrite, -, hend⟩ := writeEntries_fields hkeys hne []
  obtain ⟨f, more, rfl⟩ := List.exists_cons_of_ne_nil hne
  have hvalue : (fieldMapping (f :: more)).write ⟨none, false, true, false, false⟩ = .ok text := by
    rw [fieldMapping, List.map_cons, Value.write]
    exact hwrite
  rw [render, hvalue]
  dsimp only
  rw [hend, List.nil_append]

/-! ### Reading -/

theorem isReadable_of_isNameLetter (hc : IsNameLetter c) : isReadable c := by
  simp only [IsNameLetter, Bool.or_eq_true, beq_iff_eq] at hc
  rcases hc with (hc | rfl) | rfl
  · have hrange : 97 ≤ c.toNat ∧ c.toNat ≤ 122 := by
      obtain ⟨hlow, hhigh⟩ := Bool.and_eq_true_iff.1 hc
      exact ⟨UInt32.le_iff_toNat_le.1 (of_decide_eq_true hlow),
        UInt32.le_iff_toNat_le.1 (of_decide_eq_true hhigh)⟩
    simp only [isReadable, Bool.or_eq_true, Bool.and_eq_true, decide_eq_true_eq, beq_iff_eq]
    omega
  · rfl
  · rfl

theorem isReadable_of_mem_textWritten {text : String} (hc : c ∈ textWritten text) :
    isReadable c := by
  rw [textWritten, List.mem_cons, List.mem_append] at hc
  rcases hc with rfl | hc | hc
  · rfl
  · exact isReadable_of_mem_writeIn (suits_writtenStyle text.toList) hc
  · rw [lineEnd] at hc
    split_ifs at hc
    · cases hc
    · rw [List.mem_singleton.1 hc]
      rfl

theorem isReadable_of_mem_content {content : Content} (hc : c ∈ content.written) :
    isReadable c := by
  rcases content with text | (_ | ⟨item, items⟩)
  · exact isReadable_of_mem_textWritten hc
  · have hall : ∀ c ∈ [' ', '[', ']', '\n'], isReadable c := by simp [isReadable]
    exact hall c hc
  · rw [Content.written, List.mem_cons, List.mem_flatMap] at hc
    rcases hc with rfl | ⟨text, -, hc⟩
    · rfl
    · rw [itemWritten, List.mem_cons] at hc
      rcases hc with rfl | hc
      · rfl
      · exact isReadable_of_mem_textWritten hc

/-- What is written of an entry can be read. -/
theorem isReadable_of_mem_written {f : Field} (hname : IsName f.name.toList) (hc : c ∈ f.written) :
    isReadable c := by
  rw [Field.written, List.mem_append, List.mem_cons] at hc
  rcases hc with hc | rfl | hc
  · exact isReadable_of_isNameLetter (hname.letter hc)
  · rfl
  · exact isReadable_of_mem_content hc

/-- A scalar without a tag is read as its text. -/
theorem readText_scalar {tree : Tree} {text : String} {node : Node}
    (h : IsScalar text node) (expected : String) (path : Path) (jumps : Nat) :
    (readText tree expected path node).run jumps = .ok (text, jumps) := by
  obtain ⟨style, mark, rfl⟩ := h
  change Except.ok (String.ofList text.toList, jumps) = _
  rw [String.ofList_toList]

/-- What is read is read at its place, too. -/
theorem located_of_ok {α : Type} {r : Read α} {result : α × Nat} {jumps : Nat}
    (h : r.run jumps = .ok result) (mark : Mark) (path : Path) :
    (Read.located mark path r).run jumps = .ok result := by
  replace h : r jumps = .ok result := h
  rw [StateT.run, Read.located, h]

section Record

variable {σ α : Type} {step : σ → String → Path → Node → Read σ} {start state : σ}

/-- Field by field, what is read of a record gets from one state to another. -/
inductive FieldsRead (step : σ → String → Path → Node → Read σ) : σ → List Field → σ → Prop
  | nil (state : σ) : FieldsRead step state [] state
  | cons {state state' state'' : σ} {f : Field} {more : List Field}
      (first : ∀ path node jumps, f.content.IsNode node →
        (step state f.name path node).run jumps = .ok (state', jumps))
      (rest : FieldsRead step state' more state'') : FieldsRead step state (f :: more) state''

/-- The entries of a record are read in their order. -/
theorem FieldsRead.run_readRecordEntries (h : FieldsRead step start fields state)
    {nodes : List (Node × Node)} (hnodes : AreEntries fields nodes) (tree : Tree) (path : Path)
    (jumps : Nat) :
    (readRecordEntries tree step path start nodes).run jumps = .ok (state, jumps) := by
  induction h generalizing nodes with
  | nil state =>
    obtain rfl := List.forall₂_nil_left_iff.1 hnodes
    rfl
  | @cons state state' _ f more hfirst _ ih =>
    obtain ⟨⟨key, value⟩, nodes, ⟨hkey, hvalue⟩, hmore, rfl⟩ := List.forall₂_cons_left_iff.1 hnodes
    rw [readRecordEntries, StateT.run_bind, readText_scalar hkey]
    change ((step state f.name (entryPath path key) value).run jumps >>= _) = _
    rw [hfirst _ _ _ hvalue]
    exact ih hmore

/-- A record is read once its fields are. -/
theorem FieldsRead.run_readRecord (h : FieldsRead step start fields state)
    {nodes : List (Node × Node)} (hnodes : AreEntries fields nodes)
    {finish : σ → Except Misfit α} {a : α} (hfinish : finish state = .ok a) (tree : Tree)
    (expected : String) (path : Path) (mark : Mark) (jumps : Nat) :
    (readRecord tree expected step start finish path (.mapping none nodes mark)).run jumps =
      .ok (a, jumps) := by
  change (Read.located mark path _).run jumps = _
  refine located_of_ok ?_ mark path
  change ((readRecordEntries tree step path start nodes).run jumps >>= _) = _
  rw [h.run_readRecordEntries hnodes]
  dsimp only [bind, Except.bind]
  rw [hfinish]
  rfl

end Record

/-- A mapping of names is written as a document that is read as the record of its fields. -/
theorem parse_record {σ α : Type} {step : Tree → σ → String → Path → Node → Read σ}
    {start state : σ} {finish : σ → Except Misfit α} {a : α}
    (hkeys : ∀ f ∈ fields, IsKey f.name) (hne : fields ≠ [])
    (hfields : ∀ tree, FieldsRead (step tree) start fields state)
    (hfinish : finish state = .ok a) (expected : String) :
    ∃ text, render (fieldMapping fields) = .ok text ∧
      parse (fun tree => readRecord tree expected (step tree) start finish) text = .ok a := by
  have hnames : ∀ f ∈ fields, IsName f.name.toList := fun f hf => (hkeys f hf).isName
  obtain ⟨ts, hts, hkinds⟩ := Scanner.tokens_fields hne hnames
  obtain ⟨nodes, mark, parts, hnodes, htree⟩ := ofTokens_fields hkinds
  refine ⟨_, render_fields hkeys hne, ?_⟩
  have hreadable : (fields.flatMap Field.written).all isReadable = true := by
    rw [List.all_eq_true]
    intro c hc
    obtain ⟨f, hf, hc⟩ := List.mem_flatMap.1 hc
    exact isReadable_of_mem_written (hnames f hf) hc
  have hread (tree : Tree) :=
    (hfields tree).run_readRecord hnodes hfinish tree expected .root mark 0
  rw [parse, String.toList_ofList, hreadable, hts, htree]
  simp [hread]

end DeploySync.Yaml
