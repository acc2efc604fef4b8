import DeploySync.Proofs.Path

/-!
# The path before the last name

The parent of a path whose last name stands behind a slash is a shorter text, with the same names
but the last one.

## Main results

* `Path.toList_lead` — a path is its lead with its parts behind it
* `Path.namesOf_lead` — the names of a path are among its parts
* `Path.exists_parent` — what the parent of a path is
-/

namespace DeploySync.Path

variable {p : Path} {parts kept init : List (List Char)} {file : String}

/-- A path is its lead with its parts behind it. -/
theorem toList_lead (p : Path) :
    p.text.toList = (leadAndParts p).1 ++ Text.join ['/'] (leadAndParts p).2 := by
  rw [leadAndParts]
  split
  · rename_i rest heq
    rw [heq, Text.join_split]
    rfl
  · rename_i heq
    rw [heq]
    rfl
  · rename_i rest heq
    obtain ⟨piece, pieces, hs⟩ := List.exists_cons_of_ne_nil (Text.split_ne_nil '/' rest)
    have hjoin := Text.join_split '/' rest
    rw [hs] at hjoin
    rw [heq, hs, Text.join, hjoin]
    · rfl
    · simp
  · rw [Text.join_split]
    rfl

/-- What the lead of a path can be: the root, a dot before a slash or at the end, or nothing in
front of a text that starts neither at the root nor with a dot that stands alone. -/
inductive IsLead : List Char → List (List Char) → Prop
  | root (parts : List (List Char)) : IsLead ['/'] parts
  | dot : IsLead ['.'] []
  | dotSlash (parts : List (List Char)) : IsLead ['.'] ([] :: parts)
  | none {parts : List (List Char)} (hroot : (Text.join ['/'] parts).head? ≠ some '/')
      (hdot : parts.head? ≠ some ['.']) : IsLead [] parts

theorem isLead_leadAndParts (p : Path) : IsLead (leadAndParts p).1 (leadAndParts p).2 := by
  rw [leadAndParts]
  split
  · exact .root _
  · exact .dot
  · exact .dotSlash _
  · rename_i hroot hdot hdotSlash
    -- the text starts with no slash, and its first part is no dot
    refine .none ?_ ?_
    · rw [Text.join_split]
      intro h
      obtain ⟨rest, hrest⟩ := List.head?_eq_some_iff.1 h
      exact hroot rest hrest
    · intro h
      obtain ⟨parts, hparts⟩ := List.head?_eq_some_iff.1 h
      have hjoin := Text.join_split '/' p.text.toList
      rw [show Text.split '/' p.text.toList = ['.'] :: parts from hparts] at hjoin
      cases parts with
      | nil => exact hdot hjoin.symm
      | cons part parts => exact hdotSlash _ hjoin.symm

theorem slash_notMem_parts (p : Path) : ∀ part ∈ (leadAndParts p).2, '/' ∉ part := by
  rw [leadAndParts]
  intro part hpart
  split at hpart
  · exact Text.notMem_of_mem_split hpart
  · simp at hpart
  · rcases List.mem_cons.1 hpart with rfl | hpart
    · simp
    · exact Text.notMem_of_mem_split hpart
  · exact Text.notMem_of_mem_split hpart

theorem namesOf_join (h : ∀ part ∈ parts, '/' ∉ part) :
    namesOf (Text.join ['/'] parts) = (parts.filter (! isTrivial ·)).map String.ofList := by
  by_cases hne : parts = []
  · rw [hne]
    rfl
  · rw [namesOf, Text.split_join hne h]

/-- The names are the parts that say something. -/
theorem namesOf_lead {lead : List Char} (hlead : IsLead lead parts)
    (h : ∀ part ∈ parts, '/' ∉ part) :
    namesOf (lead ++ Text.join ['/'] parts) = (parts.filter (! isTrivial ·)).map String.ofList := by
  cases hlead with
  | root parts => exact (namesOf_append_cons [] _).trans (namesOf_join h)
  | dot => rfl
  | dotSlash parts =>
    cases parts with
    | nil => rfl
    | cons part rest =>
      have hjoin : Text.join ['/'] ([] :: part :: rest) =
          '/' :: Text.join ['/'] (part :: rest) := rfl
      rw [hjoin, namesOf_append_cons, namesOf_join fun s hs => h s (by simp [hs])]
      rfl
  | none => exact namesOf_join h

theorem join_prefix_join (h : kept <+: parts) : Text.join ['/'] kept <+: Text.join ['/'] parts := by
  induction kept generalizing parts with
  | nil => exact List.nil_prefix
  | cons part rest ih =>
    obtain ⟨parts, rfl, hrest⟩ := List.cons_prefix_iff.1 h
    cases parts with
    | nil =>
      obtain rfl := List.prefix_nil.1 hrest
      exact List.prefix_refl _
    | cons next' more' =>
      have hjoin : Text.join ['/'] (part :: next' :: more') =
          part ++ ['/'] ++ Text.join ['/'] (next' :: more') := rfl
      rw [hjoin]
      cases rest with
      | nil => exact (List.prefix_append part _).trans (List.prefix_append _ _)
      | cons next more => exact (List.prefix_append_right_inj _).2 (ih hrest)

theorem prefix_dropTrivialEnd (parts : List (List Char)) : dropTrivialEnd parts <+: parts := by
  have h := List.reverse_prefix.2 (List.dropWhile_suffix isTrivial (l := parts.reverse))
  rwa [List.reverse_reverse] at h

/-- What is dropped at the end says nothing. -/
theorem filter_dropTrivialEnd (parts : List (List Char)) :
    (dropTrivialEnd parts).filter (! isTrivial ·) = parts.filter (! isTrivial ·) := by
  have hparts : parts = dropTrivialEnd parts ++ (parts.reverse.takeWhile isTrivial).reverse := by
    rw [dropTrivialEnd, ← List.reverse_append, List.takeWhile_append_dropWhile,
      List.reverse_reverse]
  have hdropped : (parts.reverse.takeWhile isTrivial).reverse.filter (! isTrivial ·) = [] := by
    refine List.filter_eq_nil_iff.2 fun part hpart => ?_
    have hall := List.all_takeWhile (p := isTrivial) (l := parts.reverse)
    simp [List.all_eq_true.1 hall part (List.mem_reverse.1 hpart)]
  conv_rhs => rw [hparts, List.filter_append, hdropped, List.append_nil]

theorem IsLead.shorten {lead : List Char} (hlead : IsLead lead parts) (h : kept <+: parts) :
    IsLead lead kept := by
  cases hlead with
  | root parts => exact .root kept
  | dot =>
    rw [List.prefix_nil.1 h]
    exact .dot
  | dotSlash parts =>
    cases kept with
    | nil => exact .dot
    | cons part rest =>
      obtain ⟨parts', hparts, -⟩ := List.cons_prefix_iff.1 h
      obtain rfl := (List.cons.inj hparts).1
      exact .dotSlash rest
  | none hroot hdot =>
    -- what is left starts as the whole did
    refine .none (fun hkept => hroot ?_) fun hkept => hdot ?_
    · obtain ⟨more, hmore⟩ := join_prefix_join h
      obtain ⟨rest, hrest⟩ := List.head?_eq_some_iff.1 hkept
      rw [← hmore, hrest]
      rfl
    · obtain ⟨more, hmore⟩ := h
      obtain ⟨rest, hrest⟩ := List.head?_eq_some_iff.1 hkept
      rw [← hmore, hrest]
      rfl

theorem IsLead.head_iff {lead : List Char} (hlead : IsLead lead parts) :
    (lead ++ Text.join ['/'] parts).head? = some '/' ↔ lead = ['/'] := by
  cases hlead with
  | root parts => simp
  | dot => decide
  | dotSlash parts => simp
  | none hroot => simpa using hroot

/-- A path starts with a dot that stands alone exactly if this is its lead. -/
theorem IsLead.startsHere_iff {lead : List Char} (hlead : IsLead lead parts)
    (h : ∀ part ∈ parts, '/' ∉ part) (htext : p.text.toList = lead ++ Text.join ['/'] parts) :
    p.startsHere ↔ lead = ['.'] := by
  rw [startsHere, htext, beq_iff_eq]
  cases hlead with
  | root parts => simp [Text.split]
  | dot => decide
  | dotSlash parts =>
    -- behind the dot stands nothing, or a slash
    have hjoin : ['.'] ++ Text.join ['/'] ([] :: parts) = ['.'] ∨
        ['.'] ++ Text.join ['/'] ([] :: parts) = ['.'] ++ '/' :: Text.join ['/'] parts := by
      cases parts <;> simp [Text.join]
    rcases hjoin with hjoin | hjoin
    · rw [hjoin]
      decide
    · rw [hjoin, Text.split_append_cons]
      simp [Text.split]
  | none hroot hdot =>
    by_cases hne : parts = []
    · rw [hne]
      decide
    · rw [List.nil_append, Text.split_join hne h]
      simpa using hdot

/-- The last part is what stands behind the last slash. -/
theorem getLast?_parts (hp : p.text.toList ≠ ['.']) :
    (leadAndParts p).2.getLast? = (Text.split '/' p.text.toList).getLast? := by
  rw [leadAndParts]
  split
  · rename_i rest heq
    rw [heq, Text.split, if_pos rfl, List.getLast?_cons_of_ne_nil (Text.split_ne_nil '/' rest)]
  · rename_i heq
    exact absurd heq hp
  · rename_i rest heq
    have hsplit : Text.split '/' ('.' :: '/' :: rest) = ['.'] :: Text.split '/' rest :=
      Text.split_append_cons '/' ['.'] rest
    rw [heq, hsplit, List.getLast?_cons_of_ne_nil (Text.split_ne_nil '/' rest),
      List.getLast?_cons_of_ne_nil (Text.split_ne_nil '/' rest)]
  · rfl

/-- Nothing is dropped behind a name. -/
theorem dropTrivialEnd_concat (hfile : IsName file) (init : List (List Char)) :
    dropTrivialEnd (init ++ [file.toList]) = init ++ [file.toList] := by
  rw [dropTrivialEnd, List.reverse_append, List.reverse_singleton, List.singleton_append,
    List.dropWhile_cons_of_neg (by simp [hfile.notTrivial]), List.reverse_cons,
    List.reverse_reverse]

/-- The parent of a path that ends with a name is what stands before the name. -/
theorem parent?_of_parts {lead : List Char}
    (hparts : leadAndParts p = (lead, init ++ [file.toList]))
    (hfile : IsName file) :
    p.parent? = some ⟨String.ofList (lead ++ Text.join ['/'] (dropTrivialEnd init))⟩ := by
  rw [parent?, hparts]
  dsimp only
  rw [dropTrivialEnd_concat hfile]
  split
  · next hnil => simp at hnil
  · rw [List.dropLast_concat]

/-- The parent of a path that ends with a name is a shorter text that starts in the same way; its
names are those of the path but the last one. -/
theorem exists_parent (hp : (Text.split '/' p.text.toList).getLast? = some file.toList)
    (hfile : IsName file) :
    ∃ q, p.parent? = some q ∧ q.names = p.names.dropLast ∧ q.isAbsolute = p.isAbsolute ∧
      q.startsHere = p.startsHere ∧ q.text.toList <+: p.text.toList := by
  obtain ⟨lead, parts, hlp⟩ : ∃ lead parts, leadAndParts p = (lead, parts) := ⟨_, _, rfl⟩
  have hdot : p.text.toList ≠ ['.'] := by
    intro h
    have hname := hfile.notTrivial
    rw [h] at hp
    rw [← Option.some.inj hp] at hname
    cases hname
  have htext := toList_lead p
  have hlead := isLead_leadAndParts p
  have hslash := slash_notMem_parts p
  have hlast := (getLast?_parts hdot).trans hp
  rw [hlp] at htext hlead hslash hlast
  -- the last part is the name
  obtain ⟨init, rfl⟩ : ∃ init, parts = init ++ [file.toList] := List.getLast?_eq_some_iff.1 hlast
  have hkept : dropTrivialEnd init <+: init ++ [file.toList] :=
    (prefix_dropTrivialEnd init).trans (List.prefix_append _ _)
  have hkeptSlash : ∀ part ∈ dropTrivialEnd init, '/' ∉ part := fun part hpart =>
    hslash part (hkept.subset hpart)
  have hkeptLead := hlead.shorten hkept
  refine ⟨⟨String.ofList (lead ++ Text.join ['/'] (dropTrivialEnd init))⟩,
    parent?_of_parts hlp hfile, ?_, ?_, ?_, ?_⟩
  · rw [names_eq, names_eq, htext, String.toList_ofList, namesOf_lead hlead hslash,
      namesOf_lead hkeptLead hkeptSlash, filter_dropTrivialEnd,
      List.filter_append, List.filter_cons_of_pos (by simp [hfile.notTrivial]), List.filter_nil,
      List.map_append, List.map_singleton, List.dropLast_concat]
  · rw [isAbsolute, isAbsolute, htext, String.toList_ofList, Bool.eq_iff_iff, beq_iff_eq,
      beq_iff_eq, hkeptLead.head_iff, hlead.head_iff]
  · have hkeptText : (⟨String.ofList (lead ++ Text.join ['/'] (dropTrivialEnd init))⟩ :
        Path).text.toList = lead ++ Text.join ['/'] (dropTrivialEnd init) := String.toList_ofList
    rw [Bool.eq_iff_iff, hkeptLead.startsHere_iff hkeptSlash hkeptText,
      hlead.startsHere_iff hslash htext]
  · rw [htext, String.toList_ofList]
    exact (List.prefix_append_right_inj lead).2 (join_prefix_join hkept)

end DeploySync.Path
