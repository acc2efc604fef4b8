import DeploySync.Proofs.Text.Hex
import DeploySync.Proofs.Yaml.Gap

/-!
# Quoted scalars read back

## Main results

* `Yaml.readDoubleQuoted_writeIn` — any text reads back from double quotes
* `Yaml.readSingleQuoted_writeIn` — a text that may be written in single quotes reads back from them
-/

namespace DeploySync.Yaml

variable {c : Char} {s t rest word : List Char} {m : Mark} {indent fuel n : Nat}

/-! ### Words of quoted scalars -/

section Words

variable {readWord : List Char → Mark → Option (List Char × QuotedEnd × Cursor)}
variable {cursor behind behind' : Cursor} {gap : Gap}

/-- A closing quote ends the scalar. -/
theorem readQuotedWords_quote (hcolumn : 0 < cursor.mark.column) (hrest : cursor.rest ≠ [])
    (hword : readWord cursor.rest cursor.mark = some (word, .quote, behind)) (fuel : Nat) :
    readQuotedWords readWord (fuel + 1) cursor = some (word, behind) := by
  rw [readQuotedWords, atDocumentMarker_of_column hcolumn, List.isEmpty_eq_false_iff.2 hrest, hword]
  rfl

/-- A blank ends a word, and the gap belongs to the text. -/
theorem readQuotedWords_blank (hcolumn : 0 < cursor.mark.column) (hrest : cursor.rest ≠ [])
    (hword : readWord cursor.rest cursor.mark = some (word, .blank, behind))
    (hgap : readGap 0 false behind.rest behind.mark = some (gap, behind'))
    (hescaped : gap.escaped = false) (fuel : Nat) :
    readQuotedWords readWord (fuel + 1) cursor =
      (readQuotedWords readWord fuel behind').map fun (more, behind) =>
        (word ++ gap.text ++ more, behind) := by
  have hsame : { gap with escaped := false } = gap := by
    rw [← hescaped]
  have hhow : (QuotedEnd.blank == QuotedEnd.escapedBreak) = false := rfl
  rw [readQuotedWords, atDocumentMarker_of_column hcolumn, List.isEmpty_eq_false_iff.2 hrest, hword]
  simp only [hhow, hgap, hsame, Bool.or_self, Bool.false_eq_true, if_false]

end Words

/-! ### Double quotes -/

/-- What a word of double-quoted characters reads as, with one more character in front. -/
def consWord (c : Char) (result : List Char × QuotedEnd × Cursor) :
    List Char × QuotedEnd × Cursor :=
  (c :: result.1, result.2.1, result.2.2)

theorem readDoubleQuotedWord_quote (rest : List Char) (m : Mark) :
    readDoubleQuotedWord ('"' :: rest) m = some ([], .quote, ⟨rest, m.advance 1⟩) := by
  rw [readDoubleQuotedWord]
  · rfl
  · intro e rest h
    exact absurd h (by decide)

theorem readDoubleQuotedWord_space (rest : List Char) (m : Mark) :
    readDoubleQuotedWord (' ' :: rest) m = some ([], .blank, ⟨' ' :: rest, m⟩) := by
  rw [readDoubleQuotedWord]
  · rfl
  · intro e rest h
    exact absurd h (by decide)

/-- A character that is written as it is reads as itself. -/
theorem readDoubleQuotedWord_shown (hshown : isShown c) (hspace : c ≠ ' ')
    (hbreak : isBreak c = false) (hquote : c ≠ '"') (hescape : c ≠ '\\') (rest : List Char)
    (m : Mark) :
    readDoubleQuotedWord (c :: rest) m =
      (readDoubleQuotedWord rest (m.advance 1)).map (consWord c) := by
  rw [readDoubleQuotedWord]
  · simp only [beq_false_of_ne hquote, beq_false_of_ne hescape,
      isBlankOrEnd_of_isShown hshown hspace hbreak, Bool.false_eq_true, if_false]
    rfl
  · intro e rest h
    exact absurd h hescape

/-- What stands behind a backslash reads as a character. -/
structure IsEscapeOf (c : Char) (escape : List Char) : Prop where
  readable : ∀ e ∈ escape, isReadable e
  reads : ∀ rest m, ∃ k, readDoubleQuotedWord ('\\' :: (escape ++ rest)) m =
    (readDoubleQuotedWord rest (m.advance k)).map (consWord c)

/-- An escape of one letter. -/
theorem isEscapeOf_simple {e : Char} (hreadable : isReadable e) (hbreak : isBreak e = false)
    (he : simpleEscape? e = some c) : IsEscapeOf c [e] := by
  refine ⟨by simpa using hreadable, fun rest m => ⟨2, ?_⟩⟩
  rw [List.singleton_append, readDoubleQuotedWord]
  simp only [hbreak, he, Bool.false_eq_true, if_false]
  rfl

/-- The letter of a character that is known by its number. -/
theorem isEscapeOf_letter {e : Char} (hc : c.toNat == n) (hreadable : isReadable e)
    (hbreak : isBreak e = false) (he : simpleEscape? e = some (Char.ofNat n)) :
    IsEscapeOf c [e] := by
  rw [← beq_iff_eq.1 hc, Char.ofNat_toNat] at he
  exact isEscapeOf_simple hreadable hbreak he

/-- Digits can be read. -/
theorem isReadable_of_hexValue? (h : (Text.hexValue? c).isSome) : isReadable c := by
  have hrange : ∀ {a b : Char}, (a ≤ c && c ≤ b) = true → 0x20 ≤ a.toNat → b.toNat ≤ 0x7E →
      0x20 ≤ c.toNat ∧ c.toNat ≤ 0x7E := by
    intro a b hc ha hb
    rw [Bool.and_eq_true, decide_eq_true_eq, decide_eq_true_eq, Char.le_def, Char.le_def,
      UInt32.le_iff_toNat_le, UInt32.le_iff_toNat_le] at hc
    exact ⟨Nat.le_trans ha hc.1, Nat.le_trans hc.2 hb⟩
  have hbounds : 0x20 ≤ c.toNat ∧ c.toNat ≤ 0x7E := by
    rw [Text.hexValue?] at h
    split_ifs at h with hdigit hsmall hcapital
    · exact hrange hdigit (by decide) (by decide)
    · exact hrange hsmall (by decide) (by decide)
    · exact hrange hcapital (by decide) (by decide)
    · cases h
  refine isReadable_of_isShown ?_
  simp only [isShown, Bool.or_eq_true, Bool.and_eq_true, decide_eq_true_eq]
  exact .inl (.inr hbounds)

/-- The character of a number that is spelled by digits. -/
theorem hexChar?_of_spells {digits : List Char} (h : Text.Spells digits c.toNat) :
    hexChar? digits = some c := by
  obtain ⟨values, hvalues, hc⟩ := h
  rw [hexChar?, hvalues]
  dsimp only
  rw [hc]
  exact dif_pos c.valid

/-- An escape with the number of a character. -/
theorem isEscapeOf_number {e : Char} {width : Nat} (hreadable : isReadable e)
    (hbreak : isBreak e = false) (hsimple : simpleEscape? e = none)
    (he : escapeDigits? e = some width) (hwidth : 0 < width) (hc : c.toNat < 16 ^ width) :
    IsEscapeOf c (e :: Text.hexUpper width c.toNat) := by
  have hspells := Text.spells_hexUpper width c.toNat
  have hlength := Text.length_hexUpper hwidth hc
  refine ⟨List.forall_mem_cons.2
    ⟨hreadable, fun d hd => isReadable_of_hexValue? (hspells.hexValue? d hd)⟩,
    fun rest m => ⟨2 + width, ?_⟩⟩
  have hshort : ¬ (Text.hexUpper width c.toNat ++ rest).length < width := by
    rw [List.length_append, hlength]
    omega
  rw [List.cons_append, readDoubleQuotedWord]
  simp only [hbreak, hsimple, he, hshort, List.take_left' hlength, List.drop_left' hlength,
    hexChar?_of_spells hspells, Bool.false_eq_true, if_false]
  rfl

theorem IsEscapeOf.ite {p : Prop} [Decidable p] {x y : List Char} (hx : p → IsEscapeOf c x)
    (hy : ¬ p → IsEscapeOf c y) : IsEscapeOf c (if p then x else y) := by
  by_cases h : p
  · rw [if_pos h]
    exact hx h
  · rw [if_neg h]
    exact hy h

/-- A character that is not written as it is has an escape. -/
theorem exists_isEscapeOf (h : ¬ (isShown c && ! isBreak c && c != '"' && c != '\\') = true) :
    ∃ escape, writeDoubleQuotedChar c = '\\' :: escape ∧ IsEscapeOf c escape := by
  refine ⟨_, if_neg h, ?_⟩
  -- the letters
  refine .ite (fun h => isEscapeOf_letter h rfl rfl rfl) fun _ => ?_
  refine .ite (fun h => isEscapeOf_letter h rfl rfl rfl) fun _ => ?_
  refine .ite (fun h => isEscapeOf_letter h rfl rfl rfl) fun _ => ?_
  refine .ite (fun h => isEscapeOf_letter h rfl rfl rfl) fun _ => ?_
  refine .ite (fun h => isEscapeOf_letter h rfl rfl rfl) fun _ => ?_
  refine .ite (fun h => isEscapeOf_letter h rfl rfl rfl) fun _ => ?_
  refine .ite (fun h => isEscapeOf_letter h rfl rfl rfl) fun _ => ?_
  refine .ite (fun h => isEscapeOf_letter h rfl rfl rfl) fun _ => ?_
  refine .ite (fun h => isEscapeOf_letter h rfl rfl rfl) fun _ => ?_
  refine .ite (fun h => ?_) fun _ => ?_
  · rw [Bool.or_eq_true, beq_iff_eq, beq_iff_eq] at h
    rcases h with rfl | rfl
    · exact isEscapeOf_simple rfl rfl rfl
    · exact isEscapeOf_simple rfl rfl rfl
  refine .ite (fun h => isEscapeOf_letter h rfl rfl rfl) fun _ => ?_
  refine .ite (fun h => isEscapeOf_letter h rfl rfl rfl) fun _ => ?_
  refine .ite (fun h => isEscapeOf_letter h rfl rfl rfl) fun _ => ?_
  -- the numbers, with as many digits as they need
  refine .ite (fun h => isEscapeOf_number rfl rfl rfl rfl (by decide) (by omega)) fun _ => ?_
  refine .ite (fun h => isEscapeOf_number rfl rfl rfl rfl (by decide) (by omega)) fun _ => ?_
  refine isEscapeOf_number rfl rfl rfl rfl (by decide) ?_
  have hvalid := c.valid
  simp only [UInt32.isValidChar, Nat.isValidChar] at hvalid
  simp only [Char.toNat]
  omega

/-- A character other than a space reads back from what is written for it. -/
theorem readDoubleQuotedWord_char (hspace : c ≠ ' ') (rest : List Char) (m : Mark) :
    ∃ k, readDoubleQuotedWord (writeDoubleQuotedChar c ++ rest) m =
      (readDoubleQuotedWord rest (m.advance k)).map (consWord c) := by
  by_cases hself : (isShown c && ! isBreak c && c != '"' && c != '\\') = true
  · rw [writeDoubleQuotedChar, if_pos hself]
    simp only [Bool.and_eq_true, bne_iff_ne, Bool.not_eq_true'] at hself
    obtain ⟨⟨⟨hshown, hbreak⟩, hquote⟩, hescape⟩ := hself
    exact ⟨1, readDoubleQuotedWord_shown hshown hspace hbreak hquote hescape rest m⟩
  · obtain ⟨escape, hwrite, hescape⟩ := exists_isEscapeOf hself
    rw [hwrite]
    exact hescape.reads rest m

/-- What stands in front of what is read. -/
def prependWord (word : List Char) (result : List Char × QuotedEnd × Cursor) :
    List Char × QuotedEnd × Cursor := (word ++ result.1, result.2.1, result.2.2)

/-- A word without spaces reads back. -/
theorem readDoubleQuotedWord_word (hword : ' ' ∉ word) (rest : List Char) (m : Mark) :
    ∃ k, readDoubleQuotedWord (word.flatMap writeDoubleQuotedChar ++ rest) m =
      (readDoubleQuotedWord rest (m.advance k)).map (prependWord word) := by
  induction word generalizing m with
  | nil =>
    refine ⟨0, ?_⟩
    cases hrest : readDoubleQuotedWord rest m <;> simp [Mark.advance, hrest, prependWord]
  | cons c more ih =>
    rw [List.mem_cons, not_or] at hword
    obtain ⟨k, hc⟩ := readDoubleQuotedWord_char (Ne.symm hword.1)
      (more.flatMap writeDoubleQuotedChar ++ rest) m
    obtain ⟨k', hmore⟩ := ih hword.2 (m.advance k)
    refine ⟨k + k', ?_⟩
    rw [List.flatMap_cons, List.append_assoc, hc, hmore, advance_advance, Option.map_map]
    rfl

/-- What is written behind spaces ends them. -/
theorem endsGap_doubleQuoted (h : ∀ c ∈ t.head?, (c == ' ') = false) (rest : List Char) :
    EndsGap (t.flatMap writeDoubleQuotedChar ++ '"' :: rest) := by
  cases t with
  | nil => exact ⟨rfl, rfl⟩
  | cons c more =>
    have hspace : c ≠ ' ' := by simpa using h
    rw [List.flatMap_cons]
    by_cases hself : (isShown c && ! isBreak c && c != '"' && c != '\\') = true
    · rw [writeDoubleQuotedChar, if_pos hself]
      simp only [Bool.and_eq_true, Bool.not_eq_true'] at hself
      obtain ⟨⟨⟨hshown, hbreak⟩, -⟩, -⟩ := hself
      refine ⟨?_, hbreak⟩
      change isSpace c = false
      rwa [← Bool.not_eq_true, isSpace_iff_of_isShown hshown]
    · obtain ⟨escape, hwrite, -⟩ := exists_isEscapeOf hself
      rw [hwrite]
      exact ⟨rfl, rfl⟩

theorem flatMap_spaces (n : Nat) : (spaces n).flatMap writeDoubleQuotedChar = spaces n := by
  induction n with
  | zero => rfl
  | succ n ih =>
    rw [spaces, List.replicate_succ, List.flatMap_cons]
    exact congrArg (' ' :: ·) ih

/-- The words of any text read back, up to the quote behind them. -/
theorem readQuotedWords_doubleQuoted (hcolumn : 0 < m.column) (hfuel : s.length < fuel)
    (rest : List Char) :
    ∃ m', m.line ≤ m'.line ∧ readQuotedWords readDoubleQuotedWord fuel
      ⟨s.flatMap writeDoubleQuotedChar ++ '"' :: rest, m⟩ = some (s, ⟨rest, m'⟩) := by
  -- a word and the spaces behind it are read at a time
  induction fuel generalizing s m with
  | zero => omega
  | succ fuel ih =>
    obtain ⟨word, hword, rfl | ⟨n, t, rfl, ht⟩⟩ := exists_word s
    · obtain ⟨k, hread⟩ := readDoubleQuotedWord_word hword ('"' :: rest) m
      rw [readDoubleQuotedWord_quote] at hread
      simp only [List.append_nil, Option.map_some, prependWord] at hread
      exact ⟨(m.advance k).advance 1, Nat.le_refl _,
        readQuotedWords_quote hcolumn (by simp) hread fuel⟩
    · have hrest := endsGap_doubleQuoted ht rest
      obtain ⟨k, hread⟩ := readDoubleQuotedWord_word hword
        (spaces (n + 1) ++ (t.flatMap writeDoubleQuotedChar ++ '"' :: rest)) m
      have hspace := readDoubleQuotedWord_space
        (spaces n ++ (t.flatMap writeDoubleQuotedChar ++ '"' :: rest)) (m.advance k)
      change readDoubleQuotedWord (spaces (n + 1) ++ _) _ = _ at hspace
      rw [hspace] at hread
      have hlength : t.length < fuel := by
        simp only [List.length_append, spaces, List.length_replicate] at hfuel
        omega
      obtain ⟨m', hline, hmore⟩ := ih (m := (m.advance k).advance (n + 1))
        (by simp only [Mark.advance]; omega) hlength
      have hgap := readGap_spaces hrest 0 (n + 1) (m.advance k)
      refine ⟨m', hline, ?_⟩
      rw [List.flatMap_append, List.flatMap_append, flatMap_spaces, List.append_assoc,
        List.append_assoc]
      refine (readQuotedWords_blank hcolumn (by simp) hread hgap rfl fuel).trans ?_
      rw [hmore, text_spaces]
      simp

theorem length_le_length_flatMap (s : List Char) :
    s.length ≤ (s.flatMap writeDoubleQuotedChar).length := by
  induction s with
  | nil => exact Nat.le_refl _
  | cons c s ih =>
    have hc : 0 < (writeDoubleQuotedChar c).length := by
      by_cases hself : (isShown c && ! isBreak c && c != '"' && c != '\\') = true
      · rw [writeDoubleQuotedChar, if_pos hself]
        exact Nat.zero_lt_one
      · obtain ⟨escape, hwrite, -⟩ := exists_isEscapeOf hself
        rw [hwrite]
        exact Nat.zero_lt_succ _
    rw [List.flatMap_cons, List.length_append, List.length_cons]
    omega

/-- Any text reads back from double quotes. -/
theorem readDoubleQuoted_writeIn (indent : Nat) (s rest : List Char) (m : Mark) :
    ∃ m', m.line ≤ m'.line ∧
      readDoubleQuoted ⟨writeIn .doubleQuoted indent s ++ rest, m⟩ = some (s, ⟨rest, m'⟩) := by
  have hwritten : writeIn .doubleQuoted indent s ++ rest =
      '"' :: (s.flatMap writeDoubleQuotedChar ++ '"' :: rest) := by
    simp [writeIn]
  have hlength := length_le_length_flatMap s
  have hcolumn : 0 < (m.advance 1).column := Nat.zero_lt_succ _
  rw [hwritten, readDoubleQuoted]
  refine readQuotedWords_doubleQuoted hcolumn ?_ rest
  rw [List.length_cons, List.length_append]
  omega

/-! ### Single quotes -/

/-- A text that may stand between single quotes and has no line feed. -/
structure SingleQuotable (s : List Char) : Prop where
  shown : ∀ c ∈ s, isShown c
  newline : '\n' ∉ s
  breakSpace : hasPair isBreak (· == ' ') s = false
  spaceBreak : hasPair (· == ' ') isBreak s = false

theorem hasPair_append_right {p q : Char → Bool} (h : hasPair p q (s ++ t) = false) :
    hasPair p q t = false := by
  induction s with
  | nil => exact h
  | cons a s ih =>
    refine ih ?_
    cases hst : s ++ t with
    | nil => rfl
    | cons b more =>
      rw [List.cons_append, hst, hasPair, Bool.or_eq_false_iff] at h
      exact h.2

/-- Of two neighbours of which the first is in the first class the second is not in the second
one. -/
theorem not_pair {p q : Char → Bool} {a b : Char} (h : hasPair p q (s ++ a :: b :: t) = false)
    (ha : p a) : q b = false := by
  have hpair := hasPair_append_right h
  rw [hasPair, ha, Bool.true_and, Bool.or_eq_false_iff] at hpair
  exact hpair.1

theorem SingleQuotable.append_right (h : SingleQuotable (s ++ t)) : SingleQuotable t where
  shown c hc := h.shown c (List.mem_append_right s hc)
  newline hmem := h.newline (List.mem_append_right s hmem)
  breakSpace := hasPair_append_right h.breakSpace
  spaceBreak := hasPair_append_right h.spaceBreak

/-- A text in which quotes are written twice. -/
def doubleQuotes (s : List Char) : List Char :=
  s.flatMap fun c => if c == '\'' then ['\'', '\''] else [c]

theorem doubleQuotes_cons (c : Char) (s : List Char) :
    doubleQuotes (c :: s) = (if c == '\'' then ['\'', '\''] else [c]) ++ doubleQuotes s :=
  List.flatMap_cons

/-- A character of a word: neither a space nor a line break. -/
def IsWordChar (c : Char) : Prop := isShown c ∧ c ≠ ' ' ∧ isBreak c = false

theorem IsWordChar.isBlankOrEnd (hc : IsWordChar c) : isBlankOrEnd c = false :=
  isBlankOrEnd_of_isShown hc.1 hc.2.1 hc.2.2

theorem IsWordChar.isSpace (hc : IsWordChar c) : isSpace c = false := by
  rw [← Bool.not_eq_true, isSpace_iff_of_isShown hc.1]
  exact hc.2.1

/-! What is written -/

theorem writeSingleQuotedChars_word (hword : ∀ c ∈ word, IsWordChar c) (t : List Char) :
    writeSingleQuotedChars indent false (word ++ t) =
      doubleQuotes word ++ writeSingleQuotedChars indent false t := by
  induction word with
  | nil => rfl
  | cons c word ih =>
    rw [List.forall_mem_cons] at hword
    obtain ⟨⟨-, hspace, hbreak⟩, hmore⟩ := hword
    rw [List.cons_append, writeSingleQuotedChars, beq_false_of_ne hspace, hbreak, ih hmore,
      doubleQuotes_cons]
    simp

theorem writeSingleQuotedChars_spaces (n : Nat) (t : List Char) :
    writeSingleQuotedChars indent false (spaces n ++ t) =
      spaces n ++ writeSingleQuotedChars indent false t := by
  induction n with
  | zero => rfl
  | succ n ih =>
    rw [spaces, List.replicate_succ, List.cons_append, writeSingleQuotedChars]
    exact congrArg (' ' :: ·) ih

theorem writeSingleQuotedChars_breaks {breaks : List Char} (hbreaks : ∀ c ∈ breaks, isBreak c)
    (hnewline : '\n' ∉ breaks) (hne : breaks ≠ []) (lineStart : Bool) (t : List Char) :
    writeSingleQuotedChars indent lineStart (breaks ++ t) =
      breaks ++ writeSingleQuotedChars indent true t := by
  induction breaks generalizing lineStart with
  | nil => exact absurd rfl hne
  | cons b more ih =>
    rw [List.forall_mem_cons] at hbreaks
    rw [List.mem_cons, not_or] at hnewline
    have hspace : (b == ' ') = false := by
      refine beq_false_of_ne ?_
      rintro rfl
      exact absurd hbreaks.1 (by decide)
    have hone : writeSingleQuotedChars indent lineStart (b :: (more ++ t)) =
        b :: writeSingleQuotedChars indent true (more ++ t) := by
      rw [writeSingleQuotedChars, hspace, hbreaks.1, beq_false_of_ne (Ne.symm hnewline.1)]
      rfl
    rw [List.cons_append, hone]
    cases more with
    | nil => rfl
    | cons b' more =>
      rw [ih hbreaks.2 hnewline.2 (by simp) true]
      rfl

/-- A line starts behind its margin. -/
theorem writeSingleQuotedChars_lineStart (ht : ∀ c ∈ t.head?, IsWordChar c) :
    writeSingleQuotedChars indent true t =
      spaces indent ++ writeSingleQuotedChars indent false t := by
  cases t with
  | nil => simp [writeSingleQuotedChars]
  | cons c more =>
    obtain ⟨-, hspace, hbreak⟩ := ht c rfl
    rw [writeSingleQuotedChars, writeSingleQuotedChars, beq_false_of_ne hspace, hbreak]
    simp

/-! What is read -/

theorem readSingleQuotedWord_quote (hrest : rest.head? ≠ some '\'') (m : Mark) :
    readSingleQuotedWord ('\'' :: rest) m = ([], .quote, ⟨rest, m.advance 1⟩) := by
  rw [readSingleQuotedWord]
  · rfl
  · rintro rest' - rfl
    exact hrest rfl

theorem readSingleQuotedWord_blank (hc : isBlankOrEnd c) (rest : List Char) (m : Mark) :
    readSingleQuotedWord (c :: rest) m = ([], .blank, ⟨c :: rest, m⟩) := by
  have hquote : c ≠ '\'' := by
    rintro rfl
    exact absurd hc (by decide)
  rw [readSingleQuotedWord]
  · rw [beq_false_of_ne hquote, hc]
    rfl
  · intro rest' h
    exact absurd h hquote

/-- A word without blanks reads back. -/
theorem readSingleQuotedWord_word (hword : ∀ c ∈ word, IsWordChar c) (rest : List Char) (m : Mark) :
    ∃ k, readSingleQuotedWord (doubleQuotes word ++ rest) m =
      prependWord word (readSingleQuotedWord rest (m.advance k)) := by
  induction word generalizing m with
  | nil => exact ⟨0, rfl⟩
  | cons c more ih =>
    rw [List.forall_mem_cons] at hword
    by_cases hquote : c = '\''
    · -- a quote is written twice and read once
      obtain ⟨k, hmore⟩ := ih hword.2 (m.advance 2)
      refine ⟨2 + k, ?_⟩
      rw [← advance_advance, hquote]
      change readSingleQuotedWord ('\'' :: '\'' :: (doubleQuotes more ++ rest)) m = _
      rw [readSingleQuotedWord, hmore]
      rfl
    · obtain ⟨k, hmore⟩ := ih hword.2 (m.advance 1)
      refine ⟨1 + k, ?_⟩
      rw [← advance_advance, doubleQuotes_cons, beq_false_of_ne hquote]
      change readSingleQuotedWord (c :: (doubleQuotes more ++ rest)) m = _
      rw [readSingleQuotedWord, beq_false_of_ne hquote, hword.1.isBlankOrEnd, hmore]
      · rfl
      · intro rest' h
        exact absurd h hquote

/-- What is written behind a gap ends it. -/
theorem endsGap_singleQuoted (ht : ∀ c ∈ t.head?, IsWordChar c) (rest : List Char) :
    EndsGap (writeSingleQuotedChars indent false t ++ '\'' :: rest) := by
  cases t with
  | nil => exact ⟨rfl, rfl⟩
  | cons c more =>
    have hc := ht c rfl
    rw [writeSingleQuotedChars, beq_false_of_ne hc.2.1, hc.2.2]
    by_cases hquote : c = '\''
    · rw [hquote]
      exact ⟨rfl, rfl⟩
    · rw [beq_false_of_ne hquote]
      exact ⟨hc.isSpace, hc.2.2⟩

/-- Line breaks of which the first is no line feed are their own text. -/
theorem text_breaks {breaks : List Char} (hne : breaks ≠ []) (hnewline : '\n' ∉ breaks) :
    Gap.text { breaks := breaks } = breaks := by
  cases breaks with
  | nil => exact absurd rfl hne
  | cons b more =>
    rw [List.mem_cons, not_or] at hnewline
    simp only [Gap.text, Bool.false_eq_true, if_false]
    split
    · rename_i h
      cases h
    · rename_i h
      exact absurd (List.cons.inj h).1.symm hnewline.1
    · rename_i h
      exact absurd (List.cons.inj h).1.symm hnewline.1
    · rfl

/-- Behind a run of one class the text goes on with a word, if nothing of the other class may stand
there. -/
theorem isWordChar_behind {run : List Char} {p q : Char → Bool} (hs : SingleQuotable (run ++ t))
    (hne : run ≠ []) (hrun : ∀ c ∈ run, p c) (hpair : hasPair p q (run ++ t) = false)
    (ht : ∀ c ∈ t.head?, p c = false)
    (hclass : ∀ c, p c = false → q c = false → c ≠ ' ' ∧ isBreak c = false) :
    ∀ c ∈ t.head?, IsWordChar c := by
  intro c hc
  obtain ⟨before, last, rfl⟩ := (List.eq_nil_or_concat run).resolve_left hne
  obtain ⟨more, rfl⟩ := List.head?_eq_some_iff.1 hc
  rw [List.concat_eq_append, List.append_assoc] at hpair
  have hlast : p last := hrun last (by simp)
  exact ⟨hs.shown c (by simp), hclass c (ht c rfl) (not_pair hpair hlast)⟩

/-- A gap of a text that may stand between single quotes reads back. -/
theorem readGap_singleQuoted {b : Char} (hs : SingleQuotable (b :: t)) (hb : b = ' ' ∨ isBreak b)
    (hindent : 0 < indent) (hcolumn : 0 < m.column) (rest : List Char) :
    ∃ run t' gap m', b :: t = run ++ t' ∧ run ≠ [] ∧ gap.text = run ∧ gap.escaped = false ∧
      0 < m'.column ∧ m.line ≤ m'.line ∧
      readGap 0 false (writeSingleQuotedChars indent false (b :: t) ++ '\'' :: rest) m =
        some (gap, ⟨writeSingleQuotedChars indent false t' ++ '\'' :: rest, m'⟩) := by
  rcases hb with rfl | hb
  · obtain ⟨run, t', heq, hrun, ht'⟩ := exists_run (· == ' ') (' ' :: t)
    have hne : run ≠ [] := by
      rintro rfl
      rw [List.nil_append] at heq
      exact absurd ( ht' ' ' (by rw [← heq]; rfl)) (by decide)
    rw [heq] at hs ⊢
    have hword := isWordChar_behind hs hne hrun hs.spaceBreak ht'
      fun c hspace hbreak => ⟨by simpa using hspace, hbreak⟩
    refine ⟨run, t', { spaces := run }, m.advance run.length, rfl, hne, rfl, rfl,
      by simp only [Mark.advance]; omega, Nat.le_refl _, ?_⟩
    rw [eq_spaces hrun, writeSingleQuotedChars_spaces, List.append_assoc,
      readGap_spaces (endsGap_singleQuoted hword rest), ← eq_spaces hrun]
  · obtain ⟨run, t', heq, hrun, ht'⟩ := exists_run isBreak (b :: t)
    have hne : run ≠ [] := by
      rintro rfl
      rw [List.nil_append] at heq
      rw [ht' b (by rw [← heq]; rfl)] at hb
      cases hb
    rw [heq] at hs ⊢
    have hword := isWordChar_behind hs hne hrun hs.breakSpace ht'
      fun c hbreak hspace => ⟨by simpa using hspace, hbreak⟩
    -- a line feed would be written twice, but there is none
    have hnewline : '\n' ∉ run := fun h => hs.newline (List.mem_append_left t' h)
    have hown : ∀ c ∈ run, IsOwnBreak c := fun c hc =>
      (isBreak_iff_of_isShown (hs.shown c (List.mem_append_left t' hc))).1 (hrun c hc)
    obtain ⟨m', hm', hline, hgap⟩ := readGap_breaks hown hne (endsGap_singleQuoted hword rest) 0
      indent false m
    refine ⟨run, t', { breaks := run }, m', rfl, hne, text_breaks hne hnewline, rfl, by omega,
      Nat.le_of_lt hline, ?_⟩
    rw [writeSingleQuotedChars_breaks hrun hnewline hne, writeSingleQuotedChars_lineStart hword,
      List.append_assoc, List.append_assoc, hgap]

/-- A blank is written first, if it stands first. -/
theorem exists_writeSingleQuotedChars {b : Char} (hb : b = ' ' ∨ isBreak b) (hnewline : b ≠ '\n')
    (indent : Nat) (t : List Char) :
    ∃ more, writeSingleQuotedChars indent false (b :: t) = b :: more := by
  rcases hb with rfl | hb
  · exact ⟨_, by rw [writeSingleQuotedChars]; rfl⟩
  · have hspace : b ≠ ' ' := by
      rintro rfl
      exact absurd hb (by decide)
    refine ⟨writeSingleQuotedChars indent true t, ?_⟩
    rw [writeSingleQuotedChars, beq_false_of_ne hspace, hb, beq_false_of_ne hnewline]
    rfl

/-- A text that may stand between single quotes is a word, and a gap may come behind it. -/
theorem SingleQuotable.exists_word (hs : SingleQuotable s) :
    ∃ word, (∀ c ∈ word, IsWordChar c) ∧
      (s = word ∨ ∃ b t, s = word ++ b :: t ∧ (b = ' ' ∨ isBreak b)) := by
  obtain ⟨word, t, rfl, hword, ht⟩ := exists_run (fun c => c != ' ' && ! isBreak c) s
  refine ⟨word, fun c hc => ⟨hs.shown c (List.mem_append_left t hc), ?_⟩, ?_⟩
  · have hclass := hword c hc
    rwa [Bool.and_eq_true, bne_iff_ne, Bool.not_eq_true'] at hclass
  · cases t with
    | nil => exact Or.inl (List.append_nil word)
    | cons b t =>
      have hclass := ht b rfl
      rw [Bool.and_eq_false_iff, bne_eq_false_iff_eq, Bool.not_eq_false'] at hclass
      exact Or.inr ⟨b, t, rfl, hclass⟩

/-- What starts a gap ends a word. -/
theorem isBlankOrEnd_of_gap (hc : c = ' ' ∨ isBreak c) : isBlankOrEnd c := by
  rcases hc with rfl | hc
  · rfl
  · rw [isBlankOrEnd, isBreakOrEnd, hc]
    simp

/-- The words of a text that may stand between single quotes read back, up to the quote behind
them. -/
theorem readQuotedWords_singleQuoted (hs : SingleQuotable s) (hindent : 0 < indent)
    (hcolumn : 0 < m.column) (hfuel : s.length < fuel) (hrest : rest.head? ≠ some '\'') :
    ∃ m', m.line ≤ m'.line ∧ readQuotedWords (fun s m => some (readSingleQuotedWord s m)) fuel
      ⟨writeSingleQuotedChars indent false s ++ '\'' :: rest, m⟩ = some (s, ⟨rest, m'⟩) := by
  -- a word and the gap behind it are read at a time
  induction fuel generalizing s m with
  | zero => omega
  | succ fuel ih =>
    obtain ⟨word, hchars, rfl | ⟨b, t, rfl, hb⟩⟩ := hs.exists_word
    · obtain ⟨k, hread⟩ := readSingleQuotedWord_word hchars ('\'' :: rest) m
      rw [readSingleQuotedWord_quote hrest, prependWord, List.append_nil] at hread
      have hwritten : writeSingleQuotedChars indent false s = doubleQuotes s := by
        have hword : writeSingleQuotedChars indent false (s ++ []) = doubleQuotes s ++ [] :=
          writeSingleQuotedChars_word hchars []
        rwa [List.append_nil, List.append_nil] at hword
      rw [hwritten]
      exact ⟨(m.advance k).advance 1, Nat.le_refl _,
        readQuotedWords_quote hcolumn (by simp) (congrArg some hread) fuel⟩
    · obtain ⟨k, hread⟩ := readSingleQuotedWord_word hchars
        (writeSingleQuotedChars indent false (b :: t) ++ '\'' :: rest) m
      rw [writeSingleQuotedChars_word hchars, List.append_assoc]
      obtain ⟨run, t', gap, m', heq, hne, htext, hescaped, hcolumn', hline, hgap⟩ :=
        readGap_singleQuoted hs.append_right hb hindent
          (m := m.advance k) (by simp only [Mark.advance]; omega) rest
      obtain ⟨more, hmore⟩ := exists_writeSingleQuotedChars hb
        (fun h => hs.newline (by simp [h])) indent t
      rw [hmore, List.cons_append, readSingleQuotedWord_blank (isBlankOrEnd_of_gap hb),
        prependWord] at hread
      rw [hmore, List.cons_append] at hgap ⊢
      have hs' : SingleQuotable t' := by
        have hboth := hs.append_right
        rw [heq] at hboth
        exact hboth.append_right
      have hlength : t'.length < fuel := by
        have hpos := List.length_pos_iff.2 hne
        rw [heq, List.length_append, List.length_append] at hfuel
        omega
      obtain ⟨m'', hline', hrec⟩ := ih hs' hcolumn' hlength
      refine ⟨m'', Nat.le_trans hline hline', ?_⟩
      refine (readQuotedWords_blank hcolumn (by simp) (congrArg some hread) hgap hescaped
        fuel).trans ?_
      rw [hrec, htext, heq]
      simp

theorem length_le_length_writeSingleQuotedChars (indent : Nat) (lineStart : Bool) (s : List Char) :
    s.length ≤ (writeSingleQuotedChars indent lineStart s).length := by
  induction s generalizing lineStart with
  | nil => exact Nat.zero_le _
  | cons c s ih =>
    have hstart := ih lineStart
    have htrue := ih true
    have hfalse := ih false
    rw [writeSingleQuotedChars]
    dsimp only
    split_ifs <;> simp only [List.length_append, List.length_cons, List.length_nil] <;> omega

/-- A text that may be written in single quotes reads back from them. -/
theorem readSingleQuoted_writeIn (hs : SingleQuotable s) (hindent : 0 < indent)
    (hrest : rest.head? ≠ some '\'') (m : Mark) :
    ∃ m', m.line ≤ m'.line ∧
      readSingleQuoted ⟨writeIn .singleQuoted indent s ++ rest, m⟩ = some (s, ⟨rest, m'⟩) := by
  have hwritten : writeIn .singleQuoted indent s ++ rest =
      '\'' :: (writeSingleQuotedChars indent false s ++ '\'' :: rest) := by
    simp [writeIn]
  have hcolumn : 0 < (m.advance 1).column := Nat.zero_lt_succ _
  rw [hwritten, readSingleQuoted]
  refine readQuotedWords_singleQuoted hs hindent hcolumn ?_ hrest
  have hlength := length_le_length_writeSingleQuotedChars indent false s
  rw [List.length_cons, List.length_append]
  omega

end DeploySync.Yaml
