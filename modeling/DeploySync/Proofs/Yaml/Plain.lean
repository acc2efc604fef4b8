import DeploySync.Proofs.Yaml.Gap

/-!
# Plain scalars read back

## Main definitions

* `Yaml.PlainText` — a text that may be written plain

## Main results

* `Yaml.readPlain_plainText` — such a text reads back at the end of a line
* `Yaml.readPlain_name` — a name reads back in front of a colon
-/

namespace DeploySync.Yaml

variable {c : Char} {s t rest word : List Char} {m : Mark} {indent fuel : Nat}

/-! ### Indicators -/

/-- What stands at the end of a text without indicators has none either. -/
theorem hasIndicator_append {first : Bool} {before : Char}
    (h : hasIndicator first before (s ++ t) = false) :
    ∃ first before, hasIndicator first before t = false := by
  induction s generalizing first before with
  | nil => exact ⟨first, before, h⟩
  | cons a s ih =>
    rw [List.cons_append, hasIndicator, Bool.or_eq_false_iff] at h
    exact ih h.2

/-- The character in front counts for what stands behind it. -/
theorem hasIndicator_append_cons {first : Bool} {before : Char}
    (h : hasIndicator first before (s ++ c :: t) = false) : hasIndicator false c t = false := by
  obtain ⟨first, before, h⟩ := hasIndicator_append h
  rw [hasIndicator, Bool.or_eq_false_iff] at h
  exact h.2

/-- A colon does not stand before a blank or at the end. -/
theorem ne_colon_of_hasIndicator {first : Bool} {before : Char}
    (h : hasIndicator first before (c :: t) = false) (ht : isBlankOrEnd (peek t)) : c ≠ ':' := by
  rintro rfl
  rw [hasIndicator, Bool.or_eq_false_iff, isIndicatorIn, ht] at h
  cases first
  · exact absurd h.1 (by simp)
  · exact absurd h.1 (by simp)

/-- A word does not end in a colon. -/
theorem getLast?_ne_colon {first : Bool} {before : Char}
    (h : hasIndicator first before (word ++ t) = false) (ht : isBlankOrEnd (peek t)) :
    word.getLast? ≠ some ':' := by
  intro hlast
  obtain ⟨more, rfl⟩ := List.getLast?_eq_some_iff.1 hlast
  rw [List.append_assoc, List.singleton_append] at h
  obtain ⟨first, before, h⟩ := hasIndicator_append h
  exact ne_colon_of_hasIndicator h ht rfl

/-- A number sign does not stand behind a blank. -/
theorem ne_numberSign_of_hasIndicator (h : hasIndicator false ' ' (c :: t) = false) : c ≠ '#' := by
  rintro rfl
  rw [hasIndicator, Bool.or_eq_false_iff] at h
  have hblank : isBlankOrEnd ' ' = true := rfl
  simp [isIndicatorIn, hblank] at h

/-! ### Words -/

/-- What ends a word: a blank, or a colon before a blank. -/
def EndsWord (s : List Char) : Prop :=
  isBlankOrEnd (peek s) ∨ ∃ rest, s = ':' :: rest ∧ isBlankOrEnd (peek rest)

theorem readPlainWord_of_endsWord (h : EndsWord s) : readPlainWord false s = some ([], s) := by
  rcases h with hblank | ⟨rest, rfl, hblank⟩
  · cases s with
    | nil => rfl
    | cons b more =>
      change isBlankOrEnd b = true at hblank
      rw [readPlainWord, hblank]
      rfl
  · have hcolon : isBlankOrEnd ':' = false := rfl
    rw [readPlainWord, hcolon, hblank]
    rfl

/-- A word that ends in no colon is read up to what ends it. -/
theorem readPlainWord_word (hword : ∀ c ∈ word, isBlankOrEnd c = false)
    (hlast : word.getLast? ≠ some ':') (hrest : EndsWord rest) :
    readPlainWord false (word ++ rest) = some (word, rest) := by
  induction word with
  | nil => exact readPlainWord_of_endsWord hrest
  | cons c word ih =>
    rw [List.forall_mem_cons] at hword
    -- a colon ends a word only if nothing of the word stands behind it
    have hcolon : (c == ':' && isBlankOrEnd (peek (word ++ rest))) = false := by
      cases word with
      | nil =>
        have hc : c ≠ ':' := fun h => hlast (by rw [h]; rfl)
        rw [beq_false_of_ne hc]
        rfl
      | cons b more =>
        change (c == ':' && isBlankOrEnd b) = false
        rw [hword.2 b (by simp), Bool.and_false]
    have hlast' : word.getLast? ≠ some ':' := by
      cases word with
      | nil => simp
      | cons b more => rwa [List.getLast?_cons_cons] at hlast
    rw [List.cons_append, readPlainWord, hword.1, hcolon, ih hword.2 hlast']
    rfl

/-! ### Scalars -/

/-- A text that may be written plain, as far as its characters go. -/
structure PlainText (s : List Char) : Prop where
  shown : ∀ c ∈ s, isShown c
  line : ∀ c ∈ s, isBreak c = false
  ne_nil : s ≠ []
  start : s.head? ≠ some ' '
  stop : s.getLast? ≠ some ' '
  indicator : ∃ first before, hasIndicator first before s = false
  comment : s.head? ≠ some '#'

/-- A word has an end. -/
theorem PlainText.isBlankOrEnd_eq (hs : PlainText s) (hc : c ∈ s) (hspace : c ≠ ' ') :
    isBlankOrEnd c = false :=
  isBlankOrEnd_of_isShown (hs.shown c hc) hspace (hs.line c hc)

/-- What stands behind spaces may be written plain, too. -/
theorem PlainText.behind {n : Nat} (hs : PlainText (word ++ (spaces (n + 1) ++ t)))
    (ht : t.head? ≠ some ' ') : PlainText t := by
  have hne : t ≠ [] := by
    rintro rfl
    refine hs.stop ?_
    rw [List.append_nil, spaces, List.replicate_succ', ← List.append_assoc, List.getLast?_concat]
  have hmem : ∀ c ∈ t, c ∈ word ++ (spaces (n + 1) ++ t) := fun c hc => by simp [hc]
  have hspaces : word ++ (spaces (n + 1) ++ t) = (word ++ spaces n) ++ ' ' :: t := by
    rw [spaces, List.replicate_succ', spaces]
    simp
  obtain ⟨first, before, hindicator⟩ := hs.indicator
  rw [hspaces] at hindicator
  have hbehind := hasIndicator_append_cons hindicator
  refine ⟨fun c hc => hs.shown c (hmem c hc), fun c hc => hs.line c (hmem c hc), hne, ht, ?_,
    ⟨_, _, hbehind⟩, ?_⟩
  · intro hlast
    refine hs.stop ?_
    rw [hspaces, List.getLast?_append, List.getLast?_cons, hlast]
    rfl
  · intro hhead
    -- a number sign behind a space would start a comment
    obtain ⟨more, rfl⟩ := List.head?_eq_some_iff.1 hhead
    exact ne_numberSign_of_hasIndicator hbehind rfl

theorem PlainText.endsGap (hs : PlainText s) (rest : List Char) : EndsGap (s ++ rest) := by
  obtain ⟨c, more, rfl⟩ := List.exists_cons_of_ne_nil hs.ne_nil
  have hspace : c ≠ ' ' := fun h => hs.start (by rw [h]; rfl)
  refine ⟨?_, hs.line c (by simp)⟩
  change isSpace c = false
  rw [← Bool.not_eq_true, isSpace_iff_of_isShown (hs.shown c (by simp))]
  exact hspace

/-- The first word of a text that may be written plain is read up to the blank behind it. -/
theorem PlainText.readPlainWord_eq (hs : PlainText (word ++ t)) (hword : ' ' ∉ word)
    (ht : isBlankOrEnd (peek t)) (rest : List Char) (hrest : isBlankOrEnd (peek rest)) :
    readPlainWord false (word ++ rest) = some (word, rest) := by
  obtain ⟨first, before, hindicator⟩ := hs.indicator
  refine readPlainWord_word (fun c hc => ?_) (getLast?_ne_colon hindicator ht) (.inl hrest)
  refine hs.isBlankOrEnd_eq (List.mem_append_left t hc) ?_
  rintro rfl
  exact hword hc

/-- A word and the gap behind it. If the gap leads to a line that starts left of the scalar, the
scalar has ended. -/
theorem readPlainWords_word {gap next : Gap} {behind : Cursor} (hcolumn : 0 < m.column)
    (hcomment : peek (word ++ rest) ≠ '#')
    (hread : readPlainWord false (word ++ rest) = some (word, rest)) (hne : word ≠ [])
    (hblank : isSpace (peek rest) || isBreak (peek rest))
    (hgap : readGap indent false rest (m.advance word.length) = some (next, behind)) (fuel : Nat) :
    readPlainWords false indent (fuel + 1) gap ⟨word ++ rest, m⟩ =
      if behind.mark.column < indent then
        some (gap.text ++ word, next.crossesLine, m.advance word.length, behind)
      else
        (readPlainWords false indent fuel next behind).map fun (more, crossed, stop', behind) =>
          (gap.text ++ word ++ more, crossed,
            if more.isEmpty then m.advance word.length else stop', behind) := by
  have hempty : word.isEmpty = false := List.isEmpty_eq_false_iff.2 hne
  have hstart : Cursor.peek ⟨word ++ rest, m⟩ ≠ '#' := hcomment
  have hblank' : (isSpace (Cursor.peek ⟨rest, m.advance word.length⟩) ||
      isBreak (Cursor.peek ⟨rest, m.advance word.length⟩)) = true := hblank
  rw [readPlainWords, atDocumentMarker_of_column hcolumn, beq_false_of_ne hstart, hread]
  simp [hempty, hblank', hgap]

theorem PlainText.peek_ne (hs : PlainText (word ++ t)) (hne : word ≠ []) (rest : List Char) :
    peek (word ++ rest) ≠ '#' := by
  obtain ⟨c, more, rfl⟩ := List.exists_cons_of_ne_nil hne
  exact fun h => hs.comment (by rw [List.cons_append, List.head?_cons]; exact congrArg some h)

/-- The last word of a line. The next line starts left of the scalar. -/
theorem readPlainWords_last (hs : PlainText word) (hword : ' ' ∉ word) (hindent : 0 < indent)
    (hcolumn : 0 < m.column) (hrest : EndsGap rest) (fuel : Nat) (gap : Gap) :
    ∃ stop m', m'.column = 0 ∧ m.line < m'.line ∧
      readPlainWords false indent (fuel + 1) gap ⟨word ++ '\n' :: rest, m⟩ =
        some (gap.text ++ word, true, stop, ⟨rest, m'⟩) := by
  have hbreaks : ∀ c ∈ ['\n'], IsOwnBreak c := by simp [IsOwnBreak]
  obtain ⟨m', hm', hline, hgap⟩ := readGap_breaks hbreaks (by simp) hrest indent 0 false
    (m.advance word.length)
  rw [← List.append_nil word] at hs
  refine ⟨m.advance word.length, m', hm', hline, ?_⟩
  rw [readPlainWords_word hcolumn (hs.peek_ne (by simpa using hs.ne_nil) _)
      (hs.readPlainWord_eq hword rfl ('\n' :: rest) rfl) (by simpa using hs.ne_nil) rfl hgap fuel,
    if_pos (by dsimp; omega)]
  rfl

/-- The words of a text that may be written plain read back, up to the end of the line. The next
line starts left of the scalar. -/
theorem readPlainWords_plainText (hs : PlainText s) (hindent : 0 < indent)
    (hcolumn : indent ≤ m.column) (hfuel : s.length < fuel) (hrest : EndsGap rest) (gap : Gap) :
    ∃ stop m', m'.column = 0 ∧ m.line < m'.line ∧
      readPlainWords false indent fuel gap ⟨s ++ '\n' :: rest, m⟩ =
        some (gap.text ++ s, true, stop, ⟨rest, m'⟩) := by
  -- a word and the spaces behind it are read at a time
  induction fuel generalizing s m gap with
  | zero => omega
  | succ fuel ih =>
    obtain ⟨word, hword, rfl | ⟨n, t, rfl, ht⟩⟩ := exists_word s
    · exact readPlainWords_last hs hword hindent (by omega) hrest fuel gap
    · have hne : word ≠ [] := by
        rintro rfl
        exact hs.start rfl
      have hbehind := hs.behind (t := t) fun h => absurd (ht ' ' h) (by decide)
      have hgap := readGap_spaces (hbehind.endsGap ('\n' :: rest)) indent (n + 1)
        (m.advance word.length)
      have hlength : t.length < fuel := by
        simp only [List.length_append, spaces, List.length_replicate] at hfuel
        omega
      obtain ⟨stop, m', hm', hline, hmore⟩ := ih (m := (m.advance word.length).advance (n + 1))
        hbehind (by simp only [Mark.advance]; omega) hlength { spaces := spaces (n + 1) }
      have hread := hs.readPlainWord_eq hword rfl (spaces (n + 1) ++ (t ++ '\n' :: rest)) rfl
      have hsome : (spaces (n + 1) ++ t).isEmpty = false := rfl
      refine ⟨stop, m', hm', hline, ?_⟩
      rw [List.append_assoc, List.append_assoc,
        readPlainWords_word (by omega) (hs.peek_ne hne _) hread hne rfl hgap fuel,
        if_neg (by simp only [Mark.advance]; omega), hmore, text_spaces, Option.map_some]
      simp only [hsome, Bool.false_eq_true, if_false, List.append_assoc]

/-- A word in front of a colon and a blank reads back, also at the start of a line. -/
theorem readPlain_name (hword : ∀ c ∈ word, isBlankOrEnd c = false)
    (hlast : word.getLast? ≠ some ':')
    (hne : word ≠ []) (hcomment : peek word ≠ '#')
    (hmarker : Cursor.atDocumentMarker ⟨word ++ ':' :: rest, m⟩ = false)
    (hrest : isBlankOrEnd (peek rest)) (indent : Nat) :
    readPlain false indent ⟨word ++ ':' :: rest, m⟩ =
      some (word, false, m.advance word.length, ⟨':' :: rest, m.advance word.length⟩) := by
  have hread := readPlainWord_word hword hlast (.inr ⟨rest, rfl, hrest⟩)
  have hempty : word.isEmpty = false := List.isEmpty_eq_false_iff.2 hne
  have hstart : Cursor.peek ⟨word ++ ':' :: rest, m⟩ ≠ '#' := by
    obtain ⟨c, more, rfl⟩ := List.exists_cons_of_ne_nil hne
    exact hcomment
  have hcolon : (isSpace (Cursor.peek ⟨':' :: rest, m.advance word.length⟩) ||
      isBreak (Cursor.peek ⟨':' :: rest, m.advance word.length⟩)) = false := rfl
  rw [readPlain, readPlainWords, hmarker, beq_false_of_ne hstart, hread]
  simp [hempty, hcolon, Gap.text, Gap.crossesLine]

/-- A text that may be written plain reads back at the end of its line, where the next line starts
left of it. -/
theorem readPlain_plainText (hs : PlainText s) (hindent : 0 < indent) (hcolumn : indent ≤ m.column)
    (hrest : EndsGap rest) :
    ∃ stop m', m'.column = 0 ∧ m.line < m'.line ∧
      readPlain false indent ⟨s ++ '\n' :: rest, m⟩ = some (s, true, stop, ⟨rest, m'⟩) := by
  refine readPlainWords_plainText hs hindent hcolumn ?_ hrest {}
  rw [List.length_append]
  omega

end DeploySync.Yaml
