import DeploySync.Proofs.Yaml.Block
import DeploySync.Proofs.Yaml.Plain
import DeploySync.Proofs.Yaml.Quoted

/-!
# The style of a scalar suits its text

## Main definitions

* `Yaml.Suits` — a text reads back from a style

## Main results

* `Yaml.suits_writtenStyle` — the style in which a text is written suits it
* `Yaml.isReadable_of_mem_writeIn` — what is written can be read
-/

namespace DeploySync.Yaml

variable {c : Char} {s : List Char} {n indent : Nat}

/-- What a text has to be like for a style. -/
inductive Suits (s : List Char) : ScalarStyle → Prop
  | plain (text : PlainText s) (start : hasIndicator true ' ' s = false) : Suits s .plain
  | singleQuoted (text : SingleQuotable s) : Suits s .singleQuoted
  | doubleQuoted : Suits s .doubleQuoted
  | literal (ne_nil : s ≠ []) (shown : ∀ c ∈ s, isShown c) : Suits s .literal

/-! ### Traits -/

/-- A text may be written plain if it has no blanks around it, is of one line and shows no
indicator. -/
theorem plainText_of_traits (hne : s ≠ []) (h : (Traits.of s).plainAllowed) :
    PlainText s ∧ hasIndicator true ' ' s = false := by
  rw [Traits.of, if_neg (by simpa using hne)] at h
  simp only [Bool.not_eq_true', Bool.or_eq_false_iff, List.any_eq_false, Bool.not_eq_true] at h
  obtain ⟨⟨⟨⟨hstart, hstop⟩, hline⟩, -, hindicator⟩, hshown⟩ := h
  obtain ⟨c, more, rfl⟩ := List.exists_cons_of_ne_nil hne
  refine ⟨⟨by simpa using hshown, hline, hne, ?_, ?_, ⟨_, _, hindicator⟩, ?_⟩, hindicator⟩
  · rintro h
    obtain rfl := Option.some.inj h
    cases hstart
  · intro hlast
    rw [hlast] at hstop
    cases hstop
  · intro h
    obtain rfl := Option.some.inj h
    rw [hasIndicator, Bool.or_eq_false_iff] at hindicator
    exact absurd hindicator.1 (by simp [isIndicatorIn])

/-- A text may be written in single quotes if no space stands beside a line break. -/
theorem singleQuotable_of_traits (h : (Traits.of s).singleQuotedAllowed) (hnewline : '\n' ∉ s) :
    SingleQuotable s := by
  by_cases hne : s = []
  · subst hne
    exact ⟨by simp, by simp, rfl, rfl⟩
  · rw [Traits.of, if_neg (by simpa using hne)] at h
    simp only [Bool.not_eq_true', Bool.or_eq_false_iff] at h
    obtain ⟨⟨hbreakSpace, hspaceBreak⟩, hshown⟩ := h
    exact ⟨by simpa using hshown, hnewline, hbreakSpace, hspaceBreak⟩

/-- A text may be written as a block if it says something and all of it is shown. -/
theorem shown_of_traits (h : (Traits.of s).blockAllowed) : s ≠ [] ∧ ∀ c ∈ s, isShown c := by
  by_cases hne : s = []
  · subst hne
    cases h
  · rw [Traits.of, if_neg (by simpa using hne)] at h
    simp only [Bool.not_eq_true', Bool.or_eq_false_iff] at h
    exact ⟨hne, by simpa using h.2⟩

/-! ### Styles -/

/-- Texts of one line are not written as a block, and an empty text is not written plain. -/
theorem preferredStyle_cases (s : List Char) :
    preferredStyle s = .literal ∨
      '\n' ∉ s ∧ (preferredStyle s = .plain ∧ s ≠ [] ∨ preferredStyle s = .singleQuoted) := by
  by_cases hnewline : '\n' ∈ s
  · exact .inl (if_pos (by simpa using hnewline))
  · refine .inr ⟨hnewline, ?_⟩
    rw [preferredStyle, if_neg (by simpa using hnewline)]
    by_cases hne : s = []
    · subst hne
      exact .inr rfl
    · split
      · split_ifs
        · exact .inr rfl
        · exact .inl ⟨rfl, hne⟩
      · exact .inr rfl

/-- The style in which a text is written suits it. -/
theorem suits_writtenStyle (s : List Char) :
    Suits s (writtenStyle false (preferredStyle s) (Traits.of s)) := by
  have hquoted (hnewline : '\n' ∉ s) : Suits s
      (if (Traits.of s).singleQuotedAllowed then .singleQuoted else .doubleQuoted) := by
    split_ifs with hsingle
    · exact .singleQuoted (singleQuotable_of_traits hsingle hnewline)
    · exact .doubleQuoted
  rw [writtenStyle, Bool.false_and, if_neg (by simp)]
  -- the style that is preferred is given up where the traits of the text forbid it
  rcases preferredStyle_cases s with h | ⟨hnewline, ⟨h, hne⟩ | h⟩
  · rw [h]
    dsimp only
    split_ifs with hblock
    · rw [Bool.and_eq_true] at hblock
      obtain ⟨hne, hshown⟩ := shown_of_traits hblock.1
      exact .literal hne hshown
    · exact .doubleQuoted
  · rw [h]
    dsimp only
    by_cases hplain : (Traits.of s).plainAllowed
    · rw [if_pos hplain]
      obtain ⟨htext, hstart⟩ := plainText_of_traits hne hplain
      exact .plain htext hstart
    · rw [if_neg hplain]
      exact hquoted hnewline
  · rw [h]
    exact hquoted hnewline

/-! ### What is written can be read -/

theorem mem_writeSingleQuotedChars {lineStart : Bool}
    (hc : c ∈ writeSingleQuotedChars indent lineStart s) :
    c ∈ s ∨ c = ' ' ∨ c = '\n' ∨ c = '\'' := by
  induction s generalizing lineStart with
  | nil =>
    rw [writeSingleQuotedChars] at hc
    split_ifs at hc
    · exact .inr (.inl (List.eq_of_mem_replicate hc))
    · cases hc
  | cons d s ih =>
    have hspaces : c ∈ spaces indent → c = ' ' := List.eq_of_mem_replicate
    rw [writeSingleQuotedChars] at hc
    grind

theorem mem_writeLiteralChars {lineStart : Bool} (hc : c ∈ writeLiteralChars indent lineStart s) :
    c ∈ s ∨ c = ' ' := by
  induction s generalizing lineStart with
  | nil => cases hc
  | cons d s ih =>
    have hspaces : c ∈ spaces indent → c = ' ' := List.eq_of_mem_replicate
    rw [writeLiteralChars] at hc
    grind

theorem blockHeader_subset (s : List Char) : blockHeader s ⊆ ['|', '2', '+', '-', '\n'] := by
  rw [blockHeader_eq]
  generalize blockChomping s = chomping
  split_ifs
  · cases chomping <;> decide
  · cases chomping <;> decide

theorem isReadable_of_mem_writeDoubleQuotedChar {d : Char} (hc : c ∈ writeDoubleQuotedChar d) :
    isReadable c := by
  by_cases hself : (isShown d && ! isBreak d && d != '"' && d != '\\') = true
  · rw [writeDoubleQuotedChar, if_pos hself, List.mem_singleton] at hc
    simp only [Bool.and_eq_true] at hself
    rw [hc]
    exact isReadable_of_isShown hself.1.1.1
  · obtain ⟨escape, hwrite, hescape⟩ := exists_isEscapeOf hself
    rw [hwrite, List.mem_cons] at hc
    rcases hc with rfl | hc
    · rfl
    · exact hescape.readable c hc

/-- What is written of a text in a style that suits it can be read. -/
theorem isReadable_of_mem_writeIn {style : ScalarStyle} (h : Suits s style)
    (hc : c ∈ writeIn style indent s) : isReadable c := by
  cases h with
  | plain text _ => exact isReadable_of_isShown (text.shown c hc)
  | singleQuoted text =>
    rw [writeIn, List.mem_append, List.mem_cons, List.mem_singleton] at hc
    rcases hc with (rfl | hc) | rfl
    · rfl
    · rcases mem_writeSingleQuotedChars hc with hc | rfl | rfl | rfl
      · exact isReadable_of_isShown (text.shown c hc)
      · rfl
      · rfl
      · rfl
    · rfl
  | doubleQuoted =>
    rw [writeIn, List.mem_append, List.mem_cons, List.mem_singleton, List.mem_flatMap] at hc
    rcases hc with (rfl | ⟨d, -, hc⟩) | rfl
    · rfl
    · exact isReadable_of_mem_writeDoubleQuotedChar hc
    · rfl
  | literal _ shown =>
    rw [writeIn, List.mem_append] at hc
    rcases hc with hc | hc
    · have hindicators : ∀ d ∈ ['|', '2', '+', '-', '\n'], isReadable d := by simp [isReadable]
      exact hindicators c (blockHeader_subset s hc)
    · rcases mem_writeLiteralChars hc with hc | rfl
      · exact isReadable_of_isShown (shown c hc)
      · rfl

/-! ### The end of the line -/

/-- The blank in front of a value says nothing about its end. -/
theorem lineEnd_cons_space (s : List Char) : lineEnd (' ' :: s) = lineEnd s := by
  cases s with
  | nil => rfl
  | cons c s => rw [lineEnd, lineEnd, List.getLast?_cons_cons]

/-- Behind a character that is no line break a line ends. -/
theorem lineEnd_of_getLast? (h : s.getLast? = some c) (hc : isBreak c = false) :
    lineEnd s = ['\n'] := by
  rw [lineEnd, h, Option.any_some, hc, if_neg (by simp)]

theorem getLast?_writeLiteralChars (indent : Nat) (lineStart : Bool) (s : List Char) :
    (writeLiteralChars indent lineStart s).getLast? = s.getLast? := by
  induction s generalizing lineStart with
  | nil => rfl
  | cons c s ih =>
    -- What comes first is last only when nothing comes behind it.
    have hcons (lineStart : Bool) :
        (c :: writeLiteralChars indent lineStart s).getLast? = (c :: s).getLast? := by
      rw [List.getLast?_cons, List.getLast?_cons, ih]
    rw [writeLiteralChars]
    split_ifs
    · exact hcons true
    · rw [List.getLast?_append_of_ne_nil _ (by simp)]
      exact hcons false
    · rw [List.getLast?_append_of_ne_nil _ (by simp)]
      exact hcons false

/-- A block ends as its text does; all other scalars leave the end of their line to be written. -/
theorem lineEnd_writeIn {style : ScalarStyle} (h : Suits s style) (indent : Nat) :
    lineEnd (writeIn style indent s) = if style = .literal then lineEnd s else ['\n'] := by
  cases h with
  | plain text _ =>
    have hlast := List.getLast?_eq_some_getLast text.ne_nil
    exact lineEnd_of_getLast? hlast (text.line _ (List.getLast_mem text.ne_nil))
  | singleQuoted text =>
    refine lineEnd_of_getLast? (c := '\'') ?_ rfl
    rw [writeIn, List.getLast?_concat]
  | doubleQuoted =>
    refine lineEnd_of_getLast? (c := '"') ?_ rfl
    rw [writeIn, List.getLast?_concat]
  | literal ne_nil shown =>
    have hwritten : writeLiteralChars indent true s ≠ [] := by
      rw [← List.getLast?_isSome, getLast?_writeLiteralChars, List.getLast?_isSome]
      exact ne_nil
    rw [if_pos rfl, lineEnd, writeIn, List.getLast?_append_of_ne_nil _ hwritten,
      getLast?_writeLiteralChars, lineEnd]

end DeploySync.Yaml
