import DeploySync.Yaml.Layout.Scalar
import Mathlib.Data.List.Basic
import Mathlib.Tactic.SplitIfs

/-!
# Characters that are written as they are, and the gaps between words

## Main definitions

* `Yaml.IsOwnBreak` — the line breaks that read as themselves
* `Yaml.EndsGap` — what comes behind a gap is a word

## Main results

* `Yaml.isSpace_iff_of_isShown`, `Yaml.isBreak_iff_of_isShown` — the blanks and the line breaks
  among the characters that are written as they are
* `Yaml.readGap_spaces`, `Yaml.readGap_breaks` — spaces read as themselves, and so do line breaks,
  but not the spaces behind them
-/

namespace DeploySync.Yaml

variable {c : Char} {s rest : List Char} {m : Mark} {n indent : Nat} {crossed : Bool}

/-! ### Characters -/

/-- The line breaks that read as themselves. -/
def IsOwnBreak (c : Char) : Prop := c = '\n' ∨ c = '\u2028' ∨ c = '\u2029'

theorem IsOwnBreak.isBreak (hc : IsOwnBreak c) : isBreak c := by
  rcases hc with rfl | rfl | rfl <;> decide

theorem IsOwnBreak.isSpace (hc : IsOwnBreak c) : isSpace c = false := by
  rcases hc with rfl | rfl | rfl <;> decide

/-- Of the blanks a space alone is written as it is. -/
theorem isSpace_iff_of_isShown (hc : isShown c) : isSpace c ↔ c = ' ' := by
  rw [isSpace, Bool.or_eq_true, beq_iff_eq, beq_iff_eq]
  refine ⟨fun h => h.resolve_right ?_, Or.inl⟩
  rintro rfl
  revert hc
  decide

/-- Of the line breaks those are written as they are that read as themselves. -/
theorem isBreak_iff_of_isShown (hc : isShown c) : isBreak c ↔ IsOwnBreak c := by
  refine ⟨fun h => ?_, IsOwnBreak.isBreak⟩
  simp only [isBreak, Bool.or_eq_true, beq_iff_eq] at h
  rcases h with (((rfl | rfl) | rfl) | rfl) | rfl
  · exact .inl rfl
  · exact absurd hc (by decide)
  · exact absurd hc (by decide)
  · exact .inr (.inl rfl)
  · exact .inr (.inr rfl)

theorem ne_zero_of_isShown (hc : isShown c) : c ≠ '\x00' := by
  rintro rfl
  revert hc
  decide

/-- A character that is written as it is ends a word only as a space or a line break. -/
theorem isBlankOrEnd_of_isShown (hc : isShown c) (hspace : c ≠ ' ') (hbreak : isBreak c = false) :
    isBlankOrEnd c = false := by
  have hspace' : isSpace c = false := by
    rw [← Bool.not_eq_true, isSpace_iff_of_isShown hc]
    exact hspace
  rw [isBlankOrEnd, isBreakOrEnd, hspace', hbreak, beq_false_of_ne (ne_zero_of_isShown hc)]
  rfl

/-- What is written as it is can be read. -/
theorem isReadable_of_isShown (hc : isShown c) : isReadable c := by
  have hvalid := c.valid
  simp only [UInt32.isValidChar, Nat.isValidChar] at hvalid
  simp only [isShown, isReadable, Char.toNat, Bool.or_eq_true, Bool.and_eq_true, beq_iff_eq,
    bne_iff_ne, decide_eq_true_eq] at hc ⊢
  omega

/-- Document markers stand in the first column. -/
theorem atDocumentMarker_of_column {c : Cursor} (h : 0 < c.mark.column) :
    c.atDocumentMarker = false := by
  have hne : (c.mark.column == 0) = false := beq_false_of_ne (by omega)
  rw [Cursor.atDocumentMarker, hne]
  rfl

/-- Document markers are made of dashes or of dots. -/
theorem atDocumentMarker_of_peek {c : Cursor} (hdash : c.peek ≠ '-') (hdot : c.peek ≠ '.') :
    c.atDocumentMarker = false := by
  rw [Cursor.atDocumentMarker, beq_false_of_ne hdash, beq_false_of_ne hdot]
  simp

/-! ### Runs of characters -/

/-- The characters of a class that stand first, and what stands behind them. -/
theorem exists_run (p : Char → Bool) (s : List Char) :
    ∃ run t, s = run ++ t ∧ (∀ c ∈ run, p c) ∧ ∀ c ∈ t.head?, p c = false := by
  induction s with
  | nil => exact ⟨[], [], rfl, by simp, by simp⟩
  | cons c s ih =>
    by_cases hc : p c
    · obtain ⟨run, t, rfl, hrun, ht⟩ := ih
      exact ⟨c :: run, t, rfl, List.forall_mem_cons.2 ⟨hc, hrun⟩, ht⟩
    · exact ⟨[], c :: s, rfl, by simp, by simpa using hc⟩

/-- A run of spaces is as good as its length. -/
theorem eq_spaces {run : List Char} (h : ∀ c ∈ run, c == ' ') : run = spaces run.length :=
  List.eq_replicate_iff.2 ⟨rfl, fun c hc => beq_iff_eq.1 (h c hc)⟩

/-- A text is a word, and spaces and another text may come behind it. -/
theorem exists_word (s : List Char) :
    ∃ word, ' ' ∉ word ∧ (s = word ∨
      ∃ n t, s = word ++ (spaces (n + 1) ++ t) ∧ ∀ c ∈ t.head?, (c == ' ') = false) := by
  obtain ⟨word, t, rfl, hword, ht⟩ := exists_run (· != ' ') s
  refine ⟨word, fun h => absurd (hword _ h) (by decide), ?_⟩
  obtain ⟨run, t, rfl, hrun, ht'⟩ := exists_run (· == ' ') t
  cases run with
  | nil =>
    -- nothing is left: it would begin with a space and with another character
    cases t with
    | nil => exact Or.inl (by rw [List.append_nil, List.append_nil])
    | cons c more =>
      have hc := ht c rfl
      have hc' := ht' c rfl
      rw [bne, hc'] at hc
      cases hc
  | cons b run => exact Or.inr ⟨run.length, t, by rw [eq_spaces hrun, List.length_cons], ht'⟩

/-! ### Gaps -/

/-- What stands first ends a gap. -/
def EndsGap (s : List Char) : Prop := isSpace (peek s) = false ∧ isBreak (peek s) = false

theorem ne_of_isSpace (h : isSpace c = false) : c ≠ ' ' ∧ c ≠ '\t' := by
  rwa [isSpace, Bool.or_eq_false_iff, beq_eq_false_iff_ne, beq_eq_false_iff_ne] at h

/-- Nothing is in a gap before a word. -/
theorem readGap_of_endsGap (h : EndsGap s) : readGap indent crossed s m = some ({}, ⟨s, m⟩) := by
  cases s with
  | nil => rw [readGap]
  | cons b rest =>
    obtain ⟨hspace, hbreak⟩ : isSpace b = false ∧ isBreak b = false := h
    rw [readGap]
    · simp [hspace, hbreak]
    · rintro rest rfl
      exact absurd hbreak (by decide)

/-- A space is part of the gap as long as no line has ended. -/
theorem readGap_space (indent : Nat) (crossed : Bool) (rest : List Char) (m : Mark) :
    readGap indent crossed (' ' :: rest) m =
      (readGap indent crossed rest (m.advance 1)).map fun (g, c) =>
        (if crossed then g else { g with spaces := ' ' :: g.spaces }, c) := by
  rw [readGap]
  · have hspace : isSpace ' ' = true := rfl
    simp [hspace]
  · rintro rest h
    exact absurd h (by decide)

/-- A line break that reads as itself. -/
theorem readGap_break (hc : IsOwnBreak c) :
    readGap indent crossed (c :: rest) m =
      (readGap indent true rest (m.nextLine 1)).map fun (g, behind) =>
        ({ g with breaks := c :: g.breaks }, behind) := by
  rw [readGap]
  · simp only [hc.isSpace, hc.isBreak, Bool.false_eq_true, if_false, if_true]
    rcases hc with rfl | rfl | rfl <;> rfl
  · rintro rest' rfl
    rcases hc with h | h | h <;> exact absurd h (by decide)

/-- Spaces are their own text. -/
theorem text_spaces (n : Nat) : Gap.text { spaces := spaces n } = spaces n := rfl

theorem advance_advance (m : Mark) (n k : Nat) : (m.advance n).advance k = m.advance (n + k) := by
  simp only [Mark.advance, Nat.add_assoc]

@[simp] theorem line_advance (m : Mark) (n : Nat) : (m.advance n).line = m.line := rfl

@[simp] theorem line_nextLine (m : Mark) (n : Nat) : (m.nextLine n).line = m.line + 1 := rfl

/-- Spaces on a line read as themselves. -/
theorem readGap_spaces (h : EndsGap rest) (indent n : Nat) (m : Mark) :
    readGap indent false (spaces n ++ rest) m =
      some ({ spaces := spaces n }, ⟨rest, m.advance n⟩) := by
  induction n generalizing m with
  | zero => exact readGap_of_endsGap h
  | succ n ih =>
    rw [spaces, List.replicate_succ, List.cons_append, readGap_space]
    change (readGap indent false (spaces n ++ rest) (m.advance 1)).map _ = _
    rw [ih, advance_advance, Nat.add_comm]
    rfl

/-- Spaces behind a line break read as nothing. -/
theorem readGap_margin (h : EndsGap rest) (n : Nat) (m : Mark) :
    readGap indent true (spaces n ++ rest) m = some ({}, ⟨rest, m.advance n⟩) := by
  induction n generalizing m with
  | zero => exact readGap_of_endsGap h
  | succ n ih =>
    rw [spaces, List.replicate_succ, List.cons_append, readGap_space]
    change (readGap indent true (spaces n ++ rest) (m.advance 1)).map _ = _
    rw [ih, advance_advance, Nat.add_comm]
    rfl

/-- Line breaks read as themselves, and the word behind them stands on a later line behind its
margin. -/
theorem readGap_breaks {breaks : List Char} (hbreaks : ∀ c ∈ breaks, IsOwnBreak c)
    (hne : breaks ≠ []) (h : EndsGap rest) (indent n : Nat) (crossed : Bool) (m : Mark) :
    ∃ m', m'.column = n ∧ m.line < m'.line ∧
      readGap indent crossed (breaks ++ (spaces n ++ rest)) m =
        some ({ breaks := breaks }, ⟨rest, m'⟩) := by
  induction breaks generalizing crossed m with
  | nil => exact absurd rfl hne
  | cons b more ih =>
    rw [List.forall_mem_cons] at hbreaks
    cases more with
    | nil =>
      refine ⟨(m.nextLine 1).advance n, by simp [Mark.advance, Mark.nextLine], by simp, ?_⟩
      rw [List.singleton_append, readGap_break hbreaks.1, readGap_margin h]
      rfl
    | cons b' more =>
      obtain ⟨m', hcolumn, hline, hgap⟩ := ih hbreaks.2 (by simp) true (m.nextLine 1)
      refine ⟨m', hcolumn, Nat.lt_of_succ_lt hline, ?_⟩
      rw [List.cons_append, readGap_break hbreaks.1, hgap]
      rfl

end DeploySync.Yaml
