import DeploySync.Proofs.Yaml.Gap
import DeploySync.Yaml.Layout

/-!
# Literal blocks read back

A literal block is written line by line behind its margin. Line breaks at its end belong to the text
as far as the header says so.

## Main definitions

* `Yaml.blockHint`, `Yaml.blockChomping` — what the header of a block says
* `Yaml.lines` — a text with its last line ended, as it stands in a block

## Main results

* `Yaml.readIndentation_text` — empty lines and the margin of the next line
* `Yaml.readBlockLines_text` — the lines of a block
* `Yaml.append_chomped` — the header says which of the last line breaks belong to the text
* `Yaml.readBlock_writeIn` — a text that may be written as a literal block reads back
-/

namespace DeploySync.Yaml

variable {b c : Char} {s t rest line breaks : List Char} {m : Mark} {indent fuel deepest : Nat}

/-! ### What is written -/

/-- Line breaks are written as they are. -/
theorem writeLiteralChars_breaks (hbreaks : ∀ c ∈ breaks, isBreak c) (hne : breaks ≠ [])
    (indent : Nat) (lineStart : Bool) (t : List Char) :
    writeLiteralChars indent lineStart (breaks ++ t) =
      breaks ++ writeLiteralChars indent true t := by
  induction breaks generalizing lineStart with
  | nil => exact absurd rfl hne
  | cons b more ih =>
    rw [List.forall_mem_cons] at hbreaks
    rw [List.cons_append, writeLiteralChars, hbreaks.1]
    cases more with
    | nil => rfl
    | cons b' more => exact congrArg (b :: ·) (ih hbreaks.2 (by simp) true)

/-- A line is written as it is. -/
theorem writeLiteralChars_line (hline : ∀ c ∈ line, isBreak c = false) (indent : Nat)
    (t : List Char) :
    writeLiteralChars indent false (line ++ t) = line ++ writeLiteralChars indent false t := by
  induction line with
  | nil => rfl
  | cons c more ih =>
    rw [List.forall_mem_cons] at hline
    rw [List.cons_append, writeLiteralChars, hline.1]
    exact congrArg (c :: ·) (ih hline.2)

/-- A line starts behind its margin. -/
theorem writeLiteralChars_lineStart (hc : isBreak c = false) (indent : Nat) (t : List Char) :
    writeLiteralChars indent true (c :: t) =
      spaces indent ++ writeLiteralChars indent false (c :: t) := by
  rw [writeLiteralChars, writeLiteralChars, hc]
  simp

/-- A line break at the end is written as it is. -/
theorem writeLiteralChars_concat (hb : isBreak b) (indent : Nat) (lineStart : Bool)
    (s : List Char) :
    writeLiteralChars indent lineStart (s ++ [b]) =
      writeLiteralChars indent lineStart s ++ [b] := by
  induction s generalizing lineStart with
  | nil => simp [writeLiteralChars, hb]
  | cons c s ih =>
    rw [List.cons_append, writeLiteralChars, writeLiteralChars]
    dsimp only
    split_ifs <;> simp [ih]

theorem length_le_length_writeLiteralChars (indent : Nat) (lineStart : Bool) (s : List Char) :
    s.length ≤ (writeLiteralChars indent lineStart s).length := by
  induction s generalizing lineStart with
  | nil => exact Nat.zero_le _
  | cons c s ih =>
    have htrue := ih true
    have hfalse := ih false
    rw [writeLiteralChars]
    dsimp only
    split_ifs <;> simp only [List.length_append, List.length_cons, List.length_nil] <;> omega

/-! ### What is read -/

/-- A line break that reads as itself is passed. -/
theorem readBreak_own (hb : IsOwnBreak b) (rest : List Char) (m : Mark) :
    Cursor.readBreak ⟨b :: rest, m⟩ = ([b], ⟨rest, m.nextLine 1⟩) := by
  rcases hb with rfl | rfl | rfl <;> rfl

theorem skip_zero (c : Cursor) : c.skip 0 = c := rfl

/-- Where a line starts without spaces no indentation is passed. -/
theorem takeWhile_space (hc : peek s ≠ ' ') : s.takeWhile (· == ' ') = [] := by
  cases s with
  | nil => rfl
  | cons c s =>
    change c ≠ ' ' at hc
    exact List.takeWhile_cons_of_neg (by simpa using hc)

/-- Where nothing of a block is left no indentation is passed. -/
theorem readIndentation_rest (hrest : EndsGap rest) (indent? : Option Nat) (deepest fuel : Nat)
    (m : Mark) :
    readIndentation indent? deepest (fuel + 1) ⟨rest, m⟩ =
      some ([], max deepest m.column, ⟨rest, m⟩) := by
  have hspace : peek rest ≠ ' ' := (ne_of_isSpace hrest.1).1
  have htab : Cursor.peek ⟨rest, m⟩ ≠ '\t' := (ne_of_isSpace hrest.1).2
  have hbreak : isBreak (Cursor.peek ⟨rest, m⟩) = false := hrest.2
  cases indent? with
  | none =>
    rw [readIndentation]
    simp only [takeWhile_space hspace, List.length_nil, skip_zero, beq_false_of_ne htab, hbreak,
      Bool.and_false, Bool.false_eq_true, if_false]
  | some n =>
    rw [readIndentation]
    simp only [takeWhile_space hspace, List.length_nil, Nat.zero_min, skip_zero,
      beq_false_of_ne htab, hbreak, Bool.and_false, Bool.false_eq_true, if_false]

/-- A line break in place of a line is passed. -/
theorem readIndentation_break (hb : IsOwnBreak b) (indent? : Option Nat) (deepest fuel : Nat)
    (s : List Char) (m : Mark) :
    readIndentation indent? deepest (fuel + 1) ⟨b :: s, m⟩ =
      (readIndentation indent? (max deepest m.column) fuel ⟨s, m.nextLine 1⟩).map
        fun (breaks, deepest, c) => (b :: breaks, deepest, c) := by
  have hspace : peek (b :: s) ≠ ' ' := (ne_of_isSpace hb.isSpace).1
  have htab : Cursor.peek ⟨b :: s, m⟩ ≠ '\t' := (ne_of_isSpace hb.isSpace).2
  have hbreak : isBreak (Cursor.peek ⟨b :: s, m⟩) = true := hb.isBreak
  cases indent? with
  | none =>
    rw [readIndentation]
    simp only [takeWhile_space hspace, List.length_nil, skip_zero, beq_false_of_ne htab, hbreak,
      Bool.and_false, Bool.false_eq_true, if_false, if_true, readBreak_own hb]
    rfl
  | some n =>
    rw [readIndentation]
    simp only [takeWhile_space hspace, List.length_nil, Nat.zero_min, skip_zero,
      beq_false_of_ne htab, hbreak, Bool.and_false, Bool.false_eq_true, if_false, if_true,
      readBreak_own hb]
    rfl

/-- The margin of a line is passed, if its width is known. -/
theorem readIndentation_margin (hbreak : isBreak c = false) (hm : m.column = 0)
    (indent deepest fuel : Nat) (s : List Char) :
    readIndentation (some indent) deepest (fuel + 1) ⟨spaces indent ++ c :: s, m⟩ =
      some ([], max deepest indent, ⟨c :: s, m.advance indent⟩) := by
  have hwidth : min ((spaces indent ++ c :: s).takeWhile (· == ' ')).length (indent - m.column) =
      indent := by
    rw [List.takeWhile_append_of_pos (by simp [spaces]), List.length_append, spaces,
      List.length_replicate, hm]
    omega
  have hskip : Cursor.skip ⟨spaces indent ++ c :: s, m⟩ indent = ⟨c :: s, m.advance indent⟩ := by
    rw [Cursor.skip, List.drop_left' (by simp [spaces])]
  have hcolumn : (m.advance indent).column = indent := by
    rw [Mark.advance, hm, Nat.zero_add]
  have hpeek : isBreak (Cursor.peek ⟨c :: s, m.advance indent⟩) = false := hbreak
  rw [readIndentation]
  simp only [hwidth, hskip, hcolumn, hpeek, Option.all_some, Nat.lt_irrefl, decide_false,
    Bool.false_and, Bool.false_eq_true, if_false]

/-- The margin of the first line is passed, if it shows where the text begins. -/
theorem readIndentation_firstMargin (hrest : EndsGap (c :: s)) (hm : m.column = 0)
    (indent fuel : Nat) :
    readIndentation none 0 (fuel + 1) ⟨spaces indent ++ c :: s, m⟩ =
      some ([], indent, ⟨c :: s, m.advance indent⟩) := by
  have hspace : peek (c :: s) ≠ ' ' := (ne_of_isSpace hrest.1).1
  have htab : Cursor.peek ⟨c :: s, m.advance indent⟩ ≠ '\t' := (ne_of_isSpace hrest.1).2
  have hwidth : ((spaces indent ++ c :: s).takeWhile (· == ' ')).length = indent := by
    rw [List.takeWhile_append_of_pos (by simp [spaces]), takeWhile_space hspace]
    simp [spaces]
  have hskip : Cursor.skip ⟨spaces indent ++ c :: s, m⟩ indent = ⟨c :: s, m.advance indent⟩ := by
    rw [Cursor.skip, List.drop_left' (by simp [spaces])]
  have hcolumn : (m.advance indent).column = indent := by
    rw [Mark.advance, hm, Nat.zero_add]
  have hpeek : isBreak (Cursor.peek ⟨c :: s, m.advance indent⟩) = false := hrest.2
  rw [readIndentation]
  simp only [hwidth, hskip, hcolumn, hpeek, beq_false_of_ne htab, Bool.and_false,
    Bool.false_eq_true, if_false, Nat.zero_max]

/-- Empty lines are passed, and the margin of the next line. -/
theorem readIndentation_text (hbreaks : ∀ b ∈ breaks, IsOwnBreak b)
    (ht : ∀ c ∈ t.head?, isBreak c = false) (hrest : EndsGap rest) (hm : m.column = 0)
    (hfuel : breaks.length < fuel) (indent deepest : Nat) :
    ∃ deepest' m', (m'.column = if t = [] then 0 else indent) ∧
      readIndentation (some indent) deepest fuel
        ⟨breaks ++ (writeLiteralChars indent true t ++ rest), m⟩ =
          some (breaks, deepest', ⟨writeLiteralChars indent false t ++ rest, m'⟩) := by
  obtain ⟨fuel, rfl⟩ : ∃ n, fuel = n + 1 := ⟨fuel - 1, by omega⟩
  -- an empty line is shorter than the margin, so that it does not end the search for it
  induction breaks generalizing fuel m deepest with
  | nil =>
    cases t with
    | nil => exact ⟨_, m, hm, readIndentation_rest hrest _ _ _ _⟩
    | cons c t =>
      have hc := ht c rfl
      refine ⟨max deepest indent, m.advance indent, by rw [Mark.advance, hm, Nat.zero_add]; rfl, ?_⟩
      have hwritten : writeLiteralChars indent false (c :: t) ++ rest =
          c :: (writeLiteralChars indent false t ++ rest) := by
        rw [writeLiteralChars, hc]
        rfl
      rw [List.nil_append, writeLiteralChars_lineStart hc, List.append_assoc, hwritten]
      exact readIndentation_margin hc hm _ _ _ _
  | cons b more ih =>
    rw [List.forall_mem_cons] at hbreaks
    rw [List.length_cons] at hfuel
    obtain ⟨fuel, rfl⟩ : ∃ n, fuel = n + 1 := ⟨fuel - 1, by omega⟩
    obtain ⟨deepest', m', hm', hmore⟩ := ih (m := m.nextLine 1) hbreaks.2 rfl
      (max deepest m.column) fuel (by omega)
    refine ⟨deepest', m', hm', ?_⟩
    rw [List.cons_append, readIndentation_break hbreaks.1, hmore]
    rfl

/-- A line is passed up to its end. -/
theorem span_line (hline : ∀ c ∈ line, isBreakOrEnd c = false) (hb : isBreak b) (s : List Char)
    (m : Mark) :
    Cursor.span (! isBreakOrEnd ·) ⟨line ++ b :: s, m⟩ =
      (line, ⟨b :: s, m.advance line.length⟩) := by
  have htake : (line ++ b :: s).takeWhile (! isBreakOrEnd ·) = line := by
    rw [List.takeWhile_append_of_pos (by simpa using hline),
      List.takeWhile_cons_of_neg (by simp [isBreakOrEnd, hb]), List.append_nil]
  simp only [Cursor.span, htake, List.drop_left]

/-- Where no line of a block comes the block ends. -/
theorem readBlockLines_rest (hindent : 0 < indent) (hm : m.column = 0) (folded : Bool)
    (lead trailing : List Char) (leadingBlank : Bool) (fuel : Nat) (rest : List Char) :
    readBlockLines folded indent fuel lead trailing leadingBlank ⟨rest, m⟩ =
      some ([], lead, trailing, ⟨rest, m⟩) := by
  cases fuel with
  | zero => rfl
  | succ fuel =>
    have hcolumn : (m.column != indent) = true := by
      rw [hm, bne_iff_ne]
      omega
    rw [readBlockLines, hcolumn]
    rfl

/-- A line of a literal block belongs to the text with the line breaks before it. -/
theorem readBlockLines_line {behind : Cursor} (hline : ∀ c ∈ line, isBreakOrEnd c = false)
    (hb : IsOwnBreak b) (hm : m.column = indent)
    (hnext : readIndentation (some indent) 0 (s.length + 1)
      ⟨s, (m.advance line.length).nextLine 1⟩ = some (breaks, deepest, behind))
    (lead trailing : List Char) (leadingBlank : Bool) (fuel : Nat) :
    ∃ blank, readBlockLines false indent (fuel + 1) lead trailing leadingBlank ⟨line ++ b :: s, m⟩ =
      (readBlockLines false indent fuel [b] breaks blank behind).map
        fun (more, lead', trailing', c) =>
          (lead ++ trailing ++ line ++ more, lead', trailing', c) := by
  have hcolumn : (m.column != indent) = false := by rw [hm, bne_self_eq_false]
  have hempty : (line ++ b :: s).isEmpty = false := by simp
  refine ⟨isSpace (Cursor.peek ⟨line ++ b :: s, m⟩), ?_⟩
  rw [readBlockLines]
  simp only [hcolumn, hempty, span_line hline hb.isBreak, readBreak_own hb, hnext, Bool.or_self,
    Bool.false_and, Bool.false_eq_true, if_false]

/-- The first line of a text that ends its lines, and the line breaks behind it. -/
theorem exists_line (hne : s ≠ []) (hhead : ∀ c ∈ s.head?, isBreak c = false)
    (hlast : ∀ c ∈ s.getLast?, isBreak c) :
    ∃ line b more t, s = line ++ (b :: more ++ t) ∧ line ≠ [] ∧ (∀ c ∈ line, isBreak c = false) ∧
      (∀ c ∈ b :: more, isBreak c) ∧ ∀ c ∈ t.head?, isBreak c = false := by
  obtain ⟨line, t, rfl, hline, ht⟩ := exists_run (! isBreak ·) s
  obtain ⟨run, t, rfl, hrun, ht'⟩ := exists_run isBreak t
  simp only [Bool.not_eq_true'] at hline
  simp only [Bool.not_eq_false'] at ht
  have hlineNe : line ≠ [] := by
    rintro rfl
    obtain ⟨c, more, hc⟩ := List.exists_cons_of_ne_nil hne
    rw [List.nil_append] at hc hhead
    rw [hc] at ht hhead
    exact absurd (ht c rfl) (by rw [hhead c rfl]; decide)
  have hrunNe : run ≠ [] := by
    rintro rfl
    cases t with
    | nil =>
      -- the text would end in the line
      rw [List.append_nil, List.append_nil] at hlast
      have hc := List.getLast?_eq_some_getLast hlineNe
      exact absurd (hlast _ hc) (by rw [hline _ (List.getLast_mem hlineNe)]; decide)
    | cons c more => exact absurd (ht c rfl) (by rw [ht' c rfl]; decide)
  obtain ⟨b, more, rfl⟩ := List.exists_cons_of_ne_nil hrunNe
  exact ⟨line, b, more, t, rfl, hlineNe, hline, hrun, ht'⟩

/-- What ends in a line does not end in a line break. -/
theorem isBreak_getLast?_append (hne : line ≠ []) (hline : ∀ c ∈ line, isBreak c = false)
    (hs : ∀ c ∈ s.getLast?, isBreak c = false) (before : List Char) :
    ∀ c ∈ (before ++ line ++ s).getLast?, isBreak c = false := by
  intro c hc
  by_cases hnil : s = []
  · rw [hnil, List.append_nil, List.getLast?_append_of_ne_nil _ hne] at hc
    exact hline c (List.mem_of_getLast? hc)
  · rw [List.getLast?_append_of_ne_nil _ hnil] at hc
    exact hs c hc

/-- A line of a literal block is read with the line break behind it and the empty lines that
follow. -/
theorem exists_readBlockLines_line {more : List Char}
    (hs : ∀ c ∈ line ++ (b :: more ++ t), isShown c) (hline : ∀ c ∈ line, isBreak c = false)
    (hrun : ∀ c ∈ b :: more, isBreak c) (ht : ∀ c ∈ t.head?, isBreak c = false)
    (hrest : EndsGap rest) (hm : m.column = indent) (lead trailing : List Char)
    (leadingBlank : Bool) (fuel : Nat) :
    ∃ blank m', (m'.column = if t = [] then 0 else indent) ∧
      readBlockLines false indent (fuel + 1) lead trailing leadingBlank
          ⟨writeLiteralChars indent false (line ++ (b :: more ++ t)) ++ rest, m⟩ =
        (readBlockLines false indent fuel [b] more blank
            ⟨writeLiteralChars indent false t ++ rest, m'⟩).map
          fun (text, lead', trailing', c) =>
            (lead ++ trailing ++ line ++ text, lead', trailing', c) := by
  have hown : ∀ c ∈ b :: more, IsOwnBreak c := fun c hc => (isBreak_iff_of_isShown
    (hs c (List.mem_append_right line (List.mem_append_left t hc)))).1 (hrun c hc)
  rw [List.forall_mem_cons] at hown
  have hlineChars : ∀ c ∈ line, isBreakOrEnd c = false := by
    intro c hc
    rw [isBreakOrEnd, hline c hc, beq_false_of_ne (ne_zero_of_isShown (hs c (by simp [hc])))]
    rfl
  have hbound : more.length < (more ++ (writeLiteralChars indent true t ++ rest)).length + 1 := by
    rw [List.length_append]
    omega
  have hnext : ((m.advance line.length).nextLine 1).column = 0 := rfl
  -- the empty lines behind are skipped together with the indentation of the next line
  obtain ⟨deepest, m', hm', hindentation⟩ :=
    readIndentation_text hown.2 ht hrest hnext hbound indent 0
  obtain ⟨blank, hstep⟩ :=
    readBlockLines_line hlineChars hown.1 hm hindentation lead trailing leadingBlank fuel
  have hwritten : writeLiteralChars indent false (line ++ (b :: more ++ t)) ++ rest =
      line ++ b :: (more ++ (writeLiteralChars indent true t ++ rest)) := by
    rw [writeLiteralChars_line hline, writeLiteralChars_breaks hrun (List.cons_ne_nil b more)]
    simp
  exact ⟨blank, m', hm', by rw [hwritten, hstep]⟩

/-- The lines of a text that ends a line read back; its last line breaks are kept apart. -/
theorem readBlockLines_text (hs : ∀ c ∈ s, isShown c) (hne : s ≠ [])
    (hhead : ∀ c ∈ s.head?, isBreak c = false) (hlast : ∀ c ∈ s.getLast?, isBreak c)
    (hrest : EndsGap rest) (hindent : 0 < indent) (hm : m.column = indent) (hfuel : s.length < fuel)
    (lead trailing : List Char) (leadingBlank : Bool) :
    ∃ text b more m', m'.column = 0 ∧ text ++ b :: more = lead ++ trailing ++ s ∧
      (∀ c ∈ b :: more, isBreak c) ∧ (∀ c ∈ text.getLast?, isBreak c = false) ∧
      readBlockLines false indent fuel lead trailing leadingBlank
        ⟨writeLiteralChars indent false s ++ rest, m⟩ = some (text, [b], more, ⟨rest, m'⟩) := by
  -- Each step takes a line, the line break behind it and the empty lines that follow.
  induction fuel generalizing s m lead trailing leadingBlank with
  | zero => omega
  | succ fuel ih =>
    obtain ⟨line, b, more, t, rfl, hlineNe, hline, hrun, ht⟩ := exists_line hne hhead hlast
    obtain ⟨blank, m', hm', hstep⟩ :=
      exists_readBlockLines_line hs hline hrun ht hrest hm lead trailing leadingBlank fuel
    rw [hstep]
    by_cases hnil : t = []
    · -- This was the last line.
      rw [if_pos hnil] at hm'
      subst hnil
      refine ⟨lead ++ trailing ++ line, b, more, m', hm', by simp, hrun, ?_, ?_⟩
      · have hlastLine :=
          isBreak_getLast?_append hlineNe hline (s := []) (by simp) (lead ++ trailing)
        rwa [List.append_nil] at hlastLine
      · change (readBlockLines false indent fuel [b] more blank ⟨rest, m'⟩).map _ = _
        rw [readBlockLines_rest hindent hm']
        simp
    · rw [if_neg hnil] at hm'
      have hlength : t.length < fuel := by
        have hpos := List.length_pos_iff.2 hlineNe
        simp only [List.length_append] at hfuel
        omega
      have hlast' : ∀ c ∈ t.getLast?, isBreak c := by
        intro c hc
        refine hlast c ?_
        rw [← List.append_assoc, List.getLast?_append_of_ne_nil _ hnil]
        exact hc
      obtain ⟨text, b', more', m'', hm'', htext, hends, hlastLine, hrec⟩ :=
        ih (fun c hc => hs c (by simp [hc])) hnil ht hlast' hm' hlength [b] more blank
      refine ⟨lead ++ trailing ++ line ++ text, b', more', m'', hm'', ?_, hends,
        isBreak_getLast?_append hlineNe hline hlastLine _, ?_⟩
      · rw [List.append_assoc, htext]
        simp
      · rw [hrec]
        rfl

/-! ### Whole blocks -/

/-- The indentation that the header gives. -/
def blockHint (s : List Char) : Option Nat :=
  if peek s == ' ' || isBreak (peek s) then some 2 else none

/-- What the header says about the line breaks at the end. -/
def blockChomping (s : List Char) : Chomping :=
  match s.reverse with
  | [] => .strip
  | [c] => if isBreak c then .keep else .strip
  | c :: d :: _ => if isBreak c then if isBreak d then .keep else .clip else .strip

/-- The indicator of a chomping. -/
def chompingMark : Chomping → List Char
  | .clip => []
  | .strip => ['-']
  | .keep => ['+']

theorem blockHeader_eq (s : List Char) :
    blockHeader s = '|' :: (if peek s == ' ' || isBreak (peek s) then ['2'] else []) ++
      chompingMark (blockChomping s) ++ ['\n'] := by
  rw [blockHeader, blockChomping]
  rcases s.reverse with _ | ⟨c, _ | ⟨d, more⟩⟩
  · rfl
  · dsimp only
    split_ifs <;> rfl
  · dsimp only
    split_ifs <;> rfl

/-- The header reads back. -/
theorem readBlockHeader_blockHeader (s t : List Char) (m : Mark) :
    ∃ m', readBlockHeader (Cursor.skip ⟨blockHeader s ++ t, m⟩) =
      some (blockChomping s, blockHint s, ⟨'\n' :: t, m'⟩) := by
  rw [blockHeader_eq, blockHint]
  split_ifs
  · cases blockChomping s
    · exact ⟨_, rfl⟩
    · exact ⟨_, rfl⟩
    · exact ⟨_, rfl⟩
  · cases blockChomping s
    · exact ⟨_, rfl⟩
    · exact ⟨_, rfl⟩
    · exact ⟨_, rfl⟩

/-- The text with its last line ended, as it stands in a block. -/
def lines (s : List Char) : List Char := s ++ lineEnd s

theorem isBreak_of_mem_getLast?_lines : ∀ c ∈ (lines s).getLast?, isBreak c := by
  intro c hc
  rw [lines, lineEnd] at hc
  split_ifs at hc with hlast
  · rw [List.append_nil] at hc
    rwa [Option.mem_def.1 hc] at hlast
  · rw [List.getLast?_concat] at hc
    obtain rfl := Option.some.inj hc
    rfl

theorem isShown_of_mem_lines (hs : ∀ c ∈ s, isShown c) : ∀ c ∈ lines s, isShown c := by
  intro c hc
  rw [lines, lineEnd, List.mem_append] at hc
  rcases hc with hc | hc
  · exact hs c hc
  · split_ifs at hc
    · cases hc
    · rw [List.mem_singleton.1 hc]
      rfl

theorem writeLiteralChars_lines (indent : Nat) (s : List Char) :
    writeLiteralChars indent true s ++ lineEnd s = writeLiteralChars indent true (lines s) := by
  rw [lines, lineEnd]
  split_ifs
  · rw [List.append_nil, List.append_nil]
  · rw [writeLiteralChars_concat rfl]

/-! The line breaks at the end -/

section Chomping

variable {text lead more : List Char}

/-- The last one of line breaks behind a line is the last character. -/
theorem exists_breaks_of_concat (h : text ++ breaks = s ++ [c]) (hc : isBreak c)
    (htext : ∀ c ∈ text.getLast?, isBreak c = false) :
    ∃ more, breaks = more ++ [c] ∧ text ++ more = s := by
  rcases List.eq_nil_or_concat breaks with rfl | ⟨more, b, rfl⟩
  · rw [List.append_nil] at h
    rw [h, List.getLast?_concat] at htext
    rw [htext c rfl] at hc
    cases hc
  · rw [List.concat_eq_append, ← List.append_assoc] at h
    obtain ⟨hmore, hb⟩ := List.append_inj' h rfl
    exact ⟨more, by rw [List.concat_eq_append, List.cons.inj hb |>.1], hmore⟩

/-- There are no line breaks at the end of a text that ends in something else. -/
theorem eq_nil_of_append (h : text ++ breaks = s) (hbreaks : ∀ c ∈ breaks, isBreak c)
    (hs : ∀ c ∈ s.getLast?, isBreak c = false) : breaks = [] := by
  rcases List.eq_nil_or_concat breaks with rfl | ⟨more, b, rfl⟩
  · rfl
  · rw [List.concat_eq_append, ← List.append_assoc] at h
    have hb := hs b (by rw [← h, List.getLast?_concat]; rfl)
    rw [hbreaks b (by simp)] at hb
    cases hb

/-- Behind a text that does not end in a line break a single one ends its last line. -/
theorem eq_of_append_eq_concat (h : text ++ breaks = s ++ [c]) (hc : isBreak c)
    (hbreaks : ∀ c ∈ breaks, isBreak c) (htext : ∀ c ∈ text.getLast?, isBreak c = false)
    (hs : ∀ c ∈ s.getLast?, isBreak c = false) : text = s ∧ breaks = [c] := by
  obtain ⟨more, hmore, hstart⟩ := exists_breaks_of_concat h hc htext
  obtain rfl := eq_nil_of_append hstart (fun x hx => hbreaks x (by rw [hmore]; simp [hx])) hs
  rw [List.append_nil] at hstart
  exact ⟨hstart, hmore⟩

theorem lines_of_isBreak (hc : isBreak c) (s : List Char) : lines (s ++ [c]) = s ++ [c] := by
  rw [lines, lineEnd, List.getLast?_concat, Option.any_some, hc, if_pos rfl, List.append_nil]

theorem lines_of_not_isBreak (hc : isBreak c = false) (s : List Char) :
    lines (s ++ [c]) = (s ++ [c]) ++ ['\n'] := by
  rw [lines, lineEnd, List.getLast?_concat, Option.any_some, hc, if_neg (by simp)]

theorem getLast?_concat_not_isBreak (hc : isBreak c = false) (s : List Char) :
    ∀ x ∈ (s ++ [c]).getLast?, isBreak x = false := by
  intro x hx
  rw [List.getLast?_concat] at hx
  obtain rfl := Option.some.inj hx
  exact hc

/-- The header says which of the last line breaks belong to the text. -/
theorem append_chomped (hne : s ≠ []) (h : text ++ (lead ++ more) = lines s)
    (hbreaks : ∀ c ∈ lead ++ more, isBreak c) (htext : ∀ c ∈ text.getLast?, isBreak c = false)
    (hlead : text = [] ∨ ∃ b, lead = [b]) :
    text ++ (match blockChomping s with
      | .strip => []
      | .clip => lead
      | .keep => lead ++ more) = s := by
  obtain ⟨start, c, rfl⟩ := (List.eq_nil_or_concat s).resolve_left hne
  rw [List.concat_eq_append] at *
  by_cases hc : isBreak c
  · rw [lines_of_isBreak hc] at h
    rcases List.eq_nil_or_concat start with rfl | ⟨before, d, rfl⟩
    · have hkeep : blockChomping ([] ++ [c]) = .keep := by simp [blockChomping, hc]
      rw [hkeep]
      exact h
    · rw [List.concat_eq_append] at *
      by_cases hd : isBreak d
      · have hkeep : blockChomping (before ++ [d] ++ [c]) = .keep := by
          simp [blockChomping, hc, hd]
        rw [hkeep]
        exact h
      · -- there is one line break, and it ends the line
        have hclip : blockChomping (before ++ [d] ++ [c]) = .clip := by
          simp [blockChomping, hc, hd]
        obtain ⟨rfl, hone⟩ := eq_of_append_eq_concat h hc hbreaks htext
          (getLast?_concat_not_isBreak (by simpa using hd) before)
        obtain ⟨b, rfl⟩ := hlead.resolve_left (by simp)
        rw [List.singleton_append, List.cons.injEq] at hone
        rw [hclip, hone.1]
  · -- the line break at the end is not of the text
    have hc' : isBreak c = false := by simpa using hc
    have hstrip : blockChomping (start ++ [c]) = .strip := by
      rw [blockChomping, List.reverse_append, List.reverse_singleton, List.singleton_append]
      cases start.reverse <;> simp [hc']
    rw [lines_of_not_isBreak hc'] at h
    rw [hstrip, List.append_nil]
    exact (eq_of_append_eq_concat h rfl hbreaks htext (getLast?_concat_not_isBreak hc' start)).1

end Chomping

/-! The block -/

/-- The lines of a text read back behind the empty lines before them. -/
theorem exists_readBlockLines (hs : ∀ c ∈ s, isShown c) (hrest : EndsGap rest)
    (hindent : 0 < indent) (hm : m.column = 0) :
    ∃ breaks deepest cursor, readIndentation (some indent) 0
      ((writeLiteralChars indent true (lines s) ++ rest).length + 1)
      ⟨writeLiteralChars indent true (lines s) ++ rest, m⟩ = some (breaks, deepest, cursor) ∧
      ∃ text lead more m', m'.column = 0 ∧ text ++ (lead ++ more) = lines s ∧
        (∀ c ∈ lead ++ more, isBreak c) ∧ (∀ c ∈ text.getLast?, isBreak c = false) ∧
        (text = [] ∨ ∃ b, lead = [b]) ∧
        readBlockLines false indent (cursor.rest.length + 1) [] breaks false cursor =
          some (text, lead, more, ⟨rest, m'⟩) := by
  obtain ⟨run, t, heq, hrun, ht⟩ := exists_run isBreak (lines s)
  have hshown := isShown_of_mem_lines hs
  have hlast := isBreak_of_mem_getLast?_lines (s := s)
  rw [heq] at hshown hlast ⊢
  have hown : ∀ c ∈ run, IsOwnBreak c := fun c hc =>
    (isBreak_iff_of_isShown (hshown c (List.mem_append_left t hc))).1 (hrun c hc)
  have hwritten : writeLiteralChars indent true (run ++ t) ++ rest =
      run ++ (writeLiteralChars indent true t ++ rest) := by
    by_cases hrunNil : run = []
    · rw [hrunNil]
      rfl
    · rw [writeLiteralChars_breaks hrun hrunNil, List.append_assoc]
  have hbound : run.length < (run ++ (writeLiteralChars indent true t ++ rest)).length + 1 := by
    rw [List.length_append]
    omega
  obtain ⟨deepest, m', hm', hindentation⟩ := readIndentation_text hown ht hrest hm hbound indent 0
  rw [hwritten]
  refine ⟨run, deepest, _, hindentation, ?_⟩
  by_cases hnil : t = []
  · -- nothing but line breaks
    subst hnil
    rw [if_pos rfl] at hm'
    refine ⟨[], [], run, m', hm', by simp, hrun, by simp, .inl rfl, ?_⟩
    exact readBlockLines_rest hindent hm' false [] run false _ rest
  · rw [if_neg hnil] at hm'
    have hlast' : ∀ c ∈ t.getLast?, isBreak c := by
      intro c hc
      refine hlast c ?_
      rw [List.getLast?_append_of_ne_nil _ hnil]
      exact hc
    have hlength : t.length < (writeLiteralChars indent false t ++ rest).length + 1 := by
      have hle := length_le_length_writeLiteralChars indent false t
      rw [List.length_append]
      omega
    obtain ⟨text, b, more, m'', hm'', htext, hends, hline, hread⟩ :=
      readBlockLines_text (fun c hc => hshown c (List.mem_append_right run hc)) hnil ht hlast' hrest
        hindent hm' hlength [] run false
    exact ⟨text, [b], more, m'', hm'', htext, hends, hline, .inr ⟨b, rfl⟩, hread⟩

/-- What comes first behind the margin of a block whose header gives no indentation. -/
theorem exists_line_of_blockHint (hs : ∀ c ∈ s, isShown c) (hne : s ≠ [])
    (hhint : blockHint s = none)
    (indent : Nat) (rest : List Char) :
    ∃ c more, EndsGap (c :: more) ∧
      writeLiteralChars indent true (lines s) ++ rest = spaces indent ++ c :: more := by
  obtain ⟨c, t, rfl⟩ := List.exists_cons_of_ne_nil hne
  rw [blockHint] at hhint
  split_ifs at hhint with hfirst
  obtain ⟨hspace, hbreak⟩ : (c == ' ') = false ∧ isBreak c = false := by
    rwa [Bool.or_eq_true, not_or, Bool.not_eq_true, Bool.not_eq_true] at hfirst
  have hlines : lines (c :: t) = c :: (t ++ lineEnd (c :: t)) := rfl
  have hfirst : writeLiteralChars indent false (lines (c :: t)) =
      c :: writeLiteralChars indent false (t ++ lineEnd (c :: t)) := by
    rw [hlines, writeLiteralChars, hbreak]
    rfl
  have hgap : isSpace c = false := by
    rw [← Bool.not_eq_true, isSpace_iff_of_isShown (hs c (by simp))]
    exact beq_eq_false_iff_ne.1 hspace
  refine ⟨c, writeLiteralChars indent false (t ++ lineEnd (c :: t)) ++ rest, ⟨hgap, hbreak⟩, ?_⟩
  rw [hlines, writeLiteralChars_lineStart hbreak, ← hlines, hfirst, List.append_assoc]
  rfl

theorem skipWhile_newline (s : List Char) (m : Mark) :
    Cursor.skipWhile isSpace ⟨'\n' :: s, m⟩ = ⟨'\n' :: s, m⟩ := rfl

/-- What is read behind the header of a block. -/
theorem readBlock_eq {parent increment : Option Nat} {chomping : Chomping} {cursor behind : Cursor}
    {trailing text lead more : List Char} {m' : Mark}
    (hheader : readBlockHeader cursor.skip = some (chomping, increment, ⟨'\n' :: s, m⟩))
    (hindentation : readIndentation (increment.map ((parent.getD 0) + ·)) 0 (s.length + 1)
      ⟨s, m.nextLine 1⟩ = some (trailing, deepest, behind))
    (hindent : (increment.map ((parent.getD 0) + ·)).getD
      (max (max deepest ((parent.map (· + 1)).getD 0)) 1) = indent)
    (hlines : readBlockLines false indent (behind.rest.length + 1) [] trailing false behind =
      some (text, lead, more, ⟨rest, m'⟩)) :
    readBlock false parent cursor = some (text ++ (match chomping with
      | .strip => []
      | .clip => lead
      | .keep => lead ++ more), ⟨rest, m'⟩) := by
  have hcomment : (Cursor.peek ⟨'\n' :: s, m⟩ == '#') = false := rfl
  have hend : (! isBreakOrEnd (Cursor.peek ⟨'\n' :: s, m⟩)) = false := rfl
  have hbreak : (Cursor.readBreak ⟨'\n' :: s, m⟩).2 = ⟨s, m.nextLine 1⟩ := rfl
  rw [readBlock, hheader]
  cases chomping <;> simp only [skipWhile_newline, hcomment, hend, hbreak, hindentation, hindent,
    hlines, Bool.false_eq_true, if_false]

/-- A header gives no other indentation than two columns. -/
theorem eq_two_of_blockHint {n : Nat} (hhint : blockHint s = some n) : n = 2 := by
  rw [blockHint] at hhint
  split_ifs at hhint
  exact (Option.some.inj hhint).symm

/-- Where a header gives no indentation the first line shows what it would give. -/
theorem readIndentation_of_blockHint {cursor : Cursor} (hs : ∀ c ∈ s, isShown c) (hne : s ≠ [])
    (hhint : blockHint s = none) (hm : m.column = 0)
    (hindentation : readIndentation (some indent) 0
      ((writeLiteralChars indent true (lines s) ++ rest).length + 1)
      ⟨writeLiteralChars indent true (lines s) ++ rest, m⟩ = some (breaks, deepest, cursor)) :
    readIndentation none 0 ((writeLiteralChars indent true (lines s) ++ rest).length + 1)
      ⟨writeLiteralChars indent true (lines s) ++ rest, m⟩ = some (breaks, indent, cursor) := by
  obtain ⟨c, t, hgap, hfirst⟩ := exists_line_of_blockHint hs hne hhint indent rest
  rw [hfirst] at hindentation ⊢
  have hbreak : isBreak c = false := hgap.2
  rw [readIndentation_margin hbreak hm, Option.some.injEq, Prod.mk.injEq, Prod.mk.injEq]
    at hindentation
  obtain ⟨rfl, -, rfl⟩ := hindentation
  exact readIndentation_firstMargin hgap hm indent _

/-- A text that is written as a literal block, two columns right of what is around it, reads
back. -/
theorem readBlock_writeIn (hs : ∀ c ∈ s, isShown c) (hne : s ≠ []) (hrest : EndsGap rest)
    (parent : Option Nat) (m : Mark) :
    ∃ m', m'.column = 0 ∧
      readBlock false parent ⟨writeIn .literal (parent.getD 0 + 2) s ++ (lineEnd s ++ rest), m⟩ =
        some (s, ⟨rest, m'⟩) := by
  have hwritten : writeIn .literal (parent.getD 0 + 2) s ++ (lineEnd s ++ rest) =
      blockHeader s ++ (writeLiteralChars (parent.getD 0 + 2) true (lines s) ++ rest) := by
    rw [writeIn, ← writeLiteralChars_lines]
    simp
  obtain ⟨m₁, hheader⟩ := readBlockHeader_blockHeader s
    (writeLiteralChars (parent.getD 0 + 2) true (lines s) ++ rest) m
  have hindent : 0 < parent.getD 0 + 2 := Nat.succ_pos _
  have hcolumn : (m₁.nextLine 1).column = 0 := rfl
  obtain ⟨breaks, deepest, cursor, hindentation, text, lead, more, m', hm', htext, hends, hline,
    hlead, hread⟩ := exists_readBlockLines hs hrest hindent hcolumn
  have hchomped := append_chomped hne htext hends hline hlead
  rw [hwritten]
  refine ⟨m', hm', ?_⟩
  cases hhint : blockHint s with
  | some n =>
    obtain rfl := eq_two_of_blockHint hhint
    rw [hhint] at hheader
    refine (readBlock_eq hheader hindentation rfl hread).trans ?_
    rw [hchomped]
  | none =>
    rw [hhint] at hheader
    -- the first line shows the same indentation as a header would
    have hnone := readIndentation_of_blockHint hs hne hhint hcolumn hindentation
    have hshown : max (max (parent.getD 0 + 2) ((parent.map (· + 1)).getD 0)) 1 =
        parent.getD 0 + 2 := by
      cases parent with
      | none => rfl
      | some n =>
        simp only [Option.getD_some, Option.map_some]
        omega
    refine (readBlock_eq hheader hnone hshown hread).trans ?_
    rw [hchomped]

end DeploySync.Yaml
