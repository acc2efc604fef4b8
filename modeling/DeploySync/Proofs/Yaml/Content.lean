import DeploySync.Proofs.Yaml.Stream

/-!
# The tokens of a text and of a list of texts

Behind the colon of an entry at the first column stands a text, or brackets for a list of no texts.
The items of a list stand on the lines below, at the column of the entry. Behind a dash, other than
behind a colon, a text may still turn out to be a key until its line has ended.

## Main definitions

* `Yaml.Content` — a text, or a list of texts
* `Yaml.Content.written`, `Yaml.Content.kinds` — its characters and its tokens
* `Yaml.Scanner.AtLine` — the next line starts here, or behind the line break that comes first

## Main results

* `Yaml.Scanner.fetch_scalar` — the token of a text
* `Yaml.Scanner.reaches_content` — the tokens of a text or a list of texts
-/

namespace DeploySync.Yaml

/-- What stands behind the colon of an entry: a text, or a list of texts. -/
inductive Content where
  | text (s : String)
  | texts (items : List String)

/-- The style in which a text is written. -/
def valueStyle (text : List Char) : ScalarStyle :=
  writtenStyle false (preferredStyle text) (Traits.of text)

/-- A text behind a colon or a dash, up to the end of its last line. -/
def textWritten (s : String) : List Char :=
  ' ' :: (writeScalar false 2 s.toList ++ lineEnd (writeScalar false 2 s.toList))

/-- The token of a text. -/
def textKind (s : String) : TokenKind := .scalar s.toList (valueStyle s.toList)

/-- A text as an item of a list. -/
def itemWritten (s : String) : List Char := '-' :: textWritten s

/-- The tokens of an item. -/
def itemKinds (s : String) : List TokenKind := [.blockEntry, textKind s]

/-- What is written behind the colon. -/
def Content.written : Content → List Char
  | .text s => textWritten s
  | .texts [] => [' ', '[', ']', '\n']
  | .texts (item :: items) => '\n' :: (item :: items).flatMap itemWritten

/-- The tokens behind the colon. -/
def Content.kinds : Content → List TokenKind
  | .text s => [textKind s]
  | .texts [] => [.flowSequenceStart, .flowSequenceEnd]
  | .texts (item :: items) => (item :: items).flatMap itemKinds

/-- A blank stands behind the colon. -/
theorem Content.isBlankOrEnd_written (content : Content) (rest : List Char) :
    isBlankOrEnd (peek (content.written ++ rest)) := by
  rcases content with _ | (_ | _) <;> rfl

namespace Scanner

variable {s : Scanner} {rest t text : List Char} {m : Mark} {recent : List Token}
variable {indents : List Nat} {kinds : List TokenKind} {key : Option SimpleKey} {allowed : Bool}
variable {style : ScalarStyle}

/-! ### Lines -/

/-- The scanner outside of flow collections. The last token may turn out to be `key`; `allowed` says
that the next one may be a key. -/
def outside (cursor : Cursor) (recent : List Token) (indents : List Nat) (key : Option SimpleKey)
    (allowed : Bool) : Scanner where
  cursor := cursor
  recent := recent
  indents := indents
  keys := [key]
  simpleKeyAllowed := allowed

/-- The next line starts here, or behind the line break that comes first. -/
structure AtLine (s : Scanner) (rest : List Char) (kinds : List TokenKind) (indents : List Nat) :
    Prop where
  gap : ∃ m, m.column = 0 ∧ (skipGap (s.cursor.rest.length + 1) s).dropStale =
    some (outside ⟨rest, m⟩ s.recent indents none true)
  kinds : s.recent.map (·.kind) = kinds
  going : s.done = false

/-- A line starts where the scanner stands. -/
theorem atLine_of_column (hrest : StartsToken rest) (hcolumn : m.column = 0)
    (hkey : ∀ k ∈ key, k.required = false ∧ k.mark.line < m.line) (recent : List Token)
    (indents : List Nat) :
    AtLine (outside ⟨rest, m⟩ recent indents key true) rest (recent.map (·.kind)) indents where
  gap := by
    refine ⟨m, hcolumn, ?_⟩
    rw [skipGap_of_startsToken hrest]
    exact dropStale_of_line rfl hkey
  kinds := rfl
  going := rfl

/-- A line starts behind the line break. -/
theorem atLine_of_break (hrest : StartsToken rest)
    (hkey : ∀ k ∈ key, k.required = false ∧ k.mark.line ≤ m.line) (recent : List Token)
    (indents : List Nat) (allowed : Bool) :
    AtLine (outside ⟨'\n' :: rest, m⟩ recent indents key allowed) rest (recent.map (·.kind))
      indents where
  gap := by
    have hskip : skipGap (rest.length + 2) (outside ⟨'\n' :: rest, m⟩ recent indents key allowed) =
        outside ⟨rest, m.nextLine 1⟩ recent indents key true := by
      rw [skipGap_break rfl rfl]
      exact skipGap_of_startsToken hrest _
    refine ⟨m.nextLine 1, rfl, ?_⟩
    change (skipGap (rest.length + 2) _).dropStale = _
    rw [hskip]
    exact dropStale_of_line rfl fun k hk => ⟨(hkey k hk).1, Nat.lt_succ_of_le (hkey k hk).2⟩
  kinds := rfl
  going := rfl

/-- A token is fetched where the scanner stands. -/
theorem settled_outside (h : StartsToken t) (m : Mark) (recent : List Token) (allowed : Bool) :
    Settled (outside ⟨t, m⟩ recent [0] none allowed) :=
  settled_of_startsToken h (by simp [outside]) (by simp [outside])

/-- The blank behind a colon or a dash is passed. -/
theorem fetch_space (h : StartsToken t) (m : Mark) (recent : List Token) (allowed : Bool) :
    (outside ⟨' ' :: t, m⟩ recent [0] none allowed).fetch =
      (outside ⟨t, m.advance 1⟩ recent [0] none allowed).fetch := by
  have hsettled := settled_outside h (m.advance 1) recent allowed
  refine fetch_eq_fetch ?_ hsettled
  rw [skipGap_space rfl h]
  exact hsettled.stale

/-! ### Scalars -/

theorem startsToken_writeIn (h : Suits text style) (rest : List Char) :
    StartsToken (writeIn style 2 text ++ rest) := by
  cases h with
  | plain htext _ =>
    obtain ⟨c, more, rfl⟩ := List.exists_cons_of_ne_nil htext.ne_nil
    refine ⟨htext.endsGap rest, fun h => htext.comment ?_, ?_⟩
    · rw [List.head?_cons]
      exact congrArg some h
    · rintro h
      have hshown := htext.shown c (by simp)
      obtain rfl : c = '\uFEFF' := h
      exact absurd hshown (by decide)
  | singleQuoted => exact ⟨⟨rfl, rfl⟩, by simp [writeIn, peek], by simp [writeIn, peek]⟩
  | doubleQuoted => exact ⟨⟨rfl, rfl⟩, by simp [writeIn, peek], by simp [writeIn, peek]⟩
  | literal =>
    exact ⟨⟨rfl, rfl⟩, by simp [writeIn, blockHeader, peek], by simp [writeIn, blockHeader, peek]⟩

/-- Right of the first column what is remembered does not have to be a key. -/
theorem exists_saveCandidate (hcolumn : 0 < m.column) (t : List Char) (recent : List Token)
    (allowed : Bool) :
    ∃ key : Option SimpleKey, (∀ k ∈ key, k.required = false ∧ k.mark = m) ∧
      (outside ⟨t, m⟩ recent [0] none allowed).saveCandidate =
        some (outside ⟨t, m⟩ recent [0] key allowed) := by
  cases allowed with
  | false => exact ⟨none, by simp, saveCandidate_of_not rfl⟩
  | true =>
    -- The mapping stands at the first column, and only there a key would have to come.
    have hrequired : (some 0 == some m.column) = false :=
      beq_false_of_ne fun h => Nat.ne_of_lt hcolumn (Option.some.inj h)
    exact ⟨some ⟨recent.length, some 0 == some m.column, m⟩, by simp [hrequired],
      saveCandidate_of_allowed rfl rfl⟩

/-- A plain scalar is read up to the start of the next line. -/
theorem fetch_plainText (hs : PlainText text) (hstart : hasIndicator true ' ' text = false)
    (hrest : StartsToken rest) (hcolumn : 0 < m.column) (recent : List Token) (allowed : Bool) :
    ∃ s', AtLine s' rest (.scalar text .plain :: recent.map (·.kind)) [0] ∧
      (outside ⟨text ++ '\n' :: rest, m⟩ recent [0] none allowed).fetch = some s' := by
  obtain ⟨stop, m', hcolumn', hline, hread⟩ :=
    readPlain_plainText hs Nat.one_pos hcolumn hrest.endsGap
  obtain ⟨key, hkey, hsave⟩ := exists_saveCandidate hcolumn (text ++ '\n' :: rest) recent allowed
  have hsettled :=
    settled_outside (startsToken_writeIn (.plain hs hstart) ('\n' :: rest)) m recent allowed
  have hplain : (outside ⟨text ++ '\n' :: rest, m⟩ recent [0] none allowed).fetch =
      (outside ⟨text ++ '\n' :: rest, m⟩ recent [0] none allowed).fetchPlain := by
    obtain ⟨c, more, rfl⟩ := List.exists_cons_of_ne_nil hs.ne_nil
    have hblank : isBlankOrEnd c = false :=
      hs.isBlankOrEnd_eq (by simp) fun h => hs.start (by rw [h, List.head?_cons])
    rw [hasIndicator, Bool.or_eq_false_iff] at hstart
    -- Behind a text of one character stands the line break, a blank as the end of the text is.
    have hindicator : isIndicatorIn true ' ' c (peek (more ++ '\n' :: rest)) = false := by
      cases more with
      | nil => exact hstart.1
      | cons d more => exact hstart.1
    exact hsettled.fetch_plain rfl (atDocumentMarker_of_column hcolumn) rfl hblank hindicator
  refine ⟨outside ⟨rest, m'⟩ (⟨.scalar text .plain, m, stop⟩ :: recent) [0] key true,
    atLine_of_column hrest hcolumn' (fun k hk => ?_) _ _, ?_⟩
  · -- What is remembered stands on the line before, so that it is no key.
    obtain ⟨hrequired, rfl⟩ := hkey k hk
    exact ⟨hrequired, hline⟩
  · rw [hplain, fetchPlain, hsave]
    change (readPlain false 1 ⟨text ++ '\n' :: rest, m⟩).map _ = _
    rw [hread]
    rfl

/-- A quoted scalar is read up to the quote behind it, and its line ends there. -/
theorem fetch_quoted (hstyle : style = .singleQuoted ∧ SingleQuotable text ∨ style = .doubleQuoted)
    (hrest : StartsToken rest) (hcolumn : 0 < m.column) (recent : List Token) (allowed : Bool) :
    ∃ s', AtLine s' rest (.scalar text style :: recent.map (·.kind)) [0] ∧
      (outside ⟨writeIn style 2 text ++ '\n' :: rest, m⟩ recent [0] none allowed).fetch =
        some s' := by
  obtain ⟨key, hkey, hsave⟩ :=
    exists_saveCandidate hcolumn (writeIn style 2 text ++ '\n' :: rest) recent allowed
  -- either reader stops behind the closing quote; only the marks differ
  obtain ⟨m', hline, hfetch⟩ : ∃ m', m.line ≤ m'.line ∧
      (outside ⟨writeIn style 2 text ++ '\n' :: rest, m⟩ recent [0] none allowed).fetch =
        some (outside ⟨'\n' :: rest, m'⟩ (⟨.scalar text style, m, m'⟩ :: recent) [0] key
          false) := by
    rcases hstyle with ⟨rfl, hs⟩ | rfl
    · have hnext : ('\n' :: rest).head? ≠ some '\'' := by simp
      obtain ⟨m', hline, hread⟩ := readSingleQuoted_writeIn hs Nat.two_pos hnext m
      have hsettled :=
        settled_outside (startsToken_writeIn (.singleQuoted hs) ('\n' :: rest)) m recent allowed
      refine ⟨m', hline, ?_⟩
      rw [hsettled.fetch_quote hcolumn rfl (.inl ⟨rfl, rfl⟩), fetchQuoted, hsave]
      change (readSingleQuoted ⟨writeIn .singleQuoted 2 text ++ '\n' :: rest, m⟩).map _ = _
      rw [hread]
      rfl
    · obtain ⟨m', hline, hread⟩ := readDoubleQuoted_writeIn 2 text ('\n' :: rest) m
      have hsettled := settled_outside
        (startsToken_writeIn (.doubleQuoted (s := text)) ('\n' :: rest)) m recent allowed
      refine ⟨m', hline, ?_⟩
      rw [hsettled.fetch_quote hcolumn rfl (.inr ⟨rfl, rfl⟩), fetchQuoted, hsave]
      change (readDoubleQuoted ⟨writeIn .doubleQuoted 2 text ++ '\n' :: rest, m⟩).map _ = _
      rw [hread]
      rfl
  refine ⟨_, atLine_of_break hrest (fun k hk => ?_) _ _ _, hfetch⟩
  obtain ⟨hrequired, rfl⟩ := hkey k hk
  exact ⟨hrequired, hline⟩

/-- A block is read up to the start of the next line. It is never a key. -/
theorem fetch_literal (hne : text ≠ []) (hshown : ∀ c ∈ text, isShown c) (hrest : StartsToken rest)
    (hcolumn : 0 < m.column) (recent : List Token) (allowed : Bool) :
    ∃ s', AtLine s' rest (.scalar text .literal :: recent.map (·.kind)) [0] ∧
      (outside ⟨writeIn .literal 2 text ++ (lineEnd text ++ rest), m⟩ recent [0] none
        allowed).fetch = some s' := by
  obtain ⟨m', hcolumn', hread⟩ : ∃ m', m'.column = 0 ∧
      readBlock false (some 0) ⟨writeIn .literal 2 text ++ (lineEnd text ++ rest), m⟩ =
        some (text, ⟨rest, m'⟩) :=
    readBlock_writeIn hshown hne hrest.endsGap (some 0) m
  have hsettled := settled_outside
    (startsToken_writeIn (.literal hne hshown) (lineEnd text ++ rest)) m recent allowed
  refine ⟨outside ⟨rest, m'⟩ (⟨.scalar text .literal, m, m'⟩ :: recent) [0] none true,
    atLine_of_column hrest hcolumn' (by simp) _ _, ?_⟩
  rw [hsettled.fetch_bar hcolumn rfl rfl, fetchBlockScalar]
  change (readBlock false (some 0) ⟨writeIn .literal 2 text ++ (lineEnd text ++ rest), m⟩).map _ = _
  rw [hread]
  rfl

/-- A text behind a colon or a dash is fetched as it was written. -/
theorem fetch_scalar (hrest : StartsToken rest) (s : String) (m : Mark) (recent : List Token)
    (allowed : Bool) :
    ∃ s', AtLine s' rest (textKind s :: recent.map (·.kind)) [0] ∧
      (outside ⟨textWritten s ++ rest, m⟩ recent [0] none allowed).fetch = some s' := by
  have hcolumn : 0 < (m.advance 1).column := Nat.succ_pos _
  have hsuits : Suits s.toList (valueStyle s.toList) := suits_writtenStyle s.toList
  have hwritten : textWritten s ++ rest = ' ' :: (writeIn (valueStyle s.toList) 2 s.toList ++
      (lineEnd (writeIn (valueStyle s.toList) 2 s.toList) ++ rest)) := by
    rw [textWritten, List.cons_append, List.append_assoc]
    rfl
  rw [hwritten, fetch_space (startsToken_writeIn hsuits _), lineEnd_writeIn hsuits, textKind]
  generalize valueStyle s.toList = style at hsuits
  cases hsuits with
  | plain htext hstart => exact fetch_plainText htext hstart hrest hcolumn recent allowed
  | singleQuoted htext => exact fetch_quoted (.inl ⟨rfl, htext⟩) hrest hcolumn recent allowed
  | doubleQuoted => exact fetch_quoted (.inr rfl) hrest hcolumn recent allowed
  | literal hne hshown => exact fetch_literal hne hshown hrest hcolumn recent allowed

/-! ### Lists -/

/-- A dash at the start of a line is an item of the list that stands at the column of the
mapping. -/
theorem fetch_dash (h : AtLine s ('-' :: t) kinds [0]) (ht : isBlankOrEnd (peek t)) :
    ∃ m recent, recent.map (·.kind) = .blockEntry :: kinds ∧
      s.fetch = some (outside ⟨t, m⟩ recent [0] none true) := by
  obtain ⟨m, hcolumn, hgap⟩ := h.gap
  have hstarts : StartsToken ('-' :: t) := ⟨⟨rfl, rfl⟩, by simp [peek], by simp [peek]⟩
  have hsettled := settled_outside hstarts m s.recent true
  refine ⟨m.advance 1, ⟨.blockEntry, m, m.advance 1⟩ :: s.recent, ?_, ?_⟩
  · rw [← h.kinds]
    rfl
  · -- The list stands at the column of the mapping, so that no collection is opened for it.
    have hroll : (outside ⟨'-' :: t, m⟩ s.recent [0] none true).roll m.column s.recent.length
        .blockSequenceStart m = outside ⟨'-' :: t, m⟩ s.recent [0] none true := by
      rw [hcolumn]
      exact roll_of_cons rfl rfl _ _ _
    rw [fetch_eq_fetch hgap hsettled, hsettled.fetch_dash rfl ht, fetchBlockEntry]
    change (dropCandidate (roll _ m.column s.recent.length .blockSequenceStart m)).map _ = _
    rw [hroll]
    rfl

theorem startsToken_flatMap_itemWritten (hrest : StartsToken rest) (items : List String) :
    StartsToken (items.flatMap itemWritten ++ rest) := by
  cases items with
  | nil => exact hrest
  | cons item more => exact ⟨⟨rfl, rfl⟩, by simp [itemWritten, peek], by simp [itemWritten, peek]⟩

/-- The tokens of the items are fetched one item after the other. -/
theorem reaches_items {items : List String} (hrest : StartsToken rest)
    (h : AtLine s (items.flatMap itemWritten ++ rest) kinds [0]) :
    ∃ s', AtLine s' rest ((items.flatMap itemKinds).reverse ++ kinds) [0] ∧
      Reaches (items.flatMap itemWritten).length s s' := by
  induction items generalizing s kinds with
  | nil => exact ⟨s, h, reaches_refl s⟩
  | cons item more ih =>
    rw [List.flatMap_cons, List.append_assoc] at h
    obtain ⟨m, recent, hkinds, hdash⟩ := fetch_dash h rfl
    obtain ⟨s₁, hs₁, hscalar⟩ :=
      fetch_scalar (startsToken_flatMap_itemWritten hrest more) item m recent true
    obtain ⟨s', hs', hmore⟩ := ih hs₁
    refine ⟨s', ?_, ?_⟩
    · rw [hkinds] at hs'
      simpa [itemKinds] using hs'
    · have hitem : Reaches 2 s s₁ :=
        (reaches_of_fetch h.going hdash).trans (reaches_of_fetch rfl hscalar)
      refine (hitem.trans hmore).mono ?_
      simp [itemWritten, textWritten]
      omega

/-- Brackets behind a colon are a list of no items. -/
theorem reaches_brackets (hrest : StartsToken rest) (m : Mark) (recent : List Token) :
    ∃ s', AtLine s' rest (.flowSequenceEnd :: .flowSequenceStart :: recent.map (·.kind)) [0] ∧
      Reaches 2 (outside ⟨' ' :: '[' :: ']' :: '\n' :: rest, m⟩ recent [0] none false) s' := by
  -- Between the brackets keys are remembered apart from those outside of them.
  let opened : Scanner :=
    { outside ⟨']' :: '\n' :: rest, m.advance 2⟩
        (⟨.flowSequenceStart, m.advance 1, m.advance 2⟩ :: recent) [0] none true with
      keys := [none, none] }
  have hstarts : StartsToken ('[' :: ']' :: '\n' :: rest) :=
    ⟨⟨rfl, rfl⟩, by simp [peek], by simp [peek]⟩
  have hstarts' : StartsToken opened.cursor.rest :=
    ⟨⟨rfl, rfl⟩, by simp [opened, outside, peek], by simp [opened, outside, peek]⟩
  have hopen : (outside ⟨' ' :: '[' :: ']' :: '\n' :: rest, m⟩ recent [0] none false).fetch =
      some opened := by
    rw [fetch_space hstarts, (settled_outside hstarts _ _ _).fetch_openingBracket rfl,
      fetchFlowStart, saveCandidate_of_not rfl]
    rfl
  have hsettled : Settled opened :=
    settled_of_startsToken hstarts' (by simp [opened]) (by simp [opened, outside])
  have hclose : opened.fetch = some (outside ⟨'\n' :: rest, m.advance 3⟩
      (⟨.flowSequenceEnd, m.advance 2, m.advance 3⟩ ::
        ⟨.flowSequenceStart, m.advance 1, m.advance 2⟩ :: recent) [0] none false) :=
    hsettled.fetch_closingBracket rfl
  exact ⟨_, atLine_of_break hrest (by simp) _ _ _,
    (reaches_of_fetch rfl hopen).trans (reaches_of_fetch rfl hclose)⟩

/-- The tokens behind the colon of an entry are fetched. -/
theorem reaches_content (hrest : StartsToken rest) (content : Content) (m : Mark)
    (recent : List Token) :
    ∃ s', AtLine s' rest (content.kinds.reverse ++ recent.map (·.kind)) [0] ∧
      Reaches content.written.length (outside ⟨content.written ++ rest, m⟩ recent [0] none false)
        s' := by
  rcases content with text | (_ | ⟨item, items⟩)
  · obtain ⟨s', hs', hfetch⟩ := fetch_scalar hrest text m recent false
    exact ⟨s', hs', (reaches_of_fetch rfl hfetch).mono (Nat.succ_le_succ (Nat.zero_le _))⟩
  · obtain ⟨s', hs', hreaches⟩ := reaches_brackets hrest m recent
    exact ⟨s', hs', hreaches.mono (by simp [Content.written])⟩
  · -- The list starts on the next line.
    have hline : AtLine (outside
        ⟨'\n' :: ((item :: items).flatMap itemWritten ++ rest), m⟩ recent [0] none false)
        ((item :: items).flatMap itemWritten ++ rest) (recent.map (·.kind)) [0] :=
      atLine_of_break (startsToken_flatMap_itemWritten hrest _) (by simp) recent [0] false
    obtain ⟨s', hs', hreaches⟩ := reaches_items hrest hline
    exact ⟨s', hs', hreaches.mono (Nat.le_succ _)⟩

end Scanner

end DeploySync.Yaml
