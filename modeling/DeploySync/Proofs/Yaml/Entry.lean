import DeploySync.Proofs.Yaml.Content

/-!
# The tokens of a block mapping

A block mapping whose keys are names and whose values are texts or lists of texts is cut into the
tokens that it was written from, entry by entry.

## Main definitions

* `Yaml.Scanner.IsName` — a key that is written as it is
* `Yaml.Field` — an entry of such a mapping

## Main results

* `Yaml.Scanner.reaches_entry` — the tokens of an entry
* `Yaml.Scanner.tokens_fields` — the tokens of the mapping
-/

namespace DeploySync.Yaml

/-- An entry whose key is a name. -/
structure Field where
  name : String
  content : Content

/-- The lines of an entry. -/
def Field.written (f : Field) : List Char := f.name.toList ++ ':' :: f.content.written

/-- The tokens of an entry. -/
def Field.kinds (f : Field) : List TokenKind :=
  .key :: .scalar f.name.toList .plain :: .value :: f.content.kinds

namespace Scanner

variable {s : Scanner} {rest t name : List Char} {m : Mark} {recent : List Token}
variable {indents : List Nat} {kinds : List TokenKind} {c : Char}

/-! ### Names -/

/-- The letters of a name. -/
def IsNameLetter (c : Char) : Prop := (c.isLower || c == '_' || c == '-') = true

/-- A name as it stands in front of a colon. -/
structure IsName (s : List Char) : Prop where
  ne_nil : s ≠ []
  letters : s.all fun c => c.isLower || c == '_' || c == '-'
  head : s.head? ≠ some '-'
  short : s.length ≤ 1024

theorem IsName.letter (hname : IsName name) (hc : c ∈ name) : IsNameLetter c :=
  List.all_eq_true.1 hname.letters c hc

/-- A letter of a name is none of the other characters. -/
theorem IsNameLetter.ne {d : Char} (hc : IsNameLetter c)
    (hd : (d.isLower || d == '_' || d == '-') = false) : c ≠ d := by
  rintro rfl
  rw [IsNameLetter, hd] at hc
  cases hc

theorem IsNameLetter.isBlankOrEnd (hc : IsNameLetter c) : isBlankOrEnd c = false := by
  have hne {d : Char} (hd : (d.isLower || d == '_' || d == '-') = false) : (c == d) = false :=
    beq_false_of_ne (hc.ne hd)
  rw [Yaml.isBlankOrEnd, isSpace, isBreakOrEnd, isBreak]
  simp [hne]

theorem IsNameLetter.isIndicatorIn (hc : IsNameLetter c) (hdash : c ≠ '-') (next : Char) :
    isIndicatorIn true ' ' c next = false := by
  have hne {d : Char} (hd : (d.isLower || d == '_' || d == '-') = false) : c ≠ d := hc.ne hd
  simp [Yaml.isIndicatorIn, hne, hdash]

/-- A name starts with a letter that is no dash. -/
theorem IsName.exists_cons (hname : IsName name) :
    ∃ c more, name = c :: more ∧ IsNameLetter c ∧ c ≠ '-' := by
  obtain ⟨c, more, rfl⟩ := List.exists_cons_of_ne_nil hname.ne_nil
  refine ⟨c, more, rfl, hname.letter List.mem_cons_self, ?_⟩
  rintro rfl
  exact hname.head rfl

theorem IsName.atDocumentMarker (hname : IsName name) :
    Cursor.atDocumentMarker ⟨name ++ t, m⟩ = false := by
  obtain ⟨c, more, rfl, hletter, hdash⟩ := hname.exists_cons
  exact atDocumentMarker_of_peek hdash (hletter.ne (by decide))

theorem IsName.startsToken (hname : IsName name) : StartsToken (name ++ t) := by
  obtain ⟨c, more, rfl, hletter, -⟩ := hname.exists_cons
  have hblank := hletter.isBlankOrEnd
  simp only [Yaml.isBlankOrEnd, isBreakOrEnd, Bool.or_eq_false_iff] at hblank
  exact ⟨⟨hblank.1, hblank.2.1⟩, hletter.ne (by decide), hletter.ne (by decide)⟩

theorem IsName.getLast?_ne_colon (hname : IsName name) : name.getLast? ≠ some ':' := fun hlast =>
  (hname.letter (List.mem_of_getLast? hlast)).ne (by decide) rfl

theorem IsName.peek_ne (hname : IsName name) : peek name ≠ '#' := by
  obtain ⟨c, more, rfl, hletter, -⟩ := hname.exists_cons
  exact hletter.ne (by decide)

/-! ### Keys -/

/-- The scanner behind a name, which may turn out to be a key. -/
def behindName (name rest : List Char) (m : Mark) (recent : List Token) (indents : List Nat) :
    Scanner :=
  outside ⟨rest, m.advance name.length⟩
    (⟨.scalar name .plain, m, m.advance name.length⟩ :: recent) indents
    (some ⟨recent.length, indents.head? == some m.column, m⟩) false

/-- A name is fetched as a plain scalar. -/
theorem fetch_name (h : AtLine s (name ++ ':' :: t) kinds indents) (hname : IsName name)
    (ht : isBlankOrEnd (peek t)) (hindents : indents = [] ∨ indents = [0]) :
    ∃ m, m.column = 0 ∧ s.fetch = some (behindName name (':' :: t) m s.recent indents) := by
  obtain ⟨m, hcolumn, hgap⟩ := h.gap
  -- in the first column no block ends
  have hwithin : ∀ i ∈ indents, i ≤ m.column := by
    rcases hindents with rfl | rfl
    · simp
    · simp
  have hsettled : Settled (outside ⟨name ++ ':' :: t, m⟩ s.recent indents none true) :=
    settled_of_startsToken hname.startsToken (by simp [outside]) hwithin
  have hplain : s.fetch =
      (outside ⟨name ++ ':' :: t, m⟩ s.recent indents none true).fetchPlain := by
    have hmarker : Cursor.atDocumentMarker ⟨name ++ ':' :: t, m⟩ = false := hname.atDocumentMarker
    obtain ⟨c, more, rfl, hletter, hdash⟩ := hname.exists_cons
    rw [fetch_eq_fetch hgap hsettled]
    exact hsettled.fetch_plain rfl hmarker rfl hletter.isBlankOrEnd (hletter.isIndicatorIn hdash _)
  have hread (indent : Nat) : readPlain false indent ⟨name ++ ':' :: t, m⟩ =
      some (name, false, m.advance name.length, ⟨':' :: t, m.advance name.length⟩) :=
    readPlain_name (fun c hc => (hname.letter hc).isBlankOrEnd) hname.getLast?_ne_colon hname.ne_nil
      hname.peek_ne hname.atDocumentMarker ht indent
  refine ⟨m, hcolumn, ?_⟩
  rw [hplain, fetchPlain, saveCandidate_of_allowed rfl rfl]
  change (readPlain false _ ⟨name ++ ':' :: t, m⟩).map _ = _
  rw [hread]
  rfl

/-- The token with which a mapping starts, in front of its first key. -/
def opening (indents : List Nat) : List TokenKind :=
  if indents = [] then [.blockMappingStart] else []

/-- A colon behind a name makes the name a key. The first key opens a mapping. -/
theorem fetch_key (hname : IsName name) (hcolumn : m.column = 0) (ht : isBlankOrEnd (peek t))
    (hindents : indents = [] ∨ indents = [0]) (recent : List Token) :
    ∃ m' recent', recent'.map (·.kind) = [.value, .scalar name .plain, .key] ++
        (opening indents ++ recent.map (·.kind)) ∧
      (behindName name (':' :: t) m recent indents).fetch =
        some (outside ⟨t, m'⟩ recent' [0] none false) := by
  have hsettled : Settled (behindName name (':' :: t) m recent indents) := by
    refine settled_of_startsToken ⟨⟨rfl, rfl⟩, ?_, ?_⟩ ?_ ?_
    · simp [behindName, outside, peek]
    · simp [behindName, outside, peek]
    · simpa [isLive, mark, behindName, outside, Mark.advance] using hname.short
    · rcases hindents with rfl | rfl
      · simp [behindName, outside]
      · simp [behindName, outside]
  have hkey : (behindName name (':' :: t) m recent indents).insertBefore recent.length .key m =
      { behindName name (':' :: t) m recent indents with
        recent := ⟨.scalar name .plain, m, m.advance name.length⟩ :: ⟨.key, m, m⟩ :: recent } :=
    insertBefore_length [_] rfl _ _
  have hcandidate : (behindName name (':' :: t) m recent indents).candidate =
      some ⟨recent.length, indents.head? == some m.column, m⟩ := rfl
  rw [hsettled.fetch_colon rfl ht, fetchValue, hcandidate]
  simp only [hkey, hcolumn]
  -- The key is put in front of the name, and in front of the first key the mapping is opened.
  rcases hindents with rfl | rfl
  · rw [roll_of_nil rfl rfl, insertBefore_length [_, _] rfl]
    exact ⟨_, _, rfl, rfl⟩
  · rw [roll_of_cons rfl rfl]
    exact ⟨_, _, rfl, rfl⟩

/-! ### Entries -/

/-- The tokens of an entry are fetched. -/
theorem reaches_entry {f : Field} (hname : IsName f.name.toList) (hrest : StartsToken rest)
    (h : AtLine s (f.written ++ rest) kinds indents) (hindents : indents = [] ∨ indents = [0]) :
    ∃ s', AtLine s' rest (f.kinds.reverse ++ (opening indents ++ kinds)) [0] ∧
      Reaches f.written.length s s' := by
  rw [Field.written, List.append_assoc, List.cons_append] at h
  have hblank := f.content.isBlankOrEnd_written rest
  obtain ⟨m, hcolumn, hfirst⟩ := fetch_name h hname hblank hindents
  obtain ⟨m', recent, hkinds, hsecond⟩ := fetch_key hname hcolumn hblank hindents s.recent
  obtain ⟨s', hs', hthird⟩ := reaches_content hrest f.content m' recent
  refine ⟨s', ?_, ?_⟩
  · rw [hkinds, h.kinds] at hs'
    simpa [Field.kinds] using hs'
  · refine ((reaches_of_fetch h.going hfirst).trans
      ((reaches_of_fetch rfl hsecond).trans hthird)).mono ?_
    have hpos := List.length_pos_iff.2 hname.ne_nil
    rw [Field.written, List.length_append, List.length_cons]
    omega

/-- What stands at the start of further entries starts a token. -/
theorem startsToken_flatMap_written {fields : List Field}
    (hnames : ∀ f ∈ fields, IsName f.name.toList) : StartsToken (fields.flatMap Field.written) := by
  cases fields with
  | nil => exact ⟨⟨rfl, rfl⟩, by decide, by decide⟩
  | cons f more =>
    rw [List.flatMap_cons, Field.written, List.append_assoc]
    exact (hnames f List.mem_cons_self).startsToken

/-- The tokens of the entries are fetched one entry after the other. -/
theorem reaches_fields {fields : List Field} (hnames : ∀ f ∈ fields, IsName f.name.toList)
    (h : AtLine s (fields.flatMap Field.written) kinds [0]) :
    ∃ s', AtLine s' [] ((fields.flatMap Field.kinds).reverse ++ kinds) [0] ∧
      Reaches (fields.flatMap Field.written).length s s' := by
  induction fields generalizing s kinds with
  | nil => exact ⟨s, h, reaches_refl s⟩
  | cons f more ih =>
    rw [List.forall_mem_cons] at hnames
    rw [List.flatMap_cons] at h
    obtain ⟨s₁, hs₁, hentry⟩ :=
      reaches_entry hnames.1 (startsToken_flatMap_written hnames.2) h (.inr rfl)
    obtain ⟨s', hs', hmore⟩ := ih hnames.2 hs₁
    refine ⟨s', ?_, ?_⟩
    · rw [List.flatMap_cons, List.reverse_append, List.append_assoc]
      exact hs'
    · rw [List.flatMap_cons, List.length_append]
      exact hentry.trans hmore

/-- At the end of the stream the mapping is closed. -/
theorem run_end (h : AtLine s [] kinds [0]) :
    ∃ ts, ts.map (·.kind) = kinds.reverse ++ [.blockEnd, .streamEnd] ∧
      ∀ fuel, run (fuel + 2) s = (ts, true) := by
  obtain ⟨m, hcolumn, hgap⟩ := h.gap
  have hstarts : StartsToken [] := ⟨⟨rfl, rfl⟩, by decide, by decide⟩
  have hsettled := settled_outside hstarts m s.recent true
  have hfetch : s.fetch = (outside ⟨[], m⟩ s.recent [0] none true).fetchEnd := by
    rw [fetch_eq_fetch hgap hsettled]
    exact hsettled.fetch_end rfl
  obtain ⟨s', hs', hdone, hkinds⟩ :
      ∃ s', (outside ⟨[], m⟩ s.recent [0] none true).fetchEnd = some s' ∧ s'.done ∧
        s'.recent.map (·.kind) = .streamEnd :: .blockEnd :: kinds := by
    rw [← h.kinds]
    exact ⟨_, rfl, rfl, rfl⟩
  refine ⟨s'.recent.reverse, ?_, fun fuel => ?_⟩
  · rw [List.map_reverse, hkinds]
    simp
  · rw [run_of_fetch h.going (hfetch.trans hs'), run_of_done hdone]

/-- A mapping is cut into the tokens that it was written from. -/
theorem tokens_fields {fields : List Field} (hne : fields ≠ [])
    (hnames : ∀ f ∈ fields, IsName f.name.toList) :
    ∃ ts, tokens (fields.flatMap Field.written) = (ts, true) ∧
      ts.map (·.kind) =
        .blockMappingStart :: (fields.flatMap Field.kinds ++ [.blockEnd, .streamEnd]) := by
  obtain ⟨f, more, rfl⟩ := List.exists_cons_of_ne_nil hne
  have hstarts := startsToken_flatMap_written hnames
  rw [List.forall_mem_cons] at hnames
  have hstart : AtLine (outside ⟨(f :: more).flatMap Field.written, {}⟩ [] [] none true)
      (f.written ++ more.flatMap Field.written) [] [] :=
    atLine_of_column hstarts rfl (by simp) [] []
  -- The first entry opens the mapping; the others follow at its column.
  obtain ⟨s₁, hs₁, hfirst⟩ :=
    reaches_entry hnames.1 (startsToken_flatMap_written hnames.2) hstart (.inl rfl)
  obtain ⟨s₂, hs₂, hmore⟩ := reaches_fields hnames.2 hs₁
  obtain ⟨ts, hkinds, hend⟩ := run_end hs₂
  refine ⟨ts, ?_, ?_⟩
  · refine ((hfirst.trans hmore).mono (Nat.le_of_eq ?_)).run_eq hend
    rw [List.flatMap_cons, List.length_append]
  · rw [hkinds]
    simp [opening]

end Scanner

end DeploySync.Yaml
