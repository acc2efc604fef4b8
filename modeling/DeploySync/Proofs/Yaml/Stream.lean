import DeploySync.Proofs.Yaml.Scalar

/-!
# One step of the scanner

Which token is fetched next shows from the characters that come first, once the gap before them is
passed. The memory of keys and of open collections changes little outside of flow collections.

## Main definitions

* `Yaml.Scanner.StartsToken` — what stands first starts a token
* `Yaml.Scanner.Settled` — the next token starts here

## Main results

* `Yaml.Scanner.fetch_eq_fetch` — a step starts behind the gap
* `Yaml.Scanner.Settled.fetch_end`, `Yaml.Scanner.Settled.fetch_colon`,
  `Yaml.Scanner.Settled.fetch_dash`, `Yaml.Scanner.Settled.fetch_openingBracket`,
  `Yaml.Scanner.Settled.fetch_closingBracket`, `Yaml.Scanner.Settled.fetch_quote`,
  `Yaml.Scanner.Settled.fetch_bar`, `Yaml.Scanner.Settled.fetch_plain` — what is fetched, by what
  comes first
-/

namespace DeploySync.Yaml.Scanner

variable {s s' : Scanner} {rest t : List Char} {m : Mark} {key : Option SimpleKey}
variable {recent : List Token} {indents : List Nat} {kinds : List TokenKind} {c : Char}

/-! ### The place of the next token -/

/-- What stands first starts a token: no blank, line break, comment or mark of byte order. -/
structure StartsToken (s : List Char) : Prop where
  endsGap : EndsGap s
  comment : peek s ≠ '#'
  mark : peek s ≠ '\uFEFF'

/-- The next token starts here. -/
structure Settled (s : Scanner) : Prop where
  gap : skipGap (s.cursor.rest.length + 1) s = s
  stale : s.dropStale = some s
  unroll : s.unroll (· ≤ s.mark.column) = s

theorem skipWhile_of_not {p : Char → Bool} {c : Cursor} (h : p c.peek = false) :
    c.skipWhile p = c := by
  have hrun : c.rest.takeWhile p = [] := by
    rcases hrest : c.rest with _ | ⟨a, more⟩
    · rfl
    · rw [Cursor.peek, hrest] at h
      change p a = false at h
      exact List.takeWhile_cons_of_neg (by simpa using h)
  rw [Cursor.skipWhile, Cursor.span, hrun]
  rfl

/-- There is no gap before a token. -/
theorem skipGap_of_startsToken (h : StartsToken s.cursor.rest) (fuel : Nat) :
    skipGap (fuel + 1) s = s := by
  have hmark : (s.cursor.peek == '\uFEFF') = false := beq_false_of_ne h.mark
  have hcomment : (s.cursor.peek == '#') = false := beq_false_of_ne h.comment
  have hbreak : isBreak s.cursor.peek = false := h.endsGap.2
  obtain ⟨hspace, htab⟩ := ne_of_isSpace h.endsGap.1
  have hskip : s.cursor.skipWhile (fun b => b == ' ' ||
      ((s.inFlow || ! s.simpleKeyAllowed) && b == '\t')) = s.cursor := by
    refine skipWhile_of_not ?_
    have hspace' : (s.cursor.peek == ' ') = false := beq_false_of_ne hspace
    have htab' : (s.cursor.peek == '\t') = false := beq_false_of_ne htab
    simp only [hspace', htab', Bool.and_false, Bool.or_self]
  rw [skipGap]
  simp only [hmark, hskip, hcomment, hbreak, Bool.and_false, Bool.false_eq_true, if_false]

theorem skipWhile_cons {p : Char → Bool} (hc : p c) (ht : p (peek t) = false) :
    Cursor.skipWhile p ⟨c :: t, m⟩ = ⟨t, m.advance 1⟩ := by
  have hrun : (c :: t).takeWhile p = [c] := by
    rw [List.takeWhile_cons_of_pos hc]
    rcases t with _ | ⟨a, more⟩
    · rfl
    · rw [List.takeWhile_cons_of_neg]
      change p a = false at ht
      simpa using ht
  rw [Cursor.skipWhile, Cursor.span, hrun]
  rfl

/-- The space in front of a token is passed. -/
theorem skipGap_space (h : s.cursor = ⟨' ' :: t, m⟩) (ht : StartsToken t) (fuel : Nat) :
    skipGap (fuel + 1) s = { s with cursor := ⟨t, m.advance 1⟩ } := by
  obtain ⟨hspace, htab⟩ := ne_of_isSpace ht.endsGap.1
  have hskip : Cursor.skipWhile (fun b => b == ' ' ||
      ((s.inFlow || ! s.simpleKeyAllowed) && b == '\t')) ⟨' ' :: t, m⟩ = ⟨t, m.advance 1⟩ := by
    refine skipWhile_cons rfl ?_
    simp only [beq_false_of_ne hspace, beq_false_of_ne htab, Bool.and_false, Bool.or_self]
  have hmark : ((⟨' ' :: t, m⟩ : Cursor).peek == '\uFEFF') = false := rfl
  have hcomment : ((⟨t, m.advance 1⟩ : Cursor).peek == '#') = false := beq_false_of_ne ht.comment
  have hbreak : isBreak (⟨t, m.advance 1⟩ : Cursor).peek = false := ht.endsGap.2
  rw [skipGap]
  simp only [h, hmark, hskip, hcomment, hbreak, Bool.and_false, Bool.false_eq_true, if_false]

/-- Behind a line break a key may stand. -/
theorem skipGap_break (h : s.cursor = ⟨'\n' :: t, m⟩) (hflow : s.inFlow = false) (fuel : Nat) :
    skipGap (fuel + 1) s =
      skipGap fuel { s with cursor := ⟨t, m.nextLine 1⟩, simpleKeyAllowed := true } := by
  have hskip : Cursor.skipWhile (fun b => b == ' ' ||
      ((s.inFlow || ! s.simpleKeyAllowed) && b == '\t')) ⟨'\n' :: t, m⟩ = ⟨'\n' :: t, m⟩ :=
    skipWhile_of_not (by simp [Cursor.peek, peek])
  have hmark : ((⟨'\n' :: t, m⟩ : Cursor).peek == '\uFEFF') = false := rfl
  have hcomment : ((⟨'\n' :: t, m⟩ : Cursor).peek == '#') = false := rfl
  have hbreak : isBreak (⟨'\n' :: t, m⟩ : Cursor).peek = true := rfl
  rw [skipGap]
  simp only [h, hmark, hskip, hcomment, hbreak, Bool.and_false, Bool.false_eq_true, if_false,
    if_true]
  rw [hflow, Bool.not_false, Bool.or_true]
  rfl

/-- Candidates that may still be keys are kept. -/
theorem dropStale_of_isLive (hlive : ∀ key ∈ s.keys, ∀ k ∈ key, s.isLive k) :
    s.dropStale = some s := by
  have hkept : s.keys.map (fun key => key.bind fun k => if ! s.isLive k then none else some k) =
      s.keys := by
    refine (List.map_congr_left fun key hkey => ?_).trans (List.map_id _)
    cases key with
    | none => rfl
    | some k =>
      have hk := hlive _ hkey k rfl
      simp [hk]
  have hnone : (s.keys.any fun key =>
      (key.map fun k => ! s.isLive k && k.required).getD false) = false := by
    rw [List.any_eq_false]
    intro key hkey
    cases key with
    | none => simp
    | some k =>
      have hk := hlive _ hkey k rfl
      simp [hk]
  rw [dropStale]
  dsimp only
  rw [hnone, if_neg (by simp), hkept]

/-- A candidate on a line before is forgotten, unless a key has to stand there. -/
theorem dropStale_of_line (hkeys : s.keys = [key])
    (hkey : ∀ k ∈ key, k.required = false ∧ k.mark.line < s.mark.line) :
    s.dropStale = some { s with keys := [none] } := by
  obtain ⟨cursor, recent, indents, keys, allowed, done⟩ := s
  obtain rfl : keys = [key] := hkeys
  cases key with
  | none => rfl
  | some k =>
    obtain ⟨hrequired, hline⟩ := hkey k rfl
    have hlive : isLive ⟨cursor, recent, indents, [some k], allowed, done⟩ k = false := by
      rw [isLive, beq_false_of_ne (Nat.ne_of_lt hline), Bool.false_and]
    simp [dropStale, hrequired, hlive]

/-- A token that may follow a key starts here. -/
theorem settled_of_startsToken (h : StartsToken s.cursor.rest)
    (hlive : ∀ key ∈ s.keys, ∀ k ∈ key, s.isLive k)
    (hindents : ∀ i ∈ s.indents, i ≤ s.mark.column) : Settled s where
  gap := skipGap_of_startsToken h _
  stale := dropStale_of_isLive hlive
  unroll := by
    have hclosed : s.indents.takeWhile (fun i => ! decide (i ≤ s.mark.column)) = [] := by
      rcases hrest : s.indents with _ | ⟨i, more⟩
      · rfl
      · rw [hrest] at hindents
        exact List.takeWhile_cons_of_neg (by simpa using hindents i List.mem_cons_self)
    rw [unroll, hclosed]
    exact ite_self s

/-! ### One step -/

/-- A step starts behind the gap, when the candidates before it are forgotten. -/
theorem fetch_eq_fetch (hgap : (skipGap (s.cursor.rest.length + 1) s).dropStale = some s')
    (h : Settled s') : s.fetch = s'.fetch := by
  unfold fetch
  rw [hgap, h.gap, h.stale]

/-- The end of the stream is reached. -/
theorem Settled.fetch_end (h : Settled s) (hrest : s.cursor.rest = []) : s.fetch = s.fetchEnd := by
  unfold fetch
  rw [h.gap, h.stale]
  simp only [h.unroll, hrest, List.isEmpty_nil, if_true]

/-- A colon before a blank stands before a value. -/
theorem Settled.fetch_colon (h : Settled s) (hrest : s.cursor.rest = ':' :: t)
    (ht : isBlankOrEnd (peek t)) : s.fetch = s.fetchValue := by
  have hpeek : s.cursor.peek = ':' := by rw [Cursor.peek, hrest]; rfl
  have hnext : isBlankOrEnd (s.cursor.peekAt 1) = true := by rw [Cursor.peekAt, hrest]; exact ht
  have hmarker : s.cursor.atDocumentMarker = false :=
    atDocumentMarker_of_peek (by simp [hpeek]) (by simp [hpeek])
  unfold fetch
  rw [h.gap, h.stale]
  simp [h.unroll, hrest, hpeek, hnext, hmarker]

/-- A dash before a blank stands before an item. -/
theorem Settled.fetch_dash (h : Settled s) (hrest : s.cursor.rest = '-' :: t)
    (ht : isBlankOrEnd (peek t)) : s.fetch = s.fetchBlockEntry := by
  have hpeek : s.cursor.peek = '-' := by rw [Cursor.peek, hrest]; rfl
  have hpeekAt : s.cursor.peekAt 1 = peek t := by rw [Cursor.peekAt, hrest]; rfl
  have hnext : isBlankOrEnd (s.cursor.peekAt 1) = true := by rw [hpeekAt]; exact ht
  have hmarker : s.cursor.atDocumentMarker = false := by
    have hdash : (peek t == '-') = false := by
      refine beq_false_of_ne fun h => ?_
      rw [h] at ht
      exact absurd ht (by decide)
    rw [Cursor.atDocumentMarker, hpeek, hpeekAt, hdash]
    simp
  unfold fetch
  rw [h.gap, h.stale]
  simp [h.unroll, hrest, hpeek, hnext, hmarker]

/-- A bracket opens a flow sequence. -/
theorem Settled.fetch_openingBracket (h : Settled s) (hrest : s.cursor.rest = '[' :: t) :
    s.fetch = s.fetchFlowStart .flowSequenceStart := by
  have hpeek : s.cursor.peek = '[' := by rw [Cursor.peek, hrest]; rfl
  have hmarker : s.cursor.atDocumentMarker = false :=
    atDocumentMarker_of_peek (by simp [hpeek]) (by simp [hpeek])
  unfold fetch
  rw [h.gap, h.stale]
  simp [h.unroll, hrest, hpeek, hmarker]

/-- A bracket closes a flow sequence. -/
theorem Settled.fetch_closingBracket (h : Settled s) (hrest : s.cursor.rest = ']' :: t) :
    s.fetch = s.fetchFlowEnd .flowSequenceEnd := by
  have hpeek : s.cursor.peek = ']' := by rw [Cursor.peek, hrest]; rfl
  have hmarker : s.cursor.atDocumentMarker = false :=
    atDocumentMarker_of_peek (by simp [hpeek]) (by simp [hpeek])
  unfold fetch
  rw [h.gap, h.stale]
  simp [h.unroll, hrest, hpeek, hmarker]

/-- A quote starts a quoted scalar. -/
theorem Settled.fetch_quote {style : ScalarStyle} (h : Settled s) (hcolumn : 0 < s.mark.column)
    (hrest : s.cursor.rest = c :: t)
    (hquote : c = '\'' ∧ style = .singleQuoted ∨ c = '"' ∧ style = .doubleQuoted) :
    s.fetch = s.fetchQuoted style := by
  have hpeek : s.cursor.peek = c := by rw [Cursor.peek, hrest]; rfl
  have hmarker : s.cursor.atDocumentMarker = false := atDocumentMarker_of_column hcolumn
  unfold fetch
  rw [h.gap, h.stale]
  rcases hquote with ⟨rfl, rfl⟩ | ⟨rfl, rfl⟩
  · simp [h.unroll, hrest, hpeek, hmarker]
  · simp [h.unroll, hrest, hpeek, hmarker]

/-- Outside of flow collections a bar starts a block. -/
theorem Settled.fetch_bar (h : Settled s) (hcolumn : 0 < s.mark.column) (hflow : s.inFlow = false)
    (hrest : s.cursor.rest = '|' :: t) : s.fetch = s.fetchBlockScalar false := by
  have hpeek : s.cursor.peek = '|' := by rw [Cursor.peek, hrest]; rfl
  have hmarker : s.cursor.atDocumentMarker = false := atDocumentMarker_of_column hcolumn
  unfold fetch
  rw [h.gap, h.stale]
  simp [h.unroll, hrest, hpeek, hmarker, hflow]

/-- What would be read as an indicator in front of a text does not start a plain scalar. -/
theorem startsPlain_of_isIndicatorIn {next : Char} (hblank : isBlankOrEnd c = false)
    (hindicator : isIndicatorIn true ' ' c next = false) : startsPlain false c next := by
  simp only [isIndicatorIn, if_true, Bool.or_eq_false_iff, Bool.and_eq_false_imp] at hindicator
  obtain ⟨hnot, hlead⟩ := hindicator
  by_cases hc : (c == '?' || c == ':' || c == '-') = true
  · -- Three indicators start a plain scalar when no blank stands behind them.
    have hnext := hlead hc
    have hspace : isSpace next = false := by
      rw [isBlankOrEnd, Bool.or_eq_false_iff] at hnext
      exact hnext.1
    simp only [Bool.or_eq_true, beq_iff_eq] at hc
    rcases hc with (rfl | rfl) | rfl
    · simp [startsPlain, hnext]
    · simp [startsPlain, hnext]
    · simp [startsPlain, hspace]
  · simp_all [startsPlain]

/-- What no indicator starts is plain. -/
theorem Settled.fetch_plain (h : Settled s) (hflow : s.inFlow = false)
    (hmarker : s.cursor.atDocumentMarker = false) (hrest : s.cursor.rest = c :: t)
    (hblank : isBlankOrEnd c = false) (hindicator : isIndicatorIn true ' ' c (peek t) = false) :
    s.fetch = s.fetchPlain := by
  have hpeek : s.cursor.peek = c := by rw [Cursor.peek, hrest]; rfl
  have hnext : s.cursor.peekAt 1 = peek t := by rw [Cursor.peekAt, hrest]; rfl
  have hstarts := startsPlain_of_isIndicatorIn hblank hindicator
  unfold fetch
  rw [h.gap, h.stale]
  simp only [h.unroll, hrest, hpeek, hnext, hmarker, hflow, hstarts]
  simp only [isIndicatorIn, if_true, Bool.or_eq_false_iff, Bool.and_eq_false_imp] at hindicator
  obtain ⟨hnot, hlead⟩ := hindicator
  simp at hnot hlead ⊢
  grind

/-! ### Keys -/

/-- Where no key may stand, none is remembered. -/
theorem saveCandidate_of_not (h : s.simpleKeyAllowed = false) : s.saveCandidate = some s := by
  rw [saveCandidate, h]
  rfl

/-- Where a key may stand, the next token is remembered; at the column of the innermost collection
it has to be a key. -/
theorem saveCandidate_of_allowed (hallowed : s.simpleKeyAllowed) (hkeys : s.keys = [none]) :
    s.saveCandidate = some { s with
      keys := [some ⟨s.recent.length, s.indents.head? == some s.mark.column, s.mark⟩] } := by
  obtain ⟨cursor, recent, indents, keys, allowed, done⟩ := s
  obtain rfl : keys = [none] := hkeys
  obtain rfl : allowed = true := hallowed
  rfl

/-- A token is put in front of the tokens behind a number. -/
theorem insertBefore_length (front : List Token) (h : s.recent = front ++ recent) (kind : TokenKind)
    (m : Mark) :
    s.insertBefore recent.length kind m = { s with recent := front ++ ⟨kind, m, m⟩ :: recent } := by
  have hbehind : s.size - recent.length = front.length := by
    rw [size, h, List.length_append, Nat.add_sub_cancel]
  rw [insertBefore, hbehind, h, List.take_left, List.drop_left]

/-- The first collection is opened in front of its first token. -/
theorem roll_of_nil (hflow : s.inFlow = false) (hindents : s.indents = []) (column number : Nat)
    (kind : TokenKind) (m : Mark) :
    s.roll column number kind m = { s with indents := [column] }.insertBefore number kind m := by
  rw [roll, hflow, if_neg (by simp), hindents]

/-- No collection is opened at the column of the innermost one. -/
theorem roll_of_cons {column : Nat} (hflow : s.inFlow = false)
    (hindents : s.indents = column :: indents)
    (number : Nat) (kind : TokenKind) (m : Mark) : s.roll column number kind m = s := by
  rw [roll, hflow, if_neg (by simp), hindents]
  exact if_neg (Nat.lt_irrefl column)

/-! ### Several steps -/

/-- The scanner gets from one state to another in a number of steps, or in fewer. -/
def Reaches (steps : Nat) (s s' : Scanner) : Prop :=
  ∃ k, k ≤ steps ∧ ∀ fuel, run (fuel + k) s = run fuel s'

theorem reaches_refl (s : Scanner) : Reaches 0 s s := ⟨0, Nat.le_refl 0, fun _ => rfl⟩

theorem run_of_fetch (hgoing : s.done = false) (h : s.fetch = some s') (fuel : Nat) :
    run (fuel + 1) s = run fuel s' := by
  change (if s.done then _ else _) = _
  rw [hgoing, if_neg (by simp), h]

theorem run_of_done (hdone : s.done) (fuel : Nat) :
    run (fuel + 1) s = (s.recent.reverse, true) := by
  change (if s.done then _ else _) = _
  rw [hdone, if_pos rfl]

/-- What is fetched is reached in one step. -/
theorem reaches_of_fetch (hgoing : s.done = false) (h : s.fetch = some s') : Reaches 1 s s' :=
  ⟨1, Nat.le_refl 1, run_of_fetch hgoing h⟩

theorem Reaches.trans {s'' : Scanner} {steps steps' : Nat} (h : Reaches steps s s')
    (h' : Reaches steps' s' s'') : Reaches (steps + steps') s s'' := by
  obtain ⟨k, hk, hrun⟩ := h
  obtain ⟨k', hk', hrun'⟩ := h'
  refine ⟨k + k', Nat.add_le_add hk hk', fun fuel => ?_⟩
  rw [Nat.add_comm k, ← Nat.add_assoc, hrun, hrun']

theorem Reaches.mono {steps steps' : Nat} (h : Reaches steps s s') (hle : steps ≤ steps') :
    Reaches steps' s s' := by
  obtain ⟨k, hk, hrun⟩ := h
  exact ⟨k, Nat.le_trans hk hle, hrun⟩

/-- With steps to spare, what is fetched from there on is fetched. -/
theorem Reaches.run_eq {steps : Nat} {result : List Token × Bool} (h : Reaches steps s s')
    (hrun : ∀ fuel, run (fuel + 2) s' = result) : run (steps + 2) s = result := by
  obtain ⟨k, hk, hreach⟩ := h
  obtain ⟨more, rfl⟩ := Nat.exists_eq_add_of_le' hk
  rw [Nat.add_right_comm, hreach, hrun]

end DeploySync.Yaml.Scanner
