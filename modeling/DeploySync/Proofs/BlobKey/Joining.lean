import DeploySync.BlobKey
import DeploySync.Proofs.Text.Split
import DeploySync.Proofs.Text.Trimming

/-!
# Keys as segments of keys

The slashes are dropped around each segment on its own, and then the segments are joined. What comes
of it may be a segment in its turn. It is left as it is there, since the ends of what is joined are
ends of segments: no slash comes to stand at an end, and what is not blank stays so. Keys are put
together as the lists of their segments are.

## Main definitions

* `BlobKey.IsStripped` — what is left of a segment without the slashes around it
* `BlobKey.IsBlankSegment` — a segment of which only blanks are left
* `BlobKey.IsNormal` — a key that is not blank and has no slash at its ends
* `BlobKey.joined` — a key behind another one

## Main results

* `BlobKey.stripSlashes_eq_iff` — what is left of a segment is determined
* `BlobKey.IsNormal.joined` — joining makes normal keys of normal ones
* `BlobKey.ofSegments_append_eq_ok_iff`, `BlobKey.ofSegments_append` — the key of two lists of
  segments
* `BlobKey.isNormal_of_ofSegments`, `BlobKey.ofSegments_text_eq_iff` — the keys of segments are
  normal, and the normal keys are the ones that are left as they are
* `BlobKey.ofSegments_eq_error_iff` — the lists that make no key
* `BlobKey.keys_compose` — all of these
-/

namespace DeploySync.BlobKey

variable {k k' : BlobKey} {segment : String} {s part : List Char} {xs ys segments : List String}

/-! ### Segments without the slashes around them -/

/-- No slash stands at the ends of a text. -/
structure IsBare (s : List Char) : Prop where
  first : s.head? ≠ some slash
  last : s.getLast? ≠ some slash

/-- What is left of a segment without the slashes around it. -/
structure IsStripped (segment part : List Char) : Prop extends IsBare part where
  around : ∃ before after, segment = before ++ part ++ after ∧
    (∀ c ∈ before, c = slash) ∧ ∀ c ∈ after, c = slash

/-- There is one way to drop the slashes around a segment. -/
theorem stripSlashes_eq_iff : stripSlashes s = part ↔ IsStripped s part := by
  rw [stripSlashes, Text.trimBy_eq_iff]
  simp only [beq_iff_eq, beq_eq_false_iff_ne]
  constructor
  · rintro ⟨haround, hfirst, hlast⟩
    exact ⟨⟨fun h => hfirst slash h rfl, fun h => hlast slash h rfl⟩, haround⟩
  · rintro ⟨⟨hfirst, hlast⟩, haround⟩
    exact ⟨haround, fun c hc hslash => hfirst (hslash ▸ hc), fun c hc hslash => hlast (hslash ▸ hc)⟩

theorem isStripped_stripSlashes (s : List Char) : IsStripped s (stripSlashes s) :=
  stripSlashes_eq_iff.1 rfl

/-- A text without slashes at its ends is left as it is. -/
theorem IsBare.stripSlashes_eq (h : IsBare s) : stripSlashes s = s :=
  stripSlashes_eq_iff.2 ⟨h, [], [], by simp, by simp, by simp⟩

/-- Only blanks are left of a segment without the slashes around it. -/
def IsBlankSegment (segment : String) : Prop :=
  ∃ part, IsStripped segment.toList part ∧ Text.allBlank part

theorem segment?_eq_some_iff :
    segment? s = some part ↔ stripSlashes s = part ∧ Text.allBlank part = false := by
  rw [segment?]
  split_ifs with hblank
  · simp only [false_iff, not_and]
    rintro rfl
    simp [hblank]
  · rw [Option.some_inj, iff_self_and]
    rintro rfl
    exact Bool.eq_false_iff.2 hblank

theorem segment?_eq_none_iff : segment? segment.toList = none ↔ IsBlankSegment segment := by
  rw [segment?, ite_eq_left_iff]
  constructor
  · intro h
    refine ⟨_, isStripped_stripSlashes _, ?_⟩
    by_contra hblank
    cases h hblank
  · rintro ⟨part, hpart, hblank⟩ hnot
    rw [stripSlashes_eq_iff.2 hpart] at hnot
    exact absurd hblank hnot

/-! ### Keys that are left as they are -/

/-- The key is not blank, and no slash stands at its ends. -/
structure IsNormal (k : BlobKey) : Prop extends IsBare k.chars where
  notBlank : Text.allBlank k.chars = false

/-- The key is left as it is where it is a segment. -/
theorem IsNormal.segment? (hk : k.IsNormal) : BlobKey.segment? k.chars = some k.chars :=
  segment?_eq_some_iff.2 ⟨hk.stripSlashes_eq, hk.notBlank⟩

/-- What is left of a segment is a normal key. -/
theorem isNormal_of_segment? (h : segment? s = some part) : IsNormal ⟨part⟩ := by
  obtain ⟨rfl, hblank⟩ := segment?_eq_some_iff.1 h
  exact ⟨(isStripped_stripSlashes s).toIsBare, hblank⟩

theorem IsNormal.ne_nil (hk : k.IsNormal) : k.chars ≠ [] := by
  intro hnil
  have hnot := hk.notBlank
  rw [hnil] at hnot
  cases hnot

/-- A key, and behind a slash another one. -/
def joined (k k' : BlobKey) : BlobKey := ⟨k.chars ++ slash :: k'.chars⟩

theorem text_joined (k k' : BlobKey) : (k.joined k').text = k.text ++ "/" ++ k'.text := by
  apply String.toList_injective
  simp [text, joined, slash]

/-- Between two runs of parts stands a slash, as between two parts, unless one of them is empty. -/
theorem joined_join {before after : List (List Char)} (hbefore : before ≠ [])
    (hafter : after ≠ []) :
    joined ⟨Text.join [slash] before⟩ ⟨Text.join [slash] after⟩ =
      ⟨Text.join [slash] (before ++ after)⟩ := by
  rw [Text.join_append hbefore hafter, List.append_assoc]
  rfl

/-- The ends of two keys that are joined are ends of these keys. -/
theorem IsNormal.joined (hk : k.IsNormal) (hk' : k'.IsNormal) : (k.joined k').IsNormal where
  first := by
    -- the first key is not empty, so that it is its start that is seen
    rw [BlobKey.joined, List.head?_append_of_ne_nil _ hk.ne_nil]
    exact hk.first
  last := by
    rw [BlobKey.joined, List.append_cons, List.getLast?_append_of_ne_nil _ hk'.ne_nil]
    exact hk'.last
  notBlank := by
    rw [BlobKey.joined, Text.allBlank, List.all_append, Bool.and_eq_false_iff]
    exact Or.inl hk.notBlank

/-! ### The key of a list of segments -/

/-- The parts of the key of a list of segments. -/
def parts? (segments : List String) : Option (List (List Char)) :=
  (segments.map String.toList).mapM segment?

theorem parts?_nil : parts? [] = some [] := rfl

theorem parts?_cons (segment : String) (segments : List String) :
    parts? (segment :: segments) =
      (segment? segment.toList).bind fun part => (parts? segments).map (part :: ·) := by
  simp [parts?, List.mapM_cons, Option.map_eq_bind, Function.comp_def]

theorem parts?_append_eq_some_iff {parts : List (List Char)} :
    parts? (xs ++ ys) = some parts ↔
      ∃ before, parts? xs = some before ∧ ∃ after, parts? ys = some after ∧
        before ++ after = parts := by
  simp [parts?, List.mapM_append, Option.bind_eq_some_iff]

theorem parts?_eq_none_iff :
    parts? segments = none ↔ ∃ segment ∈ segments, IsBlankSegment segment := by
  induction segments with
  | nil => simp [parts?_nil]
  | cons segment segments ih =>
    rw [parts?_cons, List.exists_mem_cons_iff, ← ih, ← segment?_eq_none_iff]
    cases segment? segment.toList with
    | none => simp
    | some part => simp

/-- Every segment has its part. -/
theorem ne_nil_of_parts? {parts : List (List Char)} (hne : segments ≠ [])
    (h : parts? segments = some parts) : parts ≠ [] := by
  obtain ⟨segment, rest, rfl⟩ := List.exists_cons_of_ne_nil hne
  rw [parts?_cons, Option.bind_eq_some_iff] at h
  obtain ⟨part, -, h⟩ := h
  obtain ⟨parts, -, rfl⟩ := Option.map_eq_some_iff.1 h
  simp

theorem ofSegments_eq (segments : List String) :
    ofSegments segments =
      match parts? segments with
      | none => .error (.validation .blankKeySegment)
      | some [] => .error (.validation .emptyKey)
      | some parts => .ok ⟨Text.join [slash] parts⟩ := rfl

/-- The key is joined from the parts of all segments. -/
theorem ofSegments_eq_ok_iff (hne : segments ≠ []) :
    ofSegments segments = .ok k ↔
      ∃ parts, parts? segments = some parts ∧ ⟨Text.join [slash] parts⟩ = k := by
  rw [ofSegments_eq]
  cases hparts : parts? segments with
  | none => simp
  | some parts =>
    cases parts with
    | nil => exact absurd rfl (ne_nil_of_parts? hne hparts)
    | cons part parts => simp

theorem ofSegments_singleton_eq_ok_iff :
    ofSegments [segment] = .ok k ↔ segment? segment.toList = some k.chars := by
  rw [ofSegments_eq_ok_iff (by simp), parts?_cons]
  cases k
  cases segment? segment.toList with
  | none => simp
  | some part => simp [parts?_nil, Text.join]

/-- The key of two lists of segments is joined from the keys of the lists. -/
theorem ofSegments_append_eq_ok_iff (hxs : xs ≠ []) (hys : ys ≠ []) :
    ofSegments (xs ++ ys) = .ok k ↔
      ∃ kx, ofSegments xs = .ok kx ∧ ∃ ky, ofSegments ys = .ok ky ∧ kx.joined ky = k := by
  rw [ofSegments_eq_ok_iff (by simp [hxs])]
  constructor
  · rintro ⟨parts, hparts, rfl⟩
    obtain ⟨before, hbefore, after, hafter, rfl⟩ := parts?_append_eq_some_iff.1 hparts
    exact ⟨_, (ofSegments_eq_ok_iff hxs).2 ⟨before, hbefore, rfl⟩,
      _, (ofSegments_eq_ok_iff hys).2 ⟨after, hafter, rfl⟩,
      joined_join (ne_nil_of_parts? hxs hbefore) (ne_nil_of_parts? hys hafter)⟩
  · rintro ⟨kx, hkx, ky, hky, rfl⟩
    obtain ⟨before, hbefore, rfl⟩ := (ofSegments_eq_ok_iff hxs).1 hkx
    obtain ⟨after, hafter, rfl⟩ := (ofSegments_eq_ok_iff hys).1 hky
    refine ⟨before ++ after, parts?_append_eq_some_iff.2 ⟨before, hbefore, after, hafter, rfl⟩, ?_⟩
    exact (joined_join (ne_nil_of_parts? hxs hbefore) (ne_nil_of_parts? hys hafter)).symm

theorem ne_nil_of_ofSegments (h : ofSegments segments = .ok k) : segments ≠ [] := by
  rintro rfl
  cases h

/-- Lists that make keys make a key together. -/
theorem ofSegments_append (hx : ofSegments xs = .ok k) (hy : ofSegments ys = .ok k') :
    ofSegments (xs ++ ys) = .ok (k.joined k') :=
  (ofSegments_append_eq_ok_iff (ne_nil_of_ofSegments hx) (ne_nil_of_ofSegments hy)).2
    ⟨k, hx, k', hy, rfl⟩

/-- The keys that are left as they are as a segment are the normal ones. -/
theorem ofSegments_text_eq_iff : ofSegments [k.text] = .ok k ↔ k.IsNormal := by
  rw [ofSegments_singleton_eq_ok_iff, text, String.toList_ofList]
  exact ⟨isNormal_of_segment?, IsNormal.segment?⟩

/-- The key of a list of segments is normal. -/
theorem isNormal_of_ofSegments (h : ofSegments segments = .ok k) : k.IsNormal := by
  induction segments generalizing k with
  | nil => cases h
  | cons segment rest ih =>
    by_cases hrest : rest = []
    · rw [hrest, ofSegments_singleton_eq_ok_iff] at h
      exact isNormal_of_segment? h
    · -- the first segment has a key of its own, and that of the others is joined to it
      rw [← List.singleton_append, ofSegments_append_eq_ok_iff (by simp) hrest] at h
      obtain ⟨first, hfirst, others, hothers, rfl⟩ := h
      rw [ofSegments_singleton_eq_ok_iff] at hfirst
      exact (isNormal_of_segment? hfirst).joined (ih hothers)

/-- The key of a list of segments is left as it is as a segment. -/
theorem ofSegments_text (h : ofSegments segments = .ok k) : ofSegments [k.text] = .ok k :=
  ofSegments_text_eq_iff.2 (isNormal_of_ofSegments h)

/-- A list makes no key if it is empty, or some segment of it is blank. -/
theorem ofSegments_eq_error_iff {e : Error} :
    ofSegments segments = .error e ↔
      segments = [] ∧ e = .validation .emptyKey ∨
        (∃ segment ∈ segments, IsBlankSegment segment) ∧ e = .validation .blankKeySegment := by
  rw [← parts?_eq_none_iff]
  by_cases hne : segments = []
  · subst hne
    simp [ofSegments_eq, parts?_nil, eq_comm]
  · rw [ofSegments_eq]
    cases hparts : parts? segments with
    | none => simp [hne, eq_comm]
    | some parts =>
      cases parts with
      | nil => exact absurd rfl (ne_nil_of_parts? hne hparts)
      | cons part parts => simp [hne]

/-- Keys are put together as the lists of their segments are. Two lists both make a key exactly if
the list of all their segments does; its key is the one, a slash and the other, and is made of these
two as segments, too. The keys of segments are those that are not blank and have no slash at their
ends, and each of them is left as it is as a segment. No key is made exactly of the empty list and
of a list with a segment that is blank without the slashes around it, and the failure tells
which. -/
theorem keys_compose :
    (∀ xs ys : List String, xs ≠ [] → ys ≠ [] →
      ((∃ k, ofSegments (xs ++ ys) = .ok k) ↔
        (∃ kx, ofSegments xs = .ok kx) ∧ ∃ ky, ofSegments ys = .ok ky) ∧
      ∀ kx ky, ofSegments xs = .ok kx → ofSegments ys = .ok ky →
        ∃ k, ofSegments (xs ++ ys) = .ok k ∧ k.text = kx.text ++ "/" ++ ky.text ∧
          ofSegments [kx.text, ky.text] = .ok k) ∧
    (∀ segments k, ofSegments segments = .ok k → k.IsNormal ∧ ofSegments [k.text] = .ok k) ∧
    (∀ k : BlobKey, k.IsNormal → ∃ segments, ofSegments segments = .ok k) ∧
    (∀ segments e, ofSegments segments = .error e ↔
      segments = [] ∧ e = .validation .emptyKey ∨
        (∃ segment ∈ segments, IsBlankSegment segment) ∧ e = .validation .blankKeySegment) := by
  refine ⟨?_, ?_, ?_, fun segments e => ofSegments_eq_error_iff⟩
  · intro xs ys hxs hys
    refine ⟨⟨?_, ?_⟩, ?_⟩
    · rintro ⟨k, hk⟩
      obtain ⟨kx, hkx, ky, hky, -⟩ := (ofSegments_append_eq_ok_iff hxs hys).1 hk
      exact ⟨⟨kx, hkx⟩, ky, hky⟩
    · rintro ⟨⟨kx, hkx⟩, ky, hky⟩
      exact ⟨kx.joined ky, ofSegments_append hkx hky⟩
    · intro kx ky hkx hky
      refine ⟨kx.joined ky, ofSegments_append hkx hky, text_joined kx ky, ?_⟩
      -- each of the two keys is made of itself, so that these are again two lists with keys
      exact ofSegments_append (ofSegments_text hkx) (ofSegments_text hky)
  · intro segments k hk
    exact ⟨isNormal_of_ofSegments hk, ofSegments_text hk⟩
  · intro k hk
    exact ⟨[k.text], ofSegments_text_eq_iff.2 hk⟩

/-- Blanks beside slashes stay where they are, also where a key is put behind another one. -/
theorem keys_compose_sample :
    ofSegments ["//dev/ /"] = .ok ⟨"dev/ ".toList⟩ ∧
      ofSegments ["\u3000/abs/", "a b"] = .ok ⟨"\u3000/abs/a b".toList⟩ ∧
      (∃ k, ofSegments ["//dev/ /", "\u3000/abs/", "a b"] = .ok k ∧
        k.text = "dev/ /\u3000/abs/a b" ∧ ofSegments ["dev/ ", "\u3000/abs/a b"] = .ok k ∧
        ofSegments [k.text] = .ok k) ∧
      IsNormal ⟨"dev/ ".toList⟩ ∧ (∃ segments, ofSegments segments = .ok ⟨"dev/ ".toList⟩) ∧
      ofSegments ["dev", "/\u3000/"] = .error (.validation .blankKeySegment) := by
  obtain ⟨hcompose, hmade, hnormal, herror⟩ := keys_compose
  have hdev : ofSegments ["//dev/ /"] = .ok ⟨"dev/ ".toList⟩ := by decide
  have habs : ofSegments ["\u3000/abs/", "a b"] = .ok ⟨"\u3000/abs/a b".toList⟩ := by decide
  obtain ⟨k, hk, htext, hkeys⟩ :=
    (hcompose ["//dev/ /"] ["\u3000/abs/", "a b"] (by simp) (by simp)).2 _ _ hdev habs
  have hstripped : IsStripped "/\u3000/".toList ['\u3000'] :=
    ⟨⟨by decide, by decide⟩, [slash], [slash], by decide, by simp, by simp⟩
  refine ⟨hdev, habs, ⟨k, hk, htext.trans (by decide), hkeys, (hmade _ k hk).2⟩, (hmade _ _ hdev).1,
    hnormal _ (hmade _ _ hdev).1, ?_⟩
  exact (herror _ _).2 (Or.inr ⟨⟨_, by simp, _, hstripped, by decide⟩, rfl⟩)

end DeploySync.BlobKey
