import DeploySync.Text.Split
import Mathlib.Data.List.Basic

/-!
# Texts in pieces

## Main results

* `Text.split_append_cons` — a text is split at each of its separators on its own
* `Text.join_split`, `Text.split_join` — splitting and joining undo each other
* `Text.join_append` — pieces are joined in two runs, and these behind each other
* `Text.split_join_flatMap` — joined pieces are split piece by piece
* `Text.head?_split_eq_nil_iff`, `Text.getLast?_split_eq_nil_iff` — texts with a separator at an end
* `Text.length_split` — a text has one piece more than separators
* `Text.cut?_append_cons`, `Text.cut?_eq_some_iff`, `Text.cut?_eq_none_iff` — a text is cut at its
  first separator
* `Text.append_cons_inj_of_notMem` — a text is cut at its last separator in one way only
* `Text.containsPiece_iff` — what a text contains
-/

namespace DeploySync.Text

/-- A text is split at each of its separators on its own. -/
theorem split_append_cons (sep : Char) (s t : List Char) :
    split sep (s ++ sep :: t) = split sep s ++ split sep t := by
  induction s with
  | nil => simp [split]
  | cons c s ih =>
    rw [List.cons_append, split, split, ih]
    by_cases hc : c = sep
    · rw [if_pos hc, if_pos hc, List.cons_append]
    · rw [if_neg hc, if_neg hc]
      obtain ⟨piece, pieces, hs⟩ := List.exists_cons_of_ne_nil (split_ne_nil sep s)
      rw [hs]
      rfl

/-- A text without separators is a single piece. -/
theorem split_eq_singleton {sep : Char} {s : List Char} (h : sep ∉ s) :
    split sep s = [s] := by
  induction s with
  | nil => rfl
  | cons c s ih =>
    rw [List.mem_cons, not_or] at h
    rw [split, if_neg (Ne.symm h.1), ih h.2]

/-- What a text is split into is joined to that text. -/
theorem join_split (sep : Char) (s : List Char) : join [sep] (split sep s) = s := by
  induction s with
  | nil => rfl
  | cons c s ih =>
    -- a separator starts a new piece, and any other character belongs to the first one
    obtain ⟨piece, pieces, hs⟩ := List.exists_cons_of_ne_nil (split_ne_nil sep s)
    rw [split, hs]
    rw [hs] at ih
    by_cases hc : c = sep
    · rw [if_pos hc, hc, join, ih]
      · rfl
      · simp
    · rw [if_neg hc]
      cases pieces with
      | nil =>
        rw [join] at ih ⊢
        rw [ih]
      | cons next more =>
        rw [join] at ih ⊢
        · rw [← ih]
          rfl
        · simp
        · simp

/-- Joined pieces are the first one, and then the others, each behind a separator. -/
theorem join_cons_eq_flatMap (sep piece : List Char) (pieces : List (List Char)) :
    join sep (piece :: pieces) = piece ++ pieces.flatMap (sep ++ ·) := by
  induction pieces generalizing piece with
  | nil => exact (List.append_nil piece).symm
  | cons next pieces ih =>
    rw [List.flatMap_cons, List.append_assoc, ← ih next, ← List.append_assoc]
    rfl

/-- Pieces are joined in two runs, and these behind each other. -/
theorem join_append {sep : List Char} {pieces pieces' : List (List Char)} (hne : pieces ≠ [])
    (hne' : pieces' ≠ []) :
    join sep (pieces ++ pieces') = join sep pieces ++ sep ++ join sep pieces' := by
  obtain ⟨first, rest, rfl⟩ := List.exists_cons_of_ne_nil hne
  obtain ⟨first', rest', rfl⟩ := List.exists_cons_of_ne_nil hne'
  rw [List.cons_append, join_cons_eq_flatMap, join_cons_eq_flatMap, join_cons_eq_flatMap,
    List.flatMap_append, List.flatMap_cons]
  simp only [List.append_assoc]

/-- A last piece is joined behind a separator. -/
theorem join_concat {sep last : List Char} {pieces : List (List Char)} (hne : pieces ≠ []) :
    join sep (pieces ++ [last]) = join sep pieces ++ sep ++ last :=
  join_append hne (by simp)

/-- Joined pieces are split piece by piece. -/
theorem split_join_flatMap {sep : Char} {pieces : List (List Char)} (hne : pieces ≠ []) :
    split sep (join [sep] pieces) = pieces.flatMap (split sep) := by
  induction pieces with
  | nil => exact absurd rfl hne
  | cons piece rest ih =>
    cases rest with
    | nil => simp [join]
    | cons next more =>
      have hjoin : join [sep] (piece :: next :: more) =
          piece ++ sep :: join [sep] (next :: more) := by
        rw [join, List.append_assoc]
        · rfl
        · simp
      rw [hjoin, split_append_cons, ih (by simp)]
      rfl

/-- Pieces without separators are what the text that they are joined to is split into. -/
theorem split_join {sep : Char} {pieces : List (List Char)} (hne : pieces ≠ [])
    (h : ∀ piece ∈ pieces, sep ∉ piece) : split sep (join [sep] pieces) = pieces := by
  rw [split_join_flatMap hne]
  clear hne
  induction pieces with
  | nil => rfl
  | cons piece rest ih =>
    rw [List.forall_mem_cons] at h
    rw [List.flatMap_cons, split_eq_singleton h.1, ih h.2]
    rfl

/-- The first piece is empty exactly if the text is, or starts with a separator. -/
theorem head?_split_eq_nil_iff {sep : Char} {s : List Char} :
    (split sep s).head? = some [] ↔ s = [] ∨ s.head? = some sep := by
  cases s with
  | nil => simp [split]
  | cons c rest =>
    obtain ⟨piece, pieces, hs⟩ := List.exists_cons_of_ne_nil (split_ne_nil sep rest)
    rw [split, hs]
    by_cases hc : c = sep
    · simp [hc]
    · simp [hc]

/-- The last piece is empty exactly if the text is, or ends with a separator. -/
theorem getLast?_split_eq_nil_iff {sep : Char} {s : List Char} :
    (split sep s).getLast? = some [] ↔ s = [] ∨ s.getLast? = some sep := by
  constructor
  · intro hlast
    obtain ⟨pieces, hpieces⟩ := List.getLast?_eq_some_iff.1 hlast
    have hjoin := join_split sep s
    rw [hpieces] at hjoin
    by_cases hne : pieces = []
    · rw [hne] at hjoin
      exact Or.inl hjoin.symm
    · rw [join_concat hne, List.append_nil] at hjoin
      exact Or.inr (by rw [← hjoin, List.getLast?_concat])
  · rintro (rfl | hlast)
    · rfl
    · obtain ⟨init, rfl⟩ := List.getLast?_eq_some_iff.1 hlast
      rw [split_append_cons, split, List.getLast?_concat]

/-- No piece of a text has a separator. -/
theorem notMem_of_mem_split {sep : Char} {s piece : List Char} (h : piece ∈ split sep s) :
    sep ∉ piece := by
  induction s generalizing piece with
  | nil =>
    rw [split, List.mem_singleton] at h
    simp [h]
  | cons c s ih =>
    obtain ⟨first, rest, hs⟩ := List.exists_cons_of_ne_nil (split_ne_nil sep s)
    rw [split, hs] at h
    rw [hs] at ih
    by_cases hc : c = sep
    · rw [if_pos hc] at h
      rcases List.mem_cons.1 h with rfl | h
      · simp
      · exact ih h
    · rw [if_neg hc] at h
      rcases List.mem_cons.1 h with rfl | h
      · simpa [Ne.symm hc] using ih List.mem_cons_self
      · exact ih (List.mem_cons_of_mem _ h)

/-- A text has one piece more than it has separators. -/
theorem length_split (sep : Char) (s : List Char) :
    (split sep s).length = s.count sep + 1 := by
  induction s with
  | nil => rfl
  | cons c s ih =>
    obtain ⟨piece, pieces, hs⟩ := List.exists_cons_of_ne_nil (split_ne_nil sep s)
    rw [hs] at ih
    rw [split, hs]
    by_cases hc : c = sep
    · rw [if_pos hc, hc, List.count_cons_self]
      simpa using ih
    · rw [if_neg hc, List.count_cons_of_ne hc]
      simpa using ih

/-- A text is cut at its first separator. -/
theorem cut?_append_cons {sep : Char} {s : List Char} (h : sep ∉ s) (t : List Char) :
    cut? sep (s ++ sep :: t) = some (s, t) := by
  induction s with
  | nil => simp [cut?]
  | cons c s ih =>
    rw [List.mem_cons, not_or] at h
    rw [List.cons_append, cut?, if_neg (Ne.symm h.1), ih h.2]
    rfl

theorem cut?_eq_none_iff {sep : Char} {s : List Char} : cut? sep s = none ↔ sep ∉ s := by
  induction s with
  | nil => simp [cut?]
  | cons c s ih =>
    rw [cut?, List.mem_cons, not_or]
    by_cases hc : c = sep
    · simp [hc]
    · rw [if_neg hc, Option.map_eq_none_iff, ih]
      exact ⟨fun h => ⟨Ne.symm hc, h⟩, fun h => h.2⟩

theorem cut?_eq_some_iff {sep : Char} {s before after : List Char} :
    cut? sep s = some (before, after) ↔ s = before ++ sep :: after ∧ sep ∉ before := by
  constructor
  · intro h
    -- there is a separator, and the text is cut at the first one
    have hmem : sep ∈ s := by
      by_contra hnot
      cases h.symm.trans (cut?_eq_none_iff.2 hnot)
    obtain ⟨first, rest, rfl, hfirst⟩ := List.eq_append_cons_of_mem hmem
    obtain ⟨rfl, rfl⟩ := Prod.mk.inj (Option.some.inj ((cut?_append_cons hfirst rest).symm.trans h))
    exact ⟨rfl, hfirst⟩
  · rintro ⟨rfl, hbefore⟩
    exact cut?_append_cons hbefore after

/-- A text is cut at its last separator in one way only. -/
theorem append_cons_inj_of_notMem {sep : Char} {before before' s t : List Char} (hs : sep ∉ s)
    (ht : sep ∉ t) : before ++ sep :: s = before' ++ sep :: t ↔ before = before' ∧ s = t := by
  constructor
  · intro h
    -- read backwards, the last separator is the first one
    have hback := congrArg (fun whole => cut? sep whole.reverse) h
    simp only [List.reverse_append, List.reverse_cons, List.append_assoc,
      List.singleton_append] at hback
    rw [cut?_append_cons (by simpa using hs), cut?_append_cons (by simpa using ht)] at hback
    simpa [and_comm] using hback
  · rintro ⟨rfl, rfl⟩
    rfl

/-- A text contains what stands in it without a gap. -/
theorem containsPiece_iff {piece s : List Char} : containsPiece piece s ↔ piece <:+: s := by
  induction s with
  | nil => simp [containsPiece]
  | cons c s ih =>
    rw [containsPiece, Bool.or_eq_true, List.isPrefixOf_iff_prefix, ih, List.infix_cons_iff]

theorem join_eq_intercalate (sep : List Char) (pieces : List (List Char)) :
    join sep pieces = sep.intercalate pieces := by
  fun_induction join sep pieces with
  | case1 => rfl
  | case2 piece => simp
  | case3 piece rest hrest ih => rw [ih, List.intercalate_cons_of_ne_nil hrest]

/-- What is joined has the length of its pieces at least. -/
theorem length_flatten_le_join (sep : List Char) (pieces : List (List Char)) :
    pieces.flatten.length ≤ (join sep pieces).length := by
  fun_induction join sep pieces with
  | case1 => simp
  | case2 piece => simp
  | case3 piece rest hne ih =>
    rw [List.flatten_cons, List.length_append, List.length_append, List.length_append]
    omega

/-- What is in no piece and in no separator is not in what they are joined to. -/
theorem notMem_join {c : Char} {sep : List Char} {pieces : List (List Char)} (hsep : c ∉ sep)
    (h : ∀ piece ∈ pieces, c ∉ piece) : c ∉ join sep pieces := by
  fun_induction join sep pieces with
  | case1 => simp
  | case2 piece => exact h piece (by simp)
  | case3 piece rest hrest ih =>
    have hpiece := h piece (by simp)
    have htail := ih fun s hs => h s (by simp [hs])
    simp [hsep, hpiece, htail]

end DeploySync.Text
