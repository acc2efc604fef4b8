import DeploySync.Text.Blank
import Mathlib.Data.List.DropRight
import Mathlib.Data.List.TakeWhile

/-!
# Texts without what stands at their ends

A text is what is left of it between the characters of a class that are dropped at its ends. What is
left has none of them at its ends, and a text without any of them is left as it is.

## Main results

* `Text.exists_trimEndBy`, `Text.trimEndBy_append` — what is dropped at the end
* `Text.head?_trimBy`, `Text.getLast?_trimBy` — no character of the class stands at the ends
* `Text.trimBy_eq_iff` — what is left of a text
* `Text.trimBy_eq_self` — a text that is left as it is
-/

namespace DeploySync.Text

variable {p : Char → Bool} {s t u : List Char} {c : Char}

/-- Only characters of the class are dropped. -/
theorem exists_trimEndBy (p : Char → Bool) (s : List Char) :
    ∃ rest, s = trimEndBy p s ++ rest ∧ ∀ c ∈ rest, p c := by
  refine ⟨(s.reverse.takeWhile p).reverse, ?_, ?_⟩
  · rw [trimEndBy, ← List.reverse_append, List.takeWhile_append_dropWhile, List.reverse_reverse]
  · intro c hc
    rw [List.mem_reverse] at hc
    exact List.mem_takeWhile_imp hc

/-- Characters of the class at the end do not matter. -/
theorem trimEndBy_append (s : List Char) (ht : ∀ c ∈ t, p c) :
    trimEndBy p (s ++ t) = trimEndBy p s := by
  have hdropped : ∀ c ∈ t.reverse, p c := by
    intro c hc
    exact ht c (List.mem_reverse.1 hc)
  rw [trimEndBy, trimEndBy, List.reverse_append, List.dropWhile_append_of_pos hdropped]

theorem head?_trimStartBy (h : (trimStartBy p s).head? = some c) : p c = false := by
  have hnot := List.head?_dropWhile_not p s
  rw [trimStartBy] at h
  rw [h] at hnot
  exact hnot

theorem getLast?_trimEndBy (h : (trimEndBy p s).getLast? = some c) : p c = false := by
  rw [trimEndBy, List.getLast?_reverse] at h
  exact head?_trimStartBy h

/-- No character of the class stands at the end of what is left. -/
theorem getLast?_trimBy (h : (trimBy p s).getLast? = some c) : p c = false :=
  getLast?_trimEndBy h

/-- No character of the class stands at the start of what is left. -/
theorem head?_trimBy (h : (trimBy p s).head? = some c) : p c = false := by
  -- what is dropped at the end does not change the start
  obtain ⟨rest, hrest, -⟩ := exists_trimEndBy p (trimStartBy p s)
  apply head?_trimStartBy (s := s)
  rw [hrest, List.head?_append]
  rw [trimBy] at h
  rw [h]
  rfl

/-- Characters of the class at both ends do not matter. -/
theorem trimBy_append_append (hs : ∀ c ∈ s, p c) (hu : ∀ c ∈ u, p c) :
    trimBy p (s ++ t ++ u) = trimBy p t := by
  rw [trimBy, trimStartBy, List.append_assoc, List.dropWhile_append_of_pos hs,
    List.dropWhile_append]
  split
  · -- nothing is left of the text, nor of what stands behind it
    rename_i hempty
    rw [List.isEmpty_iff] at hempty
    rw [List.dropWhile_eq_nil_iff.2 hu, trimBy, trimStartBy, hempty]
  · exact trimEndBy_append _ hu

/-- A text with no characters of the class at its ends is left as it is. -/
theorem trimBy_eq_self_of_ends (hfirst : ∀ c ∈ s.head?, p c = false)
    (hlast : ∀ c ∈ s.getLast?, p c = false) : trimBy p s = s := by
  have hstart : trimStartBy p s = s := by
    cases s with
    | nil => rfl
    | cons c s => exact List.dropWhile_cons_of_neg (by simp [hfirst c rfl])
  have hend : s.rdropWhile p = s := by
    rw [List.rdropWhile_eq_self_iff]
    intro hne
    simp [hlast _ (List.getLast?_eq_some_getLast hne)]
  rw [trimBy, hstart]
  exact hend

/-- What is left of a text stands in it between characters of the class, and has none at its
ends. -/
theorem trimBy_eq_iff :
    trimBy p s = t ↔
      (∃ before after, s = before ++ t ++ after ∧ (∀ c ∈ before, p c) ∧ ∀ c ∈ after, p c) ∧
        (∀ c ∈ t.head?, p c = false) ∧ ∀ c ∈ t.getLast?, p c = false := by
  constructor
  · rintro rfl
    obtain ⟨after, hafter, hpos⟩ := exists_trimEndBy p (trimStartBy p s)
    refine ⟨⟨s.takeWhile p, after, ?_, fun c hc => List.mem_takeWhile_imp hc, hpos⟩,
      fun c hc => head?_trimBy hc, fun c hc => getLast?_trimBy hc⟩
    rw [List.append_assoc, trimBy, ← hafter, trimStartBy, List.takeWhile_append_dropWhile]
  · rintro ⟨⟨before, after, rfl, hbefore, hafter⟩, hfirst, hlast⟩
    rw [trimBy_append_append hbefore hafter, trimBy_eq_self_of_ends hfirst hlast]

/-- A text without characters of the class is left as it is. -/
theorem trimBy_eq_self (h : ∀ c ∈ s, p c = false) : trimBy p s = s :=
  trimBy_eq_self_of_ends (fun c hc => h c (List.mem_of_mem_head? hc))
    fun c hc => h c (List.mem_of_getLast? hc)

end DeploySync.Text
