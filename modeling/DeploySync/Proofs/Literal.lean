import DeploySync.Literal
import DeploySync.Proofs.Document
import DeploySync.Proofs.Text.Split
import DeploySync.Proofs.Yaml.Number
import Mathlib.Tactic.SplitIfs

/-!
# Literals stand on one line

A literal holds no line break and no tab, whatever value it is the literal of: those in a text are
escaped, and nothing else has any. The value of a property is a literal, too, unless it is a text.

## Main definitions

* `Literal.isBreak`, `Literal.OneLine` — line breaks and tabs, and the texts without any
* `Document.IsText` — the fields that are a text

## Main results

* `Literal.oneLine_quote` — a text between quotes has no line break and no tab
* `Literal.oneLine_chars`, `Literal.oneLine_listText` — nor has any literal
* `Literal.oneLine_of_property?` — nor has the value of a property that is no text
* `Document.newline_mem_property_iff` — the value of a property has a line break only if it is a
  text that has one
-/

namespace DeploySync

/-! ### Values -/

namespace Literal

variable {s t : List Char} {v : Yaml.Value}

/-- Line breaks and tabs. -/
def isBreak (c : Char) : Bool := c == '\n' || c == '\r' || c == '\t'

/-- The text has no line break and no tab. -/
def OneLine (s : List Char) : Prop := ∀ c ∈ s, isBreak c = false

theorem oneLine_of_all {s : List Char} (h : (s.all fun c => ! isBreak c) = true) : OneLine s := by
  simpa [OneLine] using h

theorem OneLine.newline_notMem (h : OneLine s) : '\n' ∉ s := by
  intro hmem
  cases h '\n' hmem

theorem OneLine.append (hs : OneLine s) (ht : OneLine t) : OneLine (s ++ t) := by
  intro c hc
  exact (List.mem_append.1 hc).elim (hs c) (ht c)

theorem OneLine.cons {c : Char} (hc : isBreak c = false) (hs : OneLine s) : OneLine (c :: s) :=
  List.forall_mem_cons.2 ⟨hc, hs⟩

theorem oneLine_number (n : Yaml.Number) : OneLine n.text := by
  intro c hc
  have hnumber := n.isNumberText.chars c hc
  by_contra hbreak
  rw [Bool.not_eq_false, isBreak, Bool.or_eq_true, Bool.or_eq_true, beq_iff_eq, beq_iff_eq,
    beq_iff_eq] at hbreak
  obtain (rfl | rfl) | rfl := hbreak <;> revert hnumber <;> decide

theorem oneLine_escape {d : Char} (hd : isBreak d = false) (c : Char) : OneLine (escape d c) := by
  rw [escape]
  split_ifs with hslash hnewline hreturn htab hdelimiter
  · exact .cons rfl (.cons rfl nofun)
  · exact .cons rfl (.cons rfl nofun)
  · exact .cons rfl (.cons rfl nofun)
  · exact .cons rfl (.cons rfl nofun)
  · exact .cons rfl (.cons (hdelimiter ▸ hd) nofun)
  · exact .cons (by simp [isBreak, hnewline, hreturn, htab]) nofun

theorem isBreak_delimiter (s : List Char) : isBreak (delimiter s) = false := by
  rw [delimiter]
  split <;> rfl

/-- A text between quotes has no line break and no tab. -/
theorem oneLine_quote (s : List Char) : OneLine (quote s) := by
  have hd := isBreak_delimiter s
  refine OneLine.append (.cons hd fun c hc => ?_) (.cons hd nofun)
  obtain ⟨x, -, hx⟩ := List.mem_flatMap.1 hc
  exact oneLine_escape hd x c hx

theorem oneLine_commaSeparated {pieces : List (List Char)} (h : ∀ s ∈ pieces, OneLine s) :
    OneLine (commaSeparated pieces) := by
  intro c hc
  -- a break would be in no piece, and there is none between them
  by_contra hbreak
  rw [Bool.not_eq_false] at hbreak
  refine Text.notMem_join ?_ (fun s hs hmem => ?_) hc
  · intro hsep
    rw [List.mem_pair] at hsep
    obtain rfl | rfl := hsep <;> cases hbreak
  · rw [h s hs c hmem] at hbreak
    cases hbreak

mutual

/-- The literal of a value has no line break and no tab. -/
theorem oneLine_chars : (v : Yaml.Value) → OneLine (chars v)
  | .null => oneLine_of_all rfl
  | .bool true => oneLine_of_all rfl
  | .bool false => oneLine_of_all rfl
  | .number n => oneLine_number n
  | .string s => oneLine_quote s.toList
  | .sequence items =>
    .append (.cons rfl (oneLine_commaSeparated (oneLine_itemChars items))) (.cons rfl nofun)
  | .mapping entries =>
    .append (.cons rfl (oneLine_commaSeparated (oneLine_entryChars entries))) (.cons rfl nofun)
  | .tagged _ v => oneLine_chars v

theorem oneLine_itemChars : (items : List Yaml.Value) → ∀ s ∈ itemChars items, OneLine s
  | [] => nofun
  | v :: rest => List.forall_mem_cons.2 ⟨oneLine_chars v, oneLine_itemChars rest⟩

theorem oneLine_entryChars :
    (entries : List (Yaml.Value × Yaml.Value)) → ∀ s ∈ entryChars entries, OneLine s
  | [] => nofun
  | (k, v) :: rest => List.forall_mem_cons.2
    ⟨(oneLine_chars k).append (.cons rfl (.cons rfl (oneLine_chars v))), oneLine_entryChars rest⟩

end

/-- The literal of a list of texts has no line break and no tab. -/
theorem oneLine_listText (items : List String) : OneLine (listText items).toList := by
  rw [listText, String.toList_ofList]
  refine OneLine.append (.cons rfl (oneLine_commaSeparated fun s hs => ?_)) (.cons rfl nofun)
  obtain ⟨item, -, rfl⟩ := List.mem_map.1 hs
  exact oneLine_quote item.toList

theorem newline_notMem_listText (items : List String) : '\n' ∉ (listText items).toList :=
  (oneLine_listText items).newline_notMem

/-- The value of a property has no line break and no tab, unless it is a text. -/
theorem oneLine_of_property? {text : String} (h : property? v = some text)
    (hv : ∀ s, v.untagged ≠ .string s) : OneLine text.toList := by
  rw [property?] at h
  cases huntagged : v.untagged with
  | string s => exact absurd huntagged (hv s)
  | mapping entries => simp [huntagged] at h
  | _ =>
    -- anything else is written as its literal
    rw [huntagged] at h
    obtain rfl := Option.some.inj h
    rw [Literal.text, String.toList_ofList]
    exact oneLine_chars _

end Literal

/-! ### Fields -/

namespace Document

variable {d : Document} {path text : String}

/-- The field is the text, tags aside. -/
def IsText (d : Document) (path text : String) : Prop :=
  ∃ v, d.lookup path = .ok v ∧ v.untagged = .string text

/-- The value of a property has a line break only if the field is a text that has one. -/
theorem newline_mem_property_iff (h : d.property path = .ok text) :
    '\n' ∈ text.toList ↔ ∃ s, d.IsText path s ∧ '\n' ∈ s.toList := by
  rw [property] at h
  cases hlookup : d.lookup path with
  | error e => simp [hlookup] at h
  | ok v =>
    rw [hlookup] at h
    dsimp only at h
    cases hproperty : Literal.property? v with
    | none => simp [hproperty] at h
    | some text' =>
      obtain rfl : text' = text := by simpa [hproperty] using h
      by_cases hv : ∃ s, v.untagged = .string s
      · obtain ⟨s, hv⟩ := hv
        obtain rfl : s = text' := by simpa [Literal.property?, hv] using hproperty
        simp [IsText, hlookup, hv]
      · have hnewline := (Literal.oneLine_of_property? hproperty (not_exists.1 hv)).newline_notMem
        simp [IsText, hlookup, hnewline, not_exists.1 hv]

end Document

end DeploySync
