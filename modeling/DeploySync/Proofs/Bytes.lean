import DeploySync.Bytes
import Mathlib.Data.String.Basic
import Mathlib.Tactic.SplitIfs

/-!
# The bytes of texts

Texts are compared character by character. As the bytes of a greater character are greater, this is
the order of their bytes, too.

## Main results

* `Bytes.toList_eq` — the bytes of an array, as a list
* `Bytes.toList_ofText` — the bytes of a text are those of its characters
* `Bytes.text?_flatMap` — bytes of characters are read as these characters
* `Bytes.toList_ofText_lt_iff`, `Bytes.toList_ofText_le_iff` — the order of texts is that of their
  bytes
-/

namespace DeploySync.Bytes

theorem toList_loop (b : ByteArray) (i : Nat) (before : List UInt8) :
    ByteArray.toList.loop b i before = before.reverse ++ b.data.toList.drop i := by
  fun_induction ByteArray.toList.loop b i before with
  | case1 i before hlt ih =>
    have hsize : i < b.data.size := hlt
    have hget : b.get! i = b.data[i] := getElem!_pos b.data i hsize
    rw [ih, hget, List.reverse_cons, List.append_assoc, List.singleton_append,
      ← Array.getElem_toList hsize, ← List.drop_eq_getElem_cons]
  | case2 i before hge =>
    rw [List.drop_eq_nil_of_le, List.append_nil]
    rw [Array.length_toList]
    exact Nat.le_of_not_lt hge

/-- The bytes of an array, as a list. -/
theorem toList_eq (b : ByteArray) : b.toList = b.data.toList := toList_loop b 0 []

/-- The bytes of a text are those of its characters. -/
theorem toList_ofText (s : String) :
    (ofText s).toList = s.toList.flatMap String.utf8EncodeChar := by
  have hbytes : ofText s = (s.toList.flatMap String.utf8EncodeChar).toByteArray := by
    rw [ofText, String.toUTF8, ← String.utf8Encode_toList]
    rfl
  rw [toList_eq, hbytes, List.toList_data_toByteArray]

/-- Bytes of characters are read as the text of these characters. -/
theorem text?_flatMap (s : List Char) :
    text? (s.flatMap String.utf8EncodeChar).toByteArray = some (String.ofList s) :=
  text?_ofText (String.ofList s)

/-! ### Order -/

/-- The bytes of a greater character are greater, whatever follows. -/
theorem utf8EncodeChar_append_lt {c d : Char} (h : c < d) (s t : List UInt8) :
    String.utf8EncodeChar c ++ s < String.utf8EncodeChar d ++ t := by
  have hlt : c.val.toNat < d.val.toNat := h
  have hmax : d.val.toNat < 0x110000 := by
    have hvalid := d.valid
    unfold UInt32.isValidChar Nat.isValidChar at hvalid
    omega
  rw [String.utf8EncodeChar, String.utf8EncodeChar]
  generalize c.val.toNat = m at *
  generalize d.val.toNat = n at *
  -- one to four bytes; the first one tells how many there are
  split_ifs <;>
    simp (disch := omega) only [List.cons_append, List.nil_append, List.cons_lt_cons_iff,
      UInt8.lt_iff_toNat_lt, ← UInt8.toNat_inj, UInt8.toNat_ofNat', Nat.mod_eq_of_lt]
  all_goals omega

theorem flatMap_utf8EncodeChar_lt {s t : List Char} (h : s < t) :
    s.flatMap String.utf8EncodeChar < t.flatMap String.utf8EncodeChar := by
  induction s generalizing t with
  | nil =>
    cases t with
    | nil => exact absurd h (List.not_lt_nil [])
    | cons d t =>
      obtain ⟨b, bytes, hd⟩ := List.exists_cons_of_ne_nil (String.utf8EncodeChar_ne_nil (c := d))
      rw [List.flatMap_nil, List.flatMap_cons, hd]
      exact List.nil_lt_cons b _
  | cons c s ih =>
    cases t with
    | nil => exact absurd h (List.not_lt_nil _)
    | cons d t =>
      rw [List.flatMap_cons, List.flatMap_cons]
      -- the first characters that differ decide
      rcases List.cons_lt_cons_iff.1 h with hlt | ⟨rfl, hlt⟩
      · exact utf8EncodeChar_append_lt hlt _ _
      · exact List.append_left_lt (ih hlt)

/-- The order of texts is that of their bytes. -/
theorem toList_ofText_lt_iff {s t : String} : (ofText s).toList < (ofText t).toList ↔ s < t := by
  have hlt {s t : String} (h : s < t) : (ofText s).toList < (ofText t).toList := by
    rw [toList_ofText, toList_ofText]
    exact flatMap_utf8EncodeChar_lt h
  refine ⟨fun h => ?_, hlt⟩
  rcases lt_trichotomy s t with hst | rfl | hst
  · exact hst
  · exact absurd h (List.lt_irrefl _)
  · exact absurd h (List.lt_asymm (hlt hst))

theorem toList_ofText_le_iff {s t : String} : (ofText s).toList ≤ (ofText t).toList ↔ s ≤ t := by
  rw [← List.not_lt, ← not_lt]
  exact not_congr toList_ofText_lt_iff

end DeploySync.Bytes
