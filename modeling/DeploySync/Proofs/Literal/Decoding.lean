import DeploySync.Proofs.Literal
import DeploySync.Proofs.Yaml.Double

/-!
# Literals read back

A literal ends where its value does, whatever stands behind it: brackets and quotes are closed, and
a number goes on as long as there are characters of numbers. So a literal is read back from left to
right, and what is read is the value without its tags. Texts that hold quotes, commas or brackets
are no exception, nor are mappings whose keys are sequences or mappings.

## Main definitions

* `Yaml.Value.erased` — a value with no tags left
* `Literal.unquote` — reads a text behind its opening quote
* `Literal.bracketed` — reads pieces behind an opening bracket
* `Literal.value`, `Literal.decode` — reads a value

## Main results

* `Literal.unquote_flatMap` — a quoted text is read back
* `Literal.reads_chars` — a value is read back, whatever follows
* `Literal.decode_chars` — a literal is read back as the value without its tags
* `Literal.literals_unambiguous` — so literals are the same only for values that are the same
-/

namespace DeploySync

namespace Yaml.Value

mutual

/-- The value without its tags and those in it, and with the one number that is none. -/
def erased : Value → Value
  | .null => .null
  | .bool b => .bool b
  | .number n => .number n.canonical
  | .string s => .string s
  | .sequence items => .sequence (erasedItems items)
  | .mapping entries => .mapping (erasedEntries entries)
  | .tagged _ v => v.erased

/-- The items of a list without tags. -/
def erasedItems : List Value → List Value
  | [] => []
  | v :: rest => v.erased :: erasedItems rest

/-- The entries of a mapping without tags on keys and values. -/
def erasedEntries : List (Value × Value) → List (Value × Value)
  | [] => []
  | (k, v) :: rest => (k.erased, v.erased) :: erasedEntries rest

end

end Yaml.Value

namespace Literal

open Yaml (Number Value isNumberChar isNumberHead)

mutual

/-- Tags leave no trace in a literal. -/
theorem chars_erased : (v : Value) → chars v.erased = chars v
  | .null => rfl
  | .bool true => rfl
  | .bool false => rfl
  | .number n => Yaml.text_canonical n
  | .string _ => rfl
  | .sequence items => by rw [Value.erased, chars, chars, itemChars_erasedItems]
  | .mapping entries => by rw [Value.erased, chars, chars, entryChars_erasedEntries]
  | .tagged _ v => chars_erased v

theorem itemChars_erasedItems : (items : List Value) →
    itemChars (Value.erasedItems items) = itemChars items
  | [] => rfl
  | v :: rest => by
    rw [Value.erasedItems, itemChars, itemChars, chars_erased, itemChars_erasedItems]

theorem entryChars_erasedEntries : (entries : List (Value × Value)) →
    entryChars (Value.erasedEntries entries) = entryChars entries
  | [] => rfl
  | (k, v) :: rest => by
    rw [Value.erasedEntries, entryChars, entryChars, chars_erased, chars_erased,
      entryChars_erasedEntries]

end

/-! ### Reading -/

/-- The character that the one behind a backslash stands for. -/
def unescape (c : Char) : Char :=
  if c = 'n' then '\n' else if c = 'r' then '\r' else if c = 't' then '\t' else c

/-- Reads a text behind its opening quote, up to the closing one. -/
def unquote (d : Char) : List Char → Option (List Char × List Char)
  | [] => none
  | [c] => if c = d then some ([], []) else none
  | c :: c' :: rest =>
    if c = d then some ([], c' :: rest)
    else if c = '\\' then (unquote d rest).map fun (s, rest) => (unescape c' :: s, rest)
    else (unquote d (c' :: rest)).map fun (s, rest) => (c :: s, rest)

section Pieces

variable {α β : Type}

/-- Reads pieces with commas between them up to the closing bracket; there is at least one. -/
def separated (close : Char) (piece : List Char → Option (α × List Char)) :
    (fuel : Nat) → List Char → Option (List α × List Char)
  | 0, _ => none
  | fuel + 1, s =>
    match piece s with
    | some (a, ',' :: ' ' :: rest) =>
      (separated close piece fuel rest).map fun (more, rest) => (a :: more, rest)
    | some (a, c :: rest) => if c = close then some ([a], rest) else none
    | _ => none

/-- Reads pieces behind an opening bracket. -/
def bracketed (close : Char) (piece : List Char → Option (α × List Char)) (fuel : Nat) :
    List Char → Option (List α × List Char)
  | [] => none
  | c :: rest => if c = close then some ([], rest) else separated close piece fuel (c :: rest)

/-- Reads a key and a value with a colon between them. -/
def entry (piece : List Char → Option (α × List Char)) (s : List Char) :
    Option ((α × α) × List Char) :=
  match piece s with
  | some (k, ':' :: ' ' :: rest) => (piece rest).map fun (v, rest) => ((k, v), rest)
  | _ => none

end Pieces

section Value

/-- Reads a number as far as its characters go. -/
def number (s : List Char) : Option (Value × List Char) :=
  (Yaml.readNumber? (s.takeWhile isNumberChar)).map fun n => (.number n, s.dropWhile isNumberChar)

/-- Reads a value; what it is can be told by its first character. -/
def value : (fuel : Nat) → List Char → Option (Value × List Char)
  | 0, _ => none
  | _ + 1, [] => none
  | fuel + 1, c :: rest =>
    -- no other value starts like a number
    if isNumberHead c then number (c :: rest)
    else
      match c with
      | 'N' => (Text.stripStart? ['o', 'n', 'e'] rest).map fun rest => (.null, rest)
      | 'T' => (Text.stripStart? ['r', 'u', 'e'] rest).map fun rest => (.bool true, rest)
      | 'F' => (Text.stripStart? ['a', 'l', 's', 'e'] rest).map fun rest => (.bool false, rest)
      | '[' => (bracketed ']' (value fuel) fuel rest).map fun (items, rest) =>
          (.sequence items, rest)
      | '{' => (bracketed '}' (entry (value fuel)) fuel rest).map fun (entries, rest) =>
          (.mapping entries, rest)
      | c =>
        if c = '\'' || c = '"' then
          (unquote c rest).map fun (s, rest) => (.string (String.ofList s), rest)
        else none

/-- Reads a literal. -/
def decode (s : List Char) : Option Value :=
  -- what is nested in a literal is shorter than it, so there is always fuel left
  match value (s.length + 1) s with
  | some (v, []) => some v
  | _ => none

end Value

/-! ### Texts -/

theorem unquote_cons {d c : Char} (hd : c ≠ d) (hslash : c ≠ '\\') (s : List Char) :
    unquote d (c :: s) = (unquote d s).map fun (s, rest) => (c :: s, rest) := by
  cases s with
  | nil => exact if_neg hd
  | cons c' rest => rw [unquote, if_neg hd, if_neg hslash]

theorem unquote_escaped {d : Char} (hd : '\\' ≠ d) (c : Char) (s : List Char) :
    unquote d ('\\' :: c :: s) = (unquote d s).map fun (s, rest) => (unescape c :: s, rest) := by
  rw [unquote, if_neg hd, if_pos rfl]

/-- The quotes that stand around texts. -/
def IsQuote (d : Char) : Prop := d = '\'' ∨ d = '"'

theorem isQuote_delimiter (s : List Char) : IsQuote (delimiter s) := by
  rw [delimiter]
  split
  · exact .inr rfl
  · exact .inl rfl

/-- One character is read back. -/
theorem unquote_escape {d : Char} (hd : IsQuote d) (c : Char) (s : List Char) :
    unquote d (escape d c ++ s) = (unquote d s).map fun (s, rest) => (c :: s, rest) := by
  have hslash : '\\' ≠ d := by rcases hd with rfl | rfl <;> decide
  rw [escape]
  split_ifs with h hnewline hreturn htab hdelimiter
  · rw [h]
    exact unquote_escaped hslash '\\' s
  · rw [hnewline]
    exact unquote_escaped hslash 'n' s
  · rw [hreturn]
    exact unquote_escaped hslash 'r' s
  · rw [htab]
    exact unquote_escaped hslash 't' s
  · have hunescape : unescape c = c := by
      rw [hdelimiter]
      rcases hd with rfl | rfl <;> rfl
    have hread := unquote_escaped hslash c s
    rwa [hunescape] at hread
  · exact unquote_cons hdelimiter h s

/-- A quoted text is read back, whatever follows. -/
theorem unquote_flatMap {d : Char} (hd : IsQuote d) (s rest : List Char) :
    unquote d (s.flatMap (escape d) ++ d :: rest) = some (s, rest) := by
  induction s with
  | nil =>
    cases rest <;> rw [List.flatMap_nil, List.nil_append, unquote, if_pos rfl]
  | cons c s ih => rw [List.flatMap_cons, List.append_assoc, unquote_escape hd, ih, Option.map_some]

/-! ### Pieces -/

/-- What follows does not go on with a number. -/
def Ends (rest : List Char) : Prop := ∀ c, rest.head? = some c → isNumberChar c = false

theorem ends_cons {c : Char} (hc : isNumberChar c = false) (rest : List Char) :
    Ends (c :: rest) := by
  intro c' hc'
  obtain rfl := Option.some.inj hc'
  exact hc

section Pieces

variable {α : Type} {piece : List Char → Option (α × List Char)} {close : Char}

/-- From the text a value is read, whatever follows, unless a number would go on. -/
def Reads (piece : List Char → Option (α × List Char)) (s : List Char) (a : α) : Prop :=
  ∀ rest, Ends rest → piece (s ++ rest) = some (a, rest)

/-- Pieces with commas between them are read back. -/
theorem separated_commaSeparated (hclose : isNumberChar close = false) (hcomma : close ≠ ',')
    {pieces : List (List Char)} {values : List α} (h : List.Forall₂ (Reads piece) pieces values)
    (hne : pieces ≠ []) {fuel : Nat} (hfuel : pieces.length ≤ fuel) (rest : List Char) :
    separated close piece fuel (commaSeparated pieces ++ close :: rest) = some (values, rest) := by
  -- the last piece is followed by the bracket, and any other by a comma
  induction h generalizing fuel with
  | nil => exact absurd rfl hne
  | @cons s a pieces values hs h ih =>
    obtain ⟨fuel, rfl⟩ : ∃ n, fuel = n + 1 := Nat.exists_eq_add_one_of_ne_zero (by
      rw [List.length_cons] at hfuel
      omega)
    cases h with
    | nil =>
      have hread := hs (close :: rest) (ends_cons hclose rest)
      change separated close piece (fuel + 1) (s ++ close :: rest) = _
      rw [separated, hread]
      split
      · next heq =>
        cases heq
        exact absurd rfl hcomma
      · next heq =>
        cases heq
        rw [if_pos rfl]
      · next hother => exact absurd rfl (hother a close rest)
    | @cons t b pieces values ht h =>
      rw [List.length_cons] at hfuel
      have hjoin : commaSeparated (s :: t :: pieces) ++ close :: rest =
          s ++ ',' :: ' ' :: (commaSeparated (t :: pieces) ++ close :: rest) := by
        simp [commaSeparated, Text.join]
      have hread := hs (',' :: ' ' :: (commaSeparated (t :: pieces) ++ close :: rest))
        (ends_cons rfl _)
      have hmore := ih (by simp) (Nat.le_of_succ_le_succ hfuel)
      rw [hjoin, separated, hread]
      change (separated close piece fuel _).map _ = _
      rw [hmore]
      rfl

/-- Pieces in brackets are read back; none of them starts with the closing bracket. -/
theorem bracketed_commaSeparated (close : Char) (fuel : Nat) (hclose : isNumberChar close = false)
    (hcomma : close ≠ ',') {pieces : List (List Char)} {values : List α}
    (h : List.Forall₂ (Reads piece) pieces values)
    (hheads : ∀ s ∈ pieces, ∃ c, s.head? = some c ∧ c ≠ close)
    (hfuel : pieces.length ≤ fuel) (rest : List Char) :
    bracketed close piece fuel (commaSeparated pieces ++ close :: rest) = some (values, rest) := by
  cases pieces with
  | nil =>
    cases h
    exact if_pos rfl
  | cons s pieces =>
    obtain ⟨c, hc, hne⟩ := hheads s List.mem_cons_self
    have hhead : (commaSeparated (s :: pieces) ++ close :: rest).head? = some c := by
      cases pieces with
      | nil => rw [commaSeparated, Text.join, List.head?_append, hc]; rfl
      | cons t pieces => simp [commaSeparated, Text.join, hc]
    obtain ⟨more, hmore⟩ := List.head?_eq_some_iff.1 hhead
    rw [← separated_commaSeparated hclose hcomma h (by simp) hfuel rest, hmore, bracketed,
      if_neg hne]

/-- An entry is read back. -/
theorem reads_entry {s t : List Char} {k v : α} (hs : Reads piece s k) (ht : Reads piece t v) :
    Reads (entry piece) (s ++ ':' :: ' ' :: t) (k, v) := by
  intro rest hrest
  have hkey := hs (':' :: ' ' :: (t ++ rest)) (ends_cons rfl _)
  rw [List.append_assoc, List.cons_append, List.cons_append, entry, hkey]
  change (piece (t ++ rest)).map _ = _
  rw [ht rest hrest]
  rfl

end Pieces

/-! ### Values -/

/-- A literal starts with a character that closes no bracket. -/
theorem head_chars : (v : Value) → ∃ c, (chars v).head? = some c ∧ c ≠ ']' ∧ c ≠ '}'
  | .null => ⟨'N', rfl, by decide⟩
  | .bool true => ⟨'T', rfl, by decide⟩
  | .bool false => ⟨'F', rfl, by decide⟩
  | .number n => by
    obtain ⟨c, hc, hhead⟩ := n.isNumberText.head
    refine ⟨c, hc, ?_, ?_⟩ <;> (rintro rfl; cases hhead)
  | .string s => by
    refine ⟨delimiter s.toList, rfl, ?_, ?_⟩ <;>
      rcases isQuote_delimiter s.toList with h | h <;> rw [h] <;> decide
  | .sequence _ => ⟨'[', rfl, by decide⟩
  | .mapping _ => ⟨'{', rfl, by decide⟩
  | .tagged _ v => head_chars v

theorem head_itemChars : (items : List Value) →
    ∀ s ∈ itemChars items, ∃ c, s.head? = some c ∧ c ≠ ']'
  | [] => nofun
  | v :: rest => by
    obtain ⟨c, hc, hne, -⟩ := head_chars v
    exact List.forall_mem_cons.2 ⟨⟨c, hc, hne⟩, head_itemChars rest⟩

theorem head_entryChars : (entries : List (Value × Value)) →
    ∀ s ∈ entryChars entries, ∃ c, s.head? = some c ∧ c ≠ '}'
  | [] => nofun
  | (k, v) :: rest => by
    obtain ⟨c, hc, -, hne⟩ := head_chars k
    refine List.forall_mem_cons.2 ⟨⟨c, ?_, hne⟩, head_entryChars rest⟩
    rw [List.head?_append, hc]
    rfl

theorem length_le_commaSeparated (pieces : List (List Char)) :
    pieces.length ≤ (commaSeparated pieces).length + 1 ∧
      ∀ s ∈ pieces, s.length ≤ (commaSeparated pieces).length := by
  rw [commaSeparated]
  fun_induction Text.join [',', ' '] pieces with
  | case1 => simp
  | case2 piece => simp
  | case3 piece pieces hne ih =>
    obtain ⟨hcount, hpieces⟩ := ih
    rw [List.forall_mem_cons]
    simp only [List.length_cons, List.length_append, List.length_nil]
    refine ⟨by omega, by omega, fun s hs => ?_⟩
    have hs := hpieces s hs
    omega

/-- A number is read back. -/
theorem reads_number (n : Number) : Reads number n.text (.number n.canonical) := by
  intro rest hrest
  have hstop : rest.takeWhile isNumberChar = [] := by
    cases rest with
    | nil => rfl
    | cons c rest => rw [List.takeWhile_cons_of_neg (by rw [hrest c rfl]; decide)]
  have hchars := n.isNumberText.chars
  have htake : (n.text ++ rest).takeWhile isNumberChar = n.text := by
    rw [List.takeWhile_append_of_pos hchars, hstop, List.append_nil]
  have hdrop : (n.text ++ rest).dropWhile isNumberChar = rest := by
    have hwhole := List.takeWhile_append_dropWhile (p := isNumberChar) (l := n.text ++ rest)
    rw [htake] at hwhole
    exact List.append_cancel_left hwhole
  rw [number, htake, hdrop, Yaml.readNumber?_text]
  rfl

theorem value_of_isNumberHead {c : Char} (hc : isNumberHead c) (fuel : Nat) (rest : List Char) :
    value (fuel + 1) (c :: rest) = number (c :: rest) := if_pos hc

theorem value_of_isQuote {d : Char} (hd : IsQuote d) (fuel : Nat) (rest : List Char) :
    value (fuel + 1) (d :: rest) =
      (unquote d rest).map fun (s, rest) => (.string (String.ofList s), rest) := by
  rcases hd with rfl | rfl <;> rfl

mutual

/-- A value is read back without its tags, whatever follows. -/
theorem reads_chars : (v : Value) → ∀ fuel,
    (chars v).length < fuel → Reads (value fuel) (chars v) v.erased
  | v, 0, hfuel => absurd hfuel (Nat.not_lt_zero _)
  | .null, _ + 1, _ => fun _ _ => rfl
  | .bool true, _ + 1, _ => fun _ _ => rfl
  | .bool false, _ + 1, _ => fun _ _ => rfl
  | .number n, fuel + 1, _ => by
    intro rest hrest
    have hread := reads_number n rest hrest
    obtain ⟨c, hc, hhead⟩ := n.isNumberText.head
    obtain ⟨more, htext⟩ := List.head?_eq_some_iff.1 hc
    rw [htext, List.cons_append] at hread
    rw [chars, htext, List.cons_append, value_of_isNumberHead hhead, hread]
    rfl
  | .string s, fuel + 1, _ => by
    intro rest _
    have hquote := isQuote_delimiter s.toList
    have hread := unquote_flatMap hquote s.toList rest
    rw [chars, quote, List.cons_append, List.cons_append, List.append_assoc,
      List.singleton_append, value_of_isQuote hquote, hread, Value.erased]
    exact congrArg (fun t => some (Value.string t, rest)) String.ofList_toList
  | .sequence items, fuel + 1, hfuel => by
    intro rest _
    -- each item is shorter than the literal, and there are no more items than characters
    obtain ⟨hcount, hpieces⟩ := length_le_commaSeparated (itemChars items)
    rw [chars, List.length_append, List.length_cons, List.length_singleton] at hfuel
    have hitems := reads_itemChars items fuel fun s hs => by
      have hs := hpieces s hs
      omega
    have hread := bracketed_commaSeparated ']' fuel rfl (by decide) hitems
      (head_itemChars items) (by omega) rest
    rw [chars, List.cons_append, List.cons_append, List.append_assoc, List.singleton_append]
    change (bracketed ']' (value fuel) fuel _).map _ = _
    rw [hread]
    rfl
  | .mapping entries, fuel + 1, hfuel => by
    intro rest _
    obtain ⟨hcount, hpieces⟩ := length_le_commaSeparated (entryChars entries)
    rw [chars, List.length_append, List.length_cons, List.length_singleton] at hfuel
    have hentries := reads_entryChars entries fuel fun s hs => by
      have hs := hpieces s hs
      omega
    have hread := bracketed_commaSeparated '}' fuel rfl (by decide) hentries
      (head_entryChars entries) (by omega) rest
    rw [chars, List.cons_append, List.cons_append, List.append_assoc, List.singleton_append]
    change (bracketed '}' (entry (value fuel)) fuel _).map _ = _
    rw [hread]
    rfl
  | .tagged _ v, fuel + 1, hfuel => reads_chars v (fuel + 1) hfuel

theorem reads_itemChars : (items : List Value) → ∀ fuel,
    (∀ s ∈ itemChars items, s.length < fuel) →
    List.Forall₂ (Reads (value fuel)) (itemChars items) (Value.erasedItems items)
  | [], _, _ => .nil
  | v :: rest, fuel, hfuel => by
    rw [itemChars, List.forall_mem_cons] at hfuel
    exact .cons (reads_chars v fuel hfuel.1)
      (reads_itemChars rest fuel hfuel.2)

theorem reads_entryChars : (entries : List (Value × Value)) → ∀ fuel,
    (∀ s ∈ entryChars entries, s.length < fuel) →
    List.Forall₂ (Reads (entry (value fuel))) (entryChars entries)
      (Value.erasedEntries entries)
  | [], _, _ => .nil
  | (k, v) :: rest, fuel, hfuel => by
    rw [entryChars, List.forall_mem_cons, List.length_append, List.length_cons,
      List.length_cons] at hfuel
    exact .cons (reads_entry (reads_chars k fuel (by omega))
      (reads_chars v fuel (by omega))) (reads_entryChars rest fuel hfuel.2)

end

/-- A literal is read back as the value without its tags. -/
theorem decode_chars (v : Value) : decode (chars v) = some v.erased := by
  have hread := reads_chars v _ (Nat.lt_succ_self _) [] nofun
  rw [List.append_nil] at hread
  rw [decode, hread]

theorem erased_strings (items : List String) :
    Value.erasedItems (items.map .string) = items.map .string := by
  induction items with
  | nil => rfl
  | cons s items ih => rw [List.map_cons, Value.erasedItems, ih, Value.erased]

theorem itemChars_strings (items : List String) :
    itemChars (items.map .string) = items.map fun s => quote s.toList := by
  induction items with
  | nil => rfl
  | cons s items ih => rw [List.map_cons, itemChars, ih, chars, List.map_cons]

/-- A list of texts is written as the property that is the sequence of these texts. -/
theorem property?_strings (items : List String) :
    property? (.sequence (items.map .string)) = some (listText items) := by
  have htext : text (.sequence (items.map .string)) = listText items := by
    rw [text, chars, itemChars_strings, listText]
  exact congrArg some htext

/-- A literal is read back as the value without its tags, so that two values have the same literal
exactly if they are the same without them. Zero with a sign and without are different numbers, and
all that are no numbers are one. A literal has no line break and no tab, nor has the property of a
value that is no text. A list of texts is written as the sequence of these texts, and read back as
it. -/
theorem literals_unambiguous :
    (∀ v : Value, decode (text v).toList = some v.erased) ∧
    (∀ a b : Value, text a = text b ↔ a.erased = b.erased) ∧
    (∀ v : Value, OneLine (text v).toList ∧
      ∀ s, property? v = some s → (∀ t, v.untagged ≠ .string t) → OneLine s.toList) ∧
    ∀ items : List String, property? (.sequence (items.map .string)) = some (listText items) ∧
      decode (listText items).toList = some (.sequence (items.map .string)) := by
  have hdecode (v : Value) : decode (text v).toList = some v.erased := by
    rw [text, String.toList_ofList]
    exact decode_chars v
  refine ⟨hdecode, fun a b => ⟨fun htext => ?_, fun herased => ?_⟩,
    fun v => ⟨?_, fun s hs hv => ?_⟩,
    fun items => ⟨property?_strings items, ?_⟩⟩
  · have hread := hdecode a
    rw [htext, hdecode b] at hread
    exact (Option.some.inj hread).symm
  · rw [text, text, ← chars_erased a, ← chars_erased b, herased]
  · rw [text, String.toList_ofList]
    exact oneLine_chars v
  · exact oneLine_of_property? hs hv
  · have htext : text (.sequence (items.map .string)) = listText items :=
      Option.some.inj (property?_strings items)
    rw [← htext, hdecode, Value.erased, erased_strings]

end Literal

end DeploySync
