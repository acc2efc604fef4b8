import DeploySync.Proofs.Json.Document
import DeploySync.Proofs.Bytes
import DeploySync.Proofs.Text.Split
import Mathlib.Algebra.BigOperators.Group.List.Basic
import Mathlib.Data.List.Forall2
import Mathlib.Tactic.IntervalCases
import Mathlib.Tactic.SplitIfs

/-!
# JSON read back

## Main definitions

* `Json.Step.Reads` — from the bytes a step reads a value, whatever follows
* `Json.Value.Readable` — values without numbers, nested less deep than a bound

## Main results

* `Json.Step.reads_string` — a quoted text is read back
* `Json.parse?_pretty` — a value without numbers is read back from the lines it is written on
-/

namespace DeploySync.Json

namespace Step

variable {α β : Type}

/-- The bytes of characters. -/
def bytes (s : List Char) : List UInt8 := s.flatMap String.utf8EncodeChar

theorem bytes_append (s t : List Char) : bytes (s ++ t) = bytes s ++ bytes t := List.flatMap_append

/-- From the bytes the step reads the value, whatever follows. -/
def Reads (p : Step α) (s : List UInt8) (a : α) : Prop :=
  ∀ rest i, ∃ j, p.run ⟨s ++ rest, i⟩ = .ok (a, ⟨rest, j⟩)

/-- Behind what was read a step goes on. -/
theorem run_bind_of_ok {p : Step α} {f : α → Step β} {r r' : Reader} {a : α}
    (h : p.run r = .ok (a, r')) : (p >>= f).run r = (f a).run r' := by
  rw [StateT.run_bind, h]
  rfl

theorem run_skip (b : UInt8) (rest : List UInt8) (i : Nat) :
    skip.run ⟨b :: rest, i⟩ = .ok ((), ⟨rest, i + 1⟩) := rfl

theorem Reads.bind {p : Step α} {f : α → Step β} {s t : List UInt8} {a : α} {b : β}
    (hp : Reads p s a) (hf : Reads (f a) t b) : Reads (p >>= f) (s ++ t) b := by
  intro rest i
  obtain ⟨j, hj⟩ := hp (t ++ rest) i
  obtain ⟨k, hk⟩ := hf rest j
  refine ⟨k, ?_⟩
  rw [List.append_assoc, run_bind_of_ok hj]
  exact hk

theorem reads_pure (a : α) : Reads (pure a) [] a := fun _ i => ⟨i, rfl⟩

/-! ### Blanks -/

/-- The bytes that are passed as blanks. -/
def isBlank (b : UInt8) : Bool := b == 32 || b == 10 || b == 9 || b == 13

theorem run_skipSpace_eq (s : List UInt8) (i : Nat) :
    skipSpace.run ⟨s, i⟩ = .ok ((s.drop (s.takeWhile isBlank).length).head?,
      ⟨s.drop (s.takeWhile isBlank).length, i + (s.takeWhile isBlank).length⟩) := rfl

/-- Blanks are passed up to the byte at which they end. -/
theorem run_skipSpace {s : List UInt8} (hs : ∀ b ∈ s, isBlank b) {b : UInt8}
    (hb : isBlank b = false)
    (rest : List UInt8) (i : Nat) :
    skipSpace.run ⟨s ++ b :: rest, i⟩ = .ok (some b, ⟨b :: rest, i + s.length⟩) := by
  have hstop : (s ++ b :: rest).takeWhile isBlank = s := by
    rw [List.takeWhile_append_of_pos hs, List.takeWhile_cons_of_neg (by simp [hb]), List.append_nil]
  rw [run_skipSpace_eq, hstop, List.drop_left]
  rfl

theorem run_skipSpace_of_not {b : UInt8} (hb : isBlank b = false) (rest : List UInt8) (i : Nat) :
    skipSpace.run ⟨b :: rest, i⟩ = .ok (some b, ⟨b :: rest, i⟩) :=
  run_skipSpace (List.forall_mem_nil _) hb rest i

/-! ### Texts -/

/-- A byte of a text that stands for itself. -/
def IsPlainByte (b : UInt8) : Prop := b ≠ 34 ∧ b ≠ 92 ∧ 32 ≤ b

/-- With enough fuel the bytes of a text are read up to its closing quote. -/
def Spells (s text rest : List UInt8) : Prop :=
  ∀ fuel, s.length < fuel → ∀ i, ∃ j, (stringBytes fuel).run ⟨s, i⟩ = .ok (text, ⟨rest, j⟩)

theorem spells_quote (rest : List UInt8) : Spells (34 :: rest) [] rest := by
  intro fuel hfuel i
  obtain ⟨fuel, rfl⟩ : ∃ n, fuel = n + 1 := Nat.exists_eq_add_one_of_ne_zero (by omega)
  exact ⟨i + 1, rfl⟩

/-- A plain byte stands for itself. -/
theorem Spells.cons {s text rest : List UInt8} (h : Spells s text rest) {b : UInt8}
    (hb : IsPlainByte b) : Spells (b :: s) (b :: text) rest := by
  intro fuel hfuel i
  obtain ⟨fuel, rfl⟩ : ∃ n, fuel = n + 1 := Nat.exists_eq_add_one_of_ne_zero (by omega)
  rw [List.length_cons, Nat.add_lt_add_iff_right] at hfuel
  obtain ⟨j, hj⟩ := h fuel hfuel (i + 1)
  refine ⟨j, ?_⟩
  -- the byte ends no text, starts no escape and is not forbidden
  have hquote : ¬ (b == 34) = true := by simpa using hb.1
  have hslash : ¬ (b == 92) = true := by simpa using hb.2.1
  have hcontrol : ¬ b < 32 := by simpa using hb.2.2
  change ((if b == 34 then _ else if b == 92 then _ else if b < 32 then _ else _) :
    Step (List UInt8)).run ⟨b :: s, i⟩ = _
  rw [if_neg hquote, if_neg hslash, if_neg hcontrol]
  change ((stringBytes fuel).run ⟨s, i + 1⟩ >>= fun x => .ok (b :: x.1, x.2)) = _
  rw [hj]
  rfl

/-- An escape stands for its character. -/
theorem Spells.escaped {s text rest e : List UInt8} {c : Char} (h : Spells s text rest)
    (he : Reads escape e c) : Spells (92 :: (e ++ s)) (String.utf8EncodeChar c ++ text) rest := by
  intro fuel hfuel i
  obtain ⟨fuel, rfl⟩ : ∃ n, fuel = n + 1 := Nat.exists_eq_add_one_of_ne_zero (by omega)
  rw [List.length_cons, Nat.add_lt_add_iff_right, List.length_append] at hfuel
  obtain ⟨k, hk⟩ := he s (i + 1)
  obtain ⟨j, hj⟩ := h fuel (by omega) k
  refine ⟨j, ?_⟩
  change (escape.run ⟨e ++ s, i + 1⟩ >>= fun x =>
    (stringBytes fuel).run x.2 >>= fun y => .ok (String.utf8EncodeChar x.1 ++ y.1, y.2)) = _
  rw [hk]
  change ((stringBytes fuel).run ⟨s, k⟩ >>= fun y => .ok (String.utf8EncodeChar c ++ y.1, y.2)) = _
  rw [hj]
  rfl

theorem isPlainByte_of_le {b : UInt8} (hb : 128 ≤ b.toNat) : IsPlainByte b := by
  refine ⟨?_, ?_, UInt8.le_iff_toNat_le.2 (Nat.le_trans (by decide) hb)⟩
  · rintro rfl
    exact absurd hb (by decide)
  · rintro rfl
    exact absurd hb (by decide)

/-- The bytes of a character beyond the first 128 are plain, and any other is one byte. -/
theorem utf8EncodeChar_cases (c : Char) :
    (c.toNat < 128 ∧ String.utf8EncodeChar c = [UInt8.ofNat c.toNat]) ∨
      ∀ b ∈ String.utf8EncodeChar c, IsPlainByte b := by
  have hhigh {n : Nat} (hlow : 128 ≤ n) (hn : n < 256) : IsPlainByte (UInt8.ofNat n) := by
    refine isPlainByte_of_le ?_
    rw [UInt8.toNat_ofNat_of_lt' hn]
    exact hlow
  rw [String.utf8EncodeChar]
  -- where there are several bytes, each has its highest bit set
  split_ifs with h1 h2 h3
  · exact .inl ⟨Nat.lt_succ_of_le h1, rfl⟩
  · right
    simp only [List.forall_mem_cons, List.not_mem_nil, false_imp_iff, implies_true, and_true]
    exact ⟨hhigh (by omega) (by omega), hhigh (by omega) (by omega)⟩
  · right
    simp only [List.forall_mem_cons, List.not_mem_nil, false_imp_iff, implies_true, and_true]
    exact ⟨hhigh (by omega) (by omega), hhigh (by omega) (by omega), hhigh (by omega) (by omega)⟩
  · right
    simp only [List.forall_mem_cons, List.not_mem_nil, false_imp_iff, implies_true, and_true]
    exact ⟨hhigh (by omega) (by omega), hhigh (by omega) (by omega), hhigh (by omega) (by omega),
      hhigh (by omega) (by omega)⟩

/-- A character that is no quote, no backslash and no control character stands for itself. -/
theorem Spells.char {s text rest : List UInt8} (h : Spells s text rest) {c : Char}
    (hquote : c ≠ '"')
    (hslash : c ≠ '\\') (hcontrol : 32 ≤ c.toNat) :
    Spells (String.utf8EncodeChar c ++ s) (String.utf8EncodeChar c ++ text) rest := by
  have hplain : ∀ b ∈ String.utf8EncodeChar c, IsPlainByte b := by
    rcases utf8EncodeChar_cases c with ⟨hlt, hbyte⟩ | hplain
    · have hne {d : Char} (hd : c ≠ d) : c.toNat ≠ d.toNat := fun heq => hd (Char.toNat_inj.1 heq)
      have htoNat : (UInt8.ofNat c.toNat).toNat = c.toNat :=
        UInt8.toNat_ofNat_of_lt' (Nat.lt_trans hlt (by decide))
      rw [hbyte, List.forall_mem_singleton]
      refine ⟨fun heq => hne hquote ?_, fun heq => hne hslash ?_, UInt8.le_iff_toNat_le.2 ?_⟩
      · rw [← htoNat, heq]
        rfl
      · rw [← htoNat, heq]
        rfl
      · rw [htoNat]
        exact hcontrol
    · exact hplain
  -- the bytes are read one by one
  generalize String.utf8EncodeChar c = l at hplain
  induction l with
  | nil => exact h
  | cons b l ih =>
    rw [List.forall_mem_cons] at hplain
    exact (ih hplain.2).cons hplain.1

/-- The escape of a control character is read back. -/
theorem reads_escape_control {n : Nat} (hn : n < 32) :
    ∃ e, bytes (Json.escape (Char.ofNat n)) = 92 :: e ∧ Reads escape e (Char.ofNat n) := by
  -- some have a letter and the others a number, so each of them is read on its own
  interval_cases n <;> exact ⟨_, rfl, fun rest i => ⟨_, rfl⟩⟩

/-- A character that is no control character is escaped only if it is a quote or a backslash. -/
theorem escape_eq_self {c : Char} (hquote : c ≠ '"') (hslash : c ≠ '\\')
    (hcontrol : ¬ c.toNat < 32) :
    Json.escape c = [c] := by
  have hne {d : Char} (hd : d.toNat < 32) : c ≠ d := by
    rintro rfl
    exact hcontrol hd
  rw [Json.escape, if_neg hquote, if_neg hslash, if_neg (hne (by decide)), if_neg (hne (by decide)),
    if_neg (hne (by decide)), if_neg (hne (by decide)), if_neg (hne (by decide)), if_neg hcontrol]

/-- A character is read back as it is written. -/
theorem Spells.written {s text rest : List UInt8} (h : Spells s text rest) (c : Char) :
    Spells (bytes (Json.escape c) ++ s) (String.utf8EncodeChar c ++ text) rest := by
  by_cases hcontrol : c.toNat < 32
  · obtain ⟨e, hbytes, hread⟩ := reads_escape_control hcontrol
    rw [Char.ofNat_toNat] at hbytes hread
    rw [hbytes]
    exact h.escaped hread
  · by_cases hquote : c = '"'
    · subst hquote
      exact h.escaped (e := [34]) fun rest i => ⟨_, rfl⟩
    · by_cases hslash : c = '\\'
      · subst hslash
        exact h.escaped (e := [92]) fun rest i => ⟨_, rfl⟩
      · rw [escape_eq_self hquote hslash hcontrol, bytes, List.flatMap_singleton]
        exact h.char hquote hslash (Nat.le_of_not_lt hcontrol)

theorem spells_escaped (s : List Char) (rest : List UInt8) :
    Spells (bytes (s.flatMap Json.escape) ++ 34 :: rest) (bytes s) rest := by
  induction s with
  | nil => exact spells_quote rest
  | cons c s ih =>
    rw [List.flatMap_cons, bytes_append, List.append_assoc]
    exact ih.written c

/-- A string is made of bytes that are the bytes of a text. -/
theorem run_string {r r' : Reader} {read : List UInt8} {s : String}
    (hread : (stringBytes (r.rest.length + 1)).run r = .ok (read, r'))
    (htext : Bytes.text? ⟨read.toArray⟩ = some s) : string.run r = .ok (s, r') := by
  rw [string]
  refine (run_bind_of_ok (rfl : (get : Step Reader).run r = .ok (r, r))).trans ?_
  refine (run_bind_of_ok hread).trans ?_
  rw [htext]
  rfl

/-- A quoted text is read back. -/
theorem reads_string (s : String) :
    Reads string (bytes (s.toList.flatMap Json.escape) ++ [34]) s := by
  intro rest i
  rw [List.append_assoc, List.singleton_append]
  -- the fuel is one more than the bytes that are left
  obtain ⟨j, hj⟩ := spells_escaped s.toList rest _ (Nat.lt_succ_self _) i
  refine ⟨j, run_string hj ?_⟩
  have harray : (⟨(bytes s.toList).toArray⟩ : ByteArray) = (bytes s.toList).toByteArray :=
    ByteArray.ext List.data_toByteArray.symm
  have htext := Bytes.text?_flatMap s.toList
  rwa [String.ofList_toList, ← bytes, ← harray] at htext

/-! ### Lists of pieces -/

/-- The bytes spell a piece of a list: a step reads it from them, and they do not start like a
blank, a comma or the end of the list. -/
structure IsPiece (close : Char) (p : Step α) (s : List UInt8) (a : α) : Prop where
  head : ∃ b, s.head? = some b ∧ isBlank b = false ∧ b ≠ UInt8.ofNat close.toNat
  reads : Reads p s a

section Pieces

variable {close : Char} {piece : Step α} {start stop : List UInt8}

/-- The first piece is read, and then the others. -/
theorem reads_pieces_first {s t : List UInt8} {a : α} {as : List α} (hs : IsPiece close piece s a)
    (hstart : ∀ b ∈ start, isBlank b) {fuel : Nat}
    (h : Reads (pieces close piece false fuel) t as) :
    Reads (pieces close piece true (fuel + 1)) (start ++ (s ++ t)) (a :: as) := by
  intro rest i
  obtain ⟨b, hhead, hblank, hclose⟩ := hs.head
  obtain ⟨more, rfl⟩ := List.head?_eq_some_iff.1 hhead
  obtain ⟨j, hj⟩ := hs.reads (t ++ rest) (i + start.length)
  obtain ⟨k, hk⟩ := h rest j
  have hbyte : ¬ (b == UInt8.ofNat close.toNat) = true := by simpa using hclose
  rw [List.cons_append] at hj
  refine ⟨k, ?_⟩
  rw [List.append_assoc, List.append_assoc, List.cons_append, pieces,
    run_bind_of_ok (run_skipSpace hstart hblank _ i)]
  dsimp only
  rw [if_neg hbyte, if_pos rfl, run_bind_of_ok hj, run_bind_of_ok hk]
  rfl

/-- Another piece is read behind a comma, and then the others. -/
theorem reads_pieces_next {s t : List UInt8} {a : α} {as : List α} (hs : IsPiece close piece s a)
    (hcomma : UInt8.ofNat close.toNat ≠ 44) (hstart : ∀ b ∈ start, isBlank b) {fuel : Nat}
    (h : Reads (pieces close piece false fuel) t as) :
    Reads (pieces close piece false (fuel + 1)) (44 :: (start ++ (s ++ t))) (a :: as) := by
  intro rest i
  obtain ⟨b, hhead, hblank, hclose⟩ := hs.head
  obtain ⟨more, rfl⟩ := List.head?_eq_some_iff.1 hhead
  obtain ⟨j, hj⟩ := hs.reads (t ++ rest) (i + 1 + start.length)
  obtain ⟨k, hk⟩ := h rest j
  have hbyte : ¬ (b == UInt8.ofNat close.toNat) = true := by simpa using hclose
  have hnot : ¬ ((44 : UInt8) == UInt8.ofNat close.toNat) = true := by simpa using hcomma.symm
  rw [List.cons_append] at hj
  refine ⟨k, ?_⟩
  rw [List.cons_append, List.append_assoc, List.append_assoc, List.cons_append, pieces,
    run_bind_of_ok (run_skipSpace_of_not (b := 44) rfl _ i)]
  dsimp only
  rw [if_neg hnot, if_neg Bool.false_ne_true, if_pos (beq_self_eq_true _),
    run_bind_of_ok (run_skip 44 _ i), run_bind_of_ok (run_skipSpace hstart hblank _ (i + 1))]
  dsimp only
  rw [if_neg hbyte, run_bind_of_ok hj, run_bind_of_ok hk]
  rfl

/-- At the end of the list there are no more pieces. -/
theorem reads_pieces_end (hclose : isBlank (UInt8.ofNat close.toNat) = false)
    (hstop : ∀ b ∈ stop, isBlank b) (first : Bool) (fuel : Nat) :
    Reads (pieces close piece first (fuel + 1)) (stop ++ [UInt8.ofNat close.toNat]) [] := by
  intro rest i
  refine ⟨i + stop.length + 1, ?_⟩
  rw [List.append_assoc, List.singleton_append, pieces,
    run_bind_of_ok (run_skipSpace hstop hclose rest i)]
  dsimp only
  rw [if_pos (beq_self_eq_true _), run_bind_of_ok (run_skip _ rest _)]
  rfl

/-- Pieces behind commas are read up to the end of the list. -/
theorem reads_pieces (hclose : isBlank (UInt8.ofNat close.toNat) = false)
    (hcomma : UInt8.ofNat close.toNat ≠ 44) (hstart : ∀ b ∈ start, isBlank b)
    (hstop : ∀ b ∈ stop, isBlank b) {ss : List (List UInt8)} {as : List α}
    (h : List.Forall₂ (IsPiece close piece) ss as) {fuel : Nat} (hfuel : ss.length < fuel) :
    Reads (pieces close piece false fuel)
      (ss.flatMap (fun s => 44 :: (start ++ s)) ++ (stop ++ [UInt8.ofNat close.toNat])) as := by
  induction h generalizing fuel with
  | nil =>
    obtain ⟨fuel, rfl⟩ : ∃ n, fuel = n + 1 := Nat.exists_eq_add_one_of_ne_zero (by omega)
    exact reads_pieces_end hclose hstop false fuel
  | @cons s a ss as hs h ih =>
    obtain ⟨fuel, rfl⟩ : ∃ n, fuel = n + 1 := Nat.exists_eq_add_one_of_ne_zero (by omega)
    rw [List.length_cons, Nat.add_lt_add_iff_right] at hfuel
    have hread := reads_pieces_next hs hcomma hstart (ih hfuel)
    rwa [List.flatMap_cons, List.cons_append, List.cons_append, List.append_assoc,
      List.append_assoc]

/-- The start of a line is blank. -/
theorem isBlank_bytes_indent (level : Nat) : ∀ b ∈ bytes (indent level), isBlank b := by
  rw [indent, bytes, List.flatMap_cons, List.forall_mem_append]
  refine ⟨List.all_eq_true.1 rfl, fun b hb => ?_⟩
  obtain ⟨c, hc, hb⟩ := List.mem_flatMap.1 hb
  obtain rfl : c = ' ' := List.eq_of_mem_replicate hc
  exact List.all_eq_true.1 (rfl : (String.utf8EncodeChar ' ').all isBlank = true) b hb

theorem length_le_length_flatMap {β γ : Type} {f : β → List γ} (s : List β)
    (hf : ∀ b, 1 ≤ (f b).length) : s.length ≤ (s.flatMap f).length := by
  rw [List.length_flatMap]
  calc s.length = (s.map fun b => (f b).length).length := (List.length_map _).symm
    _ ≤ (s.map fun b => (f b).length).sum :=
      List.length_le_sum_of_one_le _ (List.forall_mem_map.2 fun b _ => hf b)

theorem bytes_block (level : Nat) (left right : Char) (s : List Char) (ss : List (List Char)) :
    bytes (block level left right (s :: ss)) =
      bytes [left] ++ (bytes (indent (level + 1)) ++ (bytes s ++
        ((ss.map bytes).flatMap (fun s => 44 :: (bytes (indent (level + 1)) ++ s)) ++
          (bytes (indent level) ++ bytes [right])))) := by
  have hjoin : bytes (Text.join (',' :: indent (level + 1)) (s :: ss)) = bytes s ++
      (ss.map bytes).flatMap fun s => 44 :: (bytes (indent (level + 1)) ++ s) := by
    rw [Text.join_cons_eq_flatMap, bytes_append, List.flatMap_map, bytes, bytes, List.flatMap_assoc]
    refine congrArg (bytes s ++ ·) (List.flatMap_congr fun t _ => ?_)
    exact bytes_append (',' :: indent (level + 1)) t
  rw [block, ← List.singleton_append, bytes_append, bytes_append, bytes_append, bytes_append, hjoin]
  · simp only [List.append_assoc]
  · exact List.cons_ne_nil s ss

/-- Pieces on lines of their own between two brackets are read behind the first bracket. -/
theorem reads_block (hclose : isBlank (UInt8.ofNat close.toNat) = false)
    (hcomma : UInt8.ofNat close.toNat ≠ 44) (hbytes : bytes [close] = [UInt8.ofNat close.toNat])
    (level : Nat) (left : Char) {texts : List (List Char)} {as : List α}
    (h : List.Forall₂ (fun s a => IsPiece close piece (bytes s) a) texts as) :
    ∃ t, bytes (block level left close texts) = bytes [left] ++ t ∧
      ∀ fuel, t.length < fuel → Reads (pieces close piece true fuel) t as := by
  cases h with
  | nil =>
    refine ⟨bytes [close], bytes_append [left] [close], fun fuel hfuel => ?_⟩
    obtain ⟨fuel, rfl⟩ : ∃ n, fuel = n + 1 := Nat.exists_eq_add_one_of_ne_zero (by omega)
    rw [hbytes]
    exact reads_pieces_end hclose (List.forall_mem_nil _) true fuel
  | @cons s a ss as hs h =>
    refine ⟨_, bytes_block level left close s ss, fun fuel hfuel => ?_⟩
    obtain ⟨fuel, rfl⟩ : ∃ n, fuel = n + 1 := Nat.exists_eq_add_one_of_ne_zero (by omega)
    have hpieces : List.Forall₂ (IsPiece close piece) (ss.map bytes) as :=
      List.forall₂_map_left_iff.2 h
    -- every piece but the first has a comma, so that the fuel suffices for all of them
    have hlength := length_le_length_flatMap (ss.map bytes)
      (f := fun s => 44 :: (bytes (indent (level + 1)) ++ s)) fun s => Nat.le_add_left 1 _
    rw [hbytes] at hfuel ⊢
    rw [List.length_append, List.length_append, List.length_append, List.length_append,
      List.length_singleton] at hfuel
    exact reads_pieces_first hs (isBlank_bytes_indent _)
      (reads_pieces hclose hcomma (isBlank_bytes_indent _) (isBlank_bytes_indent _) hpieces
        (by omega))

end Pieces

/-! ### Values -/

/-- A value is read behind blanks as it is read without them. -/
theorem run_value_append (depth : Nat) {s : List UInt8} (hs : ∀ b ∈ s, isBlank b) {b : UInt8}
    (hb : isBlank b = false) (rest : List UInt8) (i : Nat) :
    (value (depth + 1)).run ⟨s ++ b :: rest, i⟩ =
      (value (depth + 1)).run ⟨b :: rest, i + s.length⟩ := by
  rw [value, run_bind_of_ok (run_skipSpace hs hb rest i),
    run_bind_of_ok (run_skipSpace_of_not hb rest (i + s.length))]

theorem run_value_quote (depth : Nat) (t : List UInt8) (i : Nat) :
    (value (depth + 1)).run ⟨34 :: t, i⟩ =
      (string.run ⟨t, i + 1⟩ >>= fun x => .ok (.string x.1, x.2)) := rfl

theorem run_value_bracket (depth : Nat) (t : List UInt8) (i : Nat) :
    (value (depth + 1)).run ⟨91 :: t, i⟩ =
      ((pieces ']' (value depth) true (t.length + 1)).run ⟨t, i + 1⟩ >>= fun x =>
        .ok (.array x.1, x.2)) := rfl

/-- Reads a member of an object. -/
def member (depth : Nat) : Step (String × Value) := do
  let key ← memberKey
  return (key, ← value depth)

theorem run_value_brace (depth : Nat) (t : List UInt8) (i : Nat) :
    (value (depth + 1)).run ⟨123 :: t, i⟩ =
      ((pieces '}' (member depth) true (t.length + 1)).run ⟨t, i + 1⟩ >>= fun x =>
        .ok (.object x.1, x.2)) := rfl

theorem bytes_quote (s : String) :
    bytes (quote s) = 34 :: (bytes (s.toList.flatMap Json.escape) ++ [34]) := by
  rw [quote, bytes_append, ← List.singleton_append, bytes_append]
  rfl

/-- The key of a member is read up to the colon behind it. -/
theorem reads_memberKey (key : String) : Reads memberKey (bytes (quote key) ++ [58]) key := by
  intro rest i
  obtain ⟨j, hj⟩ := reads_string key (58 :: rest) (i + 1)
  refine ⟨j + 1, ?_⟩
  rw [List.append_assoc, bytes_quote, List.cons_append, List.singleton_append, memberKey,
    run_bind_of_ok (run_skipSpace_of_not rfl _ i)]
  change (skip >>= fun _ => _ : Step String).run _ = _
  rw [run_bind_of_ok (run_skip 34 _ i), run_bind_of_ok hj,
    run_bind_of_ok (run_skipSpace_of_not rfl rest j)]
  rfl

end Step

/-- The value has no numbers, and is nested less deep than this. -/
inductive Value.Readable : Nat → Value → Prop where
  | null {depth : Nat} : Readable (depth + 1) .null
  | bool {depth : Nat} (b : Bool) : Readable (depth + 1) (.bool b)
  | string {depth : Nat} (s : String) : Readable (depth + 1) (.string s)
  | array {depth : Nat} {items : List Value} (h : ∀ v ∈ items, Readable depth v) :
      Readable (depth + 1) (.array items)
  | object {depth : Nat} {members : List (String × Value)} (h : ∀ m ∈ members, Readable depth m.2) :
      Readable (depth + 1) (.object members)

theorem prettyItems_eq_map (level : Nat) (items : List Value) :
    prettyItems level items = items.map (Value.pretty level) := by
  induction items with
  | nil => rfl
  | cons v items ih => rw [prettyItems, ih, List.map_cons]

theorem prettyMembers_eq_map (level : Nat) (members : List (String × Value)) :
    prettyMembers level members =
      members.map fun m => quote m.1 ++ [':', ' '] ++ m.2.pretty level := by
  induction members with
  | nil => rfl
  | cons m members ih => rw [prettyMembers, ih, List.map_cons]

namespace Step

/-- A member is read as its key and its value are. -/
theorem IsPiece.member {depth level : Nat} (key : String) {v : Value}
    (h : IsPiece ']' (value (depth + 1)) (bytes (v.pretty level)) v) :
    IsPiece '}' (Step.member (depth + 1)) (bytes (quote key ++ [':', ' '] ++ v.pretty level))
      (key, v) := by
  refine ⟨⟨34, by rw [bytes_append, bytes_append, bytes_quote]; rfl, rfl, by decide⟩, ?_⟩
  have hvalue : Reads (value (depth + 1)) (32 :: bytes (v.pretty level)) v := by
    obtain ⟨b, hhead, hblank, -⟩ := h.head
    obtain ⟨t, ht⟩ := List.head?_eq_some_iff.1 hhead
    intro rest i
    obtain ⟨j, hj⟩ := h.reads rest (i + 1)
    rw [ht] at hj ⊢
    exact ⟨j, (run_value_append depth (s := [32]) (List.all_eq_true.1 rfl) hblank _ i).trans hj⟩
  have hbytes : bytes (quote key ++ [':', ' '] ++ v.pretty level) =
      bytes (quote key) ++ [58] ++ (32 :: bytes (v.pretty level) ++ []) := by
    rw [bytes_append, bytes_append, List.append_nil, List.append_assoc, List.append_assoc]
    rfl
  rw [hbytes]
  exact (reads_memberKey key).bind (hvalue.bind (reads_pure (key, v)))

theorem isPiece_string (depth level : Nat) (s : String) :
    IsPiece ']' (value (depth + 1)) (bytes ((Value.string s).pretty level)) (.string s) := by
  rw [Value.pretty, bytes_quote]
  refine ⟨⟨34, rfl, rfl, by decide⟩, fun rest i => ?_⟩
  obtain ⟨j, hj⟩ := reads_string s rest (i + 1)
  refine ⟨j, ?_⟩
  rw [List.cons_append, run_value_quote, hj]
  rfl

/-- An array is read as its items are. -/
theorem isPiece_array {depth level : Nat} {items : List Value}
    (h : ∀ v ∈ items, IsPiece ']' (value depth) (bytes (v.pretty (level + 1))) v) :
    IsPiece ']' (value (depth + 1)) (bytes ((Value.array items).pretty level)) (.array items) := by
  have hpieces : List.Forall₂ (fun s v => IsPiece ']' (value depth) (bytes s) v)
      (items.map (Value.pretty (level + 1))) items :=
    List.forall₂_map_left_iff.2 (List.forall₂_same.2 h)
  obtain ⟨t, hbytes, hread⟩ := reads_block rfl (by decide) rfl level '[' hpieces
  rw [Value.pretty, prettyItems_eq_map, hbytes]
  refine ⟨⟨91, rfl, rfl, by decide⟩, fun rest i => ?_⟩
  obtain ⟨j, hj⟩ := hread ((t ++ rest).length + 1) (by rw [List.length_append]; omega) rest (i + 1)
  refine ⟨j, (run_value_bracket depth (t ++ rest) i).trans ?_⟩
  rw [hj]
  rfl

/-- An object is read as its members are. -/
theorem isPiece_object {depth level : Nat} {members : List (String × Value)}
    (h : ∀ m ∈ members, IsPiece '}' (Step.member depth)
      (bytes (quote m.1 ++ [':', ' '] ++ m.2.pretty (level + 1))) m) :
    IsPiece ']' (value (depth + 1)) (bytes ((Value.object members).pretty level))
      (.object members) := by
  have hpieces : List.Forall₂ (fun s v => IsPiece '}' (Step.member depth) (bytes s) v)
      (members.map fun m => quote m.1 ++ [':', ' '] ++ m.2.pretty (level + 1)) members :=
    List.forall₂_map_left_iff.2 (List.forall₂_same.2 h)
  obtain ⟨t, hbytes, hread⟩ := reads_block rfl (by decide) rfl level '{' hpieces
  rw [Value.pretty, prettyMembers_eq_map, hbytes]
  refine ⟨⟨123, rfl, rfl, by decide⟩, fun rest i => ?_⟩
  obtain ⟨j, hj⟩ := hread ((t ++ rest).length + 1) (by rw [List.length_append]; omega) rest (i + 1)
  refine ⟨j, (run_value_brace depth (t ++ rest) i).trans ?_⟩
  rw [hj]
  rfl

/-- A value is read back from several lines. -/
theorem isPiece_value {depth : Nat} {v : Value} (h : v.Readable depth) (level : Nat) :
    IsPiece ']' (value depth) (bytes (v.pretty level)) v := by
  induction h generalizing level with
  | null => exact ⟨⟨110, rfl, rfl, by decide⟩, fun _ _ => ⟨_, rfl⟩⟩
  | bool b =>
    cases b with
    | false => exact ⟨⟨102, rfl, rfl, by decide⟩, fun _ _ => ⟨_, rfl⟩⟩
    | true => exact ⟨⟨116, rfl, rfl, by decide⟩, fun _ _ => ⟨_, rfl⟩⟩
  | string s => exact isPiece_string _ level s
  | array h ih => exact isPiece_array fun v hv => ih v hv (level + 1)
  | @object depth members h ih =>
    refine isPiece_object fun m hm => ?_
    -- a member is read with its key, and nothing can be nested at depth zero
    cases depth with
    | zero => exact nomatch h m hm
    | succ depth => exact (ih m hm (level + 1)).member m.1

end Step

/-- What a step reads up to the end is read from the bytes as a whole. -/
theorem read?_eq_some {α : Type} {p : Step α} {s : List UInt8} {a : α} {j : Nat}
    (h : p.run ⟨s, 0⟩ = .ok (a, ⟨[], j⟩)) : read? p s = some a := by
  rw [read?, Step.whole, Step.run_bind_of_ok h]
  rfl

/-- A value without numbers that is not nested too deep is read back. -/
theorem parse?_pretty {v : Value} (h : v.Readable maxDepth) (level : Nat) :
    parse? (String.ofList (v.pretty level)) = some v := by
  have hbytes := Bytes.toList_ofText (String.ofList (v.pretty level))
  rw [String.toList_ofList, Bytes.ofText] at hbytes
  obtain ⟨j, hj⟩ := (Step.isPiece_value h level).reads [] 0
  rw [List.append_nil, Step.bytes, ← hbytes] at hj
  exact read?_eq_some hj

end DeploySync.Json
