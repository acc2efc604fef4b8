import DeploySync.Proofs.Decimal.Shortest
import DeploySync.Yaml.Number

/-!
# Numbers read back

A double is written with the shortest digits that are rounded to it, either with all places or with
an exponent. Either way the decimal is read as one of the same value, and the double is made of it
again. Whole numbers have digits and a sign only, and no double is written so.

## Main definitions

* `Yaml.Spells` — a decimal is read as one of the same value
* `Double.canonical`, `Yaml.Number.canonical` — the doubles and the numbers that can be told apart
* `Yaml.readNumber?` — reads a number

## Main results

* `Yaml.spells_placed`, `Yaml.readDecimal?_scientific` — the two forms of decimals are read back
* `Yaml.readDouble?_doubleText`, `Yaml.readNumber?_text` — doubles and numbers are read back
-/

namespace DeploySync

namespace Yaml

variable {s t : List Char}

/-! ### Digits -/

theorem decimalValue_eq (s : List Char) : Text.decimalValue s = Nat.ofDigitChars 10 s 0 :=
  Nat.ofDigitChars_eq_foldl.symm

theorem decimalValue_toDigits (n : Nat) : Text.decimalValue (Nat.toDigits 10 n) = n := by
  rw [decimalValue_eq, Nat.ofDigitChars_ten_toDigits]

theorem decimalValue_append_zeros (s : List Char) (k : Nat) :
    Text.decimalValue (s ++ List.replicate k '0') = 10 ^ k * Text.decimalValue s := by
  rw [decimalValue_eq, Nat.ofDigitChars_append, Nat.ofDigitChars_replicate_zero, decimalValue_eq]

theorem decimalValue_zeros_append (k : Nat) (s : List Char) :
    Text.decimalValue (List.replicate k '0' ++ s) = Text.decimalValue s := by
  rw [decimalValue_eq, Nat.ofDigitChars_append, Nat.ofDigitChars_replicate_zero, Nat.mul_zero,
    decimalValue_eq]

/-- The text is made of digits only. -/
def IsDigits (s : List Char) : Prop := ∀ c ∈ s, Text.isDigit c

theorem isDigits_toDigits (n : Nat) : IsDigits (Nat.toDigits 10 n) := by
  intro c hc
  exact Nat.isDigit_of_mem_toDigits (b := 10) (by decide) (by decide) hc

theorem IsDigits.append (hs : IsDigits s) (ht : IsDigits t) : IsDigits (s ++ t) := by
  intro c hc
  exact (List.mem_append.1 hc).elim (hs c) (ht c)

theorem isDigits_zeros (k : Nat) : IsDigits (List.replicate k '0') := by
  intro c hc
  rw [List.eq_of_mem_replicate hc]
  rfl

/-- The text does not go on with a digit or a point. -/
def EndsNumber (s : List Char) : Prop := ∀ c ∈ s.head?, Text.isDigit c = false ∧ c ≠ '.'

theorem takeWhile_append (hs : IsDigits s) (ht : ∀ c ∈ t.head?, Text.isDigit c = false) :
    (s ++ t).takeWhile Text.isDigit = s := by
  rw [List.takeWhile_append_of_pos hs]
  cases t with
  | nil => rw [List.takeWhile_nil, List.append_nil]
  | cons c t =>
    rw [List.takeWhile_cons_of_neg (by simp [ht c rfl]), List.append_nil]

/-- What stands behind the digits and places of a decimal: nothing, or an exponent. -/
def withExponent? (n : Nat) (places : Nat) : List Char → Option (Nat × Int)
  | [] => some (n, -(places : Int))
  | e :: rest =>
    if e == 'e' || e == 'E' then
      let (negative, digits) := match rest with
        | '-' :: digits => (true, digits)
        | '+' :: digits => (false, digits)
        | _ => (false, rest)
      if digits.isEmpty || ! digits.all Text.isDigit then none
      else
        let exponent : Int := Text.decimalValue digits
        some (n, (if negative then -exponent else exponent) - places)
    else none

theorem readDecimal?_whole (hs : IsDigits s) (hne : s ≠ []) (ht : EndsNumber t) :
    readDecimal? (s ++ t) = withExponent? (Text.decimalValue s) 0 t := by
  have hwhole : (s ++ t).takeWhile Text.isDigit = s := takeWhile_append hs fun c hc => (ht c hc).1
  have hsome : s.isEmpty = false := by simpa using hne
  rw [readDecimal?]
  simp only [hwhole, List.drop_left]
  cases t with
  | nil => simp [hsome, withExponent?]
  | cons c t =>
    have hpoint : c ≠ '.' := (ht c rfl).2
    split
    · next rest heq => exact absurd (List.cons.inj heq).1 hpoint
    · rw [hsome, Bool.false_and, if_neg Bool.false_ne_true, List.append_nil]
      rfl

theorem readDecimal?_places {u : List Char} (hs : IsDigits s) (hne : s ≠ []) (ht : IsDigits t)
    (hu : EndsNumber u) :
    readDecimal? (s ++ '.' :: (t ++ u)) =
      withExponent? (Text.decimalValue (s ++ t)) t.length u := by
  have hwhole : (s ++ '.' :: (t ++ u)).takeWhile Text.isDigit = s :=
    takeWhile_append hs (by simp [Text.isDigit])
  have hplaces : (t ++ u).takeWhile Text.isDigit = t := takeWhile_append ht fun c hc => (hu c hc).1
  have hsome : s.isEmpty = false := by simpa using hne
  rw [readDecimal?]
  simp only [hwhole, List.drop_left, hplaces, hsome]
  rfl

/-- An exponent is read behind its letter. -/
theorem withExponent?_exponent (n places k : Nat) (negative : Bool) {digits : List Char}
    (hdigits : IsDigits digits) (hne : digits ≠ []) (hk : Text.decimalValue digits = k) :
    withExponent? n places ('e' :: ((if negative then ['-'] else []) ++ digits)) =
      some (n, (if negative then -(k : Int) else k) - places) := by
  have hall : digits.all Text.isDigit = true := List.all_eq_true.2 hdigits
  have hsome : digits.isEmpty = false := by simpa using hne
  cases negative with
  | true =>
    change withExponent? n places ('e' :: '-' :: digits) = _
    rw [withExponent?]
    simp [hall, hsome, hk]
  | false =>
    -- a digit is neither of the signs that could stand behind the letter
    obtain ⟨c, rest, rfl⟩ := List.exists_cons_of_ne_nil hne
    have hdigit : Text.isDigit c := hdigits c List.mem_cons_self
    have hminus : c ≠ '-' := by
      rintro rfl
      exact absurd hdigit (by decide)
    have hplus : c ≠ '+' := by
      rintro rfl
      exact absurd hdigit (by decide)
    change withExponent? n places ('e' :: c :: rest) = _
    rw [withExponent?]
    · simp only [hall, hk]
      rfl
    · intro digits h
      exact hminus (List.cons.inj h).1
    · intro digits h
      exact hplus (List.cons.inj h).1

/-! ### Decimals -/

/-- The decimal is read as one of the same value, which is not zero if it has a digit that is
not. -/
def Spells (s : List Char) (n : Nat) (power : Int) : Prop :=
  ∃ n' power', readDecimal? s = some (n', power') ∧
    (n' * 10 ^ power' : ℚ) = n * 10 ^ power ∧ (0 < n → 0 < n')

theorem readDecimal?_point (hs : IsDigits s) (hne : s ≠ []) (ht : IsDigits t) :
    readDecimal? (s ++ '.' :: t) = some (Text.decimalValue (s ++ t), -(t.length : Int)) := by
  have hread := readDecimal?_places (u := []) hs hne ht nofun
  rwa [List.append_nil] at hread

section Placed

variable {digits : List Char} {places : Nat}

/-- The point behind the digits, and zeros between them. -/
theorem spells_point_behind (hdigits : IsDigits digits) (hne : digits ≠ []) (k : Nat) :
    Spells ((digits ++ List.replicate k '0') ++ '.' :: ['0']) (Text.decimalValue digits) k := by
  have hzero : IsDigits ['0'] := isDigits_zeros 1
  refine ⟨_, _, readDecimal?_point (hdigits.append (isDigits_zeros k)) (by simp [hne]) hzero, ?_,
    ?_⟩
  · rw [← List.replicate_one, decimalValue_append_zeros, decimalValue_append_zeros]
    push_cast
    rw [zpow_natCast, List.length_singleton, zpow_neg, Nat.cast_one, zpow_one]
    ring
  · intro hn
    rw [← List.replicate_one, decimalValue_append_zeros, decimalValue_append_zeros]
    positivity

/-- The point among the digits. -/
theorem spells_point_among (hdigits : IsDigits digits) (hlt : places < digits.length) :
    Spells (digits.take (digits.length - places) ++ '.' :: digits.drop (digits.length - places))
      (Text.decimalValue digits) (-places) := by
  refine ⟨_, _, readDecimal?_point (fun c hc => hdigits c (List.mem_of_mem_take hc)) ?_
    (fun c hc => hdigits c (List.mem_of_mem_drop hc)), ?_, ?_⟩
  · rw [← List.length_pos_iff, List.length_take]
    omega
  · rw [List.take_append_drop, List.length_drop, Nat.sub_sub_self hlt.le]
  · rw [List.take_append_drop]
    exact id

/-- The point in front of the digits, and zeros between them. -/
theorem spells_point_before (hdigits : IsDigits digits) (hle : digits.length ≤ places) :
    Spells (['0'] ++ '.' :: (List.replicate (places - digits.length) '0' ++ digits))
      (Text.decimalValue digits) (-places) := by
  have hzero : IsDigits ['0'] := isDigits_zeros 1
  refine ⟨_, _, readDecimal?_point hzero (List.cons_ne_nil _ _)
    ((isDigits_zeros _).append hdigits), ?_, ?_⟩
  · rw [← List.replicate_one, decimalValue_zeros_append, decimalValue_zeros_append,
      List.length_append, List.length_replicate, Nat.sub_add_cancel hle]
  · rw [← List.replicate_one, decimalValue_zeros_append, decimalValue_zeros_append]
    exact id

end Placed

/-- Digits with all places are read back. -/
theorem spells_placed (n : Nat) (power : Int) :
    Spells (Double.placed (Nat.toDigits 10 n) power) n power := by
  have hdigits := isDigits_toDigits n
  have hne : Nat.toDigits 10 n ≠ [] := Nat.toDigits_ne_nil
  have hvalue := decimalValue_toDigits n
  have hplaced : Double.placed (Nat.toDigits 10 n) power =
      if 0 ≤ power then (Nat.toDigits 10 n ++ List.replicate power.toNat '0') ++ '.' :: ['0']
      else if (-power).toNat < (Nat.toDigits 10 n).length then
        (Nat.toDigits 10 n).take ((Nat.toDigits 10 n).length - (-power).toNat) ++
          '.' :: (Nat.toDigits 10 n).drop ((Nat.toDigits 10 n).length - (-power).toNat)
      else ['0'] ++ '.' :: (List.replicate ((-power).toNat - (Nat.toDigits 10 n).length) '0' ++
        Nat.toDigits 10 n) := rfl
  rw [hplaced]
  generalize Nat.toDigits 10 n = digits at *
  rw [← hvalue]
  split
  · next hpower =>
    have hspells := spells_point_behind hdigits hne power.toNat
    rwa [Int.toNat_of_nonneg hpower] at hspells
  · next hpower =>
    have hplaces : -(((-power).toNat : Nat) : Int) = power := by omega
    split
    · next hlt =>
      have hspells := spells_point_among hdigits hlt
      rwa [hplaces] at hspells
    · next hge =>
      have hspells := spells_point_before hdigits (not_lt.1 hge)
      rwa [hplaces] at hspells

/-- The letter of an exponent, its sign and its digits. -/
def exponentText (width : Nat) (x : Int) : List Char :=
  'e' :: ((if decide (x < 0) then ['-'] else []) ++
    (List.replicate (width - (Nat.toDigits 10 x.natAbs).length) '0' ++ Nat.toDigits 10 x.natAbs))

theorem withExponent?_exponentText (n places width : Nat) (x : Int) :
    withExponent? n places (exponentText width x) = some (n, x - places) := by
  have habs : (if decide (x < 0) then -(x.natAbs : Int) else x.natAbs) = x := by
    simp only [decide_eq_true_eq]
    split <;> omega
  rw [exponentText, withExponent?_exponent n places x.natAbs (decide (x < 0))
    ((isDigits_zeros _).append (isDigits_toDigits _)) (by simp [Nat.toDigits_ne_nil])
    (by rw [decimalValue_zeros_append, decimalValue_toDigits]), habs]

theorem endsNumber_exponentText (width : Nat) (x : Int) : EndsNumber (exponentText width x) := by
  intro c hc
  obtain rfl := Option.some.inj hc
  exact ⟨rfl, by decide⟩

/-- Digits with an exponent: there is a point behind the first of several digits. -/
theorem scientific_eq {f : Double.Format} (hf : f.signed = false) (digits : List Char)
    (power : Int) :
    Double.scientific f digits power =
      (match digits with
        | [] => []
        | [d] => [d]
        | d :: more => d :: '.' :: more) ++
        exponentText f.exponentWidth (power + digits.length - 1) := by
  have hsign (x : Int) : (if x < 0 then ['-'] else if f.signed then ['+'] else []) =
      if decide (x < 0) then ['-'] else [] := by
    rw [hf]
    simp
  rw [exponentText, ← hsign]
  simp only [Double.scientific, List.append_assoc, List.cons_append]
  rfl

/-- Digits with an exponent are read back. -/
theorem readDecimal?_scientific {f : Double.Format} (hf : f.signed = false) (n : Nat)
    (power : Int) :
    readDecimal? (Double.scientific f (Nat.toDigits 10 n) power) = some (n, power) := by
  have hdigits := isDigits_toDigits n
  have hne : Nat.toDigits 10 n ≠ [] := Nat.toDigits_ne_nil
  have hvalue := decimalValue_toDigits n
  have hends := endsNumber_exponentText f.exponentWidth (power + (Nat.toDigits 10 n).length - 1)
  rw [scientific_eq hf]
  generalize Nat.toDigits 10 n = digits at *
  -- a single digit is written without a point
  rcases digits with _ | ⟨d, _ | ⟨d', more⟩⟩
  · exact absurd rfl hne
  · refine (readDecimal?_whole hdigits hne hends).trans ?_
    rw [withExponent?_exponentText, hvalue]
    simp
  · have hmore : IsDigits (d' :: more) := fun c hc => hdigits c (List.mem_cons_of_mem _ hc)
    have hfirst : IsDigits [d] := by
      intro c hc
      rw [List.mem_singleton.1 hc]
      exact hdigits d List.mem_cons_self
    refine (readDecimal?_places hfirst (List.cons_ne_nil _ _) hmore hends).trans ?_
    rw [withExponent?_exponentText, List.singleton_append, hvalue]
    simp only [List.length_cons, Option.some.injEq, Prod.mk.injEq, true_and]
    omega

theorem spells_scientific {f : Double.Format} (hf : f.signed = false) (n : Nat) (power : Int) :
    Spells (Double.scientific f (Nat.toDigits 10 n) power) n power :=
  ⟨n, power, readDecimal?_scientific hf n power, rfl, id⟩

/-! ### Doubles -/

theorem readDecimal?_sign {c : Char} (hdigit : Text.isDigit c = false) (hpoint : c ≠ '.')
    (s : List Char) : readDecimal? (c :: s) = none := by
  have hwhole : (c :: s).takeWhile Text.isDigit = [] := by
    rw [List.takeWhile_cons_of_neg (by simp [hdigit])]
  rw [readDecimal?]
  simp only [hwhole]
  split
  · next rest heq => exact absurd (List.cons.inj heq).1 hpoint
  · rfl

/-- A decimal that is not too large is read as a double, with a sign in front of it. -/
theorem readDouble?_of_readDecimal? {n : Nat} {power : Int}
    (hread : readDecimal? s = some (n, power)) (hfinite : (Double.ofDecimal n power).isFinite)
    (negative : Bool) :
    readDouble? ((if negative then ['-'] else []) ++ s) =
      some ((Double.ofDecimal n power).withSign negative) := by
  -- no name is a decimal, and no decimal starts with a sign
  have hname (t : List Char) (ht : readDecimal? t = none) : s ≠ t := by
    rintro rfl
    rw [ht] at hread
    cases hread
  have hplus (rest : List Char) : s = '+' :: rest → False :=
    hname _ (readDecimal?_sign rfl (by decide) rest)
  have hminus (rest : List Char) : s = '-' :: rest → False :=
    hname _ (readDecimal?_sign rfl (by decide) rest)
  have hnames (names : List String) (h : ∀ t ∈ names, readDecimal? t.toList = none) :
      names.contains (String.ofList s) = false := by
    rw [List.contains_eq_mem, decide_eq_false_iff_not]
    intro hmem
    exact hname _ (h _ hmem) String.toList_ofList.symm
  -- with its sign the decimal is no name either: behind the sign of a name there is none
  have hsigned (names : List String)
      (h : ∀ t ∈ names, ∀ u, t.toList = '-' :: u → readDecimal? u = none) :
      names.contains (String.ofList ('-' :: s)) = false := by
    rw [List.contains_eq_mem, decide_eq_false_iff_not]
    intro hmem
    exact hname _ (h _ hmem s String.toList_ofList) rfl
  cases negative with
  | false =>
    change readDouble? s = _
    rw [readDouble?]
    · dsimp only
      rw [hnames _ (by decide), hnames _ (by decide), hnames _ (by decide), hread]
      exact if_pos hfinite
    · exact hminus
    · exact hplus
  | true =>
    change readDouble? ('-' :: s) = _
    rw [readDouble?]
    · dsimp only
      rw [hsigned _ (by simp), hsigned _ (by simpa using ⟨rfl, rfl, rfl⟩), hsigned _ (by simp),
        hread]
      exact if_pos hfinite

end Yaml

namespace Double

variable {d : Double} {m : Nat} {e : Int}

/-- The double, or the one number that is none. -/
def canonical (d : Double) : Double := if d.isNaN then nan else d

theorem toNat_withSign (negative : Bool) (d : Double) :
    (d.withSign negative).bits.toNat =
      d.bits.toNat % 2 ^ 63 + if negative then 2 ^ 63 else 0 := by
  have hpow : Nat.pow 2 63 = 2 ^ 63 := rfl
  rw [withSign, hpow, UInt64.toNat_ofNat_of_lt']
  rw [UInt64.size]
  split <;> omega

theorem isFinite_withSign (negative : Bool) (d : Double) :
    (d.withSign negative).isFinite = d.isFinite := by
  have hexponent (d : Double) : d.exponentField = d.bits.toNat / 2 ^ 52 % 2 ^ 11 := rfl
  have hlt := d.bits.toNat_lt
  have heq : (d.withSign negative).exponentField = d.exponentField := by
    rw [hexponent, hexponent, toNat_withSign]
    split <;> omega
  rw [isFinite, isFinite, heq]

/-- What is neither finite nor undefined is infinite. -/
theorem withSign_infinity (hfinite : d.isFinite = false) (hnan : d.isNaN = false) :
    infinity.withSign d.isNegative = d := by
  have hexponent : d.exponentField = d.bits.toNat / 2 ^ 52 % 2 ^ 11 := rfl
  have hmantissa : d.mantissaField = d.bits.toNat % 2 ^ 52 := rfl
  have hnegative : d.isNegative = decide (2 ^ 63 ≤ d.bits.toNat) := rfl
  have hinfinity : infinity.bits.toNat = 0x7FF0000000000000 := rfl
  have hlt := d.bits.toNat_lt
  have hfield : d.exponentField = 2047 := by simpa [isFinite] using hfinite
  have hzero : d.mantissaField = 0 := by simpa [isNaN, hfield] using hnan
  have hbits : (infinity.withSign d.isNegative).bits.toNat = d.bits.toNat := by
    rw [toNat_withSign, hinfinity, hnegative]
    simp only [decide_eq_true_eq]
    split <;> omega
  exact congrArg Double.mk (UInt64.toNat_inj.1 hbits)

theorem isZero_iff (d : Double) : d.isZero ↔ d.magnitude.1 = 0 := by
  have hpow : Nat.pow 2 52 = 2 ^ 52 := rfl
  rw [isZero, magnitude]
  split
  · next hexponent => simp [hexponent]
  · next hexponent =>
    simp only [hexponent, hpow]
    simp

end Double

namespace Yaml

theorem spells_isFinite {d : Double} (hd : d.isFinite) (hzero : d.isZero = false) {s : List Char}
    (hs : Spells s d.shortest.1 d.shortest.2) :
    readDouble? ((if d.isNegative then ['-'] else []) ++ s) = some d := by
  have hpos : 0 < d.magnitude.1 := by
    refine Nat.pos_of_ne_zero fun hmagnitude => ?_
    rw [(Double.isZero_iff d).2 hmagnitude] at hzero
    cases hzero
  obtain ⟨hshortest, hrounds⟩ := Double.shortest_spec hd hpos
  obtain ⟨n, power, hread, hvalue, hn⟩ := hs
  rw [← hvalue] at hrounds
  have hmade := Double.ofDecimal_eq (Double.isMagnitude_magnitude hd) hpos
    (hn (Nat.pos_of_ne_zero hshortest)) hrounds
  have hwhole := Double.withSign_ofMagnitude d
  rw [← hmade] at hwhole
  have hfinite : (Double.ofDecimal n power).isFinite := by
    rw [← Double.isFinite_withSign d.isNegative, hwhole]
    exact hd
  rw [readDouble?_of_readDecimal? hread hfinite, hwhole]

/-- Nothing with its sign is read back. -/
theorem readDouble?_zero {d : Double} (hzero : d.isZero) :
    readDouble? ((if d.isNegative then ['-'] else []) ++ ['0', '.', '0']) = some d := by
  have hmade : Double.ofDecimal 0 (-1) = ⟨0⟩ := by
    rw [Double.ofDecimal]
    exact if_pos rfl
  have hsmall : 0 < Nat.pow 2 52 := Nat.pow_pos (by decide)
  have hwhole : (⟨0⟩ : Double).withSign d.isNegative = d := by
    have hwhole := Double.withSign_ofMagnitude d
    rwa [(Double.isZero_iff d).1 hzero, Double.ofMagnitude, if_pos hsmall] at hwhole
  have hread : readDecimal? ['0', '.', '0'] = some (0, -1) := rfl
  rw [readDouble?_of_readDecimal? hread (by rw [hmade]; rfl), hmade, hwhole]

/-- Doubles are read back. -/
theorem readDouble?_doubleText (d : Double) : readDouble? (doubleText d) = some d.canonical := by
  rw [doubleText, Double.canonical]
  split
  · rfl
  · next hnan =>
    have hnan : d.isNaN = false := by simpa using hnan
    split
    · next hfinite =>
      -- an infinite double is read from its name
      have hfinite : d.isFinite = false := by simpa using hfinite
      have hwhole := Double.withSign_infinity hfinite hnan
      cases hnegative : d.isNegative with
      | true =>
        rw [hnegative] at hwhole
        rw [← hwhole]
        rfl
      | false =>
        rw [hnegative] at hwhole
        rw [← hwhole]
        rfl
    · next hfinite =>
      have hfinite : d.isFinite := by simpa using hfinite
      rw [Double.text]
      split
      · next hzero => exact readDouble?_zero hzero
      · next hzero =>
        -- the shortest digits, with all places or with an exponent
        have hzero : d.isZero = false := by simpa using hzero
        dsimp only
        split
        · exact spells_isFinite hfinite hzero (spells_placed _ _)
        · exact spells_isFinite hfinite hzero (spells_scientific rfl _ _)

/-! ### Numbers -/

/-- The whole number that digits spell, with a minus sign or without. -/
def wholeValue? (s : List Char) : Option Int :=
  match s with
  | '-' :: digits =>
    if digits.all Text.isDigit then some (-(Text.decimalValue digits : Int)) else none
  | digits => if digits.all Text.isDigit then some (Text.decimalValue digits : Int) else none

/-- Reads a number: a whole one if there are digits only, and a double otherwise. -/
def readNumber? (s : List Char) : Option Number :=
  match wholeValue? s with
  | some n => some (.whole n)
  | none => (readDouble? s).map .double

/-- The number, or the one number that is none. -/
def Number.canonical : Number → Number
  | .whole n => .whole n
  | .double d => .double d.canonical

/-- Numbers that cannot be told apart are written alike. -/
theorem text_canonical (n : Number) : n.canonical.text = n.text := by
  cases n with
  | whole n => rfl
  | double d =>
    rw [Number.canonical, Number.text, Number.text, Double.canonical]
    split
    · next hnan =>
      rw [doubleText, doubleText, if_pos hnan]
      rfl
    · rfl

theorem wholeValue?_wholeText (n : Int) : wholeValue? (wholeText n) = some n := by
  have hall : (Nat.toDigits 10 n.natAbs).all Text.isDigit = true :=
    List.all_eq_true.2 (isDigits_toDigits _)
  rw [wholeText]
  split
  · next hn =>
    have habs : -((n.natAbs : Nat) : Int) = n := by omega
    rw [wholeValue?, if_pos hall, decimalValue_toDigits, habs]
  · next hn =>
    have habs : ((n.natAbs : Nat) : Int) = n := by omega
    have hminus (digits : List Char) : Nat.toDigits 10 n.natAbs = '-' :: digits → False := by
      intro heq
      have hdigit := isDigits_toDigits n.natAbs '-' (by rw [heq]; exact List.mem_cons_self)
      exact absurd hdigit (by decide)
    rw [wholeValue?, if_pos hall, decimalValue_toDigits, habs]
    exact hminus

/-- What has another character than digits behind its sign is no whole number. -/
theorem wholeValue?_eq_none {c : Char} (hmem : c ∈ s) (hc : Text.isDigit c = false)
    (hminus : ∀ rest, s = '-' :: rest → False) (negative : Bool) :
    wholeValue? ((if negative then ['-'] else []) ++ s) = none := by
  have hall : ¬ s.all Text.isDigit = true := by
    intro hall
    rw [List.all_eq_true.1 hall c hmem] at hc
    cases hc
  cases negative with
  | true => exact if_neg hall
  | false =>
    change wholeValue? s = none
    rw [wholeValue?, if_neg hall]
    exact hminus

theorem point_mem_placed (digits : List Char) (power : Int) : '.' ∈ Double.placed digits power := by
  rw [Double.placed]
  split
  · simp
  · dsimp only
    split <;> simp

theorem Spells.ne_minus {n : Nat} {power : Int} (h : Spells s n power) (rest : List Char) :
    s = '-' :: rest → False := by
  rintro rfl
  obtain ⟨n', power', hread, -⟩ := h
  rw [readDecimal?_sign rfl (by decide)] at hread
  cases hread

/-- No double is written like a whole number. -/
theorem wholeValue?_doubleText (d : Double) : wholeValue? (doubleText d) = none := by
  rw [doubleText]
  split
  · rfl
  · split
    · split <;> rfl
    · -- a point or an exponent is in the text, and in no whole number
      rw [Double.text]
      split
      · have hzero : Spells ['0', '.', '0'] 0 (-1) := ⟨0, -1, rfl, rfl, id⟩
        exact wholeValue?_eq_none (c := '.') (by simp) rfl hzero.ne_minus d.isNegative
      · dsimp only
        split
        · exact wholeValue?_eq_none (point_mem_placed _ _) rfl (spells_placed _ _).ne_minus
            d.isNegative
        · have hletter : 'e' ∈ Double.scientific doubleFormat (Nat.toDigits 10 d.shortest.1)
              d.shortest.2 := by
            rw [scientific_eq rfl]
            exact List.mem_append_right _ List.mem_cons_self
          exact wholeValue?_eq_none hletter rfl (spells_scientific rfl _ _).ne_minus d.isNegative

/-- Numbers are read back. -/
theorem readNumber?_text (n : Number) : readNumber? n.text = some n.canonical := by
  cases n with
  | whole n =>
    rw [Number.text, readNumber?, wholeValue?_wholeText]
    rfl
  | double d =>
    rw [Number.text, readNumber?, wholeValue?_doubleText, readDouble?_doubleText]
    rfl

end Yaml

end DeploySync
