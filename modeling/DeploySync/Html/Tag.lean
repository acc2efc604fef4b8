import DeploySync.Html.Reference

/-!
# Tags

## Main definitions

* `Html.Attribute`, `Html.Tag` — a tag with its attributes
* `Html.Tag.attribute?` — the value of an attribute
* `Html.Tag.read?` — reads a tag, up to its end
-/

namespace DeploySync.Html

/-- The blank characters of HTML. -/
def isBlank (c : Char) : Bool := c == ' ' || c == '\n' || c == '\t' || c == '\x0c' || c == '\r'

/-- An attribute with its value. -/
structure Attribute where
  name : String
  value : String
  deriving DecidableEq, Repr

/-- A tag: the name of an element with attributes, and whether a slash closes the tag. -/
structure Tag where
  name : String
  attributes : List Attribute := []
  isClosed : Bool := false
  deriving DecidableEq, Repr

namespace Tag

/-- The value of an attribute; of two with one name the first one counts. -/
def attribute? (t : Tag) (name : String) : Option String :=
  (t.attributes.find? (·.name == name)).map (·.value)

private def dropBlanks (s : List Char) : List Char := s.dropWhile isBlank

private def writable (c : Char) : Char := if c == '\x00' then Reference.replacement else c

/-- A name in lower case. -/
private def nameText (s : List Char) : String :=
  String.ofList (s.map fun c => writable (Text.lower c))

/-- The text of a value. -/
private def valueText (s : List Char) : String :=
  String.ofList (Reference.expand (s.map writable))

/-- Cuts a text at a closing quote, which belongs to neither part. -/
private def cutQuoted (quote : Char) (s : List Char) : List Char × List Char :=
  (s.takeWhile (· != quote), (s.dropWhile (· != quote)).tail)

private def isBare (c : Char) : Bool := ! isBlank c && c != '>'

/-- Reads a value: between quotes, or up to a blank or the end of the tag. -/
private def readValue (s : List Char) : List Char × List Char :=
  match dropBlanks s with
  | '"' :: rest => cutQuoted '"' rest
  | '\'' :: rest => cutQuoted '\'' rest
  | rest => (rest.takeWhile isBare, rest.dropWhile isBare)

/-- Reads an equals sign with a value, or nothing. -/
private def readAssigned (s : List Char) : List Char × List Char :=
  match dropBlanks s with
  | '=' :: rest => readValue rest
  | rest => ([], rest)

private theorem length_dropWhile_le (p : Char → Bool) (s : List Char) :
    (s.dropWhile p).length ≤ s.length := (List.dropWhile_suffix p).length_le

private theorem length_cutQuoted_le (quote : Char) (s : List Char) :
    (cutQuoted quote s).2.length ≤ s.length := by
  have := length_dropWhile_le (· != quote) s
  simp only [cutQuoted, List.length_tail]
  omega

private theorem length_readValue_le (s : List Char) : (readValue s).2.length ≤ s.length := by
  have blanks := length_dropWhile_le isBlank s
  unfold readValue dropBlanks
  split
  case h_1 rest h => have := length_cutQuoted_le '"' rest; simp [h] at blanks; omega
  case h_2 rest h => have := length_cutQuoted_le '\'' rest; simp [h] at blanks; omega
  case h_3 => exact Nat.le_trans (length_dropWhile_le isBare _) blanks

private theorem length_readAssigned_le (s : List Char) : (readAssigned s).2.length ≤ s.length := by
  have blanks := length_dropWhile_le isBlank s
  unfold readAssigned dropBlanks
  split
  case h_1 rest h => have := length_readValue_le rest; simp [h] at blanks; omega
  case h_2 => exact blanks

private def isNameChar (c : Char) : Bool := isBare c && c != '/' && c != '='

/-- Reads attributes up to the end of the tag: the attributes, whether a slash closes the tag, and
what stands behind it. Nothing, if the tag does not end. -/
def readAttributes? (s : List Char) : Option (List Attribute × Bool × List Char) :=
  match _ : dropBlanks s with
  | [] => none
  | '>' :: rest => some ([], false, rest)
  | '/' :: '>' :: rest => some ([], true, rest)
  | '/' :: rest => readAttributes? rest
  | c :: rest =>
    let assigned := readAssigned (rest.dropWhile isNameChar)
    let first : Attribute := ⟨nameText (c :: rest.takeWhile isNameChar), valueText assigned.1⟩
    match readAttributes? assigned.2 with
    | some (more, isClosed, behind) => some (first :: more, isClosed, behind)
    | none => none
termination_by s.length
decreasing_by
  all_goals
    have blanks := length_dropWhile_le isBlank s
    have := length_readAssigned_le (rest.dropWhile isNameChar)
    have := length_dropWhile_le isNameChar rest
    simp_all only [dropBlanks, List.length_cons]
    omega

private def endsName (c : Char) : Bool := isBlank c || c == '/' || c == '>'

/-- Reads a tag from its name on; also gives what stands behind it. Nothing, if the tag does not
end. -/
def read? (s : List Char) : Option (Tag × List Char) :=
  match readAttributes? (s.dropWhile (! endsName ·)) with
  | some (attributes, isClosed, rest) =>
    some (⟨nameText (s.takeWhile (! endsName ·)), attributes, isClosed⟩, rest)
  | none => none

/-- What stands behind the attributes is shorter than the text. -/
theorem length_lt_of_readAttributes? {s : List Char} {attributes : List Attribute}
    {isClosed : Bool} {rest : List Char}
    (h : readAttributes? s = some (attributes, isClosed, rest)) : rest.length < s.length := by
  induction hs : s.length using Nat.strongRecOn generalizing s attributes isClosed rest with
  | ind n ih =>
    subst hs
    have blanks := length_dropWhile_le isBlank s
    rw [readAttributes?] at h
    split at h
    case h_1 => simp at h
    case h_2 r hr =>
      simp only [dropBlanks] at hr
      rw [hr, List.length_cons] at blanks
      simp only [Option.some.injEq, Prod.mk.injEq] at h
      obtain ⟨_, _, rfl⟩ := h
      omega
    case h_3 r hr =>
      simp only [dropBlanks] at hr
      rw [hr, List.length_cons, List.length_cons] at blanks
      simp only [Option.some.injEq, Prod.mk.injEq] at h
      obtain ⟨_, _, rfl⟩ := h
      omega
    case h_4 r _ hr =>
      simp only [dropBlanks] at hr
      rw [hr, List.length_cons] at blanks
      have := ih r.length (by omega) h rfl
      omega
    case h_5 c r _ _ _ hr =>
      simp only [dropBlanks] at hr
      rw [hr, List.length_cons] at blanks
      -- a name, perhaps with a value, and then the attributes behind it
      have assigned := length_readAssigned_le (r.dropWhile isNameChar)
      have names := length_dropWhile_le isNameChar r
      simp only at h
      split at h
      case h_1 more closed behind hm =>
        simp only [Option.some.injEq, Prod.mk.injEq] at h
        obtain ⟨_, _, rfl⟩ := h
        have := ih _ (by omega) hm rfl
        omega
      case h_2 => simp at h

/-- What stands behind a tag is shorter than the text. -/
theorem length_lt_of_read? {s : List Char} {tag : Tag} {rest : List Char}
    (h : read? s = some (tag, rest)) : rest.length < s.length := by
  unfold read? at h
  split at h
  case h_1 attributes isClosed r hr =>
    simp only [Option.some.injEq, Prod.mk.injEq] at h
    obtain ⟨_, rfl⟩ := h
    have := length_lt_of_readAttributes? hr
    have := length_dropWhile_le (! endsName ·) s
    omega
  case h_2 => simp at h

end Tag

end DeploySync.Html
