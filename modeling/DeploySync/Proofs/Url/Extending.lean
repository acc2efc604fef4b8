import DeploySync.Proofs.Text.Split
import DeploySync.Proofs.Url.Percent
import DeploySync.Url.Basic

/-!
# URLs extended

Segments that are added to a URL are read back as they were given, unless they are dot segments or
have tabs or line breaks. Parameters are read back whatever they are.

## Main definitions

* `Url.IsKept` — a segment that is kept when it is added
* `Url.IsPlain` — a segment that is added without escapes
* `Url.Spells` — a URL has a segment behind a path, and it spells a text
* `Url.parameters` — the parameters of the query

## Main results

* `Url.addSegment_of_isKept`, `Url.addSegment_of_not_isKept` — what is added for a segment
* `Url.addSegments?_eq` — a URL with segments behind its path
* `Url.parameters_addParameter` — a parameter is read back behind the others
* `Url.exists_of_parse` — a URL of a common structure has a host and a path of segments
-/

namespace DeploySync.Url

variable {u : Url} {special : Bool} {path front : List (List Char)} {s last : List Char}

/-! ### Segments -/

/-- A segment that is kept when it is added: it is no dot segment, and has no tab and no line
break. -/
structure IsKept (s : List Char) : Prop where
  not_ignored : ∀ c ∈ s, isIgnored c = false
  ne_dot : s ≠ ['.']
  ne_dots : s ≠ ['.', '.']

instance (s : List Char) : Decidable (IsKept s) :=
  decidable_of_iff ((s.all (! isIgnored ·)) ∧ s ≠ ['.'] ∧ s ≠ ['.', '.'])
    ⟨fun ⟨h, h', h''⟩ => ⟨by simpa using h, h', h''⟩,
      fun h => ⟨by simpa using h.not_ignored, h.ne_dot, h.ne_dots⟩⟩

/-- A segment that is added without escapes, whatever the URL. -/
structure IsPlain (s : List Char) : Prop where
  isKept : IsKept s
  not_escaped : ∀ c ∈ s, inSegment true c = false

instance (s : List Char) : Decidable (IsPlain s) :=
  decidable_of_iff (IsKept s ∧ (s.all (! inSegment true ·)))
    ⟨fun ⟨h, h'⟩ => ⟨h, by simpa using h'⟩, fun h => ⟨h.isKept, by simpa using h.not_escaped⟩⟩

theorem filter_eq_self_iff : s.filter (! isIgnored ·) = s ↔ ∀ c ∈ s, isIgnored c = false := by
  simp [List.filter_eq_self]

theorem addSegment_of_isKept (hs : IsKept s) (special : Bool) (path : List (List Char)) :
    addSegment special path s = path ++ [encodeWith (inSegment special) s] := by
  have hfilter : s.filter (! isIgnored ·) = s := filter_eq_self_iff.2 hs.not_ignored
  simp [addSegment, hfilter, hs.ne_dot, hs.ne_dots]

theorem inSegment_of_true {c : Char} (hc : inSegment true c = false) (special : Bool) :
    inSegment special c = false := by
  cases special with
  | true => exact hc
  | false => simp_all [inSegment]

theorem addSegment_of_isPlain (hs : IsPlain s) (special : Bool) (path : List (List Char)) :
    addSegment special path s = path ++ [s] := by
  rw [addSegment_of_isKept hs.isKept, encodeWith_eq_self]
  exact fun c hc => inSegment_of_true (hs.not_escaped c hc) special

/-- The percent sign is escaped in segments, so that they are read back. -/
theorem decoded?_segment (special : Bool) (s : List Char) :
    decoded? (encodeWith (inSegment special) s) = some (String.ofList s) :=
  decoded?_encodeWith (by cases special <;> decide) s

/-- A segment without escapes spells itself. -/
theorem decoded?_of_isPlain (hs : IsPlain s) : decoded? s = some (String.ofList s) := by
  have hself : encodeWith (inSegment true) s = s := encodeWith_eq_self hs.not_escaped
  have hspells := decoded?_segment true s
  rwa [hself] at hspells

/-- For a segment that is not kept, either nothing is added, or the last segment is taken away and
an empty one added, or one that spells another text. -/
theorem addSegment_of_not_isKept (hs : ¬ IsKept s) (special : Bool) :
    ((s = ['.'] ∨ s = ['.', '.']) ∧ ∀ path, addSegment special path s = path) ∨
      (∀ path, addSegment special path s = path.dropLast ++ [[]]) ∨
      ∃ segment, decoded? segment ≠ some (String.ofList s) ∧
        ∀ path, addSegment special path s = path ++ [segment] := by
  by_cases hdot : s = ['.'] ∨ s = ['.', '.']
  · exact Or.inl ⟨hdot, fun path => by simp [addSegment, hdot]⟩
  · rw [not_or] at hdot
    -- something is dropped from the segment
    have hne : s.filter (! isIgnored ·) ≠ s := fun heq =>
      hs ⟨filter_eq_self_iff.1 heq, hdot.1, hdot.2⟩
    have hadd (path : List (List Char)) : addSegment special path s =
        if s.filter (! isIgnored ·) == ['.'] then path ++ [[]]
        else if s.filter (! isIgnored ·) == ['.', '.'] then path.dropLast ++ [[]]
        else path ++ [encodeWith (inSegment special) (s.filter (! isIgnored ·))] := by
      simp [addSegment, hdot.1, hdot.2]
    have hspells (kept : List Char) (hkept : kept ≠ s) :
        decoded? (encodeWith (inSegment special) kept) ≠ some (String.ofList s) := by
      rw [decoded?_segment, Ne, Option.some_inj, String.ofList_inj]
      exact hkept
    right
    by_cases hone : s.filter (! isIgnored ·) == ['.']
    · right
      refine ⟨[], hspells [] ?_, fun path => by rw [hadd, if_pos hone]⟩
      rintro rfl
      cases hone
    · by_cases htwo : s.filter (! isIgnored ·) == ['.', '.']
      · exact Or.inl fun path => by rw [hadd, if_neg hone, if_pos htwo]
      · exact Or.inr ⟨_, hspells _ hne, fun path => by rw [hadd, if_neg hone, if_neg htwo]⟩

/-- Whatever is added leaves all but the last segment. -/
theorem exists_addSegment_append (special : Bool) (path : List (List Char))
    (first second : List Char) (more : List (List Char)) (s : List Char) :
    ∃ rest, addSegment special (path ++ first :: second :: more) s = path ++ first :: rest := by
  by_cases hs : IsKept s
  · rw [addSegment_of_isKept hs, List.append_assoc]
    exact ⟨_, rfl⟩
  · rcases addSegment_of_not_isKept hs special with ⟨-, hadd⟩ | hadd | ⟨segment, -, hadd⟩ <;>
      rw [hadd]
    · exact ⟨_, rfl⟩
    · rw [List.dropLast_append_of_ne_nil (List.cons_ne_nil _ _), List.dropLast_cons_cons,
        List.append_assoc]
      exact ⟨_, rfl⟩
    · rw [List.append_assoc]
      exact ⟨_, rfl⟩

/-- The segments of a URL, but for an empty last one. -/
def basePath (u : Url) : List (List Char) :=
  match u.path with
  | .segments path => if path.getLast? == some [] then path.dropLast else path
  | .opaqueText _ => []

/-- A URL with segments behind its path. -/
theorem addSegments?_eq (hpath : u.path = .segments path) (segments : List (List Char)) :
    u.addSegments? segments = some { u with
      path := .segments (segments.foldl (addSegment (isSpecial u.scheme)) u.basePath) } := by
  rw [addSegments?, basePath, hpath]

/-- Segments without escapes are added as they are. -/
theorem foldl_addSegment {segments : List (List Char)} (h : ∀ s ∈ segments, IsPlain s)
    (special : Bool) (path : List (List Char)) :
    segments.foldl (addSegment special) path = path ++ segments := by
  induction segments generalizing path with
  | nil => exact (List.append_nil path).symm
  | cons s segments ih =>
    rw [List.forall_mem_cons] at h
    rw [List.foldl_cons, addSegment_of_isPlain h.1, ih h.2, List.append_assoc]
    rfl

/-- The URL has a segment behind the path, and it spells the text. -/
def Spells (u : Url) (front : List (List Char)) (text : String) : Prop :=
  ∃ segment rest, u.path = .segments (front ++ segment :: rest) ∧ decoded? segment = some text

/-- Behind a path, the segment that was added there spells the text that it was added for exactly
if it was kept. -/
theorem spells_addSegment_iff {more : List (List Char)} (hlast : last ≠ [])
    (hmore : ¬ IsKept s → ∀ segment ∈ more.head?, decoded? segment ≠ some (String.ofList s))
    (hpath : u.path = .segments (addSegment special (front ++ [last]) s ++ more)) :
    u.Spells (front ++ [last]) (String.ofList s) ↔ IsKept s := by
  constructor
  · rintro ⟨segment, rest, heq, hspells⟩
    by_contra hs
    rw [hpath, UrlPath.segments.injEq] at heq
    rcases addSegment_of_not_isKept hs special with ⟨-, hadd⟩ | hadd | ⟨other, hother, hadd⟩ <;>
      rw [hadd] at heq
    · -- nothing was added, and the next segment stands in its place
      obtain rfl := List.append_cancel_left heq
      exact hmore hs segment rfl hspells
    · -- the last segment of the path has given way
      rw [List.dropLast_concat, List.append_assoc, List.append_assoc] at heq
      exact hlast (List.cons.inj (List.append_cancel_left heq)).1.symm
    · -- a segment was added that spells another text
      rw [List.append_assoc] at heq
      obtain rfl := (List.cons.inj (List.append_cancel_left heq)).1
      exact hother hspells
  · intro hs
    rw [addSegment_of_isKept hs, List.append_assoc] at hpath
    exact ⟨_, more, hpath, decoded?_segment special s⟩

/-- The same of a segment that was added a second time, with others in between. -/
theorem exists_spells_addSegment_iff {more : List (List Char)} (hlast : last ≠ [])
    (hmore : more ≠ []) (hpath : u.path = .segments
      (addSegment special (addSegment special (front ++ [last]) s ++ more) s)) :
    (∃ first, u.Spells (front ++ [last] ++ first :: more) (String.ofList s)) ↔ IsKept s := by
  constructor
  · rintro ⟨first, segment, rest, heq, hspells⟩
    by_contra hs
    rw [hpath, UrlPath.segments.injEq] at heq
    rcases addSegment_of_not_isKept hs special with ⟨-, hadd⟩ | hadd | ⟨other, hother, hadd⟩
    · -- nothing was added, so that there is no room for the segments
      rw [hadd, hadd] at heq
      have hlength := congrArg List.length heq
      simp only [List.length_append, List.length_cons, List.length_nil] at hlength
      omega
    · -- the last segment of the path gave way the first time
      rw [hadd, hadd, List.dropLast_concat, List.dropLast_append_of_ne_nil hmore] at heq
      simp only [List.append_assoc] at heq
      exact hlast (List.cons.inj (List.append_cancel_left heq)).1.symm
    · rw [hadd, hadd] at heq
      simp only [List.append_assoc, List.cons_append, List.nil_append] at heq
      have hcancel := (List.cons.inj (List.cons.inj (List.append_cancel_left heq)).2).2
      obtain rfl := (List.cons.inj (List.append_cancel_left hcancel)).1
      exact hother hspells
  · intro hs
    rw [addSegment_of_isKept hs, addSegment_of_isKept hs] at hpath
    refine ⟨encodeWith (inSegment special) s, _, [], ?_, decoded?_segment special s⟩
    rw [hpath]
    simp only [List.append_assoc, List.cons_append, List.nil_append]

/-- URLs that differ in their last segment are written in different ways. -/
theorem segment_eq_of_text_eq {t : List Char} (hhost : u.host.isSome)
    (h : ({ u with path := .segments (front ++ [s]) } : Url).text =
      ({ u with path := .segments (front ++ [t]) } : Url).text) : s = t := by
  have hnone : u.host.isNone = false := by
    rw [← Option.not_isSome, hhost]
    rfl
  have hauthority (path : UrlPath) : ({ u with path := path } : Url).authority = u.authority := rfl
  rw [text, text, String.ofList_inj, chars, chars] at h
  -- what stands in front of the path and behind it is the same
  simp only [hnone, hauthority, Bool.false_and, Bool.false_eq_true, if_false,
    List.append_cancel_right_eq] at h
  have hpath := List.append_cancel_left h
  rw [pathText, pathText, List.flatMap_append, List.flatMap_append] at hpath
  have hlast := List.append_cancel_left hpath
  rw [List.flatMap_singleton, List.flatMap_singleton] at hlast
  exact (List.cons.inj hlast).2

/-! ### Parameters -/

/-- A parameter of a query: a name, and a value if there is one. -/
def parameter (s : List Char) : String × String :=
  match Text.cut? '=' s with
  | some (name, value) => (formDecoded name, formDecoded value)
  | none => (formDecoded s, "")

/-- The parameters that a query lists. -/
def readParameters (query : List Char) : List (String × String) :=
  ((Text.split '&' query).filter (! ·.isEmpty)).map parameter

/-- The parameters of the query. -/
def parameters (u : Url) : List (String × String) := readParameters (u.query.getD [])

theorem readParameters_append (before item : List Char) :
    readParameters (before ++ '&' :: item) = readParameters before ++ readParameters item := by
  rw [readParameters, Text.split_append_cons, List.filter_append, List.map_append]
  rfl

/-- A name and a value in the form encoding are one parameter. -/
theorem readParameters_item (name value : List Char) :
    readParameters (formEncode name ++ '=' :: formEncode value) =
      [(String.ofList name, String.ofList value)] := by
  have hsep (s : List Char) : '&' ∉ formEncode s :=
    notMem_formEncode (by decide) (by decide) (by decide) (by decide) s
  have hequals : '=' ∉ formEncode name :=
    notMem_formEncode (by decide) (by decide) (by decide) (by decide) name
  rw [readParameters, Text.split_eq_singleton (by simp [hsep]),
    List.filter_cons_of_pos (by simp), List.filter_nil, List.map_singleton, parameter,
    Text.cut?_append_cons hequals]
  dsimp only
  rw [formDecoded_formEncode, formDecoded_formEncode]

/-- A parameter is read back behind the others. -/
theorem parameters_addParameter (u : Url) (name value : List Char) :
    (u.addParameter name value).parameters =
      u.parameters ++ [(String.ofList name, String.ofList value)] := by
  rw [← readParameters_item, parameters, parameters, addParameter]
  rcases u.query with - | (- | ⟨c, before⟩)
  · rfl
  · rfl
  · exact readParameters_append (c :: before) _

/-! ### Reading -/

theorem exists_of_readBody {scheme body : List Char} (h : readBody scheme body = .ok u) :
    u.scheme = scheme ∧
      (isSpecial scheme → u.host.isSome ∧ ∃ path, u.path = .segments path) := by
  rw [readBody] at h
  dsimp only at h
  split at h
  · -- the URL of a local file, with a host of its own or without one
    split at h
    · split at h
      · cases h
      · cases h
        exact ⟨rfl, fun _ => ⟨rfl, _, rfl⟩⟩
    · cases h
      exact ⟨rfl, fun _ => ⟨rfl, _, rfl⟩⟩
  · split at h
    · -- a host stands behind the slashes, and the path behind the host
      split at h
      · cases h
      · cases h
        exact ⟨rfl, fun _ => ⟨rfl, _, rfl⟩⟩
    · -- the scheme is none of those here
      next hnot =>
      have hspecial : ¬ isSpecial scheme := fun hs => hnot (by rw [hs, Bool.true_or])
      split at h
      · cases h
        exact ⟨rfl, fun hs => absurd hs hspecial⟩
      · cases h
        exact ⟨rfl, fun hs => absurd hs hspecial⟩

/-- A URL that was read has a host and a path of segments, if its scheme is one of those with a
common structure. -/
theorem exists_of_parse {text : String} (h : parse text = .ok u) (hspecial : isSpecial u.scheme) :
    u.host.isSome ∧ ∃ path, u.path = .segments path := by
  rw [parse] at h
  dsimp only at h
  split at h
  · cases h
  · split at h
    · cases h
    · next scheme rest hscheme u' hbody =>
      obtain ⟨heq, hbody⟩ := exists_of_readBody hbody
      cases h
      rw [heq] at hspecial
      exact hbody hspecial

end DeploySync.Url
