import DeploySync.Html.Tag

/-!
# Tokens

HTML text is read as tags and characters. Comments and declarations say nothing here, and neither do
blank characters.

## Main definitions

* `Html.Token` — a start tag, an end tag, or a character
* `Html.Token.read` — reads what begins with a character
* `Html.RawText` — text in which there are no tags but the end tag of its element
* `Html.RawText.skip` — what stands behind such a text
-/

namespace DeploySync.Html

/-- A start tag, an end tag, or a character that is not blank. -/
inductive Token where
  | start (tag : Tag)
  | finish (name : String)
  | character
  deriving DecidableEq, Repr

/-- What stands behind the first `>`. -/
private def behindBracket (s : List Char) : List Char := (s.dropWhile (· != '>')).tail

/-- What stands behind the end of a comment. -/
private def behindComment : List Char → List Char
  | '-' :: '-' :: '>' :: rest => rest
  | '-' :: '-' :: '!' :: '>' :: rest => rest
  | _ :: rest => behindComment rest
  | [] => []

/-- Cuts a text behind the end of literal text. -/
private def cutLiteral : List Char → List Char × List Char
  | ']' :: ']' :: '>' :: rest => ([], rest)
  | c :: rest =>
    let (before, behind) := cutLiteral rest
    (c :: before, behind)
  | [] => ([], [])

private def isCounted (c : Char) : Bool := ! isBlank c && c != '\x00'

/-- The token of a run of characters. -/
private def ofCharacters (s : List Char) : Option Token :=
  if s.any isCounted then some .character else none

/-- Reads what stands behind `<!`: a comment, literal text in an element that is not HTML's own, or
a declaration. -/
private def readDeclaration (foreign : Bool) : List Char → Option Token × List Char
  | '-' :: '-' :: '>' :: rest => (none, rest)
  | '-' :: '-' :: '-' :: '>' :: rest => (none, rest)
  | '-' :: '-' :: rest => (none, behindComment rest)
  | s =>
    match foreign, Text.stripStart? "[CDATA[".toList s with
    | true, some rest =>
      let (characters, behind) := cutLiteral rest
      (ofCharacters characters, behind)
    | _, _ => (none, behindBracket s)

/-- Reads an end tag from its name on. -/
private def readFinish (s : List Char) : Option Token × List Char :=
  match Tag.read? s with
  | some (tag, rest) => (some (.finish tag.name), rest)
  | none => (none, [])

/-- Reads what stands behind `</`. -/
private def readEnding : List Char → Option Token × List Char
  | [] => (some .character, [])
  | c :: rest =>
    if Text.isLetter c then readFinish (c :: rest)
    else if c == '>' then (none, rest)
    else (none, behindBracket (c :: rest))

/-- Reads what stands behind `<`. A tag that does not end is dropped with the rest of the text. -/
private def readMarkup (foreign : Bool) : List Char → Option Token × List Char
  | [] => (some .character, [])
  | '!' :: rest => readDeclaration foreign rest
  | '?' :: rest => (none, behindBracket rest)
  | '/' :: rest => readEnding rest
  | c :: rest =>
    if Text.isLetter c then
      match Tag.read? (c :: rest) with
      | some (tag, behind) => (some (.start tag), behind)
      | none => (none, [])
    else (some .character, c :: rest)

/-- Reads what begins with a character: a token, if there is one, and what stands behind it. Inside
of an element that is not HTML's own there is literal text. -/
def Token.read (foreign : Bool) (c : Char) (rest : List Char) : Option Token × List Char :=
  if c == '<' then readMarkup foreign rest else (ofCharacters [c], rest)

private theorem length_behindBracket_le (s : List Char) : (behindBracket s).length ≤ s.length := by
  have := (List.dropWhile_suffix (l := s) (· != '>')).length_le
  simp only [behindBracket, List.length_tail]
  omega

private theorem length_behindComment_le (s : List Char) : (behindComment s).length ≤ s.length := by
  fun_induction behindComment s <;> simp_all <;> omega

private theorem length_cutLiteral_le (s : List Char) : (cutLiteral s).2.length ≤ s.length := by
  fun_induction cutLiteral s <;> simp_all <;> omega

private theorem length_stripStart?_le {start s rest : List Char}
    (h : Text.stripStart? start s = some rest) : rest.length ≤ s.length := by
  fun_induction Text.stripStart? start s <;> simp_all
  omega

private theorem length_readDeclaration_le (foreign : Bool) (s : List Char) :
    (readDeclaration foreign s).2.length ≤ s.length := by
  unfold readDeclaration
  split
  · simp only [List.length_cons]; omega
  · simp only [List.length_cons]; omega
  · rename_i rest _ _
    have := length_behindComment_le rest
    simp only [List.length_cons]; omega
  · split
    · rename_i rest h
      exact Nat.le_trans (length_cutLiteral_le rest) (length_stripStart?_le h)
    · exact length_behindBracket_le s

private theorem length_readFinish_le (s : List Char) : (readFinish s).2.length ≤ s.length := by
  unfold readFinish
  split
  · exact Nat.le_of_lt (Tag.length_lt_of_read? (by assumption))
  · exact Nat.zero_le _

private theorem length_readEnding_le (s : List Char) : (readEnding s).2.length ≤ s.length := by
  unfold readEnding
  split
  · exact Nat.le_refl _
  · rename_i c rest
    split
    · exact length_readFinish_le _
    · split
      · simp
      · exact length_behindBracket_le _

private theorem length_readMarkup_le (foreign : Bool) (s : List Char) :
    (readMarkup foreign s).2.length ≤ s.length := by
  unfold readMarkup
  split
  · exact Nat.le_refl _
  · exact Nat.le_succ_of_le (length_readDeclaration_le foreign _)
  · exact Nat.le_succ_of_le (length_behindBracket_le _)
  · exact Nat.le_succ_of_le (length_readEnding_le _)
  · split
    · split
      · exact Nat.le_of_lt (Tag.length_lt_of_read? (by assumption))
      · exact Nat.zero_le _
    · exact Nat.le_refl _

/-- What stands behind a token is shorter than the text. -/
theorem Token.length_read_le (foreign : Bool) (c : Char) (rest : List Char) :
    (Token.read foreign c rest).2.length ≤ rest.length := by
  unfold Token.read
  split
  · exact length_readMarkup_le foreign rest
  · exact Nat.le_refl _

/-! ### Raw text -/

/-- Text in which there are no tags but the end tag of its element. -/
inductive RawText where
  | upTo (name : String)
  /-- A script may hide end tags between the marks of a comment. -/
  | script
  /-- Text without an end. -/
  | endless
  deriving DecidableEq, Repr

namespace RawText

/-- What stands behind an opening of tags and a name, in any letter case, if the name ends there. -/
private def named? (opening : List Char) (name : String) (s : List Char) : Option (List Char) :=
  let whole := opening ++ name.toList
  match Text.stripStart? whole ((s.take (whole.length + 1)).map Text.lower) with
  | some [c] =>
    if isBlank c || c == '/' || c == '>' then some (s.drop opening.length) else none
  | _ => none

/-- The end tag in front of a text, from its name on. -/
private def ending? (name : String) (s : List Char) : Option (List Char) :=
  named? ['<', '/'] name s

/-- The end tag of an element, from its name on. -/
private def endTag (name : String) : List Char → List Char
  | [] => []
  | c :: rest => (ending? name (c :: rest)).getD (endTag name rest)

/-- How far the end tag of a script is hidden. -/
private inductive Cover where
  | bare
  /-- Behind the opening mark of a comment. -/
  | comment
  /-- Behind a start tag in a comment. -/
  | hidden
  deriving DecidableEq

/-- What a script's text is behind a character that stands before a rest. -/
private def Cover.next (cover : Cover) (s : List Char) : Cover :=
  match cover with
  | .bare => if "<!--".toList.isPrefixOf s then .comment else .bare
  | .comment =>
    if "-->".toList.isPrefixOf s then .bare
    else if (named? ['<'] "script" s).isSome then .hidden
    else .comment
  | .hidden =>
    if "-->".toList.isPrefixOf s then .bare
    else if (ending? "script" s).isSome then .comment
    else .hidden

/-- The end tag of a script, from its name on. -/
private def scriptEnd : Cover → List Char → List Char
  | _, [] => []
  | cover, c :: rest =>
    match cover, ending? "script" (c :: rest) with
    | .hidden, _ => scriptEnd (cover.next (c :: rest)) rest
    | _, some s => s
    | _, none => scriptEnd (cover.next (c :: rest)) rest

/-- What stands behind raw text and its end tag. -/
def skip (raw : RawText) (s : List Char) : List Char :=
  let fromEnd := match raw with
    | .upTo name => endTag name s
    | .script => scriptEnd .bare s
    | .endless => []
  match Tag.read? fromEnd with
  | some (_, rest) => rest
  | none => []

private theorem length_ending?_le {name : String} {s rest : List Char}
    (h : ending? name s = some rest) : rest.length ≤ s.length := by
  unfold ending? named? at h
  simp only at h
  split at h
  · split at h
    · simp only [Option.some.injEq] at h
      subst h
      exact (List.drop_suffix _ s).length_le
    · simp at h
  · simp at h

private theorem length_endTag_le (name : String) (s : List Char) :
    (endTag name s).length ≤ s.length := by
  induction s with
  | nil => exact Nat.le_refl _
  | cons c rest ih =>
    unfold endTag
    cases h : ending? name (c :: rest) with
    | some found => exact length_ending?_le h
    | none => exact Nat.le_succ_of_le ih

private theorem length_scriptEnd_le (cover : Cover) (s : List Char) :
    (scriptEnd cover s).length ≤ s.length := by
  induction s generalizing cover with
  | nil => exact Nat.le_refl _
  | cons c rest ih =>
    unfold scriptEnd
    split
    · exact Nat.le_succ_of_le (ih _)
    · exact length_ending?_le (by assumption)
    · exact Nat.le_succ_of_le (ih _)

/-- What stands behind raw text is no longer than the text. -/
theorem length_skip_le (raw : RawText) (s : List Char) : (raw.skip s).length ≤ s.length := by
  have (from_ : List Char) (h : from_.length ≤ s.length) :
      (match Tag.read? from_ with
        | some (_, rest) => rest
        | none => []).length ≤ s.length := by
    split
    · exact Nat.le_trans (Nat.le_of_lt (Tag.length_lt_of_read? (by assumption))) h
    · exact Nat.zero_le _
  unfold skip
  cases raw with
  | upTo name => exact this _ (length_endTag_le name s)
  | script => exact this _ (length_scriptEnd_le .bare s)
  | endless => exact this [] (Nat.zero_le _)

end RawText

end DeploySync.Html
