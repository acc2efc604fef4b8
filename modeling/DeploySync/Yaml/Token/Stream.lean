import DeploySync.Yaml.Token.Scalar
import DeploySync.Yaml.Token.Name

/-!
# The token stream

Cutting a stream into tokens needs some memory: the indentation of the open block collections,
the depth of open flow collections, and on each depth the last token that may still turn out to
be a simple key. When a colon shows that it was one, the tokens that start a mapping and a key
are put in front of it.

## Main definitions

* `Yaml.Scanner` — the memory, together with the tokens found so far
* `Yaml.Scanner.fetch` — one step: the next token, or nothing when the stream is malformed
* `Yaml.tokens` — the tokens of a stream, up to its end or to the place where it is malformed
-/

namespace DeploySync.Yaml

/-- A token that may turn out to be a simple key, by its number among the tokens. A required one
stands where only a key can stand. -/
structure SimpleKey where
  token : Nat
  required : Bool
  mark : Mark
  deriving Repr

/-- The memory between two tokens. `recent` lists the tokens found so far, the last one first;
`indents` lists the columns of the open block collections, the innermost first; `keys` has one
entry for each open flow collection and one for the outside, the innermost first. -/
structure Scanner where
  cursor : Cursor
  recent : List Token := []
  indents : List Nat := []
  keys : List (Option SimpleKey) := [none]
  simpleKeyAllowed : Bool := true
  done : Bool := false

namespace Scanner

/-- A flow collection is open. -/
def inFlow (s : Scanner) : Bool := s.keys.length > 1

/-- The place of the next character. -/
def mark (s : Scanner) : Mark := s.cursor.mark

/-- Adds a token that stands between `start` and the current place. -/
def push (s : Scanner) (kind : TokenKind) (start : Mark) : Scanner :=
  { s with recent := ⟨kind, start, s.mark⟩ :: s.recent }

/-- The number of tokens found so far. -/
def size (s : Scanner) : Nat := s.recent.length

/-- Puts a token of no width in front of the token with the given number. -/
def insertBefore (s : Scanner) (number : Nat) (kind : TokenKind) (mark : Mark) : Scanner :=
  let behind := s.size - number
  { s with recent := s.recent.take behind ++ ⟨kind, mark, mark⟩ :: s.recent.drop behind }

/-- The columns right of which no block collection is open are closed. -/
def unroll (s : Scanner) (within : Nat → Bool) : Scanner :=
  if s.inFlow then s
  else
    let closed := s.indents.takeWhile (! within ·)
    closed.foldl (fun s _ => s.push .blockEnd s.mark)
      { s with indents := s.indents.drop closed.length }

/-- Opens a block collection at a column right of the innermost one, in front of the token with
the given number. -/
def roll (s : Scanner) (column number : Nat) (kind : TokenKind) (mark : Mark) : Scanner :=
  if s.inFlow then s
  else
    match s.indents with
    | [] => { s with indents := [column] }.insertBefore number kind mark
    | indent :: _ =>
      if indent < column then
        { s with indents := column :: s.indents }.insertBefore number kind mark
      else s

/-- The innermost candidate for a simple key. -/
def candidate (s : Scanner) : Option SimpleKey := s.keys.head?.join

/-- Replaces the innermost candidate. -/
def setCandidate (s : Scanner) (key : Option SimpleKey) : Scanner :=
  { s with keys := key :: s.keys.tail }

/-- Gives the innermost candidate up, unless it is required. -/
def dropCandidate (s : Scanner) : Option Scanner :=
  match s.candidate with
  | some key => if key.required then none else some (s.setCandidate none)
  | none => some s

/-- Remembers that the next token may be a simple key, where one may stand. -/
def saveCandidate (s : Scanner) : Option Scanner :=
  if ! s.simpleKeyAllowed then some s
  else
    let required := ! s.inFlow && s.indents.head? == some s.mark.column
    s.dropCandidate.map (·.setCandidate (some ⟨s.size, required, s.mark⟩))

/-- A simple key stands on one line and takes at most 1024 characters. -/
def isLive (s : Scanner) (key : SimpleKey) : Bool :=
  key.mark.line == s.mark.line && s.mark.index ≤ key.mark.index + 1024

/-- Forgets the candidates that the current place has left behind; a required one may not be
left behind. -/
def dropStale (s : Scanner) : Option Scanner :=
  let stale (key : SimpleKey) : Bool := ! s.isLive key
  if s.keys.any fun key => (key.map fun k => stale k && k.required).getD false then none
  else
    some { s with keys := s.keys.map fun key => key.bind fun k => if stale k then none else some k }

/-- The tokens that are settled: no candidate can put a token in front of them. -/
def settled (s : Scanner) : List Token :=
  let open? (key : SimpleKey) : Bool := s.isLive key || key.required
  let number := s.keys.foldl (fun n key =>
    match key with
    | some k => if open? k then min n k.token else n
    | none => n) s.size
  (s.recent.drop (s.size - number)).reverse

/-- Passes blanks, comments and line breaks. A tab may stand where no simple key may. -/
def skipGap : (fuel : Nat) → Scanner → Scanner
  | 0, s => s
  | fuel + 1, s =>
    let c := s.cursor
    let c := if c.mark.column == 0 && c.peek == '\uFEFF' then c.skip else c
    let c := c.skipWhile fun b => b == ' ' || ((s.inFlow || ! s.simpleKeyAllowed) && b == '\t')
    let c := if c.peek == '#' then c.skipWhile (! isBreakOrEnd ·) else c
    if isBreak c.peek then
      skipGap fuel { s with
        cursor := c.readBreak.2
        simpleKeyAllowed := s.simpleKeyAllowed || ! s.inFlow }
    else { s with cursor := c }

/-- Passes `n` characters and adds the token they form. -/
def pushIndicator (s : Scanner) (kind : TokenKind) (n : Nat := 1) : Scanner :=
  { s with cursor := s.cursor.skip n }.push kind s.mark

/-- The end of the stream, which counts as the start of a line. -/
def fetchEnd (s : Scanner) : Option Scanner :=
  let m := s.mark
  let m := if m.column == 0 then m else { m with line := m.line + 1, column := 0 }
  let s := { s with cursor := ⟨[], m⟩ }.unroll (fun _ => false)
  s.dropCandidate.map fun s =>
    { (s.push .streamEnd m) with simpleKeyAllowed := false, done := true }

/-- A directive. -/
def fetchDirective (s : Scanner) : Option Scanner :=
  match (s.unroll (fun _ => false)).dropCandidate with
  | none => none
  | some s =>
    (readDirective s.cursor).map fun (kind, c) =>
      { s with cursor := c, simpleKeyAllowed := false }.push kind s.mark

/-- A document marker. -/
def fetchDocumentMarker (s : Scanner) (kind : TokenKind) : Option Scanner :=
  (s.unroll (fun _ => false)).dropCandidate.map fun s =>
    { s with simpleKeyAllowed := false }.pushIndicator kind 3

/-- The opening bracket of a flow collection. -/
def fetchFlowStart (s : Scanner) (kind : TokenKind) : Option Scanner :=
  s.saveCandidate.map fun s =>
    { s with keys := none :: s.keys, simpleKeyAllowed := true }.pushIndicator kind

/-- The closing bracket of a flow collection. -/
def fetchFlowEnd (s : Scanner) (kind : TokenKind) : Option Scanner :=
  s.dropCandidate.map fun s =>
    { s with
      keys := if s.inFlow then s.keys.tail else s.keys
      simpleKeyAllowed := false }.pushIndicator kind

/-- The comma of a flow collection. -/
def fetchFlowEntry (s : Scanner) : Option Scanner :=
  s.dropCandidate.map fun s => { s with simpleKeyAllowed := true }.pushIndicator .flowEntry

/-- The dash before an item of a block sequence. -/
def fetchBlockEntry (s : Scanner) : Option Scanner :=
  if ! s.inFlow && ! s.simpleKeyAllowed then none
  else
    (s.roll s.mark.column s.size .blockSequenceStart s.mark).dropCandidate.map fun s =>
      { s with simpleKeyAllowed := true }.pushIndicator .blockEntry

/-- The question mark before a key. -/
def fetchKey (s : Scanner) : Option Scanner :=
  if ! s.inFlow && ! s.simpleKeyAllowed then none
  else
    (s.roll s.mark.column s.size .blockMappingStart s.mark).dropCandidate.map fun s =>
      { s with simpleKeyAllowed := ! s.inFlow }.pushIndicator .key

/-- The colon before a value. It makes the candidate a key, if there is one. -/
def fetchValue (s : Scanner) : Option Scanner :=
  match s.candidate with
  | some key =>
    let s := s.insertBefore key.token .key key.mark
    let s := s.roll key.mark.column key.token .blockMappingStart key.mark
    some ({ s.setCandidate none with simpleKeyAllowed := false }.pushIndicator .value)
  | none =>
    if ! s.inFlow && ! s.simpleKeyAllowed then none
    else
      let s := s.roll s.mark.column s.size .blockMappingStart s.mark
      some ({ s with simpleKeyAllowed := ! s.inFlow }.pushIndicator .value)

/-- An anchor or an alias. -/
def fetchAnchor (s : Scanner) (kind : List Char → TokenKind) : Option Scanner :=
  match s.saveCandidate with
  | none => none
  | some s =>
    (readAnchorName s.cursor).map fun (name, c) =>
      { s with cursor := c, simpleKeyAllowed := false }.push (kind name) s.mark

/-- A tag. -/
def fetchTag (s : Scanner) : Option Scanner :=
  match s.saveCandidate with
  | none => none
  | some s =>
    (readTag s.inFlow s.cursor).map fun (kind, c) =>
      { s with cursor := c, simpleKeyAllowed := false }.push kind s.mark

/-- A block scalar. -/
def fetchBlockScalar (s : Scanner) (folded : Bool) : Option Scanner :=
  match s.dropCandidate with
  | none => none
  | some s =>
    (readBlock folded s.indents.head? s.cursor).map fun (text, c) =>
      { s with cursor := c, simpleKeyAllowed := true }.push
        (.scalar text (if folded then .folded else .literal)) s.mark

/-- A quoted scalar. -/
def fetchQuoted (s : Scanner) (style : ScalarStyle) : Option Scanner :=
  match s.saveCandidate with
  | none => none
  | some s =>
    let scalar :=
      if style == .singleQuoted then readSingleQuoted s.cursor else readDoubleQuoted s.cursor
    scalar.map fun (text, c) =>
      { s with cursor := c, simpleKeyAllowed := false }.push (.scalar text style) s.mark

/-- A plain scalar. A line break behind it allows a simple key. -/
def fetchPlain (s : Scanner) : Option Scanner :=
  match s.saveCandidate with
  | none => none
  | some s =>
    let indent := (s.indents.head?.map (· + 1)).getD 0
    (readPlain s.inFlow indent s.cursor).map fun (text, crossed, stop, c) =>
      { s with
        cursor := c
        simpleKeyAllowed := crossed
        recent := ⟨.scalar text .plain, s.mark, stop⟩ :: s.recent }

/-- A character that a plain scalar may start with, judged with the one behind it. -/
def startsPlain (inFlow : Bool) (c next : Char) : Bool :=
  ! (isBlankOrEnd c || "-?:,[]{}#&*!|>'\"%@`".toList.contains c) ||
    (c == '-' && ! isSpace next) ||
    (! inFlow && (c == '?' || c == ':') && ! isBlankOrEnd next)

/-- One step: passes the gap, closes the block collections that the column shows to be at an
end, and reads the next token. -/
def fetch (s : Scanner) : Option Scanner :=
  match (skipGap (s.cursor.rest.length + 1) s).dropStale with
  | none => none
  | some s =>
    let s := s.unroll (· ≤ s.mark.column)
    let c := s.cursor.peek
    let next := s.cursor.peekAt 1
    if s.cursor.rest.isEmpty then s.fetchEnd
    else if s.mark.column == 0 && c == '%' then s.fetchDirective
    else if s.cursor.atDocumentMarker then
      s.fetchDocumentMarker (if c == '-' then .documentStart else .documentEnd)
    else if c == '[' then s.fetchFlowStart .flowSequenceStart
    else if c == '{' then s.fetchFlowStart .flowMappingStart
    else if c == ']' then s.fetchFlowEnd .flowSequenceEnd
    else if c == '}' then s.fetchFlowEnd .flowMappingEnd
    else if c == ',' then s.fetchFlowEntry
    else if c == '-' && isBlankOrEnd next then s.fetchBlockEntry
    else if c == '?' && (s.inFlow || isBlankOrEnd next) then s.fetchKey
    else if c == ':' && (s.inFlow || isBlankOrEnd next) then s.fetchValue
    else if c == '*' then s.fetchAnchor .alias
    else if c == '&' then s.fetchAnchor .anchor
    else if c == '!' then s.fetchTag
    else if c == '|' && ! s.inFlow then s.fetchBlockScalar false
    else if c == '>' && ! s.inFlow then s.fetchBlockScalar true
    else if c == '\'' then s.fetchQuoted .singleQuoted
    else if c == '"' then s.fetchQuoted .doubleQuoted
    else if startsPlain s.inFlow c next then s.fetchPlain
    else none

/-- Fetches tokens up to the end of the stream. Where the stream is malformed, the tokens that
were settled before remain. -/
def run : (fuel : Nat) → Scanner → List Token × Bool
  | 0, s => (s.recent.reverse, false)
  | fuel + 1, s =>
    if s.done then (s.recent.reverse, true)
    else
      match s.fetch with
      | some s => run fuel s
      | none => (s.settled, false)

end Scanner

/-- The tokens of a stream, and whether they reach its end: the tokens of a malformed stream stop
where no later character could change them. -/
def tokens (s : List Char) : List Token × Bool :=
  Scanner.run (s.length + 2) { cursor := ⟨s, {}⟩ }

end DeploySync.Yaml
