import DeploySync.Yaml.Token
import DeploySync.Text.Split

/-!
# Reading one scalar

Each way to write a scalar has its own reader, which starts at the first character of the scalar
and ends behind its last. Lines of plain and quoted scalars are joined: a single line break
between two words reads as a space, further ones as themselves.

## Main definitions

* `Yaml.Gap` — the blanks and line breaks between two words, and the text they read as
* `Yaml.readPlain`, `Yaml.readSingleQuoted`, `Yaml.readDoubleQuoted`, `Yaml.readBlock` — the
  readers; each gives nothing when the scalar is malformed
-/

namespace DeploySync.Yaml

/-- The blanks before the first line break between two words, and the line breaks. In double
quotes the first line break may be escaped; it is then not among `breaks`. -/
structure Gap where
  spaces : List Char := []
  breaks : List Char := []
  escaped : Bool := false

/-- The text that a gap reads as. -/
def Gap.text (g : Gap) : List Char :=
  if g.escaped then g.breaks
  else
    match g.breaks with
    | [] => g.spaces
    | '\n' :: [] => [' ']
    | '\n' :: more => more
    | breaks => breaks

/-- A gap that ends a line. -/
def Gap.crossesLine (g : Gap) : Bool :=
  g.escaped || ! g.breaks.isEmpty

/-- Reads a gap. Behind a line break a tab may not stand left of column `indent`. -/
def readGap (indent : Nat) (crossed : Bool) : List Char → Mark → Option (Gap × Cursor)
  | '\r' :: '\n' :: rest, m =>
    (readGap indent true rest (m.nextLine 2)).map fun (g, c) =>
      ({ g with breaks := '\n' :: g.breaks }, c)
  | b :: rest, m =>
    if isSpace b then
      if crossed && b == '\t' && m.column < indent then none
      else
        (readGap indent crossed rest (m.advance 1)).map fun (g, c) =>
          (if crossed then g else { g with spaces := b :: g.spaces }, c)
    else if isBreak b then
      let reads := if b == '\u2028' || b == '\u2029' then b else '\n'
      (readGap indent true rest (m.nextLine 1)).map fun (g, c) =>
        ({ g with breaks := reads :: g.breaks }, c)
    else some ({}, ⟨b :: rest, m⟩)
  | [], m => some ({}, ⟨[], m⟩)

/-! ### Plain scalars -/

/-- Reads the characters of a plain scalar up to the next blank or to an indicator that ends it.
Inside a flow collection a colon before a flow indicator is malformed. -/
def readPlainWord (inFlow : Bool) : List Char → Option (List Char × List Char)
  | [] => some ([], [])
  | c :: rest =>
    let next := peek rest
    if isBlankOrEnd c then some ([], c :: rest)
    else if inFlow && c == ':' && (isFlowIndicator next || next == '?') then none
    else if (c == ':' && isBlankOrEnd next) || (inFlow && isFlowIndicator c) then
      some ([], c :: rest)
    else (readPlainWord inFlow rest).map fun (word, more) => (c :: word, more)

/-- Reads the words of a plain scalar. The result says whether the last gap crossed a line. -/
def readPlainWords (inFlow : Bool) (indent : Nat) :
    (fuel : Nat) → (gap : Gap) → Cursor → Option (List Char × Bool × Mark × Cursor)
  | 0, gap, c => some ([], gap.crossesLine, c.mark, c)
  | fuel + 1, gap, c =>
    if c.atDocumentMarker || c.peek == '#' then some ([], gap.crossesLine, c.mark, c)
    else
      match readPlainWord inFlow c.rest with
      | none => none
      | some (word, rest) =>
        let stop := c.mark.advance word.length
        let text := if word.isEmpty then [] else gap.text ++ word
        let behind : Cursor := ⟨rest, stop⟩
        let crossed := word.isEmpty && gap.crossesLine
        if ! (isSpace behind.peek || isBreak behind.peek) then some (text, crossed, stop, behind)
        else
          match readGap indent crossed rest stop with
          | none => none
          | some (next, behind) =>
            if ! inFlow && behind.mark.column < indent then
              some (text, next.crossesLine || crossed, stop, behind)
            else
              (readPlainWords inFlow indent fuel next behind).map
                fun (more, crossed, stop', behind) =>
                  (text ++ more, crossed, if more.isEmpty then stop else stop', behind)

/-- Reads a plain scalar whose lines stand at or right of column `indent`: its text, whether a
line ended behind it, the place behind its last word, and the cursor behind its last gap. -/
def readPlain (inFlow : Bool) (indent : Nat) (c : Cursor) :
    Option (List Char × Bool × Mark × Cursor) :=
  readPlainWords inFlow indent (c.rest.length + 1) {} c

/-! ### Quoted scalars -/

/-- How a run of quoted characters ends. -/
inductive QuotedEnd where
  | quote
  | blank
  | escapedBreak
  deriving DecidableEq

/-- Reads single-quoted characters up to a blank or the closing quote; two quotes read as one. -/
def readSingleQuotedWord : List Char → Mark → List Char × QuotedEnd × Cursor
  | '\'' :: '\'' :: rest, m =>
    let (word, how, c) := readSingleQuotedWord rest (m.advance 2)
    ('\'' :: word, how, c)
  | c :: rest, m =>
    if c == '\'' then ([], .quote, ⟨rest, m.advance 1⟩)
    else if isBlankOrEnd c then ([], .blank, ⟨c :: rest, m⟩)
    else
      let (word, how, behind) := readSingleQuotedWord rest (m.advance 1)
      (c :: word, how, behind)
  | [], m => ([], .blank, ⟨[], m⟩)

/-- The character that a one-letter escape reads as. -/
def simpleEscape? (c : Char) : Option Char :=
  match c with
  | '0' => some '\x00'
  | 'a' => some '\x07'
  | 'b' => some '\x08'
  | 't' => some '\t'
  | '\t' => some '\t'
  | 'n' => some '\n'
  | 'v' => some '\x0b'
  | 'f' => some '\x0c'
  | 'r' => some '\r'
  | 'e' => some '\x1b'
  | ' ' => some ' '
  | '"' => some '"'
  | '/' => some '/'
  | '\\' => some '\\'
  | 'N' => some '\u0085'
  | '_' => some '\u00a0'
  | 'L' => some '\u2028'
  | 'P' => some '\u2029'
  | _ => none

/-- The number of hexadecimal digits behind a numeric escape. -/
def escapeDigits? (c : Char) : Option Nat :=
  match c with
  | 'x' => some 2
  | 'u' => some 4
  | 'U' => some 8
  | _ => none

/-- The character that hexadecimal digits name; surrogates and numbers beyond the last character
name none. -/
def hexChar? (digits : List Char) : Option Char :=
  match digits.mapM Text.hexValue? with
  | none => none
  | some values =>
    let n := values.foldl (fun n d => 16 * n + d) 0
    if h : n.isValidChar then some (Char.ofNatAux n h) else none

/-- Reads double-quoted characters up to a blank, an escaped line break or the closing quote. -/
def readDoubleQuotedWord (s : List Char) (m : Mark) : Option (List Char × QuotedEnd × Cursor) :=
  match s with
  | [] => some ([], .blank, ⟨[], m⟩)
  | '\\' :: e :: rest =>
    if isBreak e then some ([], .escapedBreak, ⟨e :: rest, m.advance 1⟩)
    else
      match simpleEscape? e with
      | some c =>
        (readDoubleQuotedWord rest (m.advance 2)).map fun (word, how, behind) =>
          (c :: word, how, behind)
      | none =>
        match escapeDigits? e with
        | none => none
        | some n =>
          if rest.length < n then none
          else
            match hexChar? (rest.take n) with
            | none => none
            | some c =>
              (readDoubleQuotedWord (rest.drop n) (m.advance (2 + n))).map
                fun (word, how, behind) => (c :: word, how, behind)
  | c :: rest =>
    if c == '"' then some ([], .quote, ⟨rest, m.advance 1⟩)
    else if isBlankOrEnd c then some ([], .blank, ⟨c :: rest, m⟩)
    else if c == '\\' then none
    else
      (readDoubleQuotedWord rest (m.advance 1)).map fun (word, how, behind) =>
        (c :: word, how, behind)
  termination_by s.length
  decreasing_by all_goals (simp only [List.length_cons, List.length_drop]; omega)

/-- Reads the words of a quoted scalar up to the closing quote, which has to come. -/
def readQuotedWords (readWord : List Char → Mark → Option (List Char × QuotedEnd × Cursor)) :
    (fuel : Nat) → Cursor → Option (List Char × Cursor)
  | 0, _ => none
  | fuel + 1, c =>
    if c.atDocumentMarker || c.rest.isEmpty then none
    else
      match readWord c.rest c.mark with
      | none => none
      | some (word, .quote, behind) => some (word, behind)
      | some (word, how, behind) =>
        let escaped := how == .escapedBreak
        let start := if escaped then (behind.readBreak).2 else behind
        match readGap 0 escaped start.rest start.mark with
        | none => none
        | some (gap, behind) =>
          (readQuotedWords readWord fuel behind).map fun (more, behind) =>
            (word ++ { gap with escaped := escaped }.text ++ more, behind)

/-- Reads a single-quoted scalar, its opening quote first. -/
def readSingleQuoted (c : Cursor) : Option (List Char × Cursor) :=
  readQuotedWords (fun s m => some (readSingleQuotedWord s m)) (c.rest.length + 1) (c.skip)

/-- Reads a double-quoted scalar, its opening quote first. -/
def readDoubleQuoted (c : Cursor) : Option (List Char × Cursor) :=
  readQuotedWords readDoubleQuotedWord (c.rest.length + 1) (c.skip)

/-! ### Block scalars -/

/-- What happens to the line breaks behind the last line of a block scalar. -/
inductive Chomping where
  /-- One stays. -/
  | clip
  /-- None stays. -/
  | strip
  /-- All stay. -/
  | keep
  deriving DecidableEq, Repr

private def chomping? (c : Char) : Option Chomping :=
  if c == '+' then some .keep else if c == '-' then some .strip else none

private def indentDigit? (c : Char) : Option Nat :=
  if '0' ≤ c && c ≤ '9' then some (c.toNat - 48) else none

/-- Reads the indicators of a block scalar: the chomping and the indentation, in either order.
An indentation of zero is malformed. -/
def readBlockHeader (c : Cursor) : Option (Chomping × Option Nat × Cursor) :=
  match chomping? c.peek with
  | some chomping =>
    let c := c.skip
    match indentDigit? c.peek with
    | some 0 => none
    | some n => some (chomping, some n, c.skip)
    | none => some (chomping, none, c)
  | none =>
    match indentDigit? c.peek with
    | some 0 => none
    | some n =>
      let c := c.skip
      match chomping? c.peek with
      | some chomping => some (chomping, some n, c.skip)
      | none => some (.clip, some n, c)
    | none => some (.clip, none, c)

/-- Passes the indentation of the lines before the next line with text: at most `indent?` spaces
on each line, or all of them while the indentation is not known. Gives the line breaks passed
and the deepest indentation seen. A tab in place of indentation is malformed. -/
def readIndentation (indent? : Option Nat) :
    (deepest : Nat) → (fuel : Nat) → Cursor → Option (List Char × Nat × Cursor)
  | deepest, 0, c => some ([], deepest, c)
  | deepest, fuel + 1, c =>
    let within (column : Nat) : Bool := indent?.all fun n => column < n
    let spaces := (c.rest.takeWhile (· == ' ')).length
    let width := match indent? with
      | some n => min spaces (n - c.mark.column)
      | none => spaces
    let c := c.skip width
    let deepest := max deepest c.mark.column
    if within c.mark.column && c.peek == '\t' then none
    else if isBreak c.peek then
      let (lineBreak, c) := c.readBreak
      (readIndentation indent? deepest fuel c).map fun (breaks, deepest, c) =>
        (lineBreak ++ breaks, deepest, c)
    else some ([], deepest, c)

/-- Reads the lines of a block scalar, given the line break and the empty lines before them.
Gives the text and the line break and empty lines behind the last line. -/
def readBlockLines (folded : Bool) (indent : Nat) :
    (fuel : Nat) → (lead trailing : List Char) → (leadingBlank : Bool) → Cursor →
      Option (List Char × List Char × List Char × Cursor)
  | 0, lead, trailing, _, c => some ([], lead, trailing, c)
  | fuel + 1, lead, trailing, leadingBlank, c =>
    if c.mark.column != indent || c.rest.isEmpty then some ([], lead, trailing, c)
    else
      let blank := isSpace c.peek
      let joined :=
        if folded && lead == ['\n'] && ! leadingBlank && ! blank then
          if trailing.isEmpty then [' '] else trailing
        else lead ++ trailing
      let (line, c) := c.span (! isBreakOrEnd ·)
      let (lead, c) := c.readBreak
      match readIndentation (some indent) 0 (c.rest.length + 1) c with
      | none => none
      | some (trailing, _, c) =>
        (readBlockLines folded indent fuel lead trailing blank c).map
          fun (more, lead, trailing, c) => (joined ++ line ++ more, lead, trailing, c)

/-- Reads a block scalar, its indicator first, inside a collection of indentation `parent`
(nothing at the top level). -/
def readBlock (folded : Bool) (parent : Option Nat) (c : Cursor) : Option (List Char × Cursor) :=
  match readBlockHeader c.skip with
  | none => none
  | some (chomping, increment, c) =>
    let c := c.skipWhile isSpace
    let c := if c.peek == '#' then c.skipWhile (! isBreakOrEnd ·) else c
    if ! isBreakOrEnd c.peek then none
    else
      let c := c.readBreak.2
      let indent? := increment.map ((parent.getD 0) + ·)
      match readIndentation indent? 0 (c.rest.length + 1) c with
      | none => none
      | some (trailing, deepest, c) =>
        let least := (parent.map (· + 1)).getD 0
        let indent := indent?.getD (max (max deepest least) 1)
        match readBlockLines folded indent (c.rest.length + 1) [] trailing false c with
        | none => none
        | some (text, lead, trailing, c) =>
          let tail := match chomping with
            | .strip => []
            | .clip => lead
            | .keep => lead ++ trailing
          some (text ++ tail, c)

end DeploySync.Yaml
