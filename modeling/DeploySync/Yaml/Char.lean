/-!
# Character classes and marks of the YAML notation

A stream of YAML is read character by character; the end of the stream is read as the character
NUL, which cannot occur inside it. A `Mark` is a place in the stream.

## Main definitions

* `Yaml.Mark` — a place: characters before it, line and column, all counted from zero
* `Yaml.Cursor` — the rest of a stream together with the place where it begins
* `Yaml.isBreak`, `Yaml.isBlankOrEnd` and the like — the character classes of the notation
* `Yaml.isReadable` — the characters a stream may hold
-/

namespace DeploySync.Yaml

/-- A place in a stream, counted from zero. -/
structure Mark where
  index : Nat := 0
  line : Nat := 0
  column : Nat := 0
  deriving DecidableEq, Repr, Inhabited

/-- The place `n` characters further on the same line. -/
def Mark.advance (m : Mark) (n : Nat) : Mark :=
  { m with index := m.index + n, column := m.column + n }

/-- The start of the next line, behind a line break of `n` characters. -/
def Mark.nextLine (m : Mark) (n : Nat) : Mark :=
  ⟨m.index + n, m.line + 1, 0⟩

/-- The words that name a place in a message, counted from one. -/
def Mark.message (m : Mark) : String :=
  s!"line {m.line + 1} column {m.column + 1}"

/-- The characters that end a line: LF, CR, NEL, LS and PS. -/
def isBreak (c : Char) : Bool :=
  c == '\n' || c == '\r' || c == '\u0085' || c == '\u2028' || c == '\u2029'

/-- Space and tab. -/
def isSpace (c : Char) : Bool :=
  c == ' ' || c == '\t'

/-- A line break, or the end of the stream. -/
def isBreakOrEnd (c : Char) : Bool :=
  isBreak c || c == '\x00'

/-- A space, a tab, a line break, or the end of the stream. -/
def isBlankOrEnd (c : Char) : Bool :=
  isSpace c || isBreakOrEnd c

/-- The characters of anchor names, directive names and tag handles. -/
def isWord (c : Char) : Bool :=
  ('0' ≤ c && c ≤ '9') || ('A' ≤ c && c ≤ 'Z') || ('a' ≤ c && c ≤ 'z') || c == '_' || c == '-'

/-- The brackets and the comma of flow collections. -/
def isFlowIndicator (c : Char) : Bool :=
  c == ',' || c == '[' || c == ']' || c == '{' || c == '}'

/-- The characters a stream may hold; all others are refused before anything is read. -/
def isReadable (c : Char) : Bool :=
  let n := c.toNat
  n == 9 || n == 10 || n == 13 || (0x20 ≤ n && n ≤ 0x7E) || n == 0x85 ||
    (0xA0 ≤ n && n ≤ 0xD7FF) || (0xE000 ≤ n && n ≤ 0xFFFD) || 0x10000 ≤ n

/-- The first character of a rest of the stream. -/
def peek : List Char → Char
  | [] => '\x00'
  | c :: _ => c

/-- The character `n` places behind the first one. -/
def peekAt (n : Nat) (s : List Char) : Char :=
  peek (s.drop n)

/-- The rest of a stream together with the place where it begins. -/
structure Cursor where
  rest : List Char
  mark : Mark
  deriving Repr, Inhabited

namespace Cursor

/-- The first character of the rest. -/
def peek (c : Cursor) : Char := Yaml.peek c.rest

/-- The character `n` places behind the first one. -/
def peekAt (c : Cursor) (n : Nat) : Char := Yaml.peekAt n c.rest

/-- Passes `n` characters of the same line. -/
def skip (c : Cursor) (n : Nat := 1) : Cursor :=
  ⟨c.rest.drop n, c.mark.advance n⟩

/-- The characters of a class that stand first, and the cursor behind them; the class holds no
line break. -/
def span (p : Char → Bool) (c : Cursor) : List Char × Cursor :=
  let run := c.rest.takeWhile p
  (run, ⟨c.rest.drop run.length, c.mark.advance run.length⟩)

/-- Passes the characters of a class that stand first; the class holds no line break. -/
def skipWhile (p : Char → Bool) (c : Cursor) : Cursor :=
  (c.span p).2

/-- Passes one line break, if one stands first, and says what it reads as: CR, LF, NEL and the
pair CR LF read as LF, the two Unicode separators as themselves. -/
def readBreak (c : Cursor) : List Char × Cursor :=
  match c.rest with
  | '\r' :: '\n' :: rest => (['\n'], ⟨rest, c.mark.nextLine 2⟩)
  | b :: rest =>
    if b == '\u2028' || b == '\u2029' then ([b], ⟨rest, c.mark.nextLine 1⟩)
    else if isBreak b then (['\n'], ⟨rest, c.mark.nextLine 1⟩)
    else ([], c)
  | [] => ([], c)

/-- A document marker `---` or `...` stands at the start of the line. -/
def atDocumentMarker (c : Cursor) : Bool :=
  c.mark.column == 0 &&
    ((c.peek == '-' && c.peekAt 1 == '-' && c.peekAt 2 == '-') ||
      (c.peek == '.' && c.peekAt 1 == '.' && c.peekAt 2 == '.')) &&
    isBlankOrEnd (c.peekAt 3)

end Cursor

end DeploySync.Yaml
