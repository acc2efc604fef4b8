import DeploySync.Yaml.Read

/-!
# How a text is written as a scalar

A text is written in the plainest style that reads back as the same text: with line feeds as a
literal block, otherwise plain when its characters allow it and it reads as nothing but a text,
otherwise in single quotes, and in double quotes where only escapes will do.

## Main definitions

* `Yaml.Traits` — what the characters of a text allow
* `Yaml.preferredStyle`, `Yaml.writtenStyle` — the choice
* `Yaml.writeScalar` — the text in its style
-/

namespace DeploySync.Yaml

/-- The characters that are written as they are; others need an escape. -/
def isShown (c : Char) : Bool :=
  let n := c.toNat
  n == 0x0A || (0x20 ≤ n && n ≤ 0x7E) ||
    (0xA0 ≤ n && n != 0xFEFF && n != 0xFFFE && n != 0xFFFF)

/-- Whether a character of a plain scalar would be read as an indicator, given the one before and
the one behind it (a blank stands for the ends of the text). -/
def isIndicatorIn (first : Bool) (before c behind : Char) : Bool :=
  if first then
    "#,[]{}&*!|>'\"%@`".toList.contains c ||
      ((c == '?' || c == ':' || c == '-') && isBlankOrEnd behind)
  else (c == ':' && isBlankOrEnd behind) || (c == '#' && isBlankOrEnd before)

/-- A character of the text would be read as an indicator. -/
def hasIndicator : (first : Bool) → (before : Char) → List Char → Bool
  | _, _, [] => false
  | first, before, c :: rest =>
    isIndicatorIn first before c (peek rest) || hasIndicator false c rest

/-- A character of the first class stands directly before one of the second. -/
def hasPair (p q : Char → Bool) : List Char → Bool
  | a :: b :: rest => (p a && q b) || hasPair p q (b :: rest)
  | _ => false

/-- What the characters of a text allow. -/
structure Traits where
  multiline : Bool
  plainAllowed : Bool
  singleQuotedAllowed : Bool
  blockAllowed : Bool
  deriving DecidableEq, Repr

/-- The traits of a text. -/
def Traits.of (s : List Char) : Traits :=
  if s.isEmpty then
    { multiline := false
      plainAllowed := true
      singleQuotedAllowed := true
      blockAllowed := false }
  else
    let space (c : Char) : Bool := c == ' '
    let edge (p : Char → Bool) : Bool := p (peek s) || (s.getLast?.any p)
    let marker := ['-', '-', '-'].isPrefixOf s || ['.', '.', '.'].isPrefixOf s
    let indicator := marker || hasIndicator true ' ' s
    let hidden := s.any (! isShown ·)
    let multiline := s.any isBreak
    let breakSpace := hasPair isBreak space s
    let spaceBreak := hasPair space isBreak s
    { multiline := multiline
      plainAllowed := ! (edge space || multiline || indicator || hidden)
      singleQuotedAllowed := ! (breakSpace || spaceBreak || hidden)
      blockAllowed := ! (s.getLast?.any space || spaceBreak || hidden) }

/-- The style that suits a text best, its characters aside. -/
def preferredStyle (s : List Char) : ScalarStyle :=
  if s.contains '\n' then .literal
  else
    match resolvePlain s with
    | .string _ => if isPaddedDigits s then .singleQuoted else .plain
    | _ => .singleQuoted

/-- The style in which a text is written; inside a simple key it has to fit on one line. -/
def writtenStyle (simpleKey : Bool) (preferred : ScalarStyle) (t : Traits) : ScalarStyle :=
  if simpleKey && t.multiline then .doubleQuoted
  else
    let quoted := if t.singleQuotedAllowed then ScalarStyle.singleQuoted else .doubleQuoted
    match preferred with
    | .plain => if t.plainAllowed then .plain else quoted
    | .singleQuoted => quoted
    | .literal => if t.blockAllowed && ! simpleKey then .literal else .doubleQuoted
    | style => style

/-! ### The styles -/

/-- Spaces. -/
def spaces (n : Nat) : List Char := List.replicate n ' '

/-- The characters of a single-quoted scalar: quotes are doubled, and a line starts behind
`indent` spaces. -/
def writeSingleQuotedChars (indent : Nat) : (lineStart : Bool) → List Char → List Char
  | lineStart, [] => if lineStart then spaces indent else []
  | lineStart, c :: rest =>
    if c == ' ' then ' ' :: writeSingleQuotedChars indent lineStart rest
    else if isBreak c then
      let doubled := if c == '\n' && ! lineStart then ['\n'] else []
      doubled ++ c :: writeSingleQuotedChars indent true rest
    else
      let margin := if lineStart then spaces indent else []
      let char := if c == '\'' then ['\'', '\''] else [c]
      margin ++ char ++ writeSingleQuotedChars indent false rest

/-- One character of a double-quoted scalar. -/
def writeDoubleQuotedChar (c : Char) : List Char :=
  if isShown c && ! isBreak c && c != '"' && c != '\\' then [c]
  else
    let n := c.toNat
    '\\' ::
      (if n == 0x00 then ['0']
      else if n == 0x07 then ['a']
      else if n == 0x08 then ['b']
      else if n == 0x09 then ['t']
      else if n == 0x0A then ['n']
      else if n == 0x0B then ['v']
      else if n == 0x0C then ['f']
      else if n == 0x0D then ['r']
      else if n == 0x1B then ['e']
      else if c == '"' || c == '\\' then [c]
      else if n == 0x85 then ['N']
      else if n == 0x2028 then ['L']
      else if n == 0x2029 then ['P']
      else if n ≤ 0xFF then 'x' :: Text.hexUpper 2 n
      else if n ≤ 0xFFFF then 'u' :: Text.hexUpper 4 n
      else 'U' :: Text.hexUpper 8 n)

/-- The header of a literal block: an indentation when the text starts with a blank, and the
chomping that its end needs. -/
def blockHeader (s : List Char) : List Char :=
  let hint := if peek s == ' ' || isBreak (peek s) then ['2'] else []
  let chomp := match s.reverse with
    | [] => ['-']
    | [c] => if isBreak c then ['+'] else ['-']
    | c :: d :: _ => if isBreak c then if isBreak d then ['+'] else [] else ['-']
  '|' :: hint ++ chomp ++ ['\n']

/-- The lines of a literal block, each behind `indent` spaces; empty lines stay empty. -/
def writeLiteralChars (indent : Nat) : (lineStart : Bool) → List Char → List Char
  | _, [] => []
  | lineStart, c :: rest =>
    if isBreak c then c :: writeLiteralChars indent true rest
    else
      let margin := if lineStart then spaces indent else []
      margin ++ c :: writeLiteralChars indent false rest

/-- A text in a style, its further lines behind `indent` spaces. -/
def writeIn (style : ScalarStyle) (indent : Nat) (s : List Char) : List Char :=
  match style with
  | .plain => s
  | .singleQuoted => '\'' :: writeSingleQuotedChars indent false s ++ ['\'']
  | .doubleQuoted => '"' :: s.flatMap writeDoubleQuotedChar ++ ['"']
  | .literal => blockHeader s ++ writeLiteralChars indent true s
  | .folded => s

/-- A text as a scalar, its further lines behind `indent` spaces. -/
def writeScalar (simpleKey : Bool) (indent : Nat) (s : List Char) : List Char :=
  writeIn (writtenStyle simpleKey (preferredStyle s) (Traits.of s)) indent s

end DeploySync.Yaml
