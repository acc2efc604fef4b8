import DeploySync.Bytes
import DeploySync.Settings.Layers
import DeploySync.Text.Alphanumeric
import DeploySync.Text.Blank

/-!
# Files of variables

A file `.env` adds variables to the environment. Each line assigns one variable. Quotes and
backslashes may carry a value over the end of a line; a dollar sign puts in the value of another
variable. Reading stops at the first line that is no assignment; the ones before it count.

## Main definitions

* `Settings.EnvFile.logicalLines` — the lines, with those joined that belong together
* `Settings.EnvFile.expand?` — the value that a text on the right of an assignment spells
* `Settings.EnvFile.assignment?` — the assignment that a line makes
* `Settings.EnvFile.addTo` — the variables with those of a file added
-/

namespace DeploySync.Settings.EnvFile

/-- The name of the file. -/
def fileName : String := ".env"

/-! ### Lines -/

/-- Where the end of a line may fall. -/
inductive Place where
  /-- The line may end here. -/
  | outside
  /-- Behind a blank, where a comment may begin. -/
  | blank
  | escape
  | single
  | singleEscape
  | double
  | doubleEscape
  deriving DecidableEq, Repr

/-- The place behind a character that is neither a blank nor in quotes. -/
private def afterOpener (c : Char) : Place :=
  if c == '\\' then .escape
  else if c == '"' then .double
  else if c == '\'' then .single
  else .outside

/-- The place behind a character. -/
def Place.next (place : Place) (c : Char) : Place :=
  match place with
  | .outside =>
    if Text.isBlank c && c != '\n' && c != '\r' then .blank else afterOpener c
  | .blank => afterOpener c
  | .escape => .outside
  | .single => if c == '\\' then .singleEscape else if c == '\'' then .outside else .single
  | .singleEscape => .single
  | .double => if c == '\\' then .doubleEscape else if c == '"' then .outside else .double
  | .doubleEscape => .double

/-- The place at the end of a line; or, if a comment begins in it, what stands in front. -/
def endOfLine : Place → List Char → Place ⊕ List Char
  | place, [] => .inl place
  | place, c :: rest =>
    if place == .blank && c == '#' then .inr []
    else
      match endOfLine (place.next c) rest with
      | .inl place => .inl place
      | .inr front => .inr (c :: front)

/-- Cuts a text behind each line feed. -/
def rawLines : List Char → List (List Char)
  | [] => []
  | c :: rest =>
    if c == '\n' then ['\n'] :: rawLines rest
    else
      match rawLines rest with
      | [] => [[c]]
      | line :: lines => (c :: line) :: lines

/-- Drops the line feed at the end, with a carriage return before it. -/
def dropLineEnd (s : List Char) : List Char :=
  match s.reverse with
  | '\n' :: '\r' :: rest => rest.reverse
  | '\n' :: rest => rest.reverse
  | _ => s

/-- Joins lines that belong together, behind those joined so far. A text that ends inside of
quotes, or behind a backslash or a blank, has no last line. -/
def joinLines : Place → (before : List Char) → List (List Char) → List (Option (List Char))
  | place, _, [] => if place == .outside then [] else [none]
  | place, before, line :: rest =>
    let whole := before ++ line
    if (whole.dropWhile Text.isBlank).head? == some '#' then some [] :: joinLines .outside [] rest
    else
      match endOfLine place line with
      | .inr front => some (before ++ front) :: joinLines .outside [] rest
      | .inl .outside => some (dropLineEnd whole) :: joinLines .outside [] rest
      | .inl place => joinLines place whole rest

/-- The lines of a text, with those joined that belong together; the last one is missing if the
text breaks off in it. -/
def logicalLines (s : List Char) : List (Option (List Char)) :=
  joinLines .outside [] (rawLines s)

/-! ### Values -/

/-- How the next character of a value is read. -/
inductive Mode where
  | plain
  /-- Behind a backslash. -/
  | escape
  | single
  /-- Behind a dollar sign and a part of a name. -/
  | name (chars : List Char)
  /-- Behind a dollar sign, a brace and a part of a name. -/
  | braced (chars : List Char)
  /-- Behind the blank that ends the value. -/
  | ended
  deriving DecidableEq, Repr

/-- The character that a backslash and another character stand for. -/
def unescape? (c : Char) : Option Char :=
  if ['\\', '\'', '"', '$', ' '].contains c then some c
  else if c == 'n' then some '\n'
  else none

/-- The value that a text spells; `valueOf` gives the values of other variables. -/
def expand? (valueOf : List Char → List Char) : Mode → (inDouble : Bool) → List Char →
    Option (List Char)
  | .plain, inDouble, [] => if inDouble then none else some []
  | .escape, inDouble, [] => if inDouble then none else some []
  | .single, _, [] => none
  | .name chars, inDouble, [] => if inDouble then none else some (valueOf chars)
  | .braced _, _, [] => none
  | .ended, _, [] => some []
  | .plain, inDouble, c :: rest =>
    if c == '$' then expand? valueOf (.name []) inDouble rest
    else if c == '\\' then expand? valueOf .escape inDouble rest
    else if c == '"' then expand? valueOf .plain (! inDouble) rest
    else if inDouble then (expand? valueOf .plain true rest).map (c :: ·)
    else if c == '\'' then expand? valueOf .single false rest
    else if c == ' ' || c == '\t' then expand? valueOf .ended false rest
    else (expand? valueOf .plain false rest).map (c :: ·)
  | .escape, inDouble, c :: rest =>
    match unescape? c with
    | some c => (expand? valueOf .plain inDouble rest).map (c :: ·)
    | none => none
  | .single, inDouble, c :: rest =>
    if c == '\'' then expand? valueOf .plain inDouble rest
    else (expand? valueOf .single inDouble rest).map (c :: ·)
  | .name chars, inDouble, c :: rest =>
    if Text.isAlphanumeric c then expand? valueOf (.name (chars ++ [c])) inDouble rest
    else if c == '{' && chars.isEmpty then expand? valueOf (.braced []) inDouble rest
    else if c == '$' then (expand? valueOf (.name []) inDouble rest).map (valueOf chars ++ ·)
    else (expand? valueOf .plain inDouble rest).map (valueOf chars ++ c :: ·)
  | .braced chars, inDouble, c :: rest =>
    if c == '}' then (expand? valueOf .plain inDouble rest).map (valueOf chars ++ ·)
    else expand? valueOf (.braced (chars ++ [c])) inDouble rest
  | .ended, inDouble, c :: rest =>
    if c == ' ' || c == '\t' then expand? valueOf .ended inDouble rest
    else if c == '#' then some []
    else none

/-! ### Assignments -/

private def isKeyStart (c : Char) : Bool := Text.isLetter c || c == '_'

private def isKeyChar (c : Char) : Bool := isKeyStart c || Text.isDigit c || c == '.'

private def skipBlanks (s : List Char) : List Char := s.dropWhile Text.isBlank

/-- Reads a name, and passes the blanks behind it. -/
def readKey? (s : List Char) : Option (List Char × List Char) :=
  if s.head?.any isKeyStart then some (s.takeWhile isKeyChar, skipBlanks (s.dropWhile isKeyChar))
  else none

/-- Passes an equals sign and the blanks behind it. -/
def passEquals? (s : List Char) : Option (List Char) :=
  match s with
  | '=' :: rest => some (skipBlanks rest)
  | _ => none

/-- Reads the name in front of an equals sign, which may stand behind the word `export`. -/
def readTarget? (s : List Char) : Option (List Char × List Char) := do
  let (key, rest) ← readKey? s
  match passEquals? rest with
  | some value => return (key, value)
  | none =>
    if key == "export".toList then
      let (key, rest) ← readKey? rest
      return (key, ← passEquals? rest)
    else none

/-- There is nothing but a comment. -/
private def saysNothing (s : List Char) : Bool := s.isEmpty || s.head? == some '#'

/-- The assignment that a line makes: a name and a value; an empty line makes none. A line that is
neither is a fault. -/
def assignment? (valueOf : List Char → List Char) (line : List Char) :
    Option (Option (String × String)) :=
  let s := skipBlanks (Text.trimEndBy Text.isBlank line)
  if saysNothing s then some none
  else
    match readTarget? s with
    | none => none
    | some (key, rest) =>
      if saysNothing rest then some (some (String.ofList key, ""))
      else (expand? valueOf .plain false rest).map fun v =>
        some (String.ofList key, String.ofList v)

/-- The value of a variable: that of the environment, or else that of the file. -/
def valueOf (vars assigned : Variables) (name : List Char) : List Char :=
  let name := String.ofList name
  match vars.get? name with
  | some v => v.toList
  | none => ((assigned.get? name).getD "").toList

/-- Adds the assignments of lines, up to the first fault. A variable that is there already keeps
its value. -/
def addLines (vars assigned : Variables) : List (Option (List Char)) → Variables
  | [] => vars
  | none :: _ => vars
  | some line :: rest =>
    match assignment? (valueOf vars assigned) line with
    | none => vars
    | some none => addLines vars assigned rest
    | some (some (key, value)) =>
      let more := if (vars.get? key).isSome then vars else vars ++ [(key, value)]
      addLines more ((key, value) :: assigned) rest

/-- The lines of a file; a line that is no text is a fault. -/
def linesOf (bytes : ByteArray) : List (Option (List Char)) :=
  let (text, whole) := match Text.Utf8.firstFault? bytes.toList with
    | none => (Bytes.lossyText bytes, true)
    | some fault => (Bytes.lossyText (bytes.extract 0 fault.validUpTo), false)
  let chars := match text.toList with
    | '\uFEFF' :: rest => rest
    | chars => chars
  if whole then logicalLines chars
  else
    let front := (chars.reverse.dropWhile (· != '\n')).reverse
    logicalLines front ++ [none]

/-- The variables of an environment, with those of a file added. -/
def addTo (vars : Variables) (bytes : ByteArray) : Variables :=
  addLines vars [] (linesOf bytes)

end DeploySync.Settings.EnvFile
