import DeploySync.Yaml.Token
import DeploySync.Text.Split

/-!
# Reading names: anchors, aliases, tags and directives

## Main definitions

* `Yaml.readAnchorName` — the name behind `&` or `*`
* `Yaml.readTag` — a tag, as the handle before and the suffix behind its last `!`
* `Yaml.readDirective` — a line that starts with `%`
-/

namespace DeploySync.Yaml

/-- Reads the name behind the indicator of an anchor or an alias, and what may follow it. -/
def readAnchorName (c : Cursor) : Option (List Char × Cursor) :=
  let (name, c) := c.skip.span isWord
  let next := c.peek
  if name.isEmpty then none
  else if isBlankOrEnd next || next == '?' || next == ':' || next == ',' || next == ']' ||
      next == '}' || next == '%' || next == '@' || next == '`' then
    some (name, c)
  else none

/-- The number of bytes that an escaped character takes, judged by its first byte. -/
private def escapeWidth? (b : Nat) : Option Nat :=
  if b < 0x80 then some 1
  else if 0xC0 ≤ b && b < 0xE0 then some 2
  else if 0xE0 ≤ b && b < 0xF0 then some 3
  else if 0xF0 ≤ b && b < 0xF8 then some 4
  else none

private def escapedByte? : List Char → Option (Nat × List Char)
  | '%' :: a :: b :: rest =>
    match Text.hexValue? a, Text.hexValue? b with
    | some a, some b => some (16 * a + b, rest)
    | _, _ => none
  | _ => none

private def escapedTail : (n : Nat) → List Char → Option (List UInt8 × List Char)
  | 0, s => some ([], s)
  | n + 1, s =>
    match escapedByte? s with
    | none => none
    | some (b, rest) =>
      if 0x80 ≤ b && b < 0xC0 then
        (escapedTail n rest).map fun (bytes, rest) => (UInt8.ofNat b :: bytes, rest)
      else none

/-- Reads one character spelled by `%` escapes, as bytes. -/
def readEscapedBytes (s : List Char) : Option (List UInt8 × List Char) :=
  match escapedByte? s with
  | none => none
  | some (b, rest) =>
    match escapeWidth? b with
    | none => none
    | some width =>
      (escapedTail (width - 1) rest).map fun (bytes, rest) => (UInt8.ofNat b :: bytes, rest)

/-- The characters of a tag, besides `%`; a verbatim tag may hold the brackets and the comma. -/
private def isTagChar (verbatim : Bool) (c : Char) : Bool :=
  isWord c || ";/?:@&=+$.!~*'()".toList.contains c || (verbatim && (",[]").toList.contains c)

/-- Reads the characters of a tag as bytes. -/
def readTagBytes (verbatim : Bool) : (fuel : Nat) → Cursor → Option (List UInt8 × Cursor)
  | 0, c => some ([], c)
  | fuel + 1, c =>
    match c.rest with
    | [] => some ([], c)
    | '%' :: _ =>
      match readEscapedBytes c.rest with
      | none => none
      | some (bytes, rest) =>
        let width := c.rest.length - rest.length
        (readTagBytes verbatim fuel (c.skip width)).map fun (more, c) => (bytes ++ more, c)
    | a :: _ =>
      if isTagChar verbatim a then
        (readTagBytes verbatim fuel c.skip).map fun (more, c) =>
          (String.utf8EncodeChar a ++ more, c)
      else some ([], c)

private def tagBytes (verbatim : Bool) (c : Cursor) : Option (List UInt8 × Cursor) :=
  readTagBytes verbatim (c.rest.length + 1) c

/-- Reads a tag handle: `!`, word characters, and possibly a second `!`. -/
def readTagHandle (c : Cursor) : Option (List Char × Cursor) :=
  if c.peek != '!' then none
  else
    let (word, c) := c.skip.span isWord
    if c.peek == '!' then some ('!' :: word ++ ['!'], c.skip) else some ('!' :: word, c)

private def asciiBytes (s : List Char) : List UInt8 :=
  s.flatMap String.utf8EncodeChar

/-- A tag ends at its first NUL byte. -/
private def untilNul (bytes : List UInt8) : List UInt8 :=
  bytes.takeWhile (· != 0)

/-- Reads a tag, its `!` first. A blank has to follow, or a comma inside a flow collection. -/
def readTag (inFlow : Bool) (c : Cursor) : Option (TokenKind × Cursor) :=
  let body : Option (List Char × List UInt8 × Cursor) :=
    if c.peekAt 1 == '<' then
      match tagBytes true (c.skip 2) with
      | none => none
      | some (bytes, c) =>
        if bytes.isEmpty || c.peek != '>' then none else some ([], untilNul bytes, c.skip)
    else
      match readTagHandle c with
      | none => none
      | some (handle, behind) =>
        if handle.length ≥ 2 && handle.getLast? == some '!' then
          match tagBytes false behind with
          | none => none
          | some (bytes, c) =>
            if bytes.isEmpty then none else some (handle, untilNul bytes, c)
        else
          match tagBytes false behind with
          | none => none
          | some (bytes, c) =>
            let suffix := untilNul (asciiBytes handle.tail ++ bytes)
            if suffix.isEmpty then some ([], asciiBytes ['!'], c) else some (['!'], suffix, c)
  match body with
  | none => none
  | some (handle, suffix, c) =>
    if isBlankOrEnd c.peek || (inFlow && c.peek == ',') then some (.tag handle suffix, c)
    else none

/-! ### Directives -/

/-- Reads a version number of at most nine digits. -/
private def readVersionNumber (c : Cursor) : Option (Nat × Cursor) :=
  let (digits, c) := c.span Text.isDigit
  if digits.isEmpty || 9 < digits.length then none
  else some (Text.decimalValue digits, c)

private def readVersion (c : Cursor) : Option (TokenKind × Cursor) :=
  match readVersionNumber (c.skipWhile isSpace) with
  | none => none
  | some (major, c) =>
    if c.peek != '.' then none
    else
      (readVersionNumber c.skip).map fun (minor, c) => (.versionDirective major minor, c)

private def readTagDirective (c : Cursor) : Option (TokenKind × Cursor) :=
  match readTagHandle (c.skipWhile isSpace) with
  | none => none
  | some (handle, c) =>
    if (handle != ['!'] && handle.getLast? != some '!') || ! isSpace c.peek then none
    else
      match tagBytes true (c.skipWhile isSpace) with
      | none => none
      | some (bytes, c) =>
        if bytes.isEmpty || ! isBlankOrEnd c.peek then none
        else some (.tagDirective handle (untilNul bytes), c)

/-- Reads a directive, its `%` first, up to the end of its line. -/
def readDirective (c : Cursor) : Option (TokenKind × Cursor) :=
  let (name, c) := c.skip.span isWord
  if ! isBlankOrEnd c.peek then none
  else
    let body :=
      if name == "YAML".toList then readVersion c
      else if name == "TAG".toList then readTagDirective c
      else none
    match body with
    | none => none
    | some (kind, c) =>
      let c := c.skipWhile isSpace
      let c := if c.peek == '#' then c.skipWhile (! isBreakOrEnd ·) else c
      if isBreakOrEnd c.peek then some (kind, c.readBreak.2) else none

end DeploySync.Yaml
