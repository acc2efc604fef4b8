import DeploySync.Yaml.Layout.Scalar

/-!
# How a value is written

Values are written in block style, two columns deeper for each level; a sequence under the key of
a mapping stands at the column of the key. Empty collections are written as brackets. A key that
takes more than one line or more than 128 bytes is written behind a question mark.

## Main definitions

* `Yaml.Value.write` — a value at its place
* `Yaml.render` — a whole document
-/

namespace DeploySync.Yaml

/-- The column at which a collection stands that is opened inside one of column `indent`. -/
def deeper (indent : Option Nat) : Nat :=
  match indent with
  | none => 0
  | some n => n + 2

/-- The column behind which further lines of a scalar stand. -/
def scalarIndent (indent : Option Nat) : Nat := (indent.getD 0) + 2

/-- What ends a line, unless the text has just ended one. -/
def lineEnd (text : List Char) : List Char :=
  if text.getLast?.any isBreak then [] else ['\n']

/-- A character of a tag as it is written: itself, or its bytes as escapes. -/
def writeTagChar (c : Char) : List Char :=
  if isWord c || ";/?:@&=+$,_.~*'()[]".toList.contains c then [c]
  else (String.utf8EncodeChar c).flatMap fun b => '%' :: Text.hexUpper 2 b.toNat

/-- A tag as it is written. -/
def writeTag (tag : String) : List Char :=
  let bare := (bareTag tag).toList
  if bare == ['!'] then ['!', '<', '%', '2', '1', '>'] else '!' :: bare.flatMap writeTagChar

/-- The text of a scalar value, if the value is one. -/
def Value.scalarText? : Value → Option (List Char)
  | .null => some ['n', 'u', 'l', 'l']
  | .bool true => some ['t', 'r', 'u', 'e']
  | .bool false => some ['f', 'a', 'l', 's', 'e']
  | .number n => some n.text
  | .string s => some s.toList
  | _ => none

/-- The text of a scalar value as it is written. -/
def writeScalarValue (simpleKey : Bool) (indent : Nat) : Value → List Char
  | .string s => writeScalar simpleKey indent s.toList
  | v => v.scalarText?.getD []

private def byteLength (s : List Char) : Nat :=
  s.foldl (fun n c => n + c.utf8Size) 0

/-- The number of bytes of a tag, as far as keys are concerned. -/
private def tagLength (tag : String) : Nat :=
  let bare := (bareTag tag).toList
  if bare == ['!'] then 1 else byteLength bare + 1

/-- A value can be written in front of a colon: a scalar of one line, or an empty collection, of
at most 128 bytes. -/
def Value.isSimpleKey (v : Value) : Bool :=
  let (tag, v) := match v with
    | .tagged tag v => (tagLength tag, v)
    | v => (0, v)
  match v with
  | .sequence items => items.isEmpty && tag ≤ 128
  | .mapping entries => entries.isEmpty && tag ≤ 128
  | .tagged .. => false
  | v =>
    let text := v.scalarText?.getD []
    ! text.any isBreak && tag + byteLength text ≤ 128

/-- Where a value is written. `indent` is the column of the collection around it; `fresh` says
that a block collection may start on this line, behind a dash or a question mark; `afterText`
says that a space has to come first. -/
structure Place where
  indent : Option Nat
  inMapping : Bool
  fresh : Bool
  afterText : Bool
  simpleKey : Bool := false

/-- The space in front of a value. -/
def Place.gap (p : Place) : List Char := if p.afterText then [' '] else []

/-- The column at which a block sequence stands. -/
def Place.sequenceIndent (p : Place) : Nat :=
  if p.inMapping && ! p.fresh then p.indent.getD 0 else deeper p.indent

/-- What comes in front of the first line of a block collection at a column. -/
def Place.opening (p : Place) (column : Nat) : List Char :=
  if p.fresh then p.gap else '\n' :: spaces column

mutual

/-- A value at its place, behind a tag if it has one. -/
def Value.write (p : Place) : Value → Except Error (List Char)
  | .sequence [] => .ok (p.gap ++ ['[', ']'])
  | .sequence (item :: items) =>
    let column := p.sequenceIndent
    writeItems column (p.opening column) (item :: items)
  | .mapping [] => .ok (p.gap ++ ['{', '}'])
  | .mapping (entry :: entries) =>
    let column := deeper p.indent
    writeEntries column (p.opening column) (entry :: entries)
  | .tagged tag v =>
    match v with
    | .tagged .. => .error ⟨.nestedTags, none⟩
    | v =>
      match v.write { p with fresh := false, afterText := true } with
      | .ok text => .ok (p.gap ++ writeTag tag ++ text)
      | .error e => .error e
  | v => .ok (p.gap ++ writeScalarValue p.simpleKey (scalarIndent p.indent) v)

/-- The items of a block sequence at a column; `lead` comes in front of the next one. -/
def writeItems (column : Nat) (lead : List Char) : List Value → Except Error (List Char)
  | [] => .ok []
  | item :: rest =>
    match item.write ⟨some column, false, true, true, false⟩ with
    | .error e => .error e
    | .ok text =>
      match writeItems column (lineEnd text ++ spaces column) rest with
      | .error e => .error e
      | .ok more => .ok (lead ++ '-' :: text ++ more)

/-- The entries of a block mapping at a column; `lead` comes in front of the next one. -/
def writeEntries (column : Nat) (lead : List Char) :
    List (Value × Value) → Except Error (List Char)
  | [] => .ok []
  | (key, value) :: rest =>
    if key.isSimpleKey then
      match key.write ⟨some column, true, false, false, true⟩ with
      | .error e => .error e
      | .ok name =>
        match value.write ⟨some column, true, false, true, false⟩ with
        | .error e => .error e
        | .ok text =>
          match writeEntries column (lineEnd text ++ spaces column) rest with
          | .error e => .error e
          | .ok more => .ok (lead ++ name ++ ':' :: text ++ more)
    else
      match key.write ⟨some column, true, true, true, false⟩ with
      | .error e => .error e
      | .ok name =>
        match value.write ⟨some column, true, true, true, false⟩ with
        | .error e => .error e
        | .ok text =>
          match writeEntries column (lineEnd text ++ spaces column) rest with
          | .error e => .error e
          | .ok more =>
            .ok (lead ++ '?' :: name ++ lineEnd name ++ spaces column ++ ':' :: text ++ more)

end

/-- A value as a document. Nothing is written where a tag stands directly inside another one. -/
def render (v : Value) : Except Error String :=
  match v.write ⟨none, false, true, false, false⟩ with
  | .ok text => .ok (String.ofList (text ++ lineEnd text))
  | .error e => .error e

end DeploySync.Yaml
