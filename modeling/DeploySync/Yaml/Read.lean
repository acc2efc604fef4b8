import DeploySync.Yaml.Error
import DeploySync.Yaml.Node
import DeploySync.Yaml.Token.Stream
import DeploySync.Yaml.Value

/-!
# Reading values and records from a document

A stream has to hold exactly one document. Plain scalars without a tag are read by their text;
quoted ones are texts. Records are read from mappings: fields may stand in any order, unknown
ones are passed over.

## Main definitions

* `Yaml.Read` — reading; it counts how often aliases are followed
* `Yaml.resolve` — the value of a scalar
* `Yaml.readValue` — any value
* `Yaml.readText`, `Yaml.readTexts`, `Yaml.readVariant`, `Yaml.readRecord` — expected shapes
* `Yaml.parse`, `Yaml.parseBytes` — from a stream to what is read from it
-/

namespace DeploySync.Yaml

/-- Collections may be nested this deep. -/
def maxDepth : Nat := 128

/-- Reading counts how often aliases are followed. -/
abbrev Read := StateT Nat (Except Error)

namespace Read

/-- A document does not fit. -/
def misfit {α : Type} (m : Misfit) : Read α := throw ⟨.misfit m .root, none⟩

/-- Adds place and path to a misfit that has none yet. -/
def located {α : Type} (mark : Mark) (path : Path) (r : Read α) : Read α := fun jumps =>
  match r jumps with
  | .error ⟨.misfit m _, none⟩ => .error ⟨.misfit m path, some mark⟩
  | result => result

end Read

variable (t : Tree)

/-- The error of a broken place. -/
def Tree.breakError : Error :=
  match t.fault with
  | some (.unknownAnchor mark) => ⟨.unknownAnchor, some mark⟩
  | _ => ⟨.malformed, none⟩

/-- The node itself, or the one that an alias stands for. Aliases may be followed a hundred times
for each part of the document. -/
def follow (node : Node) : Read Node := do
  match node with
  | .alias anchor _ =>
    let jumps ← get
    set (jumps + 1)
    if t.parts * 100 < jumps + 1 then throw ⟨.repetitionLimit, none⟩
    match t.target anchor with
    | .broken => throw t.breakError
    | target => return target
  | .broken => throw t.breakError
  | _ => return node

/-- The place where a node begins. -/
def Node.mark : Node → Mark
  | .scalar _ _ _ mark => mark
  | .sequence _ _ mark => mark
  | .mapping _ _ mark => mark
  | .alias _ mark => mark
  | .broken => {}

/-! ### Scalars -/

/-- The name behind the exclamation mark of a tag of the document's own; other tags have none. -/
def ownTag? (tag : Option Tag) : Option String :=
  match tag with
  | some (33 :: []) => some "!"
  | some (33 :: rest) => String.fromUTF8? ⟨rest.toArray⟩
  | _ => none

/-- The spellings of null. -/
def isNull (s : List Char) : Bool :=
  ["null", "Null", "NULL", "~"].contains (String.ofList s)

/-- The spellings of the booleans. -/
def readBool? (s : List Char) : Option Bool :=
  let s := String.ofList s
  if ["true", "True", "TRUE"].contains s then some true
  else if ["false", "False", "FALSE"].contains s then some false
  else none

/-- What the text of a plain scalar is. -/
def resolvePlain (s : List Char) : Found :=
  if s.isEmpty || isNull s then .nothing
  else
    match readBool? s with
    | some b => .bool b
    | none =>
      match Whole.read? s with
      | some (.fits n) => .whole n
      | some (.wideUnsigned n) => .wideUnsigned n
      | some (.wideSigned n) => .wideSigned n
      | none =>
        match if isPaddedDigits s then none else readDouble? s with
        | some x => .double x
        | none => .string (String.ofList s)

private def standardTag (name : String) : Tag := ("tag:yaml.org,2002:" ++ name).toUTF8.toList

/-- What a scalar is. A tag of the standard forces its type. -/
def resolve (tag : Option Tag) (s : List Char) (style : ScalarStyle) : Except Misfit Found :=
  let wrong (expected : String) : Except Misfit Found :=
    .error (.wrongValue (.string (String.ofList s)) expected)
  match tag with
  | none =>
    if style == .plain then .ok (resolvePlain s) else .ok (.string (String.ofList s))
  | some tag =>
    if tag == standardTag "bool" then
      match readBool? s with
      | some b => .ok (.bool b)
      | none => wrong "a boolean"
    else if tag == standardTag "int" then
      match Whole.read? s with
      | some (.fits n) => .ok (.whole n)
      | some (.wideUnsigned n) => .ok (.wideUnsigned n)
      | some (.wideSigned n) => .ok (.wideSigned n)
      | none => wrong "an integer"
    else if tag == standardTag "float" then
      match readDouble? s with
      | some x => .ok (.double x)
      | none => wrong "a float"
    else if tag == standardTag "null" then
      if isNull s then .ok .nothing else wrong "null"
    else if tag.head? == some 33 && style == .plain then .ok (resolvePlain s)
    else .ok (.string (String.ofList s))

/-- The value of what a scalar is. Numbers wider than 64 bits are no values. -/
def Found.toValue : Found → Except Misfit Value
  | .bool b => .ok (.bool b)
  | .whole n => .ok (.number (.whole n))
  | .double x => .ok (.number (.double x))
  | .string s => .ok (.string s)
  | .nothing => .ok .null
  | found => .error (.wrongType found "any YAML value")

/-! ### Any value -/

/-- How the words name a key. -/
def Value.asRepeatedKey : Value → RepeatedKey
  | .null => .null
  | .bool b => .bool b
  | .number n => .number (String.ofList n.text)
  | .string s => .string s
  | _ => .collection

/-- The path of the value of an entry. -/
def entryPath (path : Path) : Node → Path
  | .scalar _ text _ _ => .entry path (String.ofList text)
  | _ => .unnamed path

/-- Reads the items of a sequence in order. -/
def readItems {α : Type} (child : Path → Node → Read α) (path : Path) :
    (index : Nat) → List Node → Read (List α)
  | _, [] => return []
  | index, item :: rest => do
    let value ← child (.item path index) item
    return value :: (← readItems child path (index + 1) rest)

/-- Reads the entries of a mapping in order, behind those read before. A key may not come
twice. -/
def readEntries (child : Path → Node → Read Value) (path : Path) :
    (before : List (Value × Value)) → List (Node × Node) → Read (List (Value × Value))
  | before, [] => return before
  | before, (key, value) :: rest => do
    let k ← child path key
    match before.find? (·.1.same k) with
    | some (k, _) => Read.misfit (.repeatedEntry k.asRepeatedKey)
    | none =>
      let v ← child (entryPath path key) value
      readEntries child path (before ++ [(k, v)]) rest

/-- Reads a node whose own tag is already read. Without `child` the nesting is too deep. -/
def readContent (child : Option (Path → Node → Read Value)) (path : Path) (tagRead : Bool)
    (node : Node) : Read Value := do
  match node with
  | .scalar tag text style _ =>
    let tag := if tagRead then none else tag
    match (resolve tag text style).bind Found.toValue with
    | .ok v => return v
    | .error m => Read.misfit m
  | .sequence _ items mark =>
    match child with
    | none => throw ⟨.recursionLimit, some mark⟩
    | some child => return .sequence (← readItems child path 0 items)
  | .mapping _ entries mark =>
    match child with
    | none => throw ⟨.recursionLimit, some mark⟩
    | some child => return .mapping (← readEntries child path [] entries)
  | _ => throw t.breakError

/-- The tag of a node. -/
def Node.tag : Node → Option Tag
  | .scalar tag _ _ _ => tag
  | .sequence tag _ _ => tag
  | .mapping tag _ _ => tag
  | _ => none

/-- Reads a node with its tag. -/
def readTagged (child : Option (Path → Node → Read Value)) (path : Path) (node : Node) :
    Read Value := do
  let node ← follow t node
  Read.located node.mark path do
    match ownTag? node.tag with
    | some tag => return .tagged tag (← readContent t child path true node)
    | none => readContent t child path false node

/-- Reads any value, with collections nested at most `depth` deep. -/
def readValueWithin : (depth : Nat) → Path → Node → Read Value
  | 0 => readTagged t none
  | depth + 1 => readTagged t (some (readValueWithin depth))

/-- Reads any value. -/
def readValue (path : Path) (node : Node) : Read Value := readValueWithin t maxDepth path node

/-! ### Expected shapes -/

/-- What a node is that was expected to be something else. -/
def foundAt : Node → Except Misfit Found
  | .scalar tag text style _ => resolve tag text style
  | .sequence .. => .ok .sequence
  | .mapping .. => .ok .mapping
  | _ => .ok .nothing

/-- The node is not what was expected. -/
def wrongType {α : Type} (node : Node) (expected : String) : Read α :=
  match foundAt node with
  | .ok found => Read.misfit (.wrongType found expected)
  | .error m => Read.misfit m

/-- An empty plain scalar may stand for an empty collection. -/
def isLeftOut : Node → Bool
  | .scalar _ text style _ => text.isEmpty && style == .plain
  | _ => false

/-- Reads a scalar as the text it is written with. -/
def readText (expected : String) (path : Path) (node : Node) : Read String := do
  let node ← follow t node
  Read.located node.mark path do
    match node with
    | .scalar _ text _ _ => return String.ofList text
    | node => wrongType node expected

/-- Reads a sequence of scalars as texts. -/
def readTexts (path : Path) (node : Node) : Read (List String) := do
  let node ← follow t node
  Read.located node.mark path do
    match node with
    | .sequence _ items _ => readItems (readText t "a string") path 0 items
    | node => if isLeftOut node then return [] else wrongType node "a sequence"

/-- Reads a name out of a list of names: a scalar, or the tag of an empty value. -/
def readVariant (names : List String) (path : Path) (node : Node) : Read String := do
  let node ← follow t node
  let known (name : String) : Read String :=
    if names.contains name then return name else Read.misfit (.unknownVariant name names)
  match ownTag? node.tag with
  | some tag => do
    let name ← known tag
    Read.located node.mark path do
      match node with
      | .scalar _ text style _ =>
        if style == .plain && (text.isEmpty || isNull text) then return name
        else Read.misfit (.wrongValue (.string (String.ofList text)) "null")
      | node => wrongType node "unit"
  | none =>
    Read.located node.mark path do
      match node with
      | .scalar _ text _ _ => known (String.ofList text)
      | node => wrongType node "a YAML tag starting with '!'"

mutual

/-- The stream breaks nowhere inside the node. -/
def Node.isWhole : Node → Bool
  | .sequence _ items _ => itemsWhole items
  | .mapping _ entries _ => entriesWhole entries
  | .broken => false
  | _ => true

/-- The stream breaks nowhere inside the items. -/
def itemsWhole : List Node → Bool
  | [] => true
  | item :: rest => item.isWhole && itemsWhole rest

/-- The stream breaks nowhere inside the entries. -/
def entriesWhole : List (Node × Node) → Bool
  | [] => true
  | (key, value) :: rest => key.isWhole && value.isWhole && entriesWhole rest

end

/-- Passes over a node. -/
def passOver (node : Node) : Read Unit :=
  if node.isWhole then return () else throw t.breakError

/-- Reads the entries of a record in order: `step` gets what is read so far, the name of a field,
and the path and the node of its value. -/
def readRecordEntries {σ : Type} (step : σ → String → Path → Node → Read σ) (path : Path) :
    σ → List (Node × Node) → Read σ
  | state, [] => return state
  | state, (key, value) :: rest => do
    let name ← readText t "field identifier" path key
    let state ← step state name (entryPath path key) value
    readRecordEntries step path state rest

/-- Reads a record from a mapping. -/
def readRecord {σ α : Type} (expected : String) (step : σ → String → Path → Node → Read σ)
    (start : σ) (finish : σ → Except Misfit α) (path : Path) (node : Node) : Read α := do
  let node ← follow t node
  Read.located node.mark path do
    let state ←
      match node with
      | .mapping _ entries _ => readRecordEntries t step path start entries
      | node => if isLeftOut node then pure start else wrongType node expected
    match finish state with
    | .ok a => return a
    | .error m => Read.misfit m

/-! ### From a stream -/

/-- Reads the only document of a text. -/
def parse {α : Type} (read : Tree → Path → Node → Read α) (text : String) :
    Except Error α :=
  if ! text.toList.all isReadable then .error ⟨.malformed, none⟩
  else
    let t := Tree.ofTokens (tokens text.toList).1
    match (read t .root t.root).run 0 with
    | .error e => .error e
    | .ok (a, _) =>
      if t.fault.isSome then .error t.breakError
      else if t.more then .error ⟨.moreThanOneDocument, none⟩
      else .ok a

/-- Reads the only document of a text given as bytes. -/
def parseBytes {α : Type} (read : Tree → Path → Node → Read α) (bytes : ByteArray) :
    Except Error α :=
  match String.fromUTF8? bytes with
  | some text => parse read text
  | none => .error ⟨.malformed, none⟩

end DeploySync.Yaml
