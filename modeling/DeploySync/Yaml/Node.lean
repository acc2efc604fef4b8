import DeploySync.Yaml.Token

/-!
# Nodes of a YAML document

A document is a tree of nodes: scalars, sequences, mappings, and aliases that stand for a node
with an anchor. The tokens of a stream determine the tree of its first document. Where the
stream is malformed the tree ends in a broken node, so that everything before that place can
still be read.

## Main definitions

* `Yaml.Node` — a node, with the place where it begins
* `Yaml.Tree` — the tree, and the anchored nodes
* `Yaml.Tree.ofTokens` — the first document of a stream
-/

namespace DeploySync.Yaml

/-- A resolved tag, as the bytes it spells. -/
abbrev Tag := List UInt8

/-- A node, with the place where it begins. An alias refers to an anchor by number. -/
inductive Node where
  | scalar (tag : Option Tag) (text : List Char) (style : ScalarStyle) (mark : Mark)
  | sequence (tag : Option Tag) (items : List Node) (mark : Mark)
  | mapping (tag : Option Tag) (entries : List (Node × Node)) (mark : Mark)
  | alias (anchor : Nat) (mark : Mark)
  /-- The stream is malformed here, or an alias has no anchor. -/
  | broken
  deriving Repr, Inhabited

/-- Why a tree is broken. -/
inductive Break where
  | malformed
  | unknownAnchor (mark : Mark)
  deriving DecidableEq, Repr

/-- A node with an anchor: the number of the anchor, and the place of the node among the parts of
the document. -/
structure Anchored where
  anchor : Nat
  place : Nat
  node : Node

/-- The first document of a stream. `parts` counts scalars, aliases, and the starts and ends of
collections; `more` says that the stream does not end behind the document. -/
structure Tree where
  root : Node
  anchored : List Anchored := []
  parts : Nat := 0
  fault : Option Break := none
  more : Bool := false

/-- The node an alias stands for: of the nodes whose anchors have the number, the last one. -/
def Tree.target (t : Tree) (anchor : Nat) : Node :=
  let found := t.anchored.filter (·.anchor == anchor)
  let last := found.foldl (fun (best : Option Anchored) a =>
    match best with
    | some b => if b.place < a.place then some a else best
    | none => some a) none
  (last.map (·.node)).getD .broken

/-! ### Building the tree -/

/-- What building has read so far. `names` numbers the anchors; a new anchor gets the number of
different names before it. -/
structure Builder where
  tokens : List Token
  directives : List (List Char × List UInt8) := []
  names : List (List Char × Nat) := []
  anchored : List Anchored := []
  parts : Nat := 0
  fault : Option Break := none

/-- Building reads tokens. -/
abbrev Build := StateM Builder

namespace Build

/-- The next token, if the stream has not broken before it. -/
def peek : Build (Option Token) := do
  let b ← get
  match b.fault with
  | some _ => return none
  | none => return b.tokens.head?

/-- Passes a token. -/
def next : Build Unit := modify fun b => { b with tokens := b.tokens.tail }

/-- Breaks the tree here. The first break is the one that counts. -/
def fail (f : Break := .malformed) : Build Node := do
  modify fun b => { b with fault := b.fault.orElse fun _ => some f }
  return .broken

/-- Counts a part of the document. -/
def part : Build Unit := modify fun b => { b with parts := b.parts + 1 }

/-- The tree is broken. -/
def isBroken : Build Bool := return (← get).fault.isSome

/-- Numbers an anchor. -/
def register (name : Option (List Char)) : Build (Option (Nat × Nat)) := do
  match name with
  | none => return none
  | some name =>
    let b ← get
    let id := b.names.length
    set { b with names := (name, id) :: b.names.filter (·.1 != name) }
    return some (id, b.parts)

/-- Remembers an anchored node. -/
def remember (anchor : Option (Nat × Nat)) (node : Node) : Build Node := do
  match anchor with
  | none => return node
  | some (id, place) =>
    modify fun b => { b with anchored := ⟨id, place, node⟩ :: b.anchored }
    return node

/-- An empty scalar, where a node is left out. -/
def empty (mark : Mark) : Build Node := do
  part
  return .scalar none [] .plain mark

/-- The tag that a handle and a suffix stand for. -/
def resolve (handle : List Char) (suffix : List UInt8) : Build (Option Tag) := do
  if handle.isEmpty then return some suffix
  let b ← get
  match b.directives.find? (·.1 == handle) with
  | some (_, replacement) => return some (replacement ++ suffix)
  | none => return none

/-- The anchor that stands next, if one does. -/
def anchor? : Build (Option (List Char)) := do
  match ← peek with
  | some ⟨.anchor name, _, _⟩ => do
    next
    return some name
  | _ => return none

/-- The tag that stands next, if one does. -/
def tag? : Build (Option (List Char × List UInt8)) := do
  match ← peek with
  | some ⟨.tag handle suffix, _, _⟩ => do
    next
    return some (handle, suffix)
  | _ => return none

/-- The properties before a node: an anchor and a tag in either order. Gives nothing when the
handle of the tag is not defined. -/
def properties : Build (Option (Option (List Char) × Option Tag)) := do
  let anchor ← anchor?
  let tag ← tag?
  let anchor ← if anchor.isSome then pure anchor else anchor?
  match tag with
  | none => return some (anchor, none)
  | some (handle, suffix) =>
    match ← resolve handle suffix with
    | some tag => return some (anchor, some tag)
    | none => return none

/-- The kinds of token with which an entry ends that has no node. -/
abbrev Ends := TokenKind → Bool

/-- The kind is one of these. -/
def oneOf (kinds : List TokenKind) : Ends := kinds.contains

/-- A node of which only the properties are there. -/
def leftOut (anchor : Option (List Char)) (tag : Option Tag) (mark : Mark) : Build Node := do
  let anchor ← register anchor
  part
  remember anchor (.scalar tag [] .plain mark)

/-- The next item of a flow collection: passes the comma before it, unless it is the first. -/
def separated (first : Bool) (closing : TokenKind) : Build (Option Token) := do
  match ← peek with
  | none => return none
  | some token =>
    if first || token.kind == closing then return some token
    else if token.kind == .flowEntry then do
      next
      peek
    else return none

mutual

/-- A node. `block` admits block collections, `indentless` a block sequence at the column of the
mapping around it. -/
def node (block indentless : Bool) : (fuel : Nat) → Build Node
  | 0 => fail
  | fuel + 1 => do
    match ← peek with
    | none => fail
    | some ⟨.alias name, mark, _⟩ => do
      let b ← get
      match b.names.lookup name with
      | none => fail (.unknownAnchor mark)
      | some id => do
        next
        part
        return .alias id mark
    | some first => do
      let mark := first.start
      match ← properties with
      | none => fail
      | some (anchor, tag) => do
        match ← peek with
        | none => fail
        | some token => do
          match token.kind with
          | .scalar text style => do
            next
            let anchor ← register anchor
            part
            remember anchor (.scalar tag text style mark)
          | .flowSequenceStart => do
            next
            let anchor ← register anchor
            part
            let items ← flowItems true fuel
            remember anchor (.sequence tag items mark)
          | .flowMappingStart => do
            next
            let anchor ← register anchor
            part
            let entries ← flowEntries true fuel
            remember anchor (.mapping tag entries mark)
          | .blockEntry =>
            if indentless then do
              let anchor ← register anchor
              part
              let items ← blockItems true fuel
              remember anchor (.sequence tag items mark)
            else if anchor.isSome || tag.isSome then leftOut anchor tag mark
            else fail
          | .blockSequenceStart =>
            if block then do
              next
              let anchor ← register anchor
              part
              let items ← blockItems false fuel
              remember anchor (.sequence tag items mark)
            else if anchor.isSome || tag.isSome then leftOut anchor tag mark
            else fail
          | .blockMappingStart =>
            if block then do
              next
              let anchor ← register anchor
              part
              let entries ← blockEntries fuel
              remember anchor (.mapping tag entries mark)
            else if anchor.isSome || tag.isSome then leftOut anchor tag mark
            else fail
          | _ =>
            if anchor.isSome || tag.isSome then leftOut anchor tag mark
            else fail

/-- A node, or an empty scalar at `mark` when the entry ends here. -/
def nodeOrEmpty (ends : Ends) (block indentless : Bool) (mark : Mark) : (fuel : Nat) → Build Node
  | 0 => fail
  | fuel + 1 => do
    match ← peek with
    | none => fail
    | some token =>
      if ends token.kind then empty mark else node block indentless fuel

/-- The items of a block sequence; one without indentation has no token at its end. -/
def blockItems (indentless : Bool) : (fuel : Nat) → Build (List Node)
  | 0 => return [← fail]
  | fuel + 1 => do
    match ← peek with
    | none => return [← fail]
    | some token =>
      match token.kind with
      | .blockEntry => do
        next
        let ends := if indentless then oneOf [.blockEntry, .key, .value, .blockEnd]
          else oneOf [.blockEntry, .blockEnd]
        let item ← nodeOrEmpty ends true false token.stop fuel
        if ← isBroken then return [item]
        return item :: (← blockItems indentless fuel)
      | kind => do
        if indentless then
          part
          return []
        else if kind == .blockEnd then
          next
          part
          return []
        else return [← fail]

/-- The entries of a block mapping. -/
def blockEntries : (fuel : Nat) → Build (List (Node × Node))
  | 0 => return [(← fail, .broken)]
  | fuel + 1 => do
    match ← peek with
    | none => return [(← fail, .broken)]
    | some token =>
      let ends := oneOf [.key, .value, .blockEnd]
      match token.kind with
      | .key => do
        next
        let key ← nodeOrEmpty ends true true token.stop fuel
        if ← isBroken then return [(key, .broken)]
        let value ← blockValue fuel
        if ← isBroken then return [(key, value)]
        return (key, value) :: (← blockEntries fuel)
      | .blockEnd => do
        next
        part
        return []
      | _ => return [(← fail, .broken)]

/-- The value of an entry of a block mapping. -/
def blockValue : (fuel : Nat) → Build Node
  | 0 => fail
  | fuel + 1 => do
    match ← peek with
    | none => fail
    | some token =>
      if token.kind == .value then do
        next
        nodeOrEmpty (oneOf [.key, .value, .blockEnd]) true true token.stop fuel
      else empty token.start

/-- The items of a flow sequence, up to its closing bracket. -/
def flowItems (first : Bool) : (fuel : Nat) → Build (List Node)
  | 0 => return [← fail]
  | fuel + 1 => do
    match ← separated first .flowSequenceEnd with
    | none => return [← fail]
    | some token =>
      match token.kind with
      | .flowSequenceEnd => do
        next
        part
        return []
      | .key => do
        next
        part
        let item ← pairItem token.start fuel
        if ← isBroken then return [item]
        return item :: (← flowItems false fuel)
      | _ => do
        let item ← node false false fuel
        if ← isBroken then return [item]
        return item :: (← flowItems false fuel)

/-- A mapping of one entry written as an item of a flow sequence. When its key is left out, the
token behind the question mark is passed over. -/
def pairItem (mark : Mark) : (fuel : Nat) → Build Node
  | 0 => fail
  | fuel + 1 => do
    match ← peek with
    | none => return .mapping none [(← fail, .broken)] mark
    | some token => do
      let key ←
        if oneOf [.value, .flowEntry, .flowSequenceEnd] token.kind then do
          next
          empty token.stop
        else node false false fuel
      if ← isBroken then return .mapping none [(key, .broken)] mark
      match ← peek with
      | none => return .mapping none [(key, ← fail)] mark
      | some token => do
        let value ←
          if token.kind == .value then do
            next
            match ← peek with
            | none => fail
            | some token =>
              nodeOrEmpty (oneOf [.flowEntry, .flowSequenceEnd]) false false token.start fuel
          else empty token.start
        if ← isBroken then return .mapping none [(key, value)] mark
        part
        return .mapping none [(key, value)] mark

/-- The entries of a flow mapping, up to its closing bracket. -/
def flowEntries (first : Bool) : (fuel : Nat) → Build (List (Node × Node))
  | 0 => return [(← fail, .broken)]
  | fuel + 1 => do
    match ← separated first .flowMappingEnd with
    | none => return [(← fail, .broken)]
    | some token =>
      match token.kind with
      | .flowMappingEnd => do
        next
        part
        return []
      | .key => do
        next
        match ← peek with
        | none => return [(← fail, .broken)]
        | some token => do
          let ends := oneOf [.value, .flowEntry, .flowMappingEnd]
          let key ← nodeOrEmpty ends false false token.start fuel
          if ← isBroken then return [(key, .broken)]
          let value ← flowValue fuel
          if ← isBroken then return [(key, value)]
          return (key, value) :: (← flowEntries false fuel)
      | _ => do
        let key ← node false false fuel
        if ← isBroken then return [(key, .broken)]
        match ← peek with
        | none => return [(key, ← fail)]
        | some token => do
          let value ← empty token.start
          return (key, value) :: (← flowEntries false fuel)

/-- The value of an entry of a flow mapping. -/
def flowValue : (fuel : Nat) → Build Node
  | 0 => fail
  | fuel + 1 => do
    match ← peek with
    | none => fail
    | some token =>
      if token.kind == .value then do
        next
        match ← peek with
        | none => fail
        | some token =>
          nodeOrEmpty (oneOf [.flowEntry, .flowMappingEnd]) false false token.start fuel
      else empty token.start

end

/-- The handles that every document knows. -/
def standardHandles : List (List Char × List UInt8) :=
  [(['!'], ['!'.toNat.toUInt8]), (['!', '!'], "tag:yaml.org,2002:".toUTF8.toList)]

/-- Reads the directives before a document: at most one version, which is 1.1 or 1.2, and no
handle twice. Gives nothing when they break these rules. -/
def directives : (fuel : Nat) → (version : Bool) → List (List Char × List UInt8) →
    Build (Option (List (List Char × List UInt8)))
  | 0, _, _ => return none
  | fuel + 1, version, known => do
    match ← peek with
    | some ⟨.versionDirective major minor, _, _⟩ =>
      if version || major != 1 || (minor != 1 && minor != 2) then return none
      next
      directives fuel true known
    | some ⟨.tagDirective handle replacement, _, _⟩ =>
      if known.any (·.1 == handle) then return none
      next
      directives fuel version (known ++ [(handle, replacement)])
    | _ => return some known

/-- The first document of the stream, and whether the stream goes on behind it. -/
def document (fuel : Nat) : Build (Node × Bool) := do
  match ← peek with
  | none => return (← fail, false)
  | some ⟨.streamEnd, mark, _⟩ => do
    part
    return (.scalar none [] .plain mark, false)
  | some token => do
    let explicit := match token.kind with
      | .versionDirective .. | .tagDirective .. | .documentStart => true
      | _ => false
    let root ←
      if ! explicit then do
        modify fun b => { b with directives := standardHandles }
        node true false fuel
      else do
        match ← directives fuel false [] with
        | none => fail
        | some own => do
          modify fun b => { b with directives := own ++ standardHandles }
          match ← peek with
          | some ⟨.documentStart, _, _⟩ => do
            next
            match ← peek with
            | none => fail
            | some token =>
              match token.kind with
              | .versionDirective .. | .tagDirective .. | .documentStart | .documentEnd
              | .streamEnd => empty token.start
              | _ => node true false fuel
          | _ => fail
    if ← isBroken then return (root, false)
    -- the end of the document
    match ← peek with
    | none => do
      let _ ← fail
      return (root, false)
    | some token =>
      if token.kind == .documentEnd then next
      let rest := (← get).tokens.dropWhile (·.kind == .documentEnd)
      return (root, rest.head?.map (·.kind) != some .streamEnd)

end Build

/-- The first document of a stream of tokens. -/
def Tree.ofTokens (tokens : List Token) : Tree :=
  let ((root, more), b) := (Build.document (8 * tokens.length + 16)).run { tokens := tokens }
  { root := root
    anchored := b.anchored
    parts := b.parts
    fault := b.fault
    more := more }

end DeploySync.Yaml
