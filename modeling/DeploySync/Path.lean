import DeploySync.Text.Quoted
import DeploySync.Text.Split

/-!
# Paths

A path is a text whose names are separated by slashes. Repeated slashes and single dots say
nothing; a path that starts with a slash starts at the root.

## Main definitions

* `Path` — a path
* `Path.join` — a path below another one
* `Path.names` — its names in order
* `Path.fileName?`, `Path.parent?` — its last name, and the path before it
-/

namespace DeploySync

/-- A path, as it was given. -/
structure Path where
  text : String
  deriving DecidableEq, Repr, Inhabited

namespace Path

/-- The path starts at the root. -/
def isAbsolute (p : Path) : Bool := p.text.toList.head? == some '/'

/-- A path below another one; one that starts at the root replaces it. -/
def join (p : Path) (q : String) : Path :=
  if q.toList.head? == some '/' || p.text.isEmpty then ⟨q⟩
  else if p.text.toList.getLast? == some '/' then ⟨p.text ++ q⟩
  else ⟨p.text ++ "/" ++ q⟩

/-- A part of a path that says nothing. -/
def isTrivial (part : List Char) : Bool := part.isEmpty || part == ['.']

/-- The names of a path in order, `..` among them. -/
def names (p : Path) : List String :=
  ((Text.split '/' p.text.toList).filter (! isTrivial ·)).map String.ofList

/-- The path ends like one of a directory. -/
def namesDirectory (p : Path) : Bool :=
  match p.text.toList.reverse with
  | '/' :: _ => true
  | ['.'] => true
  | '.' :: '/' :: _ => true
  | _ => false

/-- The lead of a path that is no name, and the parts behind it: the root, or a dot at the
start. -/
def leadAndParts (p : Path) : List Char × List (List Char) :=
  match p.text.toList with
  | '/' :: rest => (['/'], Text.split '/' rest)
  | ['.'] => (['.'], [])
  | '.' :: '/' :: rest => (['.'], [] :: Text.split '/' rest)
  | s => ([], Text.split '/' s)

/-- The parts without those at the end that say nothing. -/
def dropTrivialEnd (parts : List (List Char)) : List (List Char) :=
  (parts.reverse.dropWhile isTrivial).reverse

/-- The last name of a path, if it is the name of a file or a directory. -/
def fileName? (p : Path) : Option String :=
  match (dropTrivialEnd (leadAndParts p).2).getLast? with
  | some name => if name == ['.', '.'] then none else some (String.ofList name)
  | none => none

/-- The path before the last name. -/
def parent? (p : Path) : Option Path :=
  let (lead, parts) := leadAndParts p
  match dropTrivialEnd parts with
  | [] => if lead == ['.'] then some ⟨""⟩ else none
  | real =>
    let kept := dropTrivialEnd real.dropLast
    some ⟨String.ofList (lead ++ Text.join ['/'] kept)⟩

/-- A path between double quotes. -/
def quoted (p : Path) : String := Text.quotedPath p.text

end Path

end DeploySync
