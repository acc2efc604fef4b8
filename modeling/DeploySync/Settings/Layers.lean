import DeploySync.Error
import DeploySync.Settings.Setting

/-!
# The layers of the settings

A setting is what its own variable says, unless that is missing or empty; else what a variable
says that names the group and the field behind a common start; else its default.

## Main definitions

* `Settings.Variables` — the variables of an environment
* `Settings.lowerName` — the name of a variable in lower case
* `Settings.pathOf?` — group and field that the name of a variable spells
* `Settings.Layers` — what is said about each setting
* `Settings.Layers.given` — what holds for a setting
* `Settings.layersOf`, `Settings.ownLayers` — the layers of an environment
-/

namespace DeploySync.Settings

/-- The variables of an environment. Of two of one name the first counts. -/
abbrev Variables := List (String × String)

/-- The value of a variable. -/
def Variables.get? (vars : Variables) (name : String) : Option String := vars.lookup name

/-- The start of the variables that name a group and a field, in lower case. -/
def nameStart : List Char := "workspace_vars__".toList

private def isNameChar (c : Char) : Bool :=
  Text.isLetter c || Text.isDigit c || c == '_' || c == '-'

/-- Puts a dot for each two underscores. -/
def dotted : List Char → List Char
  | '_' :: '_' :: rest => '.' :: dotted rest
  | c :: rest => c :: dotted rest
  | [] => []

/-- The lower case of a character, as far as it is one of ASCII. Besides the capital letters only
the Kelvin sign has such a lower case. -/
def lowerChar (c : Char) : Char := if c == '\u212A' then 'k' else Text.lower c

/-- The name of a variable in lower case. -/
def lowerName (name : String) : List Char := name.toList.map lowerChar

/-- Group, field and further parts that the name of a variable spells, in any letter case, with
two underscores between them. -/
def pathOf? (name : String) : Option (List String) :=
  match Text.stripStart? nameStart (lowerName name) with
  | none => none
  | some rest =>
    let parts := Text.split '.' (dotted rest)
    if parts.all fun p => ! p.isEmpty && p.all isNameChar then some (parts.map String.ofList)
    else none

/-- What is said about a setting. -/
inductive Given where
  | nothing
  | text (value : String)
  /-- Variables name members below the setting, as if it were a group. -/
  | members (names : List String)
  deriving DecidableEq, Repr

/-- What is said about the settings: the value of each setting's own variable, and the paths that
the other variables spell, with their values. -/
structure Layers where
  own : Setting → Option String
  named : List (List String × String)

namespace Layers

/-- The value at a path. -/
def valueAt (l : Layers) (path : List String) : Option String := l.named.lookup path

/-- The names of the members below a path. -/
def membersBelow (l : Layers) (path : List String) : List String :=
  l.named.filterMap fun (p, _) =>
    if path.isPrefixOf p then p[path.length]? else none

/-- The text that a whole group was set to. -/
def flat? (l : Layers) (s : Group) : Option String := l.valueAt [s.name]

/-- What holds for a setting: its own variable unless empty, else a variable that names it, else
the default. In a group that was set to a text there are no defaults. -/
def given (l : Layers) (s : Setting) : Given :=
  match (l.own s).filter (! ·.isEmpty) with
  | some value => .text value
  | none =>
    match l.membersBelow s.path with
    | _ :: _ => .members (l.membersBelow s.path).eraseDups
    | [] =>
      match l.valueAt s.path with
      | some value => .text value
      | none =>
        if (l.flat? s.group).isSome then .nothing
        else
          match s.default? with
          | some value => .text value
          | none => .nothing

/-- A group that was set to a text, and about none of whose settings anything else is said. -/
def flatFault? (l : Layers) (s : Group) : Option Error :=
  match l.flat? s with
  | none => none
  | some value =>
    if Setting.all.any fun x => x.group == s && l.given x != .nothing then none
    else some (.flatGroup value s.typeName s.name)

/-- What holds for a setting, as a text. -/
def text? (l : Layers) (s : Setting) : Except Error (Option String) :=
  match l.given s with
  | .nothing => .ok none
  | .text value => .ok (some value)
  | .members _ => .error (.notText s.key)

/-- What holds for a setting that may not be missing. -/
def text (l : Layers) (s : Setting) : Except Error String :=
  match l.text? s with
  | .ok (some value) => .ok value
  | .ok none => .error (.missingField s.key)
  | .error e => .error e

/-- What holds for a setting that is a name. -/
def name {α : Type} (l : Layers) (s : Setting) (type : String) (ofName? : String → Option α) :
    Except Error α :=
  let known (value : String) : Except Error α :=
    match ofName? value with
    | some a => .ok a
    | none => .error (.unknownName type value s.key)
  match l.given s with
  | .nothing => .error (.missingField s.key)
  | .text value => known value
  | .members [value] => known value
  | .members _ => .error (.severalMembers type s.key)

end Layers

/-- The layers of an environment. -/
def layersOf (vars : Variables) : Layers where
  own s := vars.get? s.variableName
  named := vars.filterMap fun (name, value) => (pathOf? name).map (·, value)

/-- The layers of an environment in which only the settings' own variables count. -/
def ownLayers (vars : Variables) : Layers where
  own s := vars.get? s.variableName
  named := []

end DeploySync.Settings
