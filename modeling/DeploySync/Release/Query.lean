import DeploySync.Settings.Basic
import DeploySync.Text.Blank

/-!
# Queries for release archives

## Main definitions

* `Release.Query` — what to look for among the archives of a version
* `Release.Query.ofTexts`, `Release.Query.ofSettings` — the query that texts or settings spell
-/

namespace DeploySync.Release

/-- What to look for among the archives of a version: pieces of their names. -/
structure Query where
  distro : String
  arch : String
  version : String
  deriving DecidableEq, Repr

namespace Query

/-- A text that has to be there, without the blanks at its ends. -/
def required (name : String) (text : Option String) : Except Error String :=
  match text.map Text.trim with
  | some s => if s.isEmpty then .error (.validation (.variableNotSet name)) else .ok s
  | none => .error (.validation (.variableNotSet name))

/-- The query that texts spell; each of them has to be there. -/
def ofTexts (distro arch version : Option String) : Except Error Query := do
  let distro ← required "DISTRO" distro
  let arch ← required "ARCH" arch
  let version ← required "ASDB_VERSION" version
  return ⟨distro, arch, version⟩

/-- The query of the settings. -/
def ofSettings (c : Settings) : Except Error Query := ofTexts c.distro c.arch c.version

end Query

end DeploySync.Release
