import DeploySync.Text.Split

/-!
# Storage classes

## Main definitions

* `StorageClass` — the class of a bucket or a blob
* `StorageClass.name` — its name
* `StorageClass.ofName?`, `StorageClass.ofAnyCase?` — the class of a name, exact or in any letter
  case
-/

namespace DeploySync

/-- The class under which a bucket or a blob is stored. -/
inductive StorageClass where
  | standard
  | nearline
  | coldline
  | archive
  deriving DecidableEq, Repr, Inhabited

namespace StorageClass

/-- All classes. -/
def all : List StorageClass := [.standard, .nearline, .coldline, .archive]

/-- The name of a class. -/
def name : StorageClass → String
  | .standard => "STANDARD"
  | .nearline => "NEARLINE"
  | .coldline => "COLDLINE"
  | .archive => "ARCHIVE"

/-- The names of all classes. -/
def names : List String := all.map name

/-- The class of a name. -/
def ofName? (s : String) : Option StorageClass := all.find? (·.name == s)

/-- The class of a name in any letter case. -/
def ofAnyCase? (s : String) : Option StorageClass :=
  all.find? fun c => Text.eqIgnoringCase c.name s

@[simp] theorem ofName?_name (c : StorageClass) : ofName? c.name = some c := by
  cases c <;> decide

end StorageClass

end DeploySync
