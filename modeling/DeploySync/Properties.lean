import DeploySync.Table

/-!
# Properties

Deployment steps read their settings from a file of lines `KEY=VALUE`.

## Main definitions

* `Properties` — keys with their values, in the order in which the keys came
* `Properties.insert`, `Properties.ofList`, `Properties.get?` — the operations
* `Properties.render` — the lines of the file
-/

namespace DeploySync

/-- Keys with their values, in the order in which the keys came first. -/
structure Properties where
  entries : List (String × String) := []
  deriving DecidableEq, Repr, Inhabited

namespace Properties

/-- The name of the file of properties. -/
def fileName : String := "env.properties"

/-- Puts a value under a key: a new key comes last, a known one keeps its place. -/
def insert (p : Properties) (key value : String) : Properties :=
  ⟨Table.put key value p.entries⟩

/-- The properties of a list of keys and values, put in one after the other. -/
def ofList (entries : List (String × String)) : Properties :=
  entries.foldl (fun p (key, value) => p.insert key value) {}

/-- The value under a key. -/
def get? (p : Properties) (key : String) : Option String := p.entries.lookup key

/-- The number of keys. -/
def size (p : Properties) : Nat := p.entries.length

/-- There are no keys. -/
def isEmpty (p : Properties) : Bool := p.entries.isEmpty

/-- One line of the file, with its end. -/
def line (entry : String × String) : String := entry.1 ++ "=" ++ entry.2 ++ "\n"

/-- The file: one line for each key. -/
def render (p : Properties) : String := String.join (p.entries.map line)

@[simp] theorem size_mk (entries : List (String × String)) :
    (Properties.mk entries).size = entries.length := rfl

@[simp] theorem render_nil : ({} : Properties).render = "" := rfl

end Properties

end DeploySync
