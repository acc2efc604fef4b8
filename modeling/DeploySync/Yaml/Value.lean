import DeploySync.Yaml.Number

/-!
# YAML values

## Main definitions

* `Yaml.Value` — null, booleans, numbers, texts, sequences, mappings, and values with a tag of
  their own
* `Yaml.Value.same` — equality of values, on which the keys of a mapping are compared
* `Yaml.Value.get?` — the value under a text key
-/

namespace DeploySync.Yaml

/-- A value. The entries of a mapping are in the order of the document; the tag of a tagged value
is kept without its exclamation mark, unless it is nothing else. -/
inductive Value where
  | null
  | bool (value : Bool)
  | number (value : Number)
  | string (value : String)
  | sequence (items : List Value)
  | mapping (entries : List (Value × Value))
  | tagged (tag : String) (value : Value)
  deriving Repr, Inhabited

/-- A tag without its exclamation mark. -/
def bareTag (tag : String) : String :=
  match tag.toList with
  | '!' :: c :: rest => String.ofList (c :: rest)
  | _ => tag

namespace Value

mutual

/-- Whether two values are equal. Mappings are equal when they have the same entries in any
order. -/
def same : Value → Value → Bool
  | .null, .null => true
  | .bool a, .bool b => a == b
  | .number a, .number b => a.same b
  | .string a, .string b => a == b
  | .sequence a, .sequence b => sameItems a b
  | .mapping a, .mapping b => a.length == b.length && entriesWithin a b
  | .tagged t a, .tagged u b => bareTag t == bareTag u && same a b
  | _, _ => false

/-- Whether two lists of values are equal item by item. -/
def sameItems : List Value → List Value → Bool
  | [], [] => true
  | a :: as, b :: bs => same a b && sameItems as bs
  | _, _ => false

/-- Whether every entry of the first list is in the second. -/
def entriesWithin : List (Value × Value) → List (Value × Value) → Bool
  | [], _ => true
  | (k, v) :: rest, b => b.any (fun (k', v') => same k k' && same v v') && entriesWithin rest b

end

/-- The value without its own tags. -/
def untagged : Value → Value
  | .tagged _ v => v.untagged
  | v => v

/-- The value under a text key, if the value, its tags removed, is a mapping that has it. -/
def get? (v : Value) (key : String) : Option Value :=
  match v.untagged with
  | .mapping entries =>
    (entries.find? fun (k, _) =>
      match k with
      | .string s => s == key
      | _ => false).map (·.2)
  | _ => none

end Value

end DeploySync.Yaml
