import DeploySync.Document
import Mathlib.Logic.Basic

/-!
# Equality of documents can be decided

A document holds values that hold values, so that the comparison goes down both of them together.

## Main definitions

* `Yaml.Value.eqb` — compares two values, their entries in order

## Main results

* `Yaml.Value.eqb_iff` — the comparison decides equality, and with it that of documents and of what
  reading them gives
-/

namespace DeploySync

namespace Yaml.Value

mutual

/-- Compares two values; other than for `same`, the entries of mappings have an order. -/
def eqb : Value → Value → Bool
  | .null, .null => true
  | .bool a, .bool b => a == b
  | .number a, .number b => decide (a = b)
  | .string a, .string b => a == b
  | .sequence as, .sequence bs => eqbItems as bs
  | .mapping as, .mapping bs => eqbEntries as bs
  | .tagged t a, .tagged u b => t == u && eqb a b
  | _, _ => false

/-- Compares two lists of values. -/
def eqbItems : List Value → List Value → Bool
  | [], [] => true
  | a :: as, b :: bs => eqb a b && eqbItems as bs
  | _, _ => false

/-- Compares two lists of entries. -/
def eqbEntries : List (Value × Value) → List (Value × Value) → Bool
  | [], [] => true
  | (k, v) :: as, (k', v') :: bs => eqb k k' && eqb v v' && eqbEntries as bs
  | _, _ => false

end

mutual

theorem eqb_iff : (a b : Value) → (eqb a b = true ↔ a = b)
  | .null, b => by cases b <;> simp [eqb]
  | .bool _, b => by cases b <;> simp [eqb]
  | .number _, b => by cases b <;> simp [eqb]
  | .string _, b => by cases b <;> simp [eqb]
  | .sequence as, b => by cases b <;> simp [eqb, eqbItems_iff as]
  | .mapping as, b => by cases b <;> simp [eqb, eqbEntries_iff as]
  | .tagged _ a, b => by cases b <;> simp [eqb, eqb_iff a]

theorem eqbItems_iff : (as bs : List Value) → (eqbItems as bs = true ↔ as = bs)
  | [], bs => by cases bs <;> simp [eqbItems]
  | a :: as, bs => by cases bs <;> simp [eqbItems, eqb_iff a, eqbItems_iff as]

theorem eqbEntries_iff : (as bs : List (Value × Value)) → (eqbEntries as bs = true ↔ as = bs)
  | [], bs => by cases bs <;> simp [eqbEntries]
  | (k, v) :: as, bs => by
    cases bs <;> simp [eqbEntries, eqb_iff k, eqb_iff v, eqbEntries_iff as, Prod.ext_iff]

end

instance : DecidableEq Value := fun a b => decidable_of_iff _ (eqb_iff a b)

end Yaml.Value

instance : DecidableEq Document := fun d d' =>
  decidable_of_iff (d.root = d'.root) (by cases d; cases d'; simp)

instance decidableEqExcept {ε α : Type} [DecidableEq ε] [DecidableEq α] : DecidableEq (Except ε α)
  | .ok a, .ok b => decidable_of_iff (a = b) (by simp)
  | .error e, .error f => decidable_of_iff (e = f) (by simp)
  | .ok _, .error _ => .isFalse (by simp)
  | .error _, .ok _ => .isFalse (by simp)

end DeploySync
