/-!
# Tables

A table is a list of keys with their values, in the order in which the keys came first.

## Main definitions

* `Table.put` — a table with a value put under a key

Main statements: what stands under a key behind `put` (`Table.lookup_put`), the keys behind it
(`Table.keys_put_of_mem`, `Table.keys_put_of_notMem`), and what is found where no key stands twice
(`Table.lookup_eq_some_iff_mem`).
-/

namespace DeploySync.Table

variable {κ α : Type} [DecidableEq κ]

/-- A table with a value put under a key: a new key comes last, a known one keeps its place. -/
def put (key : κ) (value : α) : List (κ × α) → List (κ × α)
  | [] => [(key, value)]
  | (k, v) :: rest => if k = key then (key, value) :: rest else (k, v) :: put key value rest

@[simp] theorem put_nil (key : κ) (value : α) : put key value [] = [(key, value)] := rfl

/-- The first value under a key is found. -/
theorem lookup_cons (k a : κ) (v : α) (rest : List (κ × α)) :
    ((a, v) :: rest).lookup k = if k = a then some v else rest.lookup k := by
  by_cases h : k = a
  · subst h
    simp
  · simp only [List.lookup_cons, beq_false_of_ne h, if_neg h]

/-- Behind `put` the new value stands under the key, and under other keys what stood there. -/
theorem lookup_put (key k : κ) (value : α) (table : List (κ × α)) :
    (put key value table).lookup k = if k = key then some value else table.lookup k := by
  induction table with
  | nil => simp [lookup_cons]
  | cons entry rest ih =>
    obtain ⟨a, v⟩ := entry
    rw [put]
    by_cases ha : a = key
    · subst ha
      by_cases hk : k = a <;> simp [hk, lookup_cons]
    · rw [if_neg ha, lookup_cons, lookup_cons, ih]
      by_cases hk : k = a
      · subst hk
        simp [ha]
      · simp [hk]

/-- A known key keeps its place. -/
theorem keys_put_of_mem {key : κ} (value : α) {table : List (κ × α)}
    (h : key ∈ table.map (·.1)) : (put key value table).map (·.1) = table.map (·.1) := by
  induction table with
  | nil => simp at h
  | cons entry rest ih =>
    obtain ⟨a, v⟩ := entry
    rw [put]
    by_cases ha : a = key
    · simp [ha]
    · simp only [if_neg ha, List.map_cons]
      rw [ih (by simpa [Ne.symm ha] using h)]

/-- A new key comes last. -/
theorem keys_put_of_notMem {key : κ} (value : α) {table : List (κ × α)}
    (h : key ∉ table.map (·.1)) : (put key value table).map (·.1) = table.map (·.1) ++ [key] := by
  induction table with
  | nil => rfl
  | cons entry rest ih =>
    obtain ⟨a, v⟩ := entry
    simp only [List.map_cons, List.mem_cons, not_or] at h
    rw [put, if_neg (Ne.symm h.1)]
    simp [ih h.2]

/-- Where no key stands twice, what is found under a key is what stands there. -/
theorem lookup_eq_some_iff_mem {key : κ} {value : α} {table : List (κ × α)}
    (h : (table.map (·.1)).Nodup) : table.lookup key = some value ↔ (key, value) ∈ table := by
  induction table with
  | nil => simp
  | cons entry rest ih =>
    obtain ⟨a, v⟩ := entry
    rw [List.map_cons, List.nodup_cons] at h
    rw [lookup_cons, List.mem_cons, Prod.mk.injEq]
    by_cases hkey : key = a
    · subst hkey
      -- the key does not come again
      have hrest : (key, value) ∉ rest := fun hmem => h.1 (List.mem_map.2 ⟨_, hmem, rfl⟩)
      simp [hrest, eq_comm]
    · simp [hkey, ih h.2]

end DeploySync.Table
