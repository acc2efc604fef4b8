import DeploySync.Files.Basic
import DeploySync.Proofs.Path

/-!
# The components of a path

A path starts at the root, or with a dot that stands alone, or with a name; the rest of it are names
and steps up. One path goes on from another one by names if it has the components of the other one
first, and nothing but names behind them: no step up, and no new start.

## Main definitions

* `Path.Component` — a component of a path
* `Path.components` — the components of a path in order
* `Path.GoesOn` — a path goes on from another one by names

## Main results

* `Path.goesOn_of_names` — when a path goes on from another one
-/

namespace DeploySync.Path

variable {p dir : Path} {name : String} {names : List String}

/-- A component of a path. -/
inductive Component where
  | root
  | here
  | up
  | name (text : String)
  deriving DecidableEq, Repr

/-- The component that a part between slashes is, unless the part says nothing. -/
def Component.ofName (name : String) : Component :=
  if name = Files.up then .up else .name name

/-- The components of a path. A dot that stands alone is one at the start, and says nothing
elsewhere. -/
def components (p : Path) : List Component :=
  (if p.isAbsolute then [.root] else if p.startsHere then [.here] else []) ++
    p.names.map Component.ofName

/-- A path goes on from another one by names, none of which is a slash, a dot or a step up. -/
structure GoesOn (dir p : Path) (names : List String) : Prop where
  isName : ∀ name ∈ names, IsName name ∧ name ≠ Files.up
  components : p.components = dir.components ++ names.map .name

/-- The names of a path are the names of files, or steps up. -/
theorem isName_of_mem_names (hname : name ∈ p.names) : IsName name := by
  obtain ⟨part, hpart, rfl⟩ := List.mem_map.1 hname
  obtain ⟨hpart, htrivial⟩ := List.mem_filter.1 hpart
  refine ⟨?_, ?_⟩
  · rw [String.toList_ofList]
    exact Text.notMem_of_mem_split hpart
  · rw [String.toList_ofList]
    simpa using htrivial

/-- A path that starts like another one goes on from it by the names that are behind those of the
other one, if none of them is a step up. -/
theorem goesOn_of_names (habsolute : p.isAbsolute = dir.isAbsolute)
    (hhere : p.startsHere = dir.startsHere) (hnames : p.names = dir.names ++ names)
    (hup : Files.up ∉ names) : dir.GoesOn p names where
  isName name hname :=
    ⟨isName_of_mem_names (p := p) (by simp [hnames, hname]), fun h => hup (h ▸ hname)⟩
  components := by
    have hplain : names.map Component.ofName = names.map .name :=
      List.map_congr_left fun name hname => if_neg fun (h : name = Files.up) => hup (h ▸ hname)
    rw [components, components, habsolute, hhere, hnames, List.map_append, hplain,
      List.append_assoc]

end DeploySync.Path
