import DeploySync.Proofs.Plan
import DeploySync.Settings.Environment
import Mathlib.Tactic.SplitIfs

/-!
# Variables from the process and from a file

A variable is what the process sets it to, if the process sets it at all, and else what the file
assigns to it first.

## Main definitions

* `Settings.EnvFile.assignments` — the assignments that lines make, up to the first fault
* `Settings.EnvFile.pathOn?`, `Settings.EnvFile.contentOn` — the file that is found, and its bytes

## Main results

* `Settings.EnvFile.get?_addTo` — the value of a variable
* `Settings.EnvFile.loadOn_eq` — the variables of an environment are those of the process with those
  of the file added
-/

namespace DeploySync.Settings.EnvFile

variable {vars assigned : Variables} {name : String}

/-! ### Assignments -/

/-- The assignments that lines make in order, up to the first fault. A value may hold those of
variables that are there, or that were assigned before. -/
def assignments (vars assigned : Variables) : List (Option (List Char)) → Variables
  | [] => []
  | none :: _ => []
  | some line :: rest =>
    match assignment? (valueOf vars assigned) line with
    | none => []
    | some none => assignments vars assigned rest
    | some (some (key, value)) =>
      let more := if (vars.get? key).isSome then vars else vars ++ [(key, value)]
      (key, value) :: assignments more ((key, value) :: assigned) rest

/-- The assignments of a file. -/
def assignmentsOf (vars : Variables) (bytes : ByteArray) : Variables :=
  assignments vars [] (linesOf bytes)

theorem get?_cons (key value : String) (vars : Variables) (name : String) :
    Variables.get? ((key, value) :: vars) name =
      if name = key then some value else vars.get? name := by
  rw [Variables.get?, List.lookup_cons]
  by_cases hname : name = key
  · simp [hname]
  · rw [if_neg hname, beq_false_of_ne hname]
    rfl

@[simp] theorem get?_nil (name : String) : Variables.get? [] name = none := rfl

theorem get?_append (vars more : Variables) (name : String) :
    Variables.get? (vars ++ more) name = (vars.get? name).or (more.get? name) :=
  List.lookup_append

/-- A variable that lines assign keeps the value that it has, and else it has its first one. -/
theorem get?_addLines (lines : List (Option (List Char))) (vars assigned : Variables)
    (name : String) :
    (addLines vars assigned lines).get? name =
      (vars.get? name).or ((assignments vars assigned lines).get? name) := by
  have hnothing (vars : Variables) : vars.get? name = (vars.get? name).or none := by simp
  induction lines generalizing vars assigned with
  | nil => exact hnothing vars
  | cons line rest ih =>
    cases line with
    | none => exact hnothing vars
    | some line =>
      rw [addLines, assignments]
      rcases assignment? (valueOf vars assigned) line with _ | _ | ⟨key, value⟩
      · exact hnothing vars
      · exact ih vars assigned
      · -- the variable is there behind the line, and it is new only if it was not there before
        dsimp only
        rw [ih, get?_cons]
        by_cases hname : name = key
        · rw [if_pos hname, hname]
          split_ifs with hthere
          · obtain ⟨old, hold⟩ := Option.isSome_iff_exists.1 hthere
            simp [hold]
          · rw [Option.not_isSome_iff_eq_none] at hthere
            simp [get?_append, get?_cons, hthere]
        · rw [if_neg hname]
          split_ifs
          · rfl
          · simp [get?_append, get?_cons, hname]

/-- A variable is what the environment sets it to, and else what the file assigns to it first. -/
theorem get?_addTo (vars : Variables) (bytes : ByteArray) (name : String) :
    (addTo vars bytes).get? name =
      (vars.get? name).or ((assignmentsOf vars bytes).get? name) :=
  get?_addLines (linesOf bytes) vars [] name

/-! ### The file that is found -/

/-- The file in the working directory, or in the closest directory above it that has one. -/
def pathOn? (f : Files) : Option Path :=
  let here : Path := ⟨"/" ++ String.intercalate "/" f.here⟩
  (here.ancestors.map (·.join fileName)).find? f.isFile

/-- The bytes of the file; there are none if there is no file, or it cannot be read. -/
def contentOn (f : Files) : ByteArray :=
  match pathOn? f with
  | some path => (f.read path).toOption.getD ByteArray.empty
  | none => ByteArray.empty

/-- A file is found in the first directory that has one. -/
theorem run_find (f : Files) (dirs : List Path) :
    (find dirs).run Files.perform f = (.ok ((dirs.map (·.join fileName)).find? f.isFile), f) := by
  induction dirs with
  | nil => rfl
  | cons dir rest ih =>
    have hasked : (Plan.call (.isFile (dir.join fileName)) : FilePlan _).run Files.perform f =
        (.ok (f.isFile (dir.join fileName)), f) := Plan.run_call _ _ _
    refine (Plan.run_bind_ok hasked _).trans ?_
    rw [List.map_cons, List.find?_cons]
    cases f.isFile (dir.join fileName) with
    | false => exact ih
    | true => rfl

/-- The file that is found is read, and its variables are added. -/
theorem run_load (vars : Variables) (here : Path) (f : Files) :
    (load vars here).run Files.perform f =
      (match (here.ancestors.map (·.join fileName)).find? f.isFile with
        | none => .ok vars
        | some path => (Files.failed path (f.read path)).map (addTo vars), f) := by
  refine (Plan.run_bind_ok (run_find f here.ancestors) _).trans ?_
  cases (here.ancestors.map (·.join fileName)).find? f.isFile with
  | none => rfl
  | some path =>
    dsimp only
    have hasked : (Plan.call (.read path) : FilePlan _).run Files.perform f =
        (Files.failed path (f.read path), f) := Plan.run_call _ _ _
    cases hread : f.read path with
    | error fault =>
      rw [hread] at hasked
      exact Plan.run_bind_error hasked _
    | ok bytes =>
      rw [hread] at hasked
      exact Plan.run_bind_ok hasked _

/-- A file without bytes adds nothing. -/
theorem addTo_empty (vars : Variables) : addTo vars ByteArray.empty = vars := by
  have hlines : linesOf ByteArray.empty = [] := by decide +kernel
  rw [addTo, hlines, addLines]

/-- The variables of an environment are those of the process with those of the file added. -/
theorem loadOn_eq (vars : Variables) (f : Files) : loadOn vars f = addTo vars (contentOn f) := by
  rw [loadOn, run_load, contentOn, pathOn?]
  dsimp only
  cases ((Path.ancestors ⟨"/" ++ String.intercalate "/" f.here⟩).map (·.join fileName)).find?
      f.isFile with
  | none => exact (addTo_empty vars).symm
  | some path =>
    dsimp only
    cases f.read path with
    | error fault => exact (addTo_empty vars).symm
    | ok bytes => rfl

end DeploySync.Settings.EnvFile
