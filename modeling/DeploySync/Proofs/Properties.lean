import DeploySync.Proofs.Text.Split
import DeploySync.Properties
import Mathlib.Algebra.GroupWithZero.Nat

/-!
# Properties read back from their file

A file of properties is read line by line. It gives back the properties that were written exactly if
no value holds a line break; otherwise there are more lines than properties.

## Main definitions

* `Properties.lines` — the lines of a text, each with its end
* `Properties.assignments?` — what the lines of a text assign
* `Properties.Assigned` — the lines of a text are the properties

## Main results

* `Properties.lines_render` — the lines of the file of properties
* `Properties.assigned_render_iff` — when the file gives back the properties
-/

namespace DeploySync

namespace Properties

/-- The lines of a text, each of which has an end; what stands behind the last end is no line. -/
def lines (text : String) : List (List Char) := (Text.split '\n' text.toList).dropLast

/-- What stands behind the end of the last line. -/
def behindLines (text : String) : Option (List Char) := (Text.split '\n' text.toList).getLast?

/-- What a line assigns: the key stands before the first equals sign, the value behind it. -/
def assignment? (line : List Char) : Option (String × String) :=
  (Text.cut? '=' line).map fun (key, value) => (String.ofList key, String.ofList value)

/-- What the lines of a text assign, in order; nothing if a line has no end or assigns nothing. -/
def assignments? (text : String) : Option (List (String × String)) :=
  if behindLines text = some [] then (lines text).mapM assignment? else none

/-- A key with its value, as it stands on a line. -/
def assigned (entry : String × String) : List Char := entry.1.toList ++ '=' :: entry.2.toList

/-- A text that can be a key: it ends neither itself nor its line. -/
structure IsKey (key : String) : Prop where
  equals : '=' ∉ key.toList
  newline : '\n' ∉ key.toList

instance (key : String) : Decidable (IsKey key) :=
  decidable_of_iff ('=' ∉ key.toList ∧ '\n' ∉ key.toList)
    ⟨fun h => ⟨h.1, h.2⟩, fun h => ⟨h.equals, h.newline⟩⟩

variable {p : Properties} {entries : List (String × String)} {entry : String × String}

theorem toList_line (entry : String × String) : (line entry).toList = assigned entry ++ ['\n'] := by
  simp [line, assigned, String.toList_append]

theorem split_render (entries : List (String × String)) :
    Text.split '\n' (render ⟨entries⟩).toList =
      (entries.flatMap fun entry => Text.split '\n' (assigned entry)) ++ [[]] := by
  induction entries with
  | nil => rfl
  | cons entry rest ih =>
    have hcons : (render ⟨entry :: rest⟩).toList =
        assigned entry ++ '\n' :: (render ⟨rest⟩).toList := by
      simp [render, String.join_cons, String.toList_append, toList_line]
    rw [hcons, Text.split_append_cons, ih, List.flatMap_cons, List.append_assoc]

/-- The lines of the file are those that the keys with their values make up, and the last one has
its end. -/
theorem lines_render (p : Properties) :
    lines p.render = p.entries.flatMap (fun entry => Text.split '\n' (assigned entry)) ∧
      behindLines p.render = some [] := by
  rw [lines, behindLines, split_render, List.dropLast_concat, List.getLast?_concat]
  exact ⟨rfl, rfl⟩

theorem IsKey.assignment? (h : IsKey entry.1) : assignment? (assigned entry) = some entry := by
  rw [Properties.assignment?, assigned, Text.cut?_append_cons h.equals]
  simp

theorem IsKey.count_assigned (h : IsKey entry.1) :
    (assigned entry).count '\n' = entry.2.toList.count '\n' := by
  rw [assigned, List.count_append, List.count_eq_zero_of_not_mem h.newline, Nat.zero_add,
    List.count_cons_of_ne (by decide)]

/-- There are as many lines as properties and line breaks in values. -/
theorem length_lines_render (hkeys : ∀ entry ∈ p.entries, IsKey entry.1) :
    (lines p.render).length =
      p.entries.length + (p.entries.map fun entry => entry.2.toList.count '\n').sum := by
  rw [(lines_render p).1]
  generalize p.entries = entries at *
  induction entries with
  | nil => rfl
  | cons entry rest ih =>
    have hentry := (hkeys entry (by simp)).count_assigned
    have hrest := ih fun e he => hkeys e (by simp [he])
    rw [List.flatMap_cons, List.length_append, Text.length_split, hentry, hrest, List.length_cons,
      List.map_cons, List.sum_cons]
    omega

/-- Without line breaks in the values each property has its line. -/
theorem lines_render_of_forall (hvalues : ∀ entry ∈ p.entries, '\n' ∉ entry.2.toList)
    (hkeys : ∀ entry ∈ p.entries, IsKey entry.1) : lines p.render = p.entries.map assigned := by
  rw [(lines_render p).1, List.map_eq_flatMap]
  refine List.flatMap_congr fun entry hentry => Text.split_eq_singleton ?_
  have hkey := (hkeys entry hentry).newline
  have hvalue := hvalues entry hentry
  simp [assigned, hkey, hvalue]

/-- Lines that all assign something assign as many values. -/
theorem length_of_mapM {lines : List (List Char)} (h : lines.mapM assignment? = some entries) :
    lines.length = entries.length := by
  induction lines generalizing entries with
  | nil =>
    obtain rfl := Option.some.inj h
    rfl
  | cons line rest ih =>
    rw [List.mapM_cons] at h
    cases hline : assignment? line with
    | none => simp [hline] at h
    | some entry =>
      cases hrest : rest.mapM assignment? with
      | none => simp [hline, hrest] at h
      | some more =>
        obtain rfl : entry :: more = entries := by simpa [hline, hrest] using h
        rw [List.length_cons, List.length_cons, ih hrest]

/-- The file gives back the properties exactly if no value has a line break. -/
theorem assignments?_render_iff (hkeys : ∀ entry ∈ p.entries, IsKey entry.1) :
    assignments? p.render = some p.entries ↔ ∀ entry ∈ p.entries, '\n' ∉ entry.2.toList := by
  rw [assignments?, if_pos (lines_render p).2]
  constructor
  · intro h
    -- otherwise there would be more lines than properties
    have hlength := length_of_mapM h
    rw [length_lines_render hkeys] at hlength
    have hsum : (p.entries.map fun entry => entry.2.toList.count '\n').sum = 0 := by omega
    intro entry hentry
    exact List.count_eq_zero.1
      (List.sum_eq_zero_iff_forall_eq_nat.1 hsum _ (List.mem_map_of_mem hentry))
  · intro hvalues
    rw [lines_render_of_forall hvalues hkeys]
    generalize p.entries = entries at *
    induction entries with
    | nil => rfl
    | cons entry rest ih =>
      rw [List.map_cons, List.mapM_cons, (hkeys entry (by simp)).assignment?,
        ih (fun e he => hkeys e (by simp [he])) fun e he => hvalues e (by simp [he])]
      rfl

/-! ### What the file assigns -/

/-- The lines of a text are the properties: all of them have an end, there is one for each key, and
cut at their first equals signs they give back the keys and the values in order. -/
structure Assigned (p : Properties) (text : String) : Prop where
  ended : behindLines text = some []
  length : (lines text).length = p.entries.length
  assignments : assignments? text = some p.entries

/-- The lines of the file are the properties exactly if no value has a line break. -/
theorem assigned_render_iff {keys : List String} (hkeys : p.entries.map (·.1) = keys)
    (hall : ∀ key ∈ keys, IsKey key) :
    p.Assigned p.render ↔ ∀ entry ∈ p.entries, '\n' ∉ entry.2.toList := by
  have hentries : ∀ entry ∈ p.entries, IsKey entry.1 := by
    intro entry hentry
    refine hall entry.1 ?_
    rw [← hkeys]
    exact List.mem_map_of_mem hentry
  constructor
  · intro h
    exact (assignments?_render_iff hentries).1 h.assignments
  · intro hvalues
    refine ⟨(lines_render p).2, ?_, (assignments?_render_iff hentries).2 hvalues⟩
    rw [lines_render_of_forall hvalues hentries, List.length_map]

end Properties

end DeploySync
