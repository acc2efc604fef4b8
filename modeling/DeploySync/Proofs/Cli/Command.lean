import DeploySync.Cli.Command
import DeploySync.Proofs.Text.Split
import Mathlib.Data.List.Nodup
import Mathlib.Data.List.Perm.Subperm

/-!
# What command lines spell

A command line is accepted exactly if it spells flags of the command, each of them once, and at most
one of those that exclude each other. A flag stands alone, or with a value, which is attached to it
behind an equals sign or is the next argument.

## Main definitions

* `Cli.IsOperand` — an argument that is no flag
* `Cli.Command.Switches`, `Cli.Command.Takes` — the flags without a value and with one
* `Cli.Command.Spells` — arguments spell flags
* `Cli.Command.Step` — what one argument makes of what was read so far

## Main results

* `Cli.Command.step_of_read`, `Cli.Command.Step.read` — reading an argument is such a step
* `Cli.Command.spells_of_readAll`, `Cli.Command.Spells.exists_readAll` — what arguments are read as
* `Cli.Command.parse_eq_ok_iff` — the command lines that are accepted
* `Cli.Command.parse_eq_ok_iff_of_exclusive` — those that are accepted where all flags exclude each
  other
-/

namespace DeploySync.Cli

/-- The argument is no flag. A single dash is none. -/
def IsOperand (argument : String) : Prop := ∀ d rest, argument.toList ≠ '-' :: d :: rest

namespace Command

variable {c : Command} {r r' : Reading} {g h more : Given} {name value argument : String}
variable {attached : Option String} {arguments : List String}

/-- The flag takes no value, nor does it ask for an explanation. -/
def Switches (c : Command) (name : String) : Prop :=
  name ≠ helpFlag.name ∧ ∃ f, c.flag? name = some f ∧ f.value? = none

/-- The flag takes a value. -/
def Takes (c : Command) (name : String) : Prop :=
  ∃ f what, c.flag? name = some f ∧ f.value? = some what

/-- The arguments spell the flags, with their values. Two dashes may stand at the end. -/
inductive Spells (c : Command) : List String → Given → Prop
  | nothing : Spells c [] []
  | dashes : Spells c ["--"] []
  | switch {name : String} {arguments : List String} {g : Given} (hname : c.Switches name)
    (hrest : Spells c arguments g) : Spells c (("--" ++ name) :: arguments) ((name, none) :: g)
  | attached {name value : String} {arguments : List String} {g : Given} (hname : c.Takes name)
    (hrest : Spells c arguments g) :
    Spells c (("--" ++ name ++ "=" ++ value) :: arguments) ((name, some value) :: g)
  | separate {name value : String} {arguments : List String} {g : Given} (hname : c.Takes name)
    (hvalue : IsOperand value) (hrest : Spells c arguments g) :
    Spells c (("--" ++ name) :: value :: arguments) ((name, some value) :: g)

/-- What an argument makes of what was read so far. But for the value of a flag that still waits for
it, every argument needs that all flags before it are settled. -/
inductive Step (c : Command) (r : Reading) : String → Reading → Prop
  | switch {name : String} {g : Given} (hname : c.Switches name)
      (hsettle : r.settle = .ok ⟨g, none⟩)
    (hnew : g.has name = false) : Step c r ("--" ++ name) ⟨g ++ [(name, none)], none⟩
  | attached {name value : String} {g : Given} (hname : c.Takes name)
    (hsettle : r.settle = .ok ⟨g, none⟩) (hnew : g.has name = false) :
    Step c r ("--" ++ name ++ "=" ++ value) ⟨g ++ [(name, some value)], none⟩
  | opened {name : String} {g : Given} (hname : c.Takes name) (hsettle : r.settle = .ok ⟨g, none⟩) :
    Step c r ("--" ++ name) ⟨g, some (name, none)⟩
  | operand {name value : String} (hopen : r.open? = some (name, none)) (hvalue : IsOperand value) :
    Step c r value ⟨r.given, some (name, some value)⟩

/-- The names of flags can be told from what stands around them. -/
def HasPlainNames (c : Command) : Prop := ∀ f ∈ c.flags, f.name ≠ "" ∧ '=' ∉ f.name.toList

/-! ### Flags -/

theorem of_flag? {f : Flag} (hflag : c.flag? name = some f) :
    f.name = name ∧ (f ∈ c.flags ∨ f = helpFlag) := by
  have hname := List.find?_some hflag
  have hmem := List.mem_of_find?_eq_some hflag
  rw [List.mem_append, List.mem_singleton] at hmem
  exact ⟨beq_iff_eq.1 hname, hmem⟩

theorem HasPlainNames.of_flag? (hc : c.HasPlainNames) {f : Flag} (hflag : c.flag? name = some f) :
    name ≠ "" ∧ '=' ∉ name.toList := by
  obtain ⟨rfl, hmem | rfl⟩ := Command.of_flag? hflag
  · exact hc f hmem
  · decide

theorem longFlag?_eq_none (hoperand : IsOperand argument) : longFlag? argument.toList = none := by
  unfold longFlag?
  split
  · next rest hrest => exact absurd hrest (hoperand '-' rest)
  · rfl

theorem longFlag?_name (hname : '=' ∉ name.toList) :
    longFlag? ("--" ++ name).toList = some (name, none) := by
  have hlist : ("--" ++ name).toList = '-' :: '-' :: name.toList := by
    rw [String.toList_append]
    rfl
  rw [hlist, longFlag?, Text.cut?_eq_none_iff.2 hname]
  simp

theorem longFlag?_attached (hname : '=' ∉ name.toList) (value : String) :
    longFlag? ("--" ++ name ++ "=" ++ value).toList = some (name, some value) := by
  have hlist : ("--" ++ name ++ "=" ++ value).toList =
      '-' :: '-' :: (name.toList ++ '=' :: value.toList) := by
    simp [String.toList_append]
  rw [hlist, longFlag?, Text.cut?_append_cons hname]
  simp

/-- A long flag stands alone, or its value is attached to it. -/
theorem of_longFlag? (hlong : longFlag? argument.toList = some (name, attached)) :
    (attached = none ∧ argument = "--" ++ name) ∨
      ∃ value, attached = some value ∧ argument = "--" ++ name ++ "=" ++ value := by
  unfold longFlag? at hlong
  split at hlong
  · next rest hrest =>
    split at hlong
    · next before after hcut =>
      obtain ⟨rfl, rfl⟩ := Prod.mk.inj (Option.some.inj hlong)
      refine Or.inr ⟨_, rfl, String.toList_injective ?_⟩
      rw [hrest, (Text.cut?_eq_some_iff.1 hcut).1]
      simp [String.toList_append]
    · obtain ⟨rfl, rfl⟩ := Prod.mk.inj (Option.some.inj hlong)
      refine Or.inl ⟨rfl, String.toList_injective ?_⟩
      rw [hrest]
      simp [String.toList_append]
  · cases hlong

/-! ### One argument -/

@[simp] theorem settle_mk (g : Given) : (Reading.mk g none).settle = .ok ⟨g, none⟩ := rfl

theorem put_eq_ok_iff {v : Option String} :
    (Reading.mk g none).put name v = .ok r ↔ g.has name = false ∧ r = ⟨g ++ [(name, v)], none⟩ := by
  rw [Reading.put]
  split
  · next hhas => simp [hhas]
  · next hhas => simp [hhas, eq_comm]

/-- A flag with its value is settled if it did not come before. -/
theorem settle_filled_iff :
    (Reading.mk g (some (name, some value))).settle = .ok r ↔
      g.has name = false ∧ r = ⟨g ++ [(name, some value)], none⟩ := put_eq_ok_iff

/-- Behind settling no flag waits for its value. -/
theorem open?_of_settle (hsettle : r.settle = .ok r') : r' = ⟨r'.given, none⟩ := by
  obtain ⟨g, _ | ⟨name, _ | value⟩⟩ := r
  · obtain rfl := Except.ok.inj hsettle
    rfl
  · cases hsettle
  · rw [(settle_filled_iff.1 hsettle).2]

/-- What comes before settling may fail; what comes behind starts from what is settled. -/
theorem settle_bind_eq_ok_iff {α : Type} {a : α} {next : Reading → Except Fault α} :
    (r.settle >>= next) = .ok a ↔ ∃ g, r.settle = .ok ⟨g, none⟩ ∧ next ⟨g, none⟩ = .ok a := by
  constructor
  · intro hbind
    cases hsettle : r.settle with
    | error e =>
      rw [hsettle] at hbind
      cases hbind
    | ok settled =>
      rw [hsettle] at hbind
      have hsettled := open?_of_settle hsettle
      rw [hsettled] at hbind hsettle ⊢
      exact ⟨settled.given, rfl, hbind⟩
  · rintro ⟨g, hsettle, hnext⟩
    rw [hsettle]
    exact hnext

/-- A flag without an attached value stands alone, or it waits for its value. -/
theorem readLong_none_iff :
    c.readLong r name none = .ok r' ↔
      (c.Switches name ∧ ∃ g, r.settle = .ok ⟨g, none⟩ ∧ g.has name = false ∧
        r' = ⟨g ++ [(name, none)], none⟩) ∨
      (c.Takes name ∧ ∃ g, r.settle = .ok ⟨g, none⟩ ∧ r' = ⟨g, some (name, none)⟩) := by
  rw [readLong, Switches, Takes]
  cases hflag : c.flag? name with
  | none => simp
  | some f =>
    cases hvalue : f.value? with
    | none =>
      dsimp only
      rw [hvalue]
      dsimp only
      rw [settle_bind_eq_ok_iff]
      -- the flag that asks for an explanation is a fault, not a switch
      by_cases hhelp : name = helpFlag.name
      · simp [hhelp, hvalue]
      · simp [hhelp, hvalue, put_eq_ok_iff]
    | some what =>
      dsimp only
      rw [hvalue]
      dsimp only
      have hopened (g : Given) : (pure ⟨g, some (name, none)⟩ : Except Fault Reading) = .ok r' ↔
          r' = ⟨g, some (name, none)⟩ :=
        ⟨fun hok => (Except.ok.inj hok).symm, fun hr => congrArg Except.ok hr.symm⟩
      rw [settle_bind_eq_ok_iff]
      simp [hvalue, hopened]

/-- A value is attached only to a flag that takes one. -/
theorem readLong_some_iff :
    c.readLong r name (some value) = .ok r' ↔
      c.Takes name ∧ ∃ g, r.settle = .ok ⟨g, none⟩ ∧ g.has name = false ∧
        r' = ⟨g ++ [(name, some value)], none⟩ := by
  rw [readLong, Takes]
  cases hflag : c.flag? name with
  | none => simp
  | some f =>
    cases hvalue : f.value? with
    | none => simp [hvalue]
    | some what =>
      dsimp only
      rw [hvalue]
      dsimp only
      rw [settle_bind_eq_ok_iff]
      simp [hvalue, put_eq_ok_iff]

/-- Reading an argument is a step. -/
theorem step_of_read (hread : c.read r argument = .ok r') : Step c r argument r' := by
  unfold read at hread
  split at hread
  · next name attached hlong =>
    obtain ⟨rfl, rfl⟩ | ⟨value, rfl, rfl⟩ := of_longFlag? hlong
    · obtain ⟨hname, g, hsettle, hnew, rfl⟩ | ⟨hname, g, hsettle, rfl⟩ := readLong_none_iff.1 hread
      · exact .switch hname hsettle hnew
      · exact .opened hname hsettle
    · obtain ⟨hname, g, hsettle, hnew, rfl⟩ := readLong_some_iff.1 hread
      exact .attached hname hsettle hnew
  · -- the short form of the flag that asks for an explanation
    obtain ⟨g, -, herror⟩ := settle_bind_eq_ok_iff.1 hread
    cases herror
  · cases hread
  · next hhelp hshort =>
    split at hread
    · next name hopen =>
      obtain rfl := Except.ok.inj hread
      exact .operand hopen fun d rest hdash => hshort d rest hdash
    · cases hread

/-- Every step is that of reading an argument. -/
theorem Step.read (hc : c.HasPlainNames) (hstep : Step c r argument r') :
    c.read r argument = .ok r' := by
  cases hstep with
  | switch hname hsettle hnew =>
    obtain ⟨-, f, hflag, -⟩ := id hname
    rw [Command.read, longFlag?_name (hc.of_flag? hflag).2]
    exact readLong_none_iff.2 (Or.inl ⟨hname, _, hsettle, hnew, rfl⟩)
  | attached hname hsettle hnew =>
    obtain ⟨f, what, hflag, -⟩ := id hname
    rw [Command.read, longFlag?_attached (hc.of_flag? hflag).2]
    exact readLong_some_iff.2 ⟨hname, _, hsettle, hnew, rfl⟩
  | opened hname hsettle =>
    obtain ⟨f, what, hflag, -⟩ := id hname
    rw [Command.read, longFlag?_name (hc.of_flag? hflag).2]
    exact readLong_none_iff.2 (Or.inr ⟨hname, _, hsettle, rfl⟩)
  | operand hopen hvalue =>
    unfold Command.read
    rw [longFlag?_eq_none hvalue]
    split
    · next h => cases h
    · next h => exact absurd h (hvalue _ _)
    · next h => exact absurd h (hvalue _ _)
    · rw [hopen]

/-! ### All arguments -/

theorem readAll_cons (hdashes : argument ≠ "--") (r : Reading) (arguments : List String) :
    c.readAll r (argument :: arguments) =
      match c.read r argument with
      | .ok r' => c.readAll r' arguments
      | .error e => .error e := by
  rw [readAll.eq_def]
  exact if_neg (by simpa using hdashes)

theorem readAll_of_read (hdashes : argument ≠ "--") (hread : c.read r argument = .ok r')
    (arguments : List String) : c.readAll r (argument :: arguments) = c.readAll r' arguments := by
  rw [readAll_cons hdashes, hread]

/-- Arguments that are read spell flags, behind those that were read before; the first of them is
the value that a flag waits for, if one does. -/
theorem spells_of_readAll (hread : c.readAll r arguments = .ok r')
    (hsettle : r'.settle = .ok ⟨g, none⟩) :
    (∃ name value rest more, r.open? = some (name, none) ∧ arguments = value :: rest ∧
      IsOperand value ∧ c.Spells rest more ∧ g = r.given ++ (name, some value) :: more) ∨
    ∃ h more, r.settle = .ok ⟨h, none⟩ ∧ c.Spells arguments more ∧ g = h ++ more := by
  induction arguments generalizing r with
  | nil =>
    obtain rfl := Except.ok.inj hread
    exact Or.inr ⟨g, [], hsettle, .nothing, (List.append_nil g).symm⟩
  | cons argument arguments ih =>
    by_cases hdashes : argument = "--"
    · subst hdashes
      cases arguments with
      | nil =>
        obtain rfl := Except.ok.inj hread
        exact Or.inr ⟨g, [], hsettle, .dashes, (List.append_nil g).symm⟩
      | cons next rest => cases hread
    · cases hstep : c.read r argument with
      | error e =>
        rw [readAll_cons hdashes, hstep] at hread
        cases hread
      | ok r₁ =>
        rw [readAll_of_read hdashes hstep] at hread
        have hrest := ih hread
        -- what the argument is decides what the others start from
        cases step_of_read hstep with
        | switch hname hbefore hnew =>
          obtain ⟨_, _, _, _, hopen, -⟩ | ⟨h, more, hh, hspells, rfl⟩ := hrest
          · cases hopen
          · cases hh
            exact Or.inr ⟨_, _, hbefore, .switch hname hspells, List.append_assoc _ _ _⟩
        | attached hname hbefore hnew =>
          obtain ⟨_, _, _, _, hopen, -⟩ | ⟨h, more, hh, hspells, rfl⟩ := hrest
          · cases hopen
          · cases hh
            exact Or.inr ⟨_, _, hbefore, .attached hname hspells, List.append_assoc _ _ _⟩
        | opened hname hbefore =>
          obtain ⟨_, value, rest, more, hopen, rfl, hvalue, hspells, rfl⟩ | ⟨h, more, hh, -⟩ :=
            hrest
          · cases hopen
            exact Or.inr ⟨_, _, hbefore, .separate hname hvalue hspells, rfl⟩
          · cases hh
        | operand hopen hvalue =>
          obtain ⟨_, _, _, _, hopen', -⟩ | ⟨h, more, hh, hspells, rfl⟩ := hrest
          · cases hopen'
          · obtain ⟨-, hsettled⟩ := settle_filled_iff.1 hh
            cases hsettled
            exact Or.inl ⟨_, argument, arguments, more, hopen, rfl, hvalue, hspells,
              List.append_assoc _ _ _⟩

theorem has_eq_false_iff : g.has name = false ↔ name ∉ g.map (·.1) := by
  rw [Given.has, Option.isSome_eq_false_iff, Option.isNone_iff_eq_none, List.lookup_eq_none_iff]
  constructor
  · intro hall hmem
    obtain ⟨entry, hentry, rfl⟩ := List.mem_map.1 hmem
    simpa using hall entry hentry
  · intro hnew entry hentry
    rw [bne_iff_ne]
    rintro rfl
    exact hnew (List.mem_map_of_mem hentry)

theorem nodup_concat (hg : (g.map (·.1)).Nodup) (hnew : g.has name = false) (v : Option String) :
    ((g ++ [(name, v)]).map (·.1)).Nodup := by
  rw [List.map_append, List.map_singleton, ← List.concat_eq_append, List.nodup_concat]
  exact ⟨has_eq_false_iff.1 hnew, hg⟩

theorem nodup_of_settle (hr : (r.given.map (·.1)).Nodup) (hsettle : r.settle = .ok ⟨g, none⟩) :
    (g.map (·.1)).Nodup := by
  obtain ⟨h, _ | ⟨name, _ | value⟩⟩ := r
  · cases hsettle
    exact hr
  · cases hsettle
  · obtain ⟨hnew, hg⟩ := settle_filled_iff.1 hsettle
    cases hg
    exact nodup_concat hr hnew _

/-- An argument brings no flag that came before. -/
theorem Step.nodup (hstep : Step c r argument r') (hr : (r.given.map (·.1)).Nodup) :
    (r'.given.map (·.1)).Nodup := by
  cases hstep with
  | switch hname hsettle hnew => exact nodup_concat (nodup_of_settle hr hsettle) hnew _
  | attached hname hsettle hnew => exact nodup_concat (nodup_of_settle hr hsettle) hnew _
  | opened hname hsettle => exact nodup_of_settle hr hsettle
  | operand hopen hvalue => exact hr

theorem nodup_of_readAll (hread : c.readAll r arguments = .ok r')
    (hr : (r.given.map (·.1)).Nodup) : (r'.given.map (·.1)).Nodup := by
  fun_induction readAll c r arguments with
  | case1 r =>
    obtain rfl := Except.ok.inj hread
    exact hr
  | case2 r =>
    obtain rfl := Except.ok.inj hread
    exact hr
  | case3 r => cases hread
  | case4 r argument arguments hdashes r₁ hstep ih => exact ih hread ((step_of_read hstep).nodup hr)
  | case5 r argument arguments hdashes e hstep => cases hread

theorem new_of_nodup {v : Option String} (hnodup : ((g ++ (name, v) :: more).map (·.1)).Nodup) :
    g.has name = false := by
  rw [List.map_append, List.map_cons, List.nodup_append] at hnodup
  rw [has_eq_false_iff]
  exact fun hmem => hnodup.2.2 name hmem name List.mem_cons_self rfl

theorem name_ne_dashes (hname : name ≠ "") : "--" ++ name ≠ "--" := by
  intro h
  have hlist := congrArg String.toList h
  rw [String.toList_append] at hlist
  exact hname (String.toList_injective (List.append_right_eq_self.1 hlist))

theorem attached_ne_dashes (name value : String) : "--" ++ name ++ "=" ++ value ≠ "--" := by
  intro h
  have hlength := congrArg (fun s => s.toList.length) h
  simp only [String.toList_append, List.length_append] at hlength
  have hdashes : "--".toList.length = 2 := rfl
  have hequals : "=".toList.length = 1 := rfl
  omega

/-- Arguments that spell flags which are all new are read as these flags. -/
theorem Spells.exists_readAll (hc : c.HasPlainNames) (hspells : c.Spells arguments more)
    (hsettle : r.settle = .ok ⟨g, none⟩) (hnodup : ((g ++ more).map (·.1)).Nodup) :
    ∃ r', c.readAll r arguments = .ok r' ∧ r'.settle = .ok ⟨g ++ more, none⟩ := by
  induction hspells generalizing r g with
  | nothing =>
    rw [List.append_nil]
    exact ⟨r, rfl, hsettle⟩
  | dashes =>
    rw [List.append_nil]
    exact ⟨r, rfl, hsettle⟩
  | @switch name arguments more hname hspells ih =>
    obtain ⟨-, f, hflag, -⟩ := id hname
    have hstep := Step.switch hname hsettle (new_of_nodup hnodup)
    rw [readAll_of_read (name_ne_dashes (hc.of_flag? hflag).1) (hstep.read hc)]
    rw [List.append_cons g _ more] at hnodup ⊢
    exact ih (settle_mk _) hnodup
  | @attached name value arguments more hname hspells ih =>
    have hstep : Step c r ("--" ++ name ++ "=" ++ value) _ :=
      .attached hname hsettle (new_of_nodup hnodup)
    rw [readAll_of_read (attached_ne_dashes name value) (hstep.read hc)]
    rw [List.append_cons g _ more] at hnodup ⊢
    exact ih (settle_mk _) hnodup
  | @separate name value arguments more hname hvalue hspells ih =>
    obtain ⟨f, what, hflag, -⟩ := id hname
    have hopened := Step.opened hname hsettle
    have hoperand := Step.operand (c := c) (r := ⟨g, some (name, none)⟩) rfl hvalue
    have hdashes : value ≠ "--" := by
      rintro rfl
      exact hvalue '-' [] rfl
    -- the flag with its value is settled before whatever comes next
    have hfilled := settle_filled_iff (r := ⟨g ++ [(name, some value)], none⟩).2
      ⟨new_of_nodup hnodup, rfl⟩
    rw [readAll_of_read (name_ne_dashes (hc.of_flag? hflag).1) (hopened.read hc),
      readAll_of_read hdashes (hoperand.read hc)]
    rw [List.append_cons g _ more] at hnodup ⊢
    exact ih hfilled hnodup

/-- The flags are given out if at most one of those stands that exclude each other. -/
theorem unrivalled_iff :
    (match c.rivals g with
      | _ :: second :: _ => .error (.conflict second)
      | _ => .ok g : Except Fault Given) = .ok h ↔ g = h ∧ (c.rivals g).length ≤ 1 := by
  rcases c.rivals g with _ | ⟨first, _ | ⟨second, rest⟩⟩ <;> simp

/-- Behind the last argument what was read is settled, and rivals are refused. -/
theorem parse_of_readAll (hread : c.readAll {} arguments = .ok r) :
    c.parse arguments = r.settle >>= fun settled =>
      match c.rivals settled.given with
      | _ :: second :: _ => .error (.conflict second)
      | _ => .ok settled.given := by
  rw [parse, hread]
  rfl

/-- A command line is accepted exactly if it spells flags, each of them once, and at most one of
those that exclude each other. -/
theorem parse_eq_ok_iff (hc : c.HasPlainNames) :
    c.parse arguments = .ok g ↔
      c.Spells arguments g ∧ (g.map (·.1)).Nodup ∧ (c.rivals g).length ≤ 1 := by
  constructor
  · intro hparse
    cases hread : c.readAll {} arguments with
    | error e =>
      rw [parse, hread] at hparse
      cases hparse
    | ok r =>
      rw [parse_of_readAll hread] at hparse
      obtain ⟨h, hsettle, hrivals⟩ := settle_bind_eq_ok_iff.1 hparse
      obtain ⟨rfl, hexclusive⟩ := unrivalled_iff.1 hrivals
      obtain ⟨_, _, _, _, hopen, -⟩ | ⟨_, more, hstart, hspells, rfl⟩ :=
        spells_of_readAll hread hsettle
      · -- no flag waits for its value before the first argument
        cases hopen
      · cases hstart
        exact ⟨hspells, nodup_of_settle (nodup_of_readAll hread List.nodup_nil) hsettle, hexclusive⟩
  · rintro ⟨hspells, hnodup, hexclusive⟩
    obtain ⟨r, hread, hsettle⟩ := hspells.exists_readAll hc (settle_mk []) hnodup
    rw [parse_of_readAll hread]
    exact settle_bind_eq_ok_iff.2 ⟨g, hsettle, unrivalled_iff.2 ⟨rfl, hexclusive⟩⟩

/-! ### Flags that exclude each other -/

theorem spells_nil_iff : c.Spells arguments [] ↔ arguments = [] ∨ arguments = ["--"] := by
  constructor
  · rintro (_ | _)
    · exact Or.inl rfl
    · exact Or.inr rfl
  · rintro (rfl | rfl)
    · exact .nothing
    · exact .dashes

/-- A command line with one flag, which stands alone or with its value. -/
theorem spells_singleton_iff {given : Option String} :
    c.Spells arguments [(name, given)] ↔ ∃ ending, c.Spells ending [] ∧
      ((c.Switches name ∧ given = none ∧ arguments = ("--" ++ name) :: ending) ∨
        c.Takes name ∧ ∃ value, given = some value ∧
          (arguments = ("--" ++ name ++ "=" ++ value) :: ending ∨
            IsOperand value ∧ arguments = ("--" ++ name) :: value :: ending)) := by
  constructor
  · intro hspells
    cases hspells with
    | switch hname hrest => exact ⟨_, hrest, Or.inl ⟨hname, rfl, rfl⟩⟩
    | attached hname hrest => exact ⟨_, hrest, Or.inr ⟨hname, _, rfl, Or.inl rfl⟩⟩
    | separate hname hvalue hrest =>
      exact ⟨_, hrest, Or.inr ⟨hname, _, rfl, Or.inr ⟨hvalue, rfl⟩⟩⟩
  · rintro ⟨ending, hrest, ⟨hname, rfl, rfl⟩ | ⟨hname, value, rfl, rfl | ⟨hvalue, rfl⟩⟩⟩
    · exact .switch hname hrest
    · exact .attached hname hrest
    · exact .separate hname hvalue hrest

/-- An empty value is attached to its flag behind an equals sign, or an argument of its own. -/
theorem spells_empty_iff (hname : c.Takes name) :
    c.Spells arguments [(name, some "")] ↔ ∃ ending, (ending = [] ∨ ending = ["--"]) ∧
      (arguments = ("--" ++ name ++ "=") :: ending ∨
        arguments = ("--" ++ name) :: "" :: ending) := by
  have hempty : IsOperand "" := nofun
  rw [spells_singleton_iff]
  refine exists_congr fun ending => and_congr spells_nil_iff ?_
  simp [hname, hempty]

theorem mem_rivals : name ∈ c.rivals g ↔ name ∈ c.exclusive ∧ name ∈ g.map (·.1) := by
  rw [rivals, List.mem_filter, ← Bool.not_eq_false, has_eq_false_iff, not_not]

theorem Switches.exists_flag (hname : c.Switches name) : ∃ f ∈ c.flags, f.name = name := by
  obtain ⟨hhelp, f, hflag, -⟩ := hname
  obtain ⟨rfl, hmem | rfl⟩ := of_flag? hflag
  · exact ⟨f, hmem, rfl⟩
  · exact absurd rfl hhelp

theorem Takes.exists_flag (hname : c.Takes name) : ∃ f ∈ c.flags, f.name = name := by
  obtain ⟨f, what, hflag, hvalue⟩ := hname
  obtain ⟨rfl, hmem | rfl⟩ := of_flag? hflag
  · exact ⟨f, hmem, rfl⟩
  · cases hvalue

/-- What is spelled are flags of the command. -/
theorem Spells.exists_flag (hspells : c.Spells arguments g) :
    ∀ entry ∈ g, ∃ f ∈ c.flags, f.name = entry.1 := by
  induction hspells with
  | nothing => nofun
  | dashes => nofun
  | switch hname hspells ih => exact List.forall_mem_cons.2 ⟨hname.exists_flag, ih⟩
  | attached hname hspells ih => exact List.forall_mem_cons.2 ⟨hname.exists_flag, ih⟩
  | separate hname hvalue hspells ih => exact List.forall_mem_cons.2 ⟨hname.exists_flag, ih⟩

/-- Where all flags exclude each other, a command line is accepted exactly if it spells at most
one. -/
theorem parse_eq_ok_iff_of_exclusive (hc : c.HasPlainNames) (hexclusive : c.exclusive.Nodup)
    (hall : ∀ f ∈ c.flags, f.name ∈ c.exclusive) :
    c.parse arguments = .ok g ↔ c.Spells arguments g ∧ g.length ≤ 1 := by
  rw [parse_eq_ok_iff hc]
  refine and_congr_right fun hspells => ⟨fun ⟨hnodup, hrivals⟩ => ?_, fun hlength => ⟨?_, ?_⟩⟩
  · -- whatever is spelled is among the rivals
    have hsubset : g.map (·.1) ⊆ c.rivals g := by
      intro name hname
      obtain ⟨entry, hentry, rfl⟩ := List.mem_map.1 hname
      obtain ⟨f, hf, hfname⟩ := hspells.exists_flag entry hentry
      rw [mem_rivals]
      exact ⟨hfname ▸ hall f hf, hname⟩
    have hle := (hnodup.subperm hsubset).length_le
    rw [List.length_map] at hle
    exact Nat.le_trans hle hrivals
  · rcases g with _ | ⟨entry, _ | ⟨second, rest⟩⟩
    · exact List.nodup_nil
    · exact List.nodup_singleton _
    · simp at hlength
  · -- and only what is spelled is
    have hsubset : c.rivals g ⊆ g.map (·.1) := fun name hname => (mem_rivals.1 hname).2
    have hle := ((hexclusive.filter _).subperm hsubset).length_le
    rw [List.length_map] at hle
    exact Nat.le_trans hle hlength

end Command

end DeploySync.Cli
