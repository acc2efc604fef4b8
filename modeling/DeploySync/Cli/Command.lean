import DeploySync.Table
import DeploySync.Text.Split

/-!
# Command lines

A command line is a list of flags, some with values. No flag may stand twice, and of the flags that
exclude each other only one may stand.

## Main definitions

* `Cli.Flag`, `Cli.Command` — what a command line may hold
* `Cli.Command.help` — the text that explains a command
* `Cli.Fault` — why a command line is refused
* `Cli.Command.parse` — the flags of a command line
-/

namespace DeploySync.Cli

/-- A flag. -/
structure Flag where
  name : String
  /-- What the value is, if the flag takes one. -/
  value? : Option String := none
  help : String
  deriving DecidableEq, Repr

/-- What a command line may hold. -/
structure Command where
  name : String
  about : String
  flags : List Flag
  /-- Of these flags only one may stand. -/
  exclusive : List String := []
  deriving DecidableEq, Repr

/-- Why a command line is refused. -/
inductive Fault where
  | unknown (argument : String)
  | noValue (flag : String)
  | unwantedValue (flag : String)
  /-- A flag stands twice, or beside one that it excludes. -/
  | conflict (flag : String)
  /-- The command line asks for an explanation. -/
  | help
  deriving DecidableEq, Repr

/-- The wording of a fault. -/
def Fault.message : Fault → String
  | .unknown argument => s!"unexpected argument '{argument}' found"
  | .noValue flag => s!"a value is required for '--{flag}' but none was supplied"
  | .unwantedValue flag => s!"unexpected value for '--{flag}' found; no more were expected"
  | .conflict flag => s!"the argument '--{flag}' cannot be used with the ones before it"
  | .help => "help was asked for"

/-- The flags of a command line, with their values, in the order in which they stand. -/
abbrev Given := List (String × Option String)

/-- The flag stands on the command line. -/
def Given.has (g : Given) (name : String) : Bool := (g.lookup name).isSome

/-- The value of a flag. -/
def Given.value? (g : Given) (name : String) : Option String := (g.lookup name).join

namespace Command

/-- The flag that asks for an explanation. -/
def helpFlag : Flag := { name := "help", help := "Print help" }

/-- The flag of a name. -/
def flag? (c : Command) (name : String) : Option Flag :=
  (c.flags ++ [helpFlag]).find? (·.name == name)

/-! ### Explanation -/

/-- A flag with its value, as it is written; only the flag for an explanation has a short form. -/
def usage (f : Flag) : String :=
  let start := if f.name == helpFlag.name then "-h, --" else "    --"
  match f.value? with
  | some value => s!"  {start}{f.name} <{value}>"
  | none => s!"  {start}{f.name}"

private def padded (width : Nat) (s : String) : String :=
  s ++ String.ofList (List.replicate (width - s.length) ' ')

/-- The text that explains a command. -/
def help (c : Command) : String :=
  let rows := (c.flags ++ [helpFlag]).map fun f => (usage f, f.help)
  let width := rows.foldl (fun n row => max n row.1.length) 0
  let lines := rows.map fun row => padded width row.1 ++ "  " ++ row.2
  String.intercalate "\n"
    ([c.about, "", s!"Usage: {c.name} [OPTIONS]", "", "Options:"] ++ lines) ++ "\n"

/-! ### Reading -/

/-- A command line that is read in part: the flags so far, and one that takes a value, with the
value if it has come. -/
structure Reading where
  given : Given := []
  open? : Option (String × Option String) := none
  deriving DecidableEq, Repr

namespace Reading

/-- Adds a flag. -/
def put (r : Reading) (name : String) (value : Option String) : Except Fault Reading :=
  if r.given.has name then .error (.conflict name)
  else .ok { r with given := r.given ++ [(name, value)] }

/-- Adds the flag that takes a value. -/
def settle (r : Reading) : Except Fault Reading :=
  match r.open? with
  | none => .ok r
  | some (name, none) => .error (.noValue name)
  | some (name, some value) => { r with open? := none }.put name (some value)

end Reading

/-- The name of a long flag, and the value attached to it. -/
def longFlag? (argument : List Char) : Option (String × Option String) :=
  match argument with
  | '-' :: '-' :: rest =>
    match Text.cut? '=' rest with
    | some (name, value) => some (String.ofList name, some (String.ofList value))
    | none => some (String.ofList rest, none)
  | _ => none

/-- Reads a long flag. -/
def readLong (c : Command) (r : Reading) (name : String) (attached : Option String) :
    Except Fault Reading :=
  match c.flag? name with
  | none => .error (.unknown ("--" ++ name))
  | some f =>
    match f.value?, attached with
    | none, some _ => .error (.unwantedValue name)
    | none, none => do
      let r ← r.settle
      if name == helpFlag.name then .error .help else r.put name none
    | some _, some value => do
      let r ← r.settle
      r.put name (some value)
    | some _, none => do
      let r ← r.settle
      return { r with open? := some (name, none) }

/-- Reads an argument. -/
def read (c : Command) (r : Reading) (argument : String) : Except Fault Reading :=
  match longFlag? argument.toList, argument.toList with
  | some (name, attached), _ => c.readLong r name attached
  | none, '-' :: 'h' :: _ => do
    let _ ← r.settle
    .error .help
  | none, '-' :: _ :: _ => .error (.unknown argument)
  | none, _ =>
    match r.open? with
    | some (name, none) => .ok { r with open? := some (name, some argument) }
    | _ => .error (.unknown argument)

/-- Reads arguments. Behind two dashes there are no flags, and so nothing may stand. -/
def readAll (c : Command) : Reading → List String → Except Fault Reading
  | r, [] => .ok r
  | r, argument :: rest =>
    if argument == "--" then
      match rest with
      | [] => .ok r
      | next :: _ => .error (.unknown next)
    else
      match c.read r argument with
      | .ok r => c.readAll r rest
      | .error e => .error e

/-- The flags that stand and exclude each other. -/
def rivals (c : Command) (g : Given) : List String := c.exclusive.filter g.has

/-- The flags of a command line. -/
def parse (c : Command) (arguments : List String) : Except Fault Given := do
  let r ← c.readAll {} arguments
  let r ← r.settle
  match c.rivals r.given with
  | _ :: second :: _ => .error (.conflict second)
  | _ => .ok r.given

end Command

end DeploySync.Cli
