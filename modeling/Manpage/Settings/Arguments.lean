/-
# Command-line arguments

Reads the arguments of the program: options with a value, the flags for help, version and more log
output, and the applets to make pages for.  A value follows its option in the next argument or
after `=`; a short option may also have it right behind its letter.  After `--` everything is an
applet.

A value is looked at when the next option or applet begins, and a missing value too; an argument
that is no option at all is refused on the spot.  This decides which of two faults is reported.
-/
import Manpage.Text.Basic

namespace Manpage

/-- The settings that a user may choose, on the command line or in a configuration file. -/
structure Choices where
  tool : Option Text
  appletsCommand : Option Text
  includeDir : Option Text
  outDir : Option Text
  date : Option Text
  jobs : Option Nat
deriving DecidableEq, Repr, Inhabited

/-- No choice made. -/
def Choices.none : Choices := ⟨.none, .none, .none, .none, .none, .none⟩

/-- What the command line says. -/
structure Arguments where
  applets : List Text
  choices : Choices
  /-- The path of a configuration file. -/
  config : Option Text
  /-- How often more log output was asked for, at most 255 times. -/
  verbosity : Nat
deriving DecidableEq, Repr

/-- Why the arguments are not acted on. -/
inductive ArgumentFault
  /-- An option that does not exist. -/
  | unknownOption
  /-- An option without its value, or a path that is empty. -/
  | missingValue
  /-- A number of jobs that is no number. -/
  | badNumber
  /-- An option that was given before. -/
  | repeatedOption
  /-- A value for an option that takes none. -/
  | unwantedValue
  /-- The user asked for help. -/
  | helpWanted
  /-- The user asked for the version. -/
  | versionWanted
deriving DecidableEq, Repr

/-- The exit status after an argument fault: being asked for help or version is no failure. -/
def ArgumentFault.exitCode : ArgumentFault → Nat
  | .helpWanted => 0
  | .versionWanted => 0
  | _ => 2

namespace Arguments

/-- The options with a value. -/
inductive ValueOption
  | tool | appletsCommand | includeDir | outDir | date | jobs | config
deriving DecidableEq, Repr

/-- The options without a value. -/
inductive FlagOption
  | verbose | help | version
deriving DecidableEq, Repr

/-- An option of either kind. -/
inductive Switch
  | value (option : ValueOption)
  | flag (option : FlagOption)
deriving DecidableEq, Repr

/-- The option with a long name. -/
def longOption? (name : Text) : Option Switch :=
  if name = "tool".toList then some (.value .tool)
  else if name = "applets-cmd".toList then some (.value .appletsCommand)
  else if name = "include-dir".toList then some (.value .includeDir)
  else if name = "out-dir".toList then some (.value .outDir)
  else if name = "date".toList then some (.value .date)
  else if name = "jobs".toList then some (.value .jobs)
  else if name = "config".toList then some (.value .config)
  else if name = "verbose".toList then some (.flag .verbose)
  else if name = "help".toList then some (.flag .help)
  else if name = "version".toList then some (.flag .version)
  else none

/-- The option with a short name. -/
def shortOption? (letter : Char) : Option Switch :=
  if letter = 'j' then some (.value .jobs)
  else if letter = 'v' then some (.flag .verbose)
  else if letter = 'h' then some (.flag .help)
  else if letter = 'V' then some (.flag .version)
  else none

/-! ## 1. Storing values -/

/-- The value of a decimal digit. -/
def digit? (c : Char) : Option Nat := if c.isDigit then some (c.toNat - '0'.toNat) else none

/-- A number of jobs: decimal digits, at least one, after an optional plus sign, below `2 ^ 64`. -/
def readJobs? (s : Text) : Option Nat :=
  let digits := if s.head? = some '+' then s.tail else s
  if digits = [] then none
  else
    match digits.mapM digit? with
    | none => none
    | some ds =>
      let n := ds.foldl (fun n d => n * 10 + d) 0
      if n < Nat.pow 2 64 then some n else none

/-- A value stored where none has been stored yet. -/
def store {α : Type} (slot : Option α) (value : Except ArgumentFault α) :
    Except ArgumentFault (Option α) :=
  match slot with
  | some _ => .error .repeatedOption
  | none => value.map some

/-- A path must not be empty. -/
def readPath (value : Text) : Except ArgumentFault Text :=
  if value = [] then .error .missingValue else .ok value

/-- Stores the value of an option. -/
def set (args : Arguments) (option : ValueOption) (value : Text) :
    Except ArgumentFault Arguments := do
  let chosen := args.choices
  match option with
  | .tool => return { args with choices.tool := ← store chosen.tool (.ok value) }
  | .appletsCommand =>
    return { args with choices.appletsCommand := ← store chosen.appletsCommand (.ok value) }
  | .includeDir =>
    return { args with choices.includeDir := ← store chosen.includeDir (readPath value) }
  | .outDir => return { args with choices.outDir := ← store chosen.outDir (readPath value) }
  | .date => return { args with choices.date := ← store chosen.date (.ok value) }
  | .jobs =>
    let jobs : Except ArgumentFault Nat :=
      match readJobs? value with
      | some n => .ok n
      | none => .error .badNumber
    return { args with choices.jobs := ← store chosen.jobs jobs }
  | .config => return { args with config := ← store args.config (readPath value) }

/-- Acts on an option without a value. -/
def raise (args : Arguments) : FlagOption → Except ArgumentFault Arguments
  | .verbose => .ok { args with verbosity := min 255 (args.verbosity + 1) }
  | .help => .error .helpWanted
  | .version => .error .versionWanted

/-! ## 2. One argument after another -/

/-- Where the reading stands: what has been stored, an option whose value is not stored yet (and
the value, once it is there), and whether everything from here on is an applet. -/
structure Reading where
  stored : Arguments
  pending : Option (ValueOption × Option Text)
  literal : Bool
deriving DecidableEq, Repr

/-- Before the first argument. -/
def Reading.start : Reading := ⟨⟨[], .none, none, 0⟩, none, false⟩

/-- Stores the value that is pending. -/
def Reading.settle (r : Reading) : Except ArgumentFault Arguments :=
  match r.pending with
  | none => .ok r.stored
  | some (_, none) => .error .missingValue
  | some (option, some value) => r.stored.set option value

/-- Begins an option that takes a value, with the value if it is attached. -/
def Reading.begin (r : Reading) (option : ValueOption) (attached : Option Text) :
    Except ArgumentFault Reading := do
  let stored ← r.settle
  match attached with
  | none => return { r with stored := stored, pending := some (option, none) }
  | some value => return { r with stored := ← stored.set option value, pending := none }

/-- Acts on a flag after what is pending. -/
def Reading.flag (r : Reading) (option : FlagOption) : Except ArgumentFault Reading := do
  let stored ← r.settle
  return { r with stored := ← stored.raise option, pending := none }

/-- Takes an applet. -/
def Reading.applet (r : Reading) (name : Text) : Except ArgumentFault Reading := do
  let stored ← r.settle
  return { r with stored := { stored with applets := stored.applets ++ [name] }, pending := none }

/-- The name of a long option and its attached value. -/
def cutAtEquals (body : Text) : Text × Option Text :=
  match body.dropWhile (· ≠ '=') with
  | [] => (body, none)
  | _ :: value => (body.takeWhile (· ≠ '='), some value)

/-- Takes an argument that begins with two hyphens, without them. -/
def Reading.long (r : Reading) (body : Text) : Except ArgumentFault Reading :=
  let (name, attached) := cutAtEquals body
  match longOption? name, attached with
  | none, _ => .error .unknownOption
  | some (.value option), attached => r.begin option attached
  | some (.flag _), some _ => .error .unwantedValue
  | some (.flag option), none => r.flag option

/-- What stands behind the letter of an option with a value, without an equals sign. -/
def attachedShort (rest : Text) : Option Text :=
  match rest with
  | [] => none
  | '=' :: value => some value
  | value => some value

/-- Takes the letters of an argument that begins with one hyphen. -/
def Reading.short (r : Reading) : Text → Except ArgumentFault Reading
  | [] => .ok r
  | letter :: rest =>
    match shortOption? letter with
    | none => .error .unknownOption
    | some (.value option) => r.begin option (attachedShort rest)
    | some (.flag option) =>
      match r.flag option with
      | .error fault => .error fault
      | .ok r => r.short rest

/-- Takes an argument that looks like no option: the value of an option that waits for one, or an
applet. -/
def Reading.plain (r : Reading) (arg : Text) : Except ArgumentFault Reading :=
  match r.pending with
  | some (option, none) => .ok { r with pending := some (option, some arg) }
  | _ => r.applet arg

/-- Takes one argument. -/
def Reading.take (r : Reading) (arg : Text) : Except ArgumentFault Reading :=
  if r.literal then r.applet arg
  else
    match arg with
    | ['-', '-'] => .ok { r with literal := true }
    | '-' :: '-' :: body => r.long body
    | ['-'] => r.plain arg
    | '-' :: letters => r.short letters
    | _ => r.plain arg

/-- Reads all arguments. -/
def parse (argv : List Text) : Except ArgumentFault Arguments := do
  (← argv.foldlM Reading.take Reading.start).settle

end Arguments

end Manpage
