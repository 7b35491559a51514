/-
# The command for reports

`awk` takes a program from its arguments or from files, gives names their values, and makes a report
from the files that are left among the arguments.
-/
import Manpage.Awk.Report

namespace Manpage.Awk

/-! ## 1. Arguments -/

/-- What the arguments ask for: the files with the program, the values of names, the separator of
fields, and what is left. -/
structure Request where
  programs : List Text
  values : List Text
  separator : Option Text
  operands : List Text

/-- What is written if there is no program. -/
def usage : Text :=
  ("Usage: mawk [Options] [Program] [file ...]\n\nProgram:\n"
    ++ "    The -f option value is the name of a file containing program text.\n"
    ++ "    If no -f option is given, a \"--\" ends option processing; the following\n"
    ++ "    parameters are the program text.\n\nOptions:\n"
    ++ "    -f program-file  Program  text is read from file instead of from the\n"
    ++ "                     command-line.  Multiple -f options are accepted.\n"
    ++ "    -F value         sets the field separator, FS, to value.\n"
    ++ "    -v var=value     assigns value to program variable var.\n"
    ++ "    --               unambiguous end of options.\n\n"
    ++ "    Implementation-specific options are prefixed with \"-W\".  They can be\n"
    ++ "    abbreviated:\n\n"
    ++ "    -W version       show version information and exit.\n"
    ++ "    -W compat        pre-POSIX 2001.\n"
    ++ "    -W dump          show assembler-like listing of program and exit.\n"
    ++ "    -W help          show this message and exit.\n"
    ++ "    -W interactive   set unbuffered output, line-buffered input.\n"
    ++ "    -W exec file     use file as program as well as last option.\n"
    ++ "    -W posix         stricter POSIX checking.\n"
    ++ "    -W random=number set initial random seed.\n"
    ++ "    -W sprintf=number adjust size of sprintf buffer.\n"
    ++ "    -W usage         show this message and exit.\n").toList

/-- Reads the arguments. -/
def request : List Text → Except Text Request
  | [] => .ok ⟨[], [], none, []⟩
  | arg :: rest =>
    match arg with
    | ['-', '-'] => .ok ⟨[], [], none, rest⟩
    | '-' :: c :: value =>
      if c = 'f' ∨ c = 'v' ∨ c = 'F' then
        let add (r : Request) (value : Text) : Request :=
          if c = 'f' then { r with programs := value :: r.programs }
          else if c = 'v' then { r with values := value :: r.values }
          else { r with separator := some (r.separator.getD value) }
        if value ≠ [] then (request rest).map fun r => add r value
        else
          match rest with
          | value :: rest => (request rest).map fun r => add r value
          | [] => .error ("option -".toList ++ [c] ++ " lacks argument".toList)
      else if c = 'W' then
        match value, rest with
        | [], _ :: rest => request rest
        | _, rest => request rest
      else if arg = "--help".toList ∨ arg = "--version".toList then .ok ⟨[], [], none, []⟩
      else .error ("not an option: ".toList ++ arg)
    | arg => .ok ⟨[], [], none, arg :: rest⟩

/-- The programs in files, one after another. -/
def programText (paths : List Text) : Work Text := do
  let mut pieces : List Text := []
  for path in paths do
    match ← Work.readFile path with
    | .ok s => pieces := s :: pieces
    | .error cause =>
      Work.fail 2 ("cannot open \"".toList ++ path ++ "\" (".toList ++ cause.wording ++ [')'])
  return (pieces.reverse.map fun s => if s.getLast? = some '\n' ∨ s = [] then s else s ++ ['\n']).flatten

/-! ## 2. The start -/

/-- An array of texts. -/
def tableOf (entries : List (Text × Text)) : Table :=
  entries.foldl (fun t (e : Text × Text) => t.put e.1 (.input e.2)) Table.empty

/-- The state before anything has been done. -/
def startMachine (separator : Option Text) (args : List Text) (env : List (Text × Text)) : Machine :=
  let args := "awk".toList :: args
  let numbered := args.mapIdx fun i s => (Text.ofNat i, s)
  let text (name value : String) : Text × Value := (name.toList, .text value.toList)
  let number (name : String) (n : Int) : Text × Value := (name.toList, .ofInt n)
  let fs := match separator with
    | some s => Scanner.unescape (s.length + 1) s
    | none => [' ']
  { names := [("FS".toList, .text fs), text "OFS" " ", text "ORS" "\n", text "RS" "\n",
      text "SUBSEP" "\x1c", text "CONVFMT" "%.6g", text "OFMT" "%.6g", number "NR" 0, number "FNR" 0,
      number "RSTART" 0, number "RLENGTH" (-1), text "FILENAME" "",
      number "ARGC" args.length]
    arrayIds := [("ARGV".toList, 0), ("ENVIRON".toList, 1)]
    arrays := #[tableOf numbered, tableOf env]
    frame := [], record := .input [], fields := #[], stale := false, main := none, argument := 1
    opened := false, inlets := [], outlets := [], inside := [], status := 0, seed := .ofNat 1
    random := 1 }

/-- `awk`: makes a report with a program. -/
def awk (invoke : Invoke) (args : List Text) : Work Nat := do
  match request args with
  | .error message => Work.fail 2 message
  | .ok r =>
    let values ← r.values.mapM fun (v : Text) => do
      match Running.assignment? v with
      | some pair => return pair
      | none => Work.fail 2 ("improper assignment: -v ".toList ++ v)
    let (text, operands) ← match r.programs, r.operands with
      | [], [] => do
        if args.isEmpty then Work.errors usage
        throw (.exited 0)
      | [], text :: operands => pure (text, operands)
      | paths, operands => do
        let text ← programText paths
        pure (text, operands)
    match Program.read text with
    | .error refusal =>
      let place := match r.programs with
        | path :: _ => path ++ ": ".toList
        | [] => []
      Work.fail 2 (place ++ refusal.message)
    | .ok program =>
      let setting : Setting := ⟨program, invoke⟩
      let report : Running Nat := do
        for (name, value) in values do
          Running.setValue name (.input value)
        Report.make setting
      match ← StateT.run (ExceptT.run report) (startMachine r.separator operands (← get).env) with
      | (.ok status, _) => return status
      | (.error _, m) => return m.status

end Manpage.Awk
