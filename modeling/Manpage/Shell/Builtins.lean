/-
# The commands of the shell itself

What the commands do that a shell does not start as programs: those that leave loops, functions and
the shell, those that run texts and files as commands, and the table of all of them.
-/
import Manpage.Shell.Input
import Manpage.Shell.Places
import Manpage.Shell.Programs
import Manpage.Shell.Settings
import Manpage.Shell.Signals
import Manpage.Utility.Speaking
import Manpage.Utility.Test

namespace Manpage.Shell.Act

/-! ## 1. Leaving -/

/-- `break` and `continue`: leave loops, or go on with their next rounds. -/
def leaveLoops (goesOn : Bool) (args : List Text) : Act Unit := do
  let st ← get
  let large := st.dialect == .large
  setStatus 0
  if large ∧ st.loops = 0 then
    complain "only meaningful in a \x60for', \x60while', or \x60until' loop".toList
  else
    let n ← match args with
      | [] => pure 1
      | s :: _ =>
        if large ∧ !(s ≠ [] ∧ s.all Char.isDigit) then
          complain (s ++ ": numeric argument required".toList)
          exit 128
        else numberArgument s
    if n = 0 then
      match st.dialect with
      | .small => fail ("Illegal number: ".toList ++ (args.headD []))
      | .large =>
        complain ((args.headD []) ++ ": loop count out of range".toList)
        setStatus 1
        throw (.breaking st.loops)
    let levels := min n st.loops
    if levels ≠ 0 then throw (if goesOn then .continuing levels else .breaking levels)

/-- `return`: leaves a function or a file. -/
def leaveFunction (args : List Text) : Act Unit := do
  let st ← get
  match st.dialect with
  | .small =>
    match args with
    | [] => pure ()
    | s :: _ => setStatus (← numberArgument s)
    throw .returning
  | .large =>
    if st.calls = 0 ∧ st.sourcing = 0 then
      complain "can only \x60return' from a function or sourced script".toList
      setStatus 2
    else
      match args with
      | [] => pure ()
      | s :: _ =>
        if s ≠ [] ∧ s.all Char.isDigit then setStatus (Utility.ofDigits 10 s % 256)
        else if s.head? = some '-' ∧ s.length > 1 ∧ (s.drop 1).all Char.isDigit then
          setStatus ((256 - Utility.ofDigits 10 (s.drop 1) % 256) % 256)
        else
          complain (s ++ ": numeric argument required".toList)
          setStatus 2
      throw .returning

/-- `exit`: ends the shell. -/
def leave (args : List Text) : Act Unit := do
  let st ← get
  match args, st.dialect with
  | [], _ => exit (st.trapped.getD st.status)
  | s :: _, .small => exit (← numberArgument s)
  | s :: more, .large =>
    let digits := if s.head? = some '-' then s.drop 1 else s
    if digits = [] ∨ !(digits.all Char.isDigit) then
      complain (s ++ ": numeric argument required".toList)
      exit 2
    else if more ≠ [] then
      complain "too many arguments".toList
      exit 1
    else
      let n := Utility.ofDigits 10 digits % 256
      exit (if s.head? = some '-' then (256 - n) % 256 else n)

/-! ## 2. Texts and files -/

/-- Whether a text has no command: its lines are blank or remarks. -/
def hasNoCommand (s : Text) : Bool :=
  (Text.cutAt (· == '\n') s).all fun line =>
    match line.dropWhile fun c => c == ' ' || c == '\t' with
    | [] => true
    | c :: _ => c == '#'

/-- `eval`: runs its arguments as a command. -/
def evaluate (e : Engine) (standing : Standing) (args : List Text) : Act Unit := do
  let st ← get
  let text := Text.join [' '] args
  if hasNoCommand text then setStatus 0
  else
    runText e standing.followed text (match st.dialect with
      | .small => 1
      | .large => st.line)

/-- Reads the file at a path as commands. -/
def runFile (e : Engine) (standing : Standing) (path : Text) : Act Unit := do
  let st ← get
  let opened := (Work.ownNumber? path).bind fun n => st.fds.lookup n
  let content ← match (← files).stat st.cwd (Text.ofOctets path) with
    | .ok (.file _ content) => pure (Text.ofBytes content)
    | _ => do
      let c ← match opened with
        | some c => pure c
        | none => onSystem fun sys =>
          match (sys.files.locate st.cwd (Text.ofOctets path)).bind sys.openToRead with
          | .ok channel => sys.addChannel channel
          | .error _ => sys.addChannel .null
      match (← system).available c with
      | .ok (s, false) => pure s
      | .ok (_, true) => throw .starved
      | .error _ => pure []
  if hasNoCommand content then setStatus 0
  else
    match st.dialect with
    | .small => set { st with speaker := some path, sourcing := st.sourcing + 1 }
    | .large =>
      set { st with
        speaker := none, sourceName := some path, sourcing := st.sourcing + 1
        frames := ⟨"source".toList, st.line, path⟩ :: st.frames }
    let flow ← attempt (runText e standing.followed content 1)
    modify fun after => { after with
      speaker := st.speaker, sourceName := st.sourceName, sourcing := st.sourcing
      frames := st.frames }
    match flow with
    | some .returning => pure ()
    | flow => resume flow

/-- `.`: reads a file as commands. -/
def source (e : Engine) (standing : Standing) (args : List Text) : Act Unit := do
  let st ← get
  let files ← files
  let isThere (path : Text) : Bool := files.exists? st.cwd (Text.ofOctets path)
    || ((Work.ownNumber? path).bind fun n => st.fds.lookup n).isSome
  let isFile (path : Text) : Bool := match files.stat st.cwd (Text.ofOctets path) with
    | .ok (.file ..) => true
    | _ => false
  let args := if args.head? = some "--".toList then args.drop 1 else args
  match args, st.dialect with
  | [], .small => setStatus 0
  | [], .large =>
    complain "filename argument required".toList
    errors ((st.speaker.getD []) ++ ": usage: ".toList ++ (st.speaker.getD [])
      ++ " filename [arguments]\n".toList)
    setStatus 2
    throw .failed
  | name :: _, .small =>
    if name.contains '/' then
      if isThere name then runFile e standing name
      else
        let fault := match files.stat st.cwd (Text.ofOctets name) with
          | .error fault => openFault .small .input name fault
          | .ok _ => []
        fail fault
    else
      match ((searchPath st).map fun dir => Path.join dir name).find? isFile with
      | some path => runFile e standing path
      | none => fail (name ++ ": not found".toList)
  | name :: params, .large =>
    let candidates := if name.contains '/' then [name]
      else ((searchPath st).map fun dir => Path.join dir name) ++ [name]
    match candidates.find? isThere with
    | none =>
      set { st with speaker := none }
      complain (name ++ ": No such file or directory".toList)
      setStatus 1
      throw .failed
    | some path =>
      if files.isDirectory st.cwd (Text.ofOctets path) then
        complain (path ++ ": is a directory".toList)
        setStatus 1
        throw .failed
      else if params.isEmpty then runFile e standing path
      else
        set { st with params }
        let flow ← attempt (runFile e standing path)
        modify fun after => { after with params := st.params }
        resume flow

/-- `exec`: puts a program in the place of the shell, if there is one in the arguments. -/
def execute (e : Engine) (args : List Text) : Act Unit := do
  let st ← get
  setStatus 0
  let args ← match args, st.dialect with
    | ['-', '-'] :: rest, _ => pure rest
    | ['-', 'a'] :: _ :: rest, .large => pure rest
    | ['-', 'c'] :: rest, .large => pure rest
    | ['-', 'l'] :: rest, .large => pure rest
    | ('-' :: c :: _) :: _, .small => fail ("Illegal option -".toList ++ [c])
    | args, _ => pure args
  match args with
  | [] => pure ()
  | name :: rest => replace e name rest

/-- `caller`: tells where the function at work was asked for, or one that is so many around it. -/
def tellCaller (args : List Text) : Act Unit := do
  let st ← get
  setStatus 0
  let names := (listOf? st "FUNCNAME".toList).getD []
  let sources := (listOf? st "BASH_SOURCE".toList).getD []
  let n ← match args with
    | [] => pure 0
    | s :: _ => numberArgument s
  match st.frames[n]? with
  | some frame =>
    let line := Text.ofNat frame.line
    let source := (sources[n + 1]?).getD "NULL".toList
    sayLine (Text.join [' '] (if args.isEmpty then [line, source]
      else [line, (names[n + 1]?).getD "main".toList, source]))
  | none =>
    if args.isEmpty ∧ st.frames.isEmpty then sayLine "0 NULL".toList else setStatus 1

/-! ## 3. The table -/

/-- `printf` of the large shell, which can write to a variable. -/
def largePrintf (args : List Text) : Act Unit := do
  let usage := "printf: usage: printf [-v var] format [arguments]\n".toList
  let (name, rest) ← match args with
    | ['-', 'v'] :: name :: rest => pure (some name, rest)
    | ('-' :: c :: _) :: _ => do
      if args.head? = some "--".toList then pure (none, args.drop 1)
      else
        complain ('-' :: c :: ": invalid option".toList)
        errors usage
        setStatus 2
        throw .failed
    | rest => pure (none, rest)
  let rest := if name.isSome ∧ rest.head? = some "--".toList then rest.drop 1 else rest
  match rest with
  | [] =>
    errors usage
    setStatus 2
    throw .failed
  | format :: args =>
    match name with
    | none => ownWork (Utility.printed (Utility.Printf.print .largeShell format args))
    | some name =>
      let p := Utility.Printf.print .largeShell format args
      for message in p.messages do complain message
      let plain := name.takeWhile (· != '[')
      if plain.length < name.length then assignAt plain ((name.drop (plain.length + 1)).dropLast) p.output
      else assign name p.output
      setStatus p.status

/-- `command` when it is asked what names mean. -/
def tellMeanings (args : List Text) : Act Unit := do
  let (letters, names) ← takeOptions "pvV" "command [-pVv] command [arg ...]" args
  let st ← get
  let dirs := if letters.contains 'p' then systemPath st.dialect else searchPath st
  setStatus 0
  match letters.reverse.find? fun c => c == 'v' || c == 'V' with
  | some c => tellCommand (c == 'V') dirs names
  | none => pure ()

/-- Judges a condition with the rules of a shell. -/
def judge (dialect : Dialect) (bracket : Bool) (args : List Text) : Act Unit :=
  ownWork (Utility.Test.run (match dialect with
    | .small => .shell
    | .large => .largeShell) bracket args)

/-- Runs a command of the shell itself. -/
def builtin (e : Engine) (standing : Standing) (name : Text) (args : List Text) : Act Unit := do
  let dialect := (← get).dialect
  let style : Utility.Printf.Style := match dialect with
    | .small => .shell
    | .large => .largeShell
  match String.ofList name with
  | ":" | "true" => setStatus 0
  | "false" => setStatus 1
  | "." | "source" => source e standing args
  | "[" => judge dialect true args
  | "test" => judge dialect false args
  | "alias" => setAliases args
  | "bg" | "fg" => noJobControl
  | "break" => leaveLoops false args
  | "continue" => leaveLoops true args
  | "caller" => tellCaller args
  | "cd" | "chdir" => changeDirectory args
  | "command" => tellMeanings args
  | "dirs" => tellStack args
  | "echo" => ownWork (Utility.echo style args)
  | "eval" =>
    let args ← match args, dialect with
      | ['-', '-'] :: rest, _ => pure rest
      | args, _ => pure args
    evaluate e standing args
  | "exec" => execute e args
  | "exit" => leave args
  | "export" => markVariables false args
  | "getopts" => takeOption args
  | "hash" => lookUp args
  | "kill" => kill args
  | "let" => reckon args
  | "local" => makeLocal args
  | "mapfile" | "readarray" => takeLines args
  | "popd" => popDirectory
  | "printf" =>
    match dialect with
    | .small => ownWork (Utility.shellPrintf args)
    | .large => largePrintf args
  | "pushd" => pushDirectory args
  | "pwd" => tellDirectory args
  | "read" =>
    match dialect with
    | .small => readSmall args
    | .large => readLarge args
  | "readonly" => markVariables true args
  | "return" => leaveFunction args
  | "set" => setOptions args
  | "shift" => shift args
  | "shopt" => setFeatures args
  | "times" => tellTimes
  | "trap" => setTraps args
  | "type" => tellTypes args
  | "ulimit" => limits args
  | "umask" => setMask args
  | "unalias" => forgetAliases args
  | "unset" => forget args
  | "wait" => waitFor e args
  | _ => setStatus 0

/-- Runs a command of the shell itself, which its messages name.  When it fails, the small shell ends
only if the command is a special one. -/
def runBuiltin (e : Engine) (standing : Standing) (special : Bool) (name : Text) (args : List Text) :
    Act Unit := do
  let st ← get
  set { st with speaker := some name }
  let flow ← attempt (builtin e standing name args)
  modify fun after => { after with speaker := st.speaker }
  let own := ["eval", ".", "source", "command"].map String.toList
  match flow with
  | some .failed => if special ∧ st.dialect = .small then throw .failed
  | some .dropped => if own.contains name then throw .dropped
  | flow => resume flow

end Manpage.Shell.Act
