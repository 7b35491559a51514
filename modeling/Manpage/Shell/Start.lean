/-
# Starting a shell

How a shell begins: it takes options and parameters from its arguments and variables from its
surroundings, and runs a text among its arguments, a file, or its input.
-/
import Manpage.Shell.Execution

namespace Manpage.Shell

open Act

/-! ## 1. The state of a new shell -/

/-- The variables that a shell has by itself. -/
def ownVariables (dialect : Dialect) (p : Process) : List (Text × Variable) :=
  let shown (name : String) (value : Text) : Text × Variable :=
    (name.toList, { Variable.none with value := .text value })
  let fixed (name : String) (value : Text) : Text × Variable :=
    (name.toList, { Variable.none with value := .text value, fixed := true })
  let counted (name : String) (n : Nat) : Text × Variable :=
    (name.toList, { Variable.none with value := .text (Text.ofNat n), fixed := true, whole := true })
  let common :=
    [shown "IFS" [' ', '\t', '\n'], shown "OPTIND" ['1'], shown "PS4" "+ ".toList,
     shown "PATH" "/usr/local/sbin:/usr/local/bin:/usr/sbin:/usr/bin:/sbin:/bin".toList]
  match dialect with
  | .small =>
    common ++ [shown "PS1" "# ".toList, shown "PS2" "> ".toList, shown "PPID" (Text.ofNat p.parent)]
  | .large =>
    common ++
      [shown "BASH" "/bin/bash".toList, shown "BASH_VERSION" "5.2.21(1)-release".toList,
       ("BASH_VERSINFO".toList, { Variable.none with
          fixed := true
          value := .list (([0, 1, 2, 3, 4, 5] : List Nat).zip
            (["5", "2", "21", "1", "release", "x86_64-pc-linux-gnu"].map String.toList)) }),
       counted "EUID" 0, counted "UID" 0, counted "PPID" p.parent,
       shown "HOSTTYPE" "x86_64".toList, shown "OSTYPE" "linux-gnu".toList,
       shown "MACHTYPE" "x86_64-pc-linux-gnu".toList, shown "SECONDS" ['0'], shown "OPTERR" ['1'],
       fixed "BASHOPTS" (Text.join [':'] standardFeatures),
       fixed "SHELLOPTS" "braceexpand:hashall:interactive-comments".toList,
       ("OLDPWD".toList, { Variable.none with exported := true })]

/-- Whether a path leads to the directory that a process works in. -/
def isOwnDirectory (files : Files) (p : Process) (path : Text) : Bool :=
  Path.isAbsolute path && (match files.locate p.cwd (Text.ofOctets path) with
    | .ok l => l == p.cwd && files.isDirectory p.cwd (Text.ofOctets path)
    | .error _ => false)

/-- The state of a new shell. -/
def State.ofProcess (dialect : Dialect) (files : Files) (p : Process) : State :=
  let given := p.env.filter fun v => isName v.1
  let exported (value : Text) : Variable := { Variable.none with value := .text value, exported := true }
  let own := (ownVariables dialect p).filter fun v =>
    v.1 == "IFS".toList || v.1 == "OPTIND".toList || (given.lookup v.1).isNone
  let given := given.filter fun v => v.1 != "IFS".toList && v.1 != "OPTIND".toList
  let cwdPath := match p.env.lookup "PWD".toList with
    | some path => if isOwnDirectory files p path then path else p.cwdPath
    | none => p.cwdPath
  let bindings := own ++ given.map fun (name, value) => (name, exported value)
  let bindings := putKey "PWD".toList (exported cwdPath) bindings
  let level : Nat := ((p.env.lookup "SHLVL".toList).map (Utility.ofDigits 10)).getD 0
  let bindings := match dialect with
    | .small => bindings
    | .large => putKey "SHLVL".toList (exported (Text.ofNat (level + 1))) bindings
  { dialect, name := p.name, sourceName := none, script := none, params := [], bindings
    functions := [], aliases := []
    options := match dialect with
      | .small => []
      | .large => ['h', 'B']
    pipefail := false
    features := match dialect with
      | .small => []
      | .large => standardFeatures
    traps := [], line := 0, lineShift := 0, speaker := none
    status := 0, outputStatus := 0, pid := p.pid, parent := p.parent, shownPid := p.pid, lastJob := none
    cwd := p.cwd, cwdPath, fds := p.fds, umask := p.umask, ignored := p.ignored, loops := 0, calls := 0
    frames := [], sourcing := 0, locals := [], documents := #[], optionIndex := 1, optionPlace := 0
    showing := false, nesting := 0, depth := 0, trapped := none, stageStatuses := [] }

/-! ## 2. Arguments -/

/-- What the arguments of a shell ask for. -/
structure Wanted where
  /-- Whether the first operand is a text to be run. -/
  inline : Bool
  /-- Whether the input is to be run. -/
  fromInput : Bool

/-- Takes the letters of a word of options. -/
def wantedLetters (on : Bool) : Text → (rest : List Text) → Wanted → Act (Wanted × List Text)
  | [], rest, w => return (w, rest)
  | c :: letters, rest, w => do
    if c = 'c' then wantedLetters on letters rest { w with inline := true }
    else if c = 'l' ∨ c = 'i' then wantedLetters on letters rest w
    else if c = 's' then
      turn 's' on
      wantedLetters on letters rest { w with fromInput := on }
    else if c = 'o' then
      match rest with
      | [] => tellOptions (!on)
      | name :: _ => turnNamed name on
      wantedLetters on letters (rest.drop 1) w
    else if c = 'O' ∧ (← get).dialect = .large then
      setFeatures ["-s".toList, rest.headD []]
      wantedLetters on letters (rest.drop 1) w
    else if (writtenLetters (← get).dialect).contains c then
      turn c on
      wantedLetters on letters rest w
    else
      match (← get).dialect with
      | .small => fail ("Illegal option -".toList ++ [c])
      | .large =>
        errors ((← get).name ++ ": -".toList ++ [c] ++ ": invalid option\n".toList)
        exit 2

/-- Takes options off the front of arguments. -/
def wantedOf : (fuel : Nat) → List Text → Wanted → Act (Wanted × List Text)
  | 0, args, w => return (w, args)
  | fuel + 1, args, w => do
    match args, (← get).dialect with
    | ['-'] :: rest, _ | ['-', '-'] :: rest, _ => return (w, rest)
    | ('-' :: '-' :: _) :: rest, .large => wantedOf fuel rest w
    | ('-' :: letters) :: rest, _ =>
      let (w, rest) ← wantedLetters true letters rest w
      wantedOf fuel rest w
    | ('+' :: letters) :: rest, _ =>
      let (w, rest) ← wantedLetters false letters rest w
      wantedOf fuel rest w
    | args, _ => return (w, args)

/-! ## 3. Running -/

/-- Runs a script from its beginning. -/
def runScript (e : Engine) (standing : Standing) (s : Text) : Act Unit := do
  modify fun st => { st with line := 1 }
  let st ← get
  let s := Reader.inLines st.dialect s
  runReader e standing true (s.length + 2) (Reader.ofText st.dialect s st.aliases st.documents 1)

/-- The content of the file of a script, or of the input. -/
def scriptContent (p : Process) (path : Text) : Act (Except SystemFault Text) := do
  let (result, _) ← onSystem fun sys =>
    StateT.run (StateT.run (ExceptT.run (Work.readFile path)) p) sys
  match result with
  | .ok found => return found
  | .error _ => throw .starved

/-- Refuses a script that cannot be read. -/
def refuseScript {α : Type} (path : Text) (fault : SystemFault) : Act α := do
  let st ← get
  match st.dialect with
  | .small => fail (openFault .small .input path fault)
  | .large =>
    errors (st.name ++ ": ".toList ++ path ++ ": ".toList ++ fault.wording ++ ['\n'])
    exit (if fault = .notFound then 127 else 126)

/-- What a shell does with its arguments. -/
def begin (e : Engine) (p : Process) (args : List Text) : Act Unit := do
  let (w, rest) ← wantedOf (args.length + 1) args ⟨false, false⟩
  let large := (← get).dialect == .large
  if w.inline then
    match rest with
    | [] =>
      if large then
        errors ((← get).name ++ ": -c: option requires an argument\n".toList)
        exit 2
      else fail "-c requires an argument".toList
    | text :: rest =>
      match rest with
      | [] => pure ()
      | name :: params => modify fun st => { st with name, params }
      runScript e .final text
  else
    match rest, w.fromInput with
    | path :: params, false =>
      let found ← scriptContent p path
      let (path, found) ← match found with
        | .error .notFound =>
          if large ∧ !path.contains '/' then
            match programPath? (← files) (← get) (searchPath (← get)) path with
            | some other => do pure (path, ← scriptContent p other)
            | none => pure (path, found)
          else pure (path, found)
        | found => pure (path, found)
      match found with
      | .ok s =>
        modify fun st => { st with name := path, script := some path, params }
        runScript e .plain s
      | .error .isDirectory =>
        if large then
          errors (path ++ ": ".toList ++ path ++ ": Is a directory\n".toList)
          exit 126
      | .error fault => refuseScript path fault
    | params, _ =>
      turn 's' true
      modify fun st => { st with params }
      match ← scriptContent p ['-'] with
      | .ok s => runScript e .plain s
      | .error _ => pure ()

/-- How deep commands may be nested in each other. -/
def nestingLimit : Nat := 1000000

/-- Runs a shell to its end. -/
def start (invoke : Invoke) (dialect : Dialect) (p : Process) (args : List Text) :
    StateM System Stop := fun system =>
  let e := engine invoke nestingLimit
  let whole : Act Stop := do
    let flow ← attempt (begin e p args)
    let stop ← conclude e flow
    runFeeds e true
    runJobs e jobLimit
    return stop
  let st := State.ofProcess dialect system.files p
  match StateT.run (StateT.run (ExceptT.run whole) st) (⟨system, [], [], []⟩ : Scene) with
  | ((.ok stop, _), scene) => (stop, scene.system)
  | ((.error (.killed n), _), scene) => (.killed n, scene.system)
  | ((.error .starved, _), scene) => (.starved, scene.system)
  | ((.error _, st), scene) => (.exited (st.status % 256), scene.system)

end Manpage.Shell
