/-
# Running commands

How commands are run.  The words of a simple command are expanded first; then its redirections are
made and its variables set, and what its first word means is run with the rest.  The stages of a
pipeline are run one after another, each in a shell that is split off; what one writes is collected
for the next, up to a limit that grows when the next one would need more.
-/
import Manpage.Shell.Conditions
import Manpage.Shell.Menu

namespace Manpage.Shell.Act

/-! ## 1. Words of simple commands -/

/-- The words of a command as far as they have been expanded, those that have not, and how the command
is looked for. -/
structure Gathered where
  /-- The words with all prefixes, for showing them. -/
  shown : List Text
  words : List Text
  rest : List Word
  /-- Whether functions are looked for. -/
  functions : Bool
  /-- Whether programs are looked for in the system's own directories. -/
  systemPath : Bool

/-- Expands words until there are at least so many. -/
def expandUpTo (e : Engine) (count : Nat) : List Text → List Word → Act (List Text × List Word)
  | found, [] => return (found, [])
  | found, w :: rest => do
    if found.length < count then
      let more ← fieldsOfWord e w
      expandUpTo e count (found ++ more) rest
    else return (found, w :: rest)

/-- The options of `command` in front of a name: how many words they take, and whether the system's own
directories are meant; none if `command` itself is to be run. -/
def commandOptions (e : Engine) : (fuel : Nat) → (taken : Nat) → (system : Bool) → List Text → List Word →
    Act (Option (Nat × Bool) × List Text × List Word)
  | 0, _, _, found, rest => return (none, found, rest)
  | fuel + 1, taken, system, found, rest => do
    let (found, rest) ← expandUpTo e (taken + 1) found rest
    match found[taken]? with
    | none => return (none, found, rest)
    | some ('-' :: c :: letters) =>
      if c = '-' ∧ letters = [] then
        let (found, rest) ← expandUpTo e (taken + 2) found rest
        return (if taken + 1 < found.length then some (taken + 1, system) else none, found, rest)
      else if (c :: letters).all (· == 'p') then commandOptions e fuel (taken + 1) true found rest
      else return (none, found, rest)
    | some _ => return (some (taken, system), found, rest)

/-- Expands the first words of a command, and takes `command` off their front. -/
def gather (e : Engine) : (fuel : Nat) → Gathered → Act Gathered
  | 0, g => return g
  | fuel + 1, g => do
    let (found, rest) ← expandUpTo e 1 g.words g.rest
    let st ← get
    let g := { g with words := found, rest }
    match found with
    | [] => return g
    | name :: _ =>
      let isFunction := g.functions && (st.functions.lookup name).isSome
      let large := st.dialect == .large
      if !isFunction && name == "command".toList then
        let (options, found, rest) ← commandOptions e 100 1 g.systemPath found rest
        match options with
        | none => return { g with words := found, rest }
        | some (taken, system) =>
          gather e fuel
            { shown := g.shown ++ found.take taken, words := found.drop taken, rest, functions := false
              systemPath := system }
      else if large && !isFunction && name == "builtin".toList then
        let (found, rest) ← expandUpTo e 2 found rest
        if found.length < 2 then return { g with words := found, rest }
        else
          gather e fuel
            { g with shown := g.shown ++ [name], words := found.drop 1, rest, functions := false }
      else return g

/-- The commands whose words may be assignments. -/
def isDeclaration (dialect : Dialect) (name : Text) : Bool :=
  let names := match dialect with
    | .small => ["export", "readonly", "local"]
    | .large => ["export", "readonly", "local", "declare", "typeset"]
  names.contains (String.ofList name)

/-- Expands words of a declaration: an assignment does not fall apart. -/
def declaredWords (e : Engine) : List Word → Act (List Text)
  | [] => return []
  | w :: rest => do
    let here ← match Reading.assignment? .small w with
      | some (.mk name _ _ (.text value)) => do
        pure [name ++ '=' :: (← valueOfWord e value)]
      | _ => fieldsOfWord e w
    return here ++ (← declaredWords e rest)

/-! ## 2. Variables of one command -/

/-- The name of an assignment. -/
def assignedName : Assignment → Text
  | .mk name _ _ _ => name

/-- Makes assignments, and gives them as they are shown; `tell` is done before each. -/
def assignAll (e : Engine) (tell : Shown → Act Unit) (exported : Bool) :
    List Assignment → Act (List Shown)
  | [] => return []
  | a :: rest => do
    let shown ← makeAssignment e tell a
    let name := assignedName a
    if exported then putVariable name { variableOf (← get) name with exported := true }
    return shown :: (← assignAll e tell exported rest)

/-- Makes assignments for a command, of which the large shell leaves out those that cannot be made. -/
def assignForCommand (e : Engine) (tell : Shown → Act Unit) (assigns : List Assignment) :
    Act (List Shown) := do
  match (← get).dialect with
  | .small => assignAll e tell true assigns
  | .large =>
    for a in assigns do
      let before := (← get).bindings
      match ← attempt (discard (assignAll e tell true [a])) with
      | some .dropped => modify fun st => { st with bindings := before }
      | flow => resume flow
    return []

/-! ## 3. Simple commands -/

/-- How deep functions may call each other. -/
def callLimit : Dialect → Nat
  | .small => 1000
  | .large => 4000

/-- Calls a function; variables that it has for itself are given back at its end. -/
def callFunction (e : Engine) (standing : Standing) (name : Text) (function : Function)
    (args : List Text) (frame : List (Text × Variable)) : Act Unit := do
  let st ← get
  if callLimit st.dialect ≤ st.calls then
    match st.dialect with
    | .small => fail "Maximum function recursion depth (1000) reached".toList
    | .large => throw (.killed 11)
  set { st with
    params := args, lineShift := 0, loops := 0, calls := st.calls + 1
    frames := ⟨name, st.line, function.source⟩ :: st.frames
    optionIndex := if st.dialect = Dialect.small then 1 else st.optionIndex
    optionPlace := if st.dialect = Dialect.small then 0 else st.optionPlace
    locals := frame :: st.locals }
  let flow ← attempt (e.run standing.followed function.body)
  let after ← get
  giveBack (after.locals.headD [])
  modify fun after => { after with
    params := st.params, lineShift := st.lineShift, loops := st.loops, calls := st.calls
    frames := st.frames
    optionIndex := if st.dialect = Dialect.small then st.optionIndex else after.optionIndex
    optionPlace := if st.dialect = Dialect.small then st.optionPlace else after.optionPlace
    locals := st.locals }
  match flow with
  | some .returning => pure ()
  | flow => resume flow

/-- Runs a simple command whose words have been expanded. -/
def runWords (e : Engine) (standing : Standing) (g : Gathered) (frame : List (Text × Variable)) :
    Act Unit := do
  match g.words with
  | [] => modify fun st => { st with status := st.outputStatus }
  | name :: args =>
    let st ← get
    match (if g.functions then st.functions.lookup name else none) with
    | some function => callFunction e standing name function args frame
    | none =>
      if isBuiltin st.dialect name then
        let special := g.functions && isSpecial st.dialect name
        runBuiltin e standing special name args
      else
        runProgram e standing.last name args (if g.systemPath then systemPath st.dialect
          else searchPath st)

/-- Runs a simple command with its variables: those of a special command of the small shell, and of no
command, stay. -/
def runAssigned (e : Engine) (standing : Standing) (assigns : List Assignment) (g : Gathered)
    (before : List (Nat × Nat)) : Act Unit := do
  let st ← get
  let first := (g.shown ++ g.words).headD []
  let isFunction := g.shown.isEmpty && (st.functions.lookup first).isSome
  let stays := g.words.isEmpty || (st.dialect == .small && !isFunction && isBuiltin .small first
    && isSpecial .small first)
  let showIn (lines : List Text) : Act Unit := do
    let now := (← get).fds
    modify fun st => { st with fds := (match before.lookup 2 with
      | some c => (2, c) :: now.filter (·.1 != 2)
      | none => now.filter (·.1 != 2)) }
    trace e lines
    modify fun st => { st with fds := now }
  -- the large shell shows each assignment before it makes it, and the small one all with the command
  let tell (shown : Shown) : Act Unit := match st.dialect with
    | .small => pure ()
    | .large => showIn (Shown.words .large [shown] [])
  let showAll (shown : List Shown) : Act Unit := match st.dialect with
    | .small => showIn (Shown.words .small shown (g.shown ++ g.words))
    | .large => showIn (Shown.words .large [] (g.shown ++ g.words))
  if stays then
    let runsProgram := g.words.head? == some "exec".toList && g.words.length > 1
    showAll (← assignAll e tell runsProgram assigns)
    runWords e standing g []
  else
    let saved := assigns.map fun a => (assignedName a, variableOf st (assignedName a))
    let flow ← attempt do
      showAll (← assignForCommand e tell assigns)
      runWords e standing g saved
    giveBack saved
    resume flow

/-- Ends the shell after a failure, if that has been asked for. -/
def checkFailure (e : Engine) (standing : Standing) : Act Unit := do
  let st ← get
  if st.status ≠ 0 ∧ standing.tested = false then
    match (if st.dialect = .large then st.traps.lookup failureTrap else none) with
    | some text =>
      runText e .condition text st.line
      setStatus st.status
    | none => pure ()
    if st.options.contains 'e' then throw .exit

/-- Runs a simple command. -/
def runSimple (e : Engine) (standing : Standing) (line : Nat) (assigns : List Assignment)
    (ws : List Word) (redirects : List Redirect) : Act Unit := do
  atLine line
  modify fun st => { st with outputStatus := 0 }
  let started := (← get).fds
  let g ← gather e 100 ⟨[], [], ws, true, false⟩
  let st ← get
  let name := g.words.headD []
  let isFunction := g.functions && (st.functions.lookup name).isSome
  let declares := !isFunction && isDeclaration st.dialect name
  let before := st.fds
  if declares && st.dialect == .large then
    let isOption (w : Word) : Bool := match w with
      | .plain (c :: _) :: _ => c == '-' || c == '+'
      | _ => false
    let leading := g.rest.takeWhile isOption
    let letters ← fieldsOfWords e leading
    let arguments ← declaredArguments e (g.rest.drop leading.length)
    redirected e redirects false do
      let saved := assigns.map fun a => (assignedName a, variableOf st (assignedName a))
      discard (assignForCommand e (fun shown => trace e (Shown.words .large [shown] [])) assigns)
      let st ← get
      set { st with speaker := some name }
      let flow ← attempt (declareWords e name letters arguments)
      modify fun after => { after with speaker := st.speaker }
      giveBack saved
      match flow with
      | some .failed => pure ()
      | flow => resume flow
  else
    let more ← if declares then declaredWords e g.rest else fieldsOfWords e g.rest
    let g := { g with words := g.words ++ more, rest := [] }
    let first := (g.shown ++ g.words).headD []
    let special := !isFunction && st.dialect == .small && isBuiltin .small first
      && isSpecial .small first
    let permanent := !isFunction && name == "exec".toList
    if permanent then
      if ← tryRedirects e redirects then
        runAssigned e standing assigns g before
      else if special then throw .failed
    else redirected e redirects special (runAssigned e standing assigns g before)
  let last := (g.words.getLast?).getD []
  if st.dialect = .large then
    putVariable ['_'] { Variable.none with value := .text last }
    -- what was opened for the words of the command is closed
    modify fun after => { after with
      fds := after.fds.filter fun (n, _) => n < 40 || 63 < n || (started.lookup n).isSome }
    runFeeds e false

/-! ## 4. Pipelines -/

/-- Runs the stages of a pipeline, each with what the one before has written; gives how they ended, and
whether anything was cut off. -/
def runStages (e : Engine) (standing : Standing) (limit : Nat) : (input : Option Nat) → List Command →
    Act (List Stop × Bool)
  | _, [] => return ([], false)
  | input, c :: rest => do
    let fds := (← get).fds
    let withInput := match input with
      | some channel => (0, channel) :: fds.filter (·.1 != 0)
      | none => fds
    let room := limit * Nat.pow 8 (min rest.length 8)
    let (output, index) ← if rest.isEmpty then pure (none, 0)
      else onSystem fun sys =>
        let (channel, index, sys) := sys.collect (some room)
        ((some channel, index), sys)
    let withOutput := match output with
      | some channel => (1, channel) :: withInput.filter (·.1 != 1)
      | none => withInput
    let stop ← fork e do
      modify fun st => { st with fds := withOutput }
      e.run { standing with last := true } c
    tellEnd stop rest.isEmpty
    if rest.isEmpty then return ([stop], false)
    else
      let channel ← onSystem fun sys =>
        let (s, cut, sys) := sys.collected index
        sys.addChannel (.source s cut)
      let wasCut := match (← system).channel channel with
        | .source _ cut => cut
        | _ => false
      let (stops, cut) ← attemptRest wasCut (runStages e standing limit (some channel) rest)
      return (stop :: stops, wasCut || cut)
where
  /-- Marks a reader that came to the end of a text that was cut off here. -/
  attemptRest (wasCut : Bool) (act : Act (List Stop × Bool)) : Act (List Stop × Bool) := do
    tryCatch act fun flow =>
      match flow with
      | .starved => if wasCut then return ([.starved], true) else throw .starved
      | flow => throw flow

/-- Runs a pipeline, over again with more room when a stage would have needed more. -/
def runPipe (e : Engine) (standing : Standing) (stages : List Command) : (tries : Nat) → (limit : Nat) →
    Act (List Stop)
  | 0, _ => throw .starved
  | tries + 1, limit => do
    let st ← get
    let scene ← getThe Scene
    let (stops, cut) ← runStages e standing limit none stages
    if stops.contains .starved && cut then
      set st
      set scene
      runPipe e standing stages tries (limit * 16)
    else return stops

/-- The status of a pipeline: that of its last stage, or of the last one that failed. -/
def pipeStatus (st : State) (statuses : List Nat) : Nat :=
  let last := statuses.getLast?.getD 0
  if st.pipefail then ((statuses.filter (· != 0)).getLast?).getD 0 else last

/-! ## 5. Compound commands -/

/-- How many rounds a loop may have. -/
def roundLimit : Nat := 10000000

/-- What the end of a round means to its loop: whether it goes on. -/
def endRound (flow : Option Flow) : Act Bool := do
  match flow with
  | none => return true
  | some (.breaking n) => if n ≤ 1 then return false else throw (.breaking (n - 1))
  | some (.continuing n) => if n ≤ 1 then return true else throw (.continuing (n - 1))
  | some flow => throw flow

/-- Runs an action as the rounds of a loop. -/
def asLoop (act : Act Unit) : Act Unit := do
  let outer := (← get).loops
  modify fun st => { st with loops := outer + 1 }
  let flow ← attempt act
  modify fun st => { st with loops := outer }
  resume flow

/-- Runs a loop with a condition. -/
def runLoop (e : Engine) (standing : Standing) (untilTrue : Bool) (condition body : Command) :
    (rounds : Nat) → (status : Nat) → Act Unit
  | 0, _ => pure ()
  | rounds + 1, status => do
    let flow ← attempt (e.run .condition condition)
    match flow with
    | some _ =>
      if ← endRound flow then runLoop e standing untilTrue condition body rounds status
    | none =>
      if ((← get).status = 0) = untilTrue then setStatus status
      else
        let flow ← attempt (e.run standing.followed body)
        if ← endRound flow then
          runLoop e standing untilTrue condition body rounds (← get).status

/-- Runs a body for values of a variable. -/
def runEach (e : Engine) (standing : Standing) (name shown : Text) (body : Command) :
    List Text → Act Unit
  | [] => pure ()
  | value :: rest => do
    if (← get).dialect = .large then
      trace e ["for ".toList ++ name ++ " in ".toList ++ shown]
    assign name value
    let flow ← attempt (e.run standing.followed body)
    if ← endRound flow then runEach e standing name shown body rest

/-- Whether a text fits one of some patterns. -/
def fitsAny (e : Engine) (s : Text) : List Word → Act Bool
  | [] => return false
  | w :: rest => do
    if Pattern.fits (← patternOfWord e w) s then return true
    else fitsAny e s rest

/-- Runs the arms of a selection, and tells whether any command was run; `through` says that the arm is
run whatever its patterns are. -/
def runArms (e : Engine) (standing : Standing) (s : Text) :
    (through : Bool) → List (List Word × Option Command × Fall) → Act Bool
  | _, [] => return false
  | through, (patterns, body, fall) :: rest => do
    let chosen ← if through then pure true else fitsAny e s patterns
    if !chosen then runArms e standing s false rest
    else
      match body with
      | some c => e.run standing c
      | none => pure ()
      let more ← match fall with
        | .nowhere => pure false
        | .through => runArms e standing s true rest
        | .onward => runArms e standing s false rest
      return body.isSome || more

/-- The value of an expression as the status of a command. -/
def runArithmetic (e : Engine) (w : Word) : Act Int := do
  let st ← get
  set { st with speaker := some "((".toList }
  let mut value : Int := 0
  let text ← textOfWord e w
  trace e ["(( ".toList ++ text ++ " ))".toList]
  match ← calculate text with
  | .ok n => value := n
  | .error failure =>
    complain failure.largeWording
    modify fun after => { after with speaker := st.speaker }
    setStatus 1
    throw .failed
  modify fun after => { after with speaker := st.speaker }
  return value

/-- Runs a counted loop. -/
def runCounted (e : Engine) (standing : Standing) (test step : Word) (body : Command) :
    (rounds : Nat) → (status : Nat) → Act Unit
  | 0, _ => pure ()
  | rounds + 1, status => do
    let goesOn ← if test.isEmpty then pure true else do
      pure ((← runArithmetic e test) != 0)
    if !goesOn then setStatus status
    else
      let flow ← attempt (e.run standing.followed body)
      if ← endRound flow then
        let after := (← get).status
        if !step.isEmpty then discard (runArithmetic e step)
        runCounted e standing test step body rounds after

/-- Writes the lines of a menu, row by row, to the error output. -/
def showMenu (values : List Text) : Act Unit :=
  errors (Menu.text values)

/-- Asks for one of some values until there is no answer, and runs a body each time. -/
def runMenu (e : Engine) (standing : Standing) (name : Text) (body : Command) (values : List Text) :
    (rounds : Nat) → (shows : Bool) → Act Unit
  | 0, _ => pure ()
  | rounds + 1, shows => do
    if shows then showMenu values
    errors ((textOf? (← get) "PS3".toList).getD "#? ".toList)
    let flow ← attempt (readLarge [])
    let answer := (textOf? (← get) "REPLY".toList).getD []
    if flow.isSome ∨ (← get).status ≠ 0 then
      say ['\n']
      setStatus 1
    else if answer = [] then runMenu e standing name body values rounds true
    else
      let chosen := match wholeNumber? answer with
        | some (n + 1) => (values[n]?).getD []
        | _ => []
      assign name chosen
      let flow ← attempt (e.run standing.followed body)
      if ← endRound flow then runMenu e standing name body values rounds false

/-- Puts a command into the background, where its input is empty. -/
def putAside (body : Command) : Act Unit := do
  let pid ← onSystem System.newPid
  let channel ← onSystem fun sys => sys.addChannel .null
  let st ← get
  let shell := splitOff st pid
  let shell := { shell with fds := (0, channel) :: shell.fds.filter (·.1 != 0) }
  modifyThe Scene fun scene => { scene with jobs := scene.jobs ++ [⟨pid, body, shell⟩] }
  set { st with lastJob := some pid, status := 0 }

/-- Whether a command takes time, so that commands in the background come first. -/
def takesTime (ws : List Word) : Bool := (ws.head?.bind plainText?) == some "sleep".toList

/-- Runs a command. -/
def run (e : Engine) (standing : Standing) (c : Command) : Act Unit := do
  if (← get).options.contains 'n' then return
  heed e
  match c with
  | .simple line assigns ws redirects =>
    if takesTime ws then runJobs e jobLimit
    match ← attempt (runSimple e standing line assigns ws redirects) with
    | some .failed =>
      if (← get).dialect = .large then pure () else throw .failed
    | flow => resume flow
    checkFailure e standing
  | .pipe [] => setStatus 0
  | .pipe stages =>
    let stops ← runPipe e standing stages 6 65536
    let statuses ← stops.mapM statusOf
    setStatus (pipeStatus (← get) statuses)
    modify fun st => { st with stageStatuses := statuses }
    checkFailure e standing
  | .negated body =>
    e.run .condition body
    setStatus (if (← get).status = 0 then 1 else 0)
  | .background line body =>
    atLine line
    putAside body
  | .sequence first second =>
    e.run standing.followed first
    e.run standing second
  | .both first second =>
    e.run .condition first
    if (← get).status = 0 then e.run standing second
  | .either first second =>
    e.run .condition first
    if (← get).status ≠ 0 then e.run standing second
  | .choice condition yes no =>
    e.run .condition condition
    if (← get).status = 0 then e.run standing yes
    else
      match no with
      | some no => e.run standing no
      | none => setStatus 0
  | .loop untilTrue condition body =>
    asLoop (runLoop e standing untilTrue condition body roundLimit 0)
  | .each line name ws shown body =>
    atLine line
    let values ← match ws with
      | some ws => fieldsOfWords e ws
      | none => do pure (← get).params
    if values.isEmpty then setStatus 0
    if !isName name then
      complain ("\x60".toList ++ name ++ "': not a valid identifier".toList)
      setStatus 1
    else asLoop (runEach e standing name shown body values)
  | .select line w shown arms =>
    atLine line
    if (← get).dialect = .large then trace e ["case ".toList ++ shown ++ " in".toList]
    let s ← textOfWord e w
    if !(← runArms e standing s false arms) then setStatus 0
  | .subshell line body =>
    atLine line
    let stop ← fork e (e.run { standing with last := true } body)
    tellEnd stop true
    setStatus (← statusOf stop)
    checkFailure e standing
  | .redirected line body redirects =>
    atLine line
    match body with
    | .subshell line body =>
      let stop ← fork e do
        atLine line
        redirected e redirects true (e.run { standing with last := true } body)
      tellEnd stop true
      setStatus (← statusOf stop)
      checkFailure e standing
    | body =>
      redirected e redirects false (e.run standing.followed body)
      checkFailure e standing
  | .define _ name body =>
    modify fun st => { st with
      functions := putKey name ⟨body, st.source⟩ st.functions, status := 0 }
  | .condition line c =>
    atLine line
    judgeCondition e c
    checkFailure e standing
  | .arithmetic line w =>
    atLine line
    let flow ← attempt do
      let n ← runArithmetic e w
      setStatus (if n = 0 then 1 else 0)
    match flow with
    | some .failed => pure ()
    | flow => resume flow
    checkFailure e standing
  | .counted line start test step body =>
    atLine line
    let flow ← attempt do
      if !start.isEmpty then discard (runArithmetic e start)
      setStatus 0
      asLoop (runCounted e standing test step body roundLimit 0)
    match flow with
    | some .failed => pure ()
    | flow => resume flow
  | .menu line name ws body =>
    atLine line
    let values ← match ws with
      | some ws => fieldsOfWords e ws
      | none => do pure (← get).params
    setStatus 0
    if !isName name then
      complain ("\x60".toList ++ name ++ "': not a valid identifier".toList)
      setStatus 1
    else if !values.isEmpty then asLoop (runMenu e standing name body values roundLimit true)
  heed e

/-- What can be run, with commands nested up to a depth. -/
def engine (invoke : Invoke) : (depth : Nat) → Engine
  | 0 => ⟨fun _ _ => throw .starved, invoke⟩
  | depth + 1 => ⟨fun standing c => fun st => run (engine invoke depth) standing c st, invoke⟩

end Manpage.Shell.Act
