/-
# Texts and shells of their own

Running a text as commands, and running commands in a shell that has been split off: what such a shell
does to the system stays, and what it does to itself is forgotten.  The output of a shell that has been
split off can be collected.
-/
import Manpage.Shell.State

namespace Manpage.Shell.Act

/-! ## 1. Texts -/

/-- Tells what is wrong with a script. -/
def complainSyntax (fault : SyntaxFault) : Act Unit := do
  let st ← get
  match st.dialect with
  | .small =>
    set { st with line := fault.line }
    complain ("Syntax error: ".toList ++ fault.problem.wording)
  | .large =>
    let start := (st.sourceName.getD st.name) ++ ": ".toList ++ (match st.speaker with
      | some s => s ++ ": ".toList
      | none => []) ++ "line ".toList ++ Text.ofNat fault.line ++ ": ".toList
    for line in fault.largeLines do
      errors (start ++ line ++ ['\n'])

/-- Runs the commands of a script one after another.  A script that cannot be read on is a failure.
What the large shell drops is the rest of a line, if the script is not part of another; and a program
may take the place of the shell at the end of a script of one line. -/
def runReader (e : Engine) (standing : Standing) (whole : Bool) : (fuel : Nat) → Reader → Act Unit
  | 0, _ => pure ()
  | fuel + 1, before => do
    let st ← get
    let aliases := if st.dialect = .small ∨ st.features.contains "expand_aliases".toList then st.aliases
      else []
    let groups := st.features.contains "extglob".toList
    match ({ before with aliases, groups, documents := st.documents } : Reader).next with
    | .error fault =>
      complainSyntax fault
      setStatus (if fault.problem = .openList then 1 else 2)
      throw .failed
    | .ok (found, r) =>
      modify fun st => { st with documents := r.documents }
      for (line, message) in r.warnings do
        errors (st.name ++ ": line ".toList ++ Text.ofNat line ++ ": warning: ".toList ++ message
          ++ ['\n'])
      let r := { r with warnings := [] }
      if whole && st.options.contains 'v' then
        errors (before.rest.take (before.rest.length - r.rest.length))
      match found with
      | .finished => pure ()
      | .blank => runReader e standing whole fuel r
      | .command c =>
        let ends := r.rest.all fun c => c == '\n' || c == ' ' || c == '\t'
        -- the messages of the large shell do not name the command that runs the text
        if st.dialect = .large then modify fun now => { now with speaker := none }
        let flow ← attempt (e.run { standing with last := standing.last && ends } c)
        modify fun after => { after with speaker := st.speaker }
        match flow with
        | none => pure ()
        | some .dropped => if !whole then throw .dropped
        | some flow => throw flow
        runReader e standing whole fuel r

/-- Runs a text as part of a script, from a line on. -/
def runText (e : Engine) (standing : Standing) (s : Text) (line : Nat) : Act Unit := do
  let st ← get
  set { st with lineShift := 0, nesting := st.nesting + 1 }
  let s := Reader.inLines st.dialect s
  let flow ← attempt (runReader e standing false (s.length + 2)
    (Reader.ofText st.dialect s st.aliases st.documents line))
  modify fun after => { after with lineShift := st.lineShift, nesting := st.nesting }
  resume flow

/-! ## 2. The end of a shell -/

/-- Runs what has been asked for at the end of the shell, and gives how the shell ends. -/
def conclude (e : Engine) (flow : Option Flow) : Act Stop := do
  match flow with
  | some (.killed signal) => return .killed signal
  | some .replaced => return .exited ((← get).status % 256)
  | some .starved => throw .starved
  | _ =>
    let st ← get
    match st.traps.lookup 0 with
    | some text =>
      set { st with
        traps := st.traps.filter (·.1 != 0), speaker := none, loops := 0, calls := 0
        trapped := some st.status }
      if text = [] then return .exited (st.status % 256)
      else
        match ← attempt (runText e .plain text 1) with
        | some (.killed signal) => return .killed signal
        | some .starved => throw .starved
        | some .exit | some .replaced => return .exited ((← get).status % 256)
        | _ => return .exited (st.status % 256)
    | none => return .exited (st.status % 256)

/-- Deals with the signals that have reached the shell: what has been asked for is run, and a signal
that nothing has been asked for ends the shell. -/
def heed (e : Engine) : Act Unit := do
  let st ← get
  let signals ← onSystem fun sys => sys.takeSignals st.pid
  for n in signals do
    let st ← get
    if st.ignored.contains n ∧ n ≠ 9 then pure ()
    else
      match (if n = 9 then none else st.traps.lookup n) with
      | some text =>
        if st.dialect = .small then set { st with trapped := some st.status }
        let flow ← attempt (runText e .plain text 1)
        modify fun after => { after with
          trapped := st.trapped
          status := if flow.isSome then after.status else st.status }
        resume flow
      | none => if Signal.effect n = .ends then throw (.killed n)

/-! ## 3. Shells that are split off -/

/-- The state of a shell that has just been split off: what the other does at signals is not its own,
except that it heeds what the other does not. -/
def splitOff (st : State) (pid : Nat) : State :=
  { st with
    pid
    parent := st.pid
    traps := st.traps.filter fun t => t.2 == [] && t.1 != 0
    loops := match st.dialect with
      | .small => st.loops
      | .large => 0
    depth := st.depth + 1 }

/-- Runs one command in the background. -/
def runJob (e : Engine) (job : Job) : Act Unit := do
  let outer ← get
  let scene ← getThe Scene
  let (signals, system) := scene.system.takeSignals job.pid
  set { scene with system, jobs := [] }
  let deadly := signals.find? fun s => Signal.effect s = .ends ∧ !job.shell.ignored.contains s
  let stop ← match deadly with
    | some signal => pure (Stop.killed signal)
    | none => do
      set job.shell
      let flow ← attempt (e.run .final job.command)
      conclude e flow
  discard (statusOf stop)
  set outer
  let after ← getThe Scene
  set { after with
    jobs := after.jobs ++ scene.jobs.filter fun (j : Job) => j.pid != job.pid
    ended := (job.pid, stop) :: after.ended
    system := { after.system with alive := after.system.alive.filter (· != job.pid) } }

/-- Runs the commands in the background that have not been run. -/
def runJobs (e : Engine) : (fuel : Nat) → Act Unit
  | 0 => pure ()
  | fuel + 1 => do
    match (← getThe Scene).jobs with
    | [] => pure ()
    | job :: _ =>
      runJob e job
      runJobs e fuel

/-- How many commands in the background may follow one another. -/
def jobLimit : Nat := 1000

/-- Runs the commands that were to take what has been written to a channel. -/
def runFeed (e : Engine) (feed : Feed) : Act Unit := do
  let outer ← get
  let text ← onSystem fun sys =>
    let (s, _, sys) := sys.collected feed.index
    (s, sys)
  let channel ← onSystem fun sys => sys.addChannel (.source text false)
  set { feed.shell with fds := (0, channel) :: feed.shell.fds.filter (·.1 != 0) }
  discard (conclude e (← attempt (e.run .final feed.command)))
  set outer

/-- Runs the commands to which this shell has written all that it will write: those whose channel it
has left, or all of them at its end. -/
def runFeeds (e : Engine) (all : Bool) : Act Unit := do
  let scene ← getThe Scene
  let st ← get
  let isDue (feed : Feed) : Bool :=
    feed.shell.parent == st.pid && (all || !st.fds.any fun x => x.2 == feed.channel)
  let due := scene.feeds.filter isDue
  if !due.isEmpty then
    set { scene with feeds := scene.feeds.filter fun feed => !isDue feed }
    for feed in due do runFeed e feed

/-- Tells how a command ended that has been waited for, if a signal did it: the large shell tells only
of a request to end, and only of the command that it waited for last. -/
def tellEnd (stop : Stop) (last : Bool) : Act Unit := do
  match stop with
  | .killed n =>
    let told := match (← get).dialect with
      | .small => true
      | .large => last && n == 15
    if told then
      match Signal.description? n with
      | some words => errors (words ++ ['\n'])
      | none => pure ()
  | _ => pure ()

/-- Runs an action in a shell that is split off, and gives how that ended. -/
def fork (e : Engine) (act : Act Unit) : Act Stop := do
  let outer ← get
  let pid ← onSystem System.newPid
  let jobs := (← getThe Scene).jobs
  modifyThe Scene fun scene => { scene with jobs := [] }
  set (splitOff outer pid)
  let flow ← attempt act
  let stop ← conclude e flow
  runFeeds e true
  runJobs e jobLimit
  set outer
  modifyThe Scene fun scene => { scene with
    jobs := jobs
    system := { scene.system with alive := scene.system.alive.filter (· != pid) } }
  return stop

/-- The output of an action in a shell that is split off, and the status that it ended with; the
action runs commands that begin on a line.  To the large shell that is the line of the command at
work. -/
def collectOutput (e : Engine) (line : Nat) (act : Act Unit) : Act (Text × Nat) := do
  let (channel, index) ← onSystem fun sys =>
    let (c, i, sys) := sys.collect none
    ((c, i), sys)
  let stop ← fork e do
    modify fun st => { st with
      fds := (1, channel) :: st.fds.filter (·.1 != 1)
      lineShift := match st.dialect with
        | .small => 0
        | .large => (st.line : Int) - line
      nesting := st.nesting + 1
      options := if st.dialect = .large then st.options.filter (· != 'e') else st.options }
    act
  let text ← onSystem fun sys =>
    let (s, _, sys) := sys.collected index
    (s, sys)
  tellEnd stop false
  return (text, ← statusOf stop)

end Manpage.Shell.Act
