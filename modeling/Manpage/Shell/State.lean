/-
# Shells at work

What a shell knows while it runs: its variables and functions, its parameters and options, where it
works and which channels its file numbers lead to.  What it does changes that, and the system around
it; a command may be left early, for a loop, a function or the shell itself to deal with.

Commands in the background wait until somebody waits for them, or until the shell ends.
-/
import Manpage.Shell.Grammar
import Manpage.System.Process

namespace Manpage.Shell

/-! ## 1. Variables -/

/-- The value of a variable. -/
inductive Value
  | unset
  | text (s : Text)
  /-- Values by number, in order. -/
  | list (items : List (Nat × Text))
  /-- Values by key. -/
  | keyed (items : List (Text × Text))
deriving DecidableEq, Repr

/-- A variable. -/
structure Variable where
  value : Value
  exported : Bool
  fixed : Bool
  /-- Whether what it is set to is an arithmetic expression. -/
  whole : Bool
  /-- Whether what it is set to is put into upper or lower case. -/
  letters : Option Bool
deriving DecidableEq, Repr

namespace Variable

/-- A variable that is not set. -/
def none : Variable := ⟨.unset, false, false, false, Option.none⟩

instance : Inhabited Variable := ⟨none⟩

/-- The value as a text: of several values the one of number zero. -/
def text? (v : Variable) : Option Text :=
  match v.value with
  | .unset => Option.none
  | .text s => some s
  | .list items => items.lookup 0
  | .keyed items => items.lookup ['0']

/-- All values. -/
def all (v : Variable) : List Text :=
  match v.value with
  | .unset => []
  | .text s => [s]
  | .list items => items.map Prod.snd
  | .keyed items => items.map Prod.snd

/-- The indices of the values. -/
def indices (v : Variable) : List Text :=
  match v.value with
  | .unset => []
  | .text _ => [['0']]
  | .list items => items.map fun x => Text.ofNat x.1
  | .keyed items => items.map Prod.fst

end Variable

/-- Puts a value at a number, in order. -/
def putAt (n : Nat) (s : Text) : List (Nat × Text) → List (Nat × Text)
  | [] => [(n, s)]
  | (m, t) :: rest =>
    if m < n then (m, t) :: putAt n s rest
    else if m = n then (n, s) :: rest
    else (n, s) :: (m, t) :: rest

/-- Puts a value at a key, behind all others if it is new. -/
def putKey {α β : Type} [DecidableEq α] (k : α) (v : β) : List (α × β) → List (α × β)
  | [] => [(k, v)]
  | (l, w) :: rest => if l = k then (k, v) :: rest else (l, w) :: putKey k v rest

theorem lookup_putKey {α β : Type} [DecidableEq α] (k l : α) (v : β) :
    ∀ xs : List (α × β), (putKey k v xs).lookup l = if l = k then some v else xs.lookup l
  | [] => by
    by_cases h : l = k
    · simp [putKey, h]
    · have hb : (l == k) = false := by simpa using h
      simp [putKey, List.lookup_cons, hb, h]
  | (m, w) :: rest => by
    have ih := lookup_putKey k l v rest
    by_cases hm : m = k
    · by_cases h : l = k
      · simp [putKey, hm, h]
      · have hb : (l == k) = false := by simpa using h
        simp [putKey, hm, List.lookup_cons, hb, h]
    · by_cases h : l = m
      · subst h
        simp [putKey, hm]
      · have hb : (l == m) = false := by simpa using h
        simp [putKey, hm, List.lookup_cons, hb, ih]

/-! ## 2. Shells -/

/-- A function, and the file that it was read from. -/
structure Function where
  body : Command
  source : Text

/-- A function at work, or a file that is being read: its name, the line of the command that asked for
it, and the file that its commands come from. -/
structure Frame where
  name : Text
  line : Nat
  source : Text
deriving DecidableEq, Repr

/-- A shell. -/
structure State where
  dialect : Dialect
  /-- The name that it goes by. -/
  name : Text
  /-- The file that is being read for another, which the messages of the large shell name. -/
  sourceName : Option Text
  /-- The file that the shell runs, if it runs one. -/
  script : Option Text
  params : List Text
  bindings : List (Text × Variable)
  functions : List (Text × Function)
  aliases : List (Text × Text)
  /-- The letters of the options that are on. -/
  options : List Char
  /-- Whether a pipeline fails with any of its stages. -/
  pipefail : Bool
  /-- Options of the large shell by name. -/
  features : List Text
  /-- What is run at a signal; at the end of the shell for number zero. -/
  traps : List (Nat × Text)
  /-- The line of the command at work. -/
  line : Nat
  /-- How far the lines of commands are from those at which they were read. -/
  lineShift : Int
  /-- The command of the shell at work, which its messages name. -/
  speaker : Option Text
  status : Nat
  /-- The status of the last command whose output was taken. -/
  outputStatus : Nat
  pid : Nat
  parent : Nat
  /-- The number that the shell goes by, also in shells that it has split off. -/
  shownPid : Nat
  lastJob : Option Nat
  cwd : Location
  cwdPath : Text
  fds : List (Nat × Nat)
  umask : Nat
  ignored : List Nat
  /-- The numbers of loops and functions around the command at work. -/
  loops : Nat
  calls : Nat
  /-- The functions at work and the files being read, the inner ones first. -/
  frames : List Frame
  sourcing : Nat
  /-- What is to become of variables at the end of the functions at work, the inner ones first. -/
  locals : List (List (Text × Variable))
  documents : Array Word
  /-- The argument whose options are taken next, and how far letters have been taken from the one
  before it. -/
  optionIndex : Nat
  optionPlace : Nat
  /-- Whether commands are being shown as they are run. -/
  showing : Bool
  /-- How many texts are being run inside each other. -/
  nesting : Nat
  /-- How many shells it has been split off from. -/
  depth : Nat
  /-- The status before what is being run for a signal. -/
  trapped : Option Nat
  /-- The statuses of the stages of the last pipeline. -/
  stageStatuses : List Nat

/-- A command in the background that has not been run yet. -/
structure Job where
  pid : Nat
  command : Command
  shell : State

/-- Commands that take what is written to a channel, which is collected for them; `shell` is where they
run. -/
structure Feed where
  channel : Nat
  index : Nat
  command : Command
  shell : State

/-- The system, with the commands in the background of one shell, and those that others write to. -/
structure Scene where
  system : System
  jobs : List Job
  feeds : List Feed
  /-- How those went that have ended. -/
  ended : List (Nat × Stop)

/-- The features that the large shell begins with. -/
def standardFeatures : List Text :=
  ["checkwinsize", "cmdhist", "complete_fullquote", "extquote", "force_fignore", "globasciiranges",
   "globskipdots", "hostcomplete", "interactive_comments", "patsub_replacement", "progcomp",
   "promptvars", "sourcepath"].map String.toList

/-- What leaves a command before its end. -/
inductive Flow
  /-- The shell ends with its status. -/
  | exit
  /-- A command of the shell cannot go on; the shell ends unless that is the command's own matter. -/
  | failed
  /-- A redirection cannot be made. -/
  | refused
  /-- The large shell drops the rest of what it has read. -/
  | dropped
  | returning
  | breaking (levels : Nat)
  | continuing (levels : Nat)
  | killed (signal : Nat)
  /-- A program has taken the place of the shell, and has ended with its status. -/
  | replaced
  /-- A text that was cut off was read to its end. -/
  | starved
deriving DecidableEq, Repr

/-- What a shell does. -/
abbrev Act := ExceptT Flow (StateT State (StateM Scene))

/-- The file that the commands at work come from. -/
def State.source (st : State) : Text := (st.sourceName <|> st.script).getD st.name

/-- How a command stands in its shell. -/
structure Standing where
  /-- Whether its status is looked at, so that a failure ends nothing. -/
  tested : Bool
  /-- Whether nothing follows in its shell, so that a program can take the place of the shell. -/
  last : Bool
deriving DecidableEq, Repr

namespace Standing

/-- In the middle of a script. -/
def plain : Standing := ⟨false, false⟩

/-- At the end of a shell. -/
def final : Standing := ⟨false, true⟩

/-- As a condition. -/
def condition : Standing := ⟨true, false⟩

/-- The same, with something that follows. -/
def followed (s : Standing) : Standing := { s with last := false }

end Standing

/-- What can be run: commands of the shell, and programs. -/
structure Engine where
  run : Standing → Command → Act Unit
  invoke : Invoke

namespace Act

/-! ## 3. The system -/

/-- Does something with the system. -/
def onSystem {α : Type} (f : System → α × System) : Act α := do
  let scene ← getThe Scene
  let (a, system) := f scene.system
  set { scene with system }
  return a

/-- The system. -/
def system : Act System := do return (← getThe Scene).system

/-- The files. -/
def files : Act Files := do return (← system).files

/-- Changes the system. -/
def modifySystem (f : System → System) : Act Unit := modifyThe Scene fun scene =>
  { scene with system := f scene.system }

/-- Runs an action, and gives what left it early. -/
def attempt (act : Act Unit) : Act (Option Flow) := fun st scene =>
  match (act.run.run st).run scene with
  | ((.ok (), st), scene) => ((.ok none, st), scene)
  | ((.error flow, st), scene) => ((.ok (some flow), st), scene)

/-- Goes on as something left an action. -/
def resume (flow : Option Flow) : Act Unit :=
  match flow with
  | none => pure ()
  | some flow => throw flow

/-- The command at work begins on a line. -/
def atLine (line : Nat) : Act Unit := modify fun st =>
  { st with line := (line + st.lineShift).toNat }

/-- Sets the status. -/
def setStatus (n : Nat) : Act Unit := modify fun st => { st with status := n }

/-! ## 4. Writing -/

/-- Writes to a file number; gives the fault if that cannot be done. -/
def tryWrite (fd : Nat) (s : Text) : Act (Except SystemFault Unit) := do
  if s.isEmpty then return .ok ()
  let st ← get
  match st.fds.lookup fd with
  | none => return .error .badDescriptor
  | some c =>
    let result ← onSystem fun sys => sys.write c s
    match result with
    | .error .brokenPipe =>
      if st.ignored.contains Signal.pipe then return result
      else if (st.traps.lookup Signal.pipe).isSome then return result
      else throw (.killed Signal.pipe)
    | _ => return result

/-- Writes to the error output. -/
def errors (s : Text) : Act Unit := do discard (tryWrite 2 s)

/-- What the messages of a shell begin with. -/
def messageStart (st : State) : Text :=
  let place := match st.dialect with
    | .small => Text.ofNat st.line
    | .large => "line ".toList ++ Text.ofNat st.line
  let speaker := match st.speaker with
    | some s => s ++ ": ".toList
    | none => []
  (st.sourceName.getD st.name) ++ ": ".toList ++ place ++ ": ".toList ++ speaker

/-- Writes a message. -/
def complain (message : Text) : Act Unit := do
  errors (messageStart (← get) ++ message ++ ['\n'])

/-- Writes to the output; a command that cannot fails. -/
def say (s : Text) : Act Unit := do
  match ← tryWrite 1 s with
  | .ok () => pure ()
  | .error fault =>
    match (← get).dialect with
    | .small => complain (((← get).speaker.getD []) ++ ": I/O error".toList)
    | .large => complain ("write error: ".toList ++ fault.wording)
    setStatus 1
    throw .failed

/-- Writes a line to the output. -/
def sayLine (s : Text) : Act Unit := say (s ++ ['\n'])

/-- Ends the shell with a status. -/
def exit {α : Type} (n : Nat) : Act α := do
  setStatus n
  throw .exit

/-- Ends the command at work, after a message, as one that cannot go on. -/
def fail {α : Type} (message : Text) : Act α := do
  complain message
  match (← get).dialect with
  | .small =>
    setStatus 2
    throw .failed
  | .large =>
    setStatus 1
    throw .failed

/-! ## 5. Variables -/

/-- The value of a variable. -/
def variableOf (st : State) (name : Text) : Variable := (st.bindings.lookup name).getD Variable.none

/-- The text of a variable. -/
def textOf? (st : State) (name : Text) : Option Text := (variableOf st name).text?

/-- Puts a variable in its place. -/
def putVariable (name : Text) (v : Variable) : Act Unit :=
  modify fun st => { st with bindings := putKey name v st.bindings }

/-- Refuses to change a variable that may not be changed. -/
def refuseFixed {α : Type} (name : Text) : Act α := do
  let st ← get
  match st.dialect with
  | .small => fail (name ++ ": is read only".toList)
  | .large =>
    -- what the large shell says does not name the command
    set { st with speaker := none }
    complain (name ++ ": readonly variable".toList)
    modify fun now => { now with speaker := st.speaker }
    setStatus 1
    throw .dropped

/-- A text as the value that a variable takes from it. -/
def takenBy (v : Variable) (s : Text) : Text :=
  match v.letters with
  | some true => s.map Char.toUpper
  | some false => s.map Char.toLower
  | none => s

/-- Sets a variable to a text. -/
def assign (name value : Text) : Act Unit := do
  let st ← get
  let v := variableOf st name
  if v.fixed then refuseFixed name
  let value := takenBy v value
  let exported := v.exported || (st.options.contains 'a')
  let made := match v.value with
    | .list items => Value.list (putAt 0 value items)
    | .keyed items => .keyed (putKey ['0'] value items)
    | _ => .text value
  putVariable name { v with value := made, exported }
  if name = "OPTIND".toList then
    let n := ((String.ofList value).toNat?).getD 1
    modify fun st => { st with optionIndex := max n 1, optionPlace := 0 }

/-- Sets one value of a variable. -/
def assignAt (name index value : Text) : Act Unit := do
  let st ← get
  let v := variableOf st name
  if v.fixed then refuseFixed name
  let value := takenBy v value
  let number : Nat := ((String.ofList index).toNat?).getD 0
  let made := match v.value with
    | .unset => Value.list [(number, value)]
    | .text s => .list (putAt number value [(0, s)])
    | .list items => .list (putAt number value items)
    | .keyed items => .keyed (putKey index value items)
  putVariable name { v with value := made }

/-- Sets a variable to a whole value. -/
def assignValue (name : Text) (value : Value) : Act Unit := do
  let v := variableOf (← get) name
  if v.fixed then refuseFixed name
  putVariable name { v with value }

/-- Removes a variable. -/
def unset (name : Text) : Act Unit := do
  let st ← get
  if (variableOf st name).fixed then
    match st.dialect with
    | .small => refuseFixed name
    | .large =>
      complain (name ++ ": cannot unset: readonly variable".toList)
      setStatus 1
      throw .failed
  -- inside a function the variable stays known, so that it can be given back
  set { st with bindings := st.bindings.filter (·.1 != name) }

/-- What separates the fields of a value. -/
def separators (st : State) : Text := (textOf? st "IFS".toList).getD [' ', '\t', '\n']

/-- The place of a name in the order in which the small shell tells names, which goes by a sum of their
letters. -/
def placeOf (name : Text) : Nat :=
  ((name.headD 'a').toNat * 16 + (name.map Char.toNat).foldl (· + ·) 0) % 39

/-- The variables that commands are given. -/
def exportedVariables (st : State) : List (Text × Text) :=
  let found := st.bindings.filterMap fun (name, v) =>
    match v.exported, v.value with
    | true, .text s => some (name, s)
    | _, _ => none
  match st.dialect with
  | .small => found.mergeSort fun a b => placeOf a.1 ≤ placeOf b.1
  | .large => found

/-- Keeps a variable as it is, to be given back at the end of the innermost function. -/
def keep (name : Text) : Act Unit := modify fun st =>
  match st.locals with
  | [] => st
  | frame :: outer =>
    if (frame.lookup name).isSome then st
    else { st with locals := ((name, variableOf st name) :: frame) :: outer }

/-- Gives variables back what they had. -/
def giveBack (frame : List (Text × Variable)) : Act Unit := modify fun st =>
  { st with bindings := frame.foldl (fun vs (name, v) =>
      if v == Variable.none then vs.filter (·.1 != name) else putKey name v vs) st.bindings }

/-! ## 6. Processes and signals -/

/-- The process of a program that is started with arguments. -/
def processFor (st : State) (pid : Nat) (name : Text) (env : List (Text × Text)) : Process where
  name := name
  pid := pid
  parent := st.pid
  cwd := st.cwd
  cwdPath := st.cwdPath
  env := env
  fds := st.fds
  umask := st.umask
  ignored := st.ignored
  held := []

/-- Runs work of a process, and gives how it ended. -/
def work (p : Process) (w : Work Nat) : Act Stop := do
  let scene ← getThe Scene
  let (stop, system) := (Work.run p w).run scene.system
  set { scene with system }
  return stop

/-- The status that the end of a process gives. -/
def statusOf : Stop → Act Nat
  | .exited n => return n
  | .killed signal => return 128 + signal
  | .starved => throw .starved

end Act

end Manpage.Shell
