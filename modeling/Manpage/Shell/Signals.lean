/-
# Signals and commands in the background

`trap` says what is run at a signal, `kill` sends one, and `wait` waits for commands in the background,
which are run at that time at the latest.
-/
import Manpage.Shell.Declaring
import Manpage.Utility.Input

namespace Manpage.Shell.Act

/-! ## 1. Names of signals -/

/-- The number of what a trap of the large shell may wait for besides signals: a failure. -/
def failureTrap : Nat := 65

/-- The number of a signal that is given by number. -/
def signalNumber? (s : Text) : Option Nat :=
  if s ≠ [] ∧ s.all Char.isDigit then
    let n := Utility.ofDigits 10 s
    if n ≤ Signal.greatest then some n else none
  else none

/-- The number of a signal by number or name; the end of the shell is number zero. -/
def signalOf? (dialect : Dialect) (s : Text) : Option Nat :=
  match signalNumber? s with
  | some n => some n
  | none =>
    let upper := s.map Char.toUpper
    match dialect with
    | .small => if upper = "EXIT".toList then some 0 else Signal.ofName? s
    | .large =>
      let bare := ("SIG".toList.isPrefixOf? upper).getD upper
      if upper = "EXIT".toList then some 0
      else if upper = "ERR".toList then some failureTrap
      else if upper = "DEBUG".toList ∨ upper = "RETURN".toList then some (failureTrap + 1)
      else Signal.ofName? bare

/-- A signal as it is told. -/
def signalName (dialect : Dialect) (n : Nat) : Text :=
  if n = 0 then "EXIT".toList
  else if n = failureTrap then "ERR".toList
  else
    let name := (Signal.name? n).getD (Text.ofNat n)
    match dialect with
    | .small => name
    | .large => "SIG".toList ++ name

/-! ## 2. What is run at signals -/

/-- Tells what is run at signals. -/
def tellTraps : Act Unit := do
  let st ← get
  for (n, text) in st.traps.mergeSort (fun a b => a.1 ≤ b.1) do
    let quoted := match st.dialect with
      | .small => Quoting.small text
      | .large => Quoting.large text
    sayLine ("trap -- ".toList ++ quoted ++ ' ' :: signalName st.dialect n)

/-- Sets what is run at a signal: nothing at all, for it to be ignored, or what the system does. -/
def setTrap (n : Nat) (action : Option Text) : Act Unit := modify fun st =>
  let traps := st.traps.filter (·.1 != n)
  let ignored := st.ignored.filter (· != n)
  match action with
  | none => { st with traps, ignored }
  | some text =>
    { st with
      traps := (n, text) :: traps
      ignored := if text = [] ∧ n ≠ 0 then n :: ignored else ignored }

/-- `trap`: says what is run at signals. -/
def setTraps (args : List Text) : Act Unit := do
  let large := (← get).dialect == .large
  let (letters, rest) ← takeOptions (if large then "lp" else "")
    "trap [-lp] [[arg] signal_spec ...]" args
  setStatus 0
  match rest with
  | [] => tellTraps
  | first :: others =>
    if letters ≠ [] then tellTraps
    else
      let noAction := others.isEmpty || (signalNumber? first).isSome
      let action := if noAction ∨ first = ['-'] then none else some first
      for name in (if noAction then rest else others) do
        if (← get).status = 0 ∨ large = true then
          match signalOf? (← get).dialect name with
          | some n => setTrap n action
          | none =>
            if large then complain (name ++ ": invalid signal specification".toList)
            else errors ("trap: ".toList ++ name ++ ": bad trap\n".toList)
            setStatus 1

/-! ## 3. Sending signals -/

/-- Sends a signal to a process; tells whether there is one. -/
def sendSignal (pid n : Nat) : Act Bool := do
  let sys ← system
  if sys.alive.contains pid then
    if n ≠ 0 then modifySystem fun sys => { sys with pending := (pid, n) :: sys.pending }
    return true
  else return false

/-- The commands in the background, by number. -/
def backgroundPids : Act (List Nat) := do
  let scene ← getThe Scene
  return (scene.jobs.map (·.pid) ++ scene.ended.map Prod.fst).mergeSort (· ≤ ·)

/-- The process that an argument means: by number, or as a command in the background. -/
def processOf? (s : Text) : Act (Option Nat) := do
  match s with
  | '%' :: number =>
    let pids ← backgroundPids
    match number with
    | [] | ['%'] | ['+'] => return pids.getLast?
    | ['-'] => return pids.dropLast.getLast?
    | digits => return pids[Utility.ofDigits 10 digits - 1]?
  | digits =>
    match (← get).dialect with
    | .small => return wholeNumber? digits
    | .large =>
      if digits ≠ [] ∧ digits.all Char.isDigit then return some (Utility.ofDigits 10 digits)
      else return none

/-- Sends a signal to processes. -/
def sendToAll (n : Nat) : List Text → Act Unit
  | [] => pure ()
  | target :: rest => do
    let dialect := (← get).dialect
    let group := target.head? == some '-'
    let bare := if group then target.drop 1 else target
    match ← processOf? bare with
    | none =>
      match dialect with
      | .small =>
        if bare.head? = some '%' then fail ("No such job: ".toList ++ bare)
        else fail ("Illegal number: ".toList ++ bare)
      | .large =>
        complain (if bare.head? = some '%' then bare ++ ": no such job".toList
          else target ++ ": arguments must be process or job IDs".toList)
        setStatus 1
    | some pid =>
      if !(← sendSignal pid n) then
        match dialect with
        | .small => complain "No such process\n".toList
        | .large => complain ('(' :: target ++ ") - No such process".toList)
        setStatus 1
    sendToAll n rest

/-- The table of signals of the large shell. -/
def signalTable : Text :=
  let cells := (List.range 31).map fun i =>
    Utility.alignRight 2 (Text.ofNat (i + 1)) ++ ") ".toList ++ signalName .large (i + 1)
  let rec rows : (fuel : Nat) → List Text → Text
    | 0, _ => []
    | _ + 1, [] => []
    | fuel + 1, cells => Text.join ['\t'] (cells.take 5) ++ '\n' :: rows fuel (cells.drop 5)
  rows 31 cells

/-- Tells signals by number. -/
def tellSignals (args : List Text) : Act Unit := do
  let dialect := (← get).dialect
  match args, dialect with
  | [], .small =>
    say ("0\n".toList ++ ((List.range 31).flatMap fun i => signalName .small (i + 1) ++ ['\n']))
  | [], .large => say signalTable
  | arg :: _, _ =>
    match wholeNumber? arg with
    | some n =>
      let n := if n > 128 then n - 128 else n
      match Signal.name? n with
      | some name => sayLine name
      | none =>
        match dialect with
        | .small => fail ("invalid signal number or exit status: ".toList ++ arg)
        | .large => fail (arg ++ ": invalid signal specification".toList)
    | none =>
      match dialect with
      | .small => fail ("Illegal number: ".toList ++ arg)
      | .large =>
        match signalOf? .large arg with
        | some n => sayLine (Text.ofNat n)
        | none => fail (arg ++ ": invalid signal specification".toList)

/-- `kill`: sends a signal. -/
def kill (args : List Text) : Act Unit := do
  let dialect := (← get).dialect
  let usage {α : Type} : Act α := do
    match dialect with
    | .small => fail "Usage: kill [-s sigspec | -signum | -sigspec] [pid | job]... or\nkill -l [exitstatus]".toList
    | .large =>
      errors "kill: usage: kill [-s sigspec | -n signum | -sigspec] pid | jobspec ... or kill -l [sigspec]\n".toList
      setStatus 2
      throw .failed
  let unknown {α : Type} (s : Text) : Act α := do
    match dialect with
    | .small => fail ("invalid signal number or name: ".toList ++ s)
    | .large => fail (s ++ ": invalid signal specification".toList)
  setStatus 0
  let send (n : Nat) (targets : List Text) : Act Unit :=
    if targets.isEmpty then usage else sendToAll n targets
  let named (s : Text) (targets : List Text) : Act Unit := do
    match signalOf? dialect s with
    | some n => if targets.head? = some "--".toList then send n (targets.drop 1) else send n targets
    | none => unknown s
  match args with
  | [] => usage
  | ['-', '-'] :: rest => send 15 rest
  | ['-', 'l'] :: rest | ['-', 'L'] :: rest => tellSignals rest
  | ['-', 's'] :: s :: rest => named s rest
  | ['-', 'n'] :: s :: rest =>
    match dialect with
    | .small => fail "Illegal option -n".toList
    | .large => named s rest
  | ('-' :: c :: letters) :: rest =>
    match signalOf? dialect (c :: letters) with
    | some n => if rest.head? = some "--".toList then send n (rest.drop 1) else send n rest
    | none =>
      match dialect with
      | .small =>
        if c = 's' then
          if letters = [] then fail "No arg for -s option".toList else named letters rest
        else fail ("Illegal option -".toList ++ [c])
      | .large => unknown (c :: letters)
  | targets => send 15 targets

/-! ## 4. Commands in the background -/

/-- `wait`: waits for commands in the background. -/
def waitFor (e : Engine) (args : List Text) : Act Unit := do
  let (_, rest) ← takeOptions (if (← get).dialect = .large then "fn" else "") "wait [-fn] [-p var] [id ...]" args
  runJobs e jobLimit
  setStatus 0
  for arg in rest do
    match ← processOf? arg with
    | none =>
      match (← get).dialect with
      | .small =>
        if arg.head? = some '%' then fail ("No such job: ".toList ++ arg)
        else fail ("Illegal number: ".toList ++ arg)
      | .large =>
        if arg.head? = some '%' then
          complain (arg ++ ": no such job".toList)
          setStatus 127
        else
          complain ("\x60".toList ++ arg ++ "': not a pid or valid job spec".toList)
          setStatus 1
    | some pid =>
      match (← getThe Scene).ended.lookup pid with
      | some stop =>
        tellEnd stop false
        setStatus (← statusOf stop)
      | none =>
        if (← get).dialect = .large then
          complain ("pid ".toList ++ arg ++ " is not a child of this shell".toList)
        setStatus 127

/-- `fg` and `bg`, which cannot do anything. -/
def noJobControl : Act Unit := do
  match (← get).dialect with
  | .small => fail "No current job".toList
  | .large =>
    complain "no job control".toList
    setStatus 1

end Manpage.Shell.Act
