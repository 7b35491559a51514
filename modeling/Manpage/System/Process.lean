/-
# Processes

A running command: where it works, what it knows of its surroundings, and which channels its file
numbers lead to.  What it does is a `Work`, which changes the system and ends early when the command
stops.  What it writes to its output is kept back until it ends or asks for it to be written.
-/
import Manpage.System.Channel
import Manpage.System.Signal

namespace Manpage

/-- A running command. -/
structure Process where
  /-- How its messages begin. -/
  name : Text
  pid : Nat
  parent : Nat
  cwd : Location
  /-- The path of the directory it works in. -/
  cwdPath : Text
  env : List (Text × Text)
  /-- The channels of its file numbers. -/
  fds : List (Nat × Nat)
  umask : Nat
  /-- The signals that it has been asked not to heed. -/
  ignored : List Nat
  /-- What is to be written to the output, the last piece first. -/
  held : List Text

/-- How a command stops. -/
inductive Stop
  | exited (status : Nat)
  | killed (signal : Nat)
  /-- A text that was cut off was read to its end. -/
  | starved
deriving DecidableEq, Repr

/-- What a command does. -/
abbrev Work := ExceptT Stop (StateT Process (StateM System))

/-- Starts the program in a file, with arguments, in the place of a process, and waits for its end. -/
abbrev Invoke := Process → (path : Text) → List Text → StateM System (Except SystemFault Stop)

namespace Work

/-! ## 1. Writing -/

/-- Writes to a file number, or says why not.  A broken pipe ends the command unless it heeds no
signal of that kind. -/
def tryWrite (fd : Nat) (s : Text) : Work (Except SystemFault Unit) := do
  if s.isEmpty then return .ok ()
  let p ← get
  match p.fds.lookup fd with
  | none => return .error .badDescriptor
  | some c =>
    let (result, sys) := (← getThe System).write c s
    set sys
    match result with
    | .error .brokenPipe =>
      if p.ignored.contains Signal.pipe then return result else throw (.killed Signal.pipe)
    | _ => return result

/-- Writes to the error output. -/
def errors (s : Text) : Work Unit := do discard (tryWrite 2 s)

/-- Writes a message that begins with the name of the command. -/
def complain (message : Text) : Work Unit := do
  errors ((← get).name ++ ": ".toList ++ message ++ ['\n'])

/-- Ends the command with a status after a message. -/
def fail {α : Type} (status : Nat) (message : Text) : Work α := do
  complain message
  throw (.exited status)

/-- Writes what has been kept back. -/
def flush : Work Unit := do
  let p ← get
  if p.held.isEmpty then return
  let s := p.held.reverse.flatten
  set { p with held := [] }
  match ← tryWrite 1 s with
  | .ok () => pure ()
  | .error fault => fail 1 ("write error: ".toList ++ fault.wording)

/-- Writes to the output, at the end of the command at the latest. -/
def out (s : Text) : Work Unit := do
  if !s.isEmpty then modify fun p => { p with held := s :: p.held }

/-- Writes a line to the output. -/
def outLine (s : Text) : Work Unit := out (s ++ ['\n'])

/-- Writes to the output at once. -/
def outNow (s : Text) : Work Unit := do
  out s
  flush

/-! ## 2. Reading -/

/-- The channel of a file number. -/
def channelOf? (fd : Nat) : Work (Option Nat) := do return (← get).fds.lookup fd

/-- Everything that is left to read of a channel. -/
def readChannel (c : Nat) : Work (Except SystemFault Text) := do
  let sys ← getThe System
  match sys.available c with
  | .error fault => return .error fault
  | .ok (s, cut) =>
    if cut then throw .starved
    set (sys.advance c s.length)
    return .ok s

/-- The file number that a path of the system stands for. -/
def ownNumber? (path : Text) : Option Nat :=
  if path = "/dev/stdin".toList then some 0
  else if path = "/dev/stdout".toList then some 1
  else if path = "/dev/stderr".toList then some 2
  else
    match "/dev/fd/".toList.isPrefixOf? path with
    | some rest => if rest ≠ [] ∧ rest.all Char.isDigit then (String.ofList rest).toNat? else none
    | none => none

/-- Opens a file to read it. -/
def openFile (path : Text) : Work (Except SystemFault Nat) := do
  let p ← get
  let sys ← getThe System
  let located := sys.files.locate p.cwd (Text.ofOctets path)
  match ownNumber? path with
  | some fd =>
    match p.fds.lookup fd with
    | some c =>
      -- a file is opened anew, from its beginning
      match sys.channel c with
      | .file l _ _ =>
        match sys.openToRead l with
        | .error fault => return .error fault
        | .ok channel =>
          let (c, sys) := sys.addChannel channel
          set sys
          return .ok c
      | _ => return .ok c
    | none => return .error .notFound
  | none =>
    match located with
    | .error fault => return .error fault
    | .ok l =>
      match sys.openToRead l with
      | .error fault => return .error fault
      | .ok channel =>
        let (c, sys) := sys.addChannel channel
        set sys
        return .ok c

/-- The whole of a file; a hyphen is the input. -/
def readFile (path : Text) : Work (Except SystemFault Text) := do
  if path = ['-'] then
    match ← channelOf? 0 with
    | some c => readChannel c
    | none => return .error .badDescriptor
  else
    match ← openFile path with
    | .error fault => return .error fault
    | .ok c => readChannel c

/-- The whole of the input. -/
def input : Work (Except SystemFault Text) := readFile ['-']

/-! ## 3. Files -/

/-- The files. -/
def files : Work Files := do return (← getThe System).files

/-- What a path leads to. -/
def stat (path : Text) : Work (Except SystemFault Entry) := do
  return (← files).stat (← get).cwd (Text.ofOctets path)

/-- Whether a path leads to a directory. -/
def isDirectory (path : Text) : Work Bool := do
  return (← files).isDirectory (← get).cwd (Text.ofOctets path)

/-- Writes a file anew, or at its end. -/
def writeFile (path content : Text) (append : Bool) : Work (Except SystemFault Unit) := do
  let p ← get
  match ownNumber? path with
  | some 1 =>
    out content
    return .ok ()
  | some fd => tryWrite fd content
  | none =>
    let sys ← getThe System
    let mode := 0o666 &&& (0o777 ^^^ p.umask)
    let access := if append then Access.append else Access.output
    match sys.openToWrite p.cwd (Text.ofOctets path) access mode (!append) false with
    | .error fault => return .error fault
    | .ok (channel, sys) =>
      let (c, sys) := sys.addChannel channel
      let (result, sys) := sys.write c content
      set sys
      return result

/-- The value of a variable. -/
def binding? (name : Text) : Work (Option Text) := do return (← get).env.lookup name

/-- Runs a command to its end. -/
def run (p : Process) (work : Work Nat) : StateM System Stop := fun sys =>
  let finished : Work Nat := do
    let status ← tryCatch work fun stop => match stop with
      | .exited status => pure status
      | stop => throw stop
    flush
    return status
  match StateT.run (StateT.run (ExceptT.run finished) p) sys with
  | ((.ok status, _), sys) => (.exited (status % 256), sys)
  | ((.error stop, _), sys) => (stop, sys)

end Work

end Manpage
