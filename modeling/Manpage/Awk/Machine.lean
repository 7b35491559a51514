/-
# The state of a report

What a program for reports works on: its names and arrays, the record with its fields, and the files and
commands that it reads from and writes to.  What goes to a command is kept until the command is closed
and then given to it as a whole.
-/
import Manpage.Awk.Scanner
import Manpage.Awk.Value
import Manpage.Utility.Starting

namespace Manpage.Awk

open Manpage.Utility (Source)

/-! ## 1. The parts of the state -/

/-- What a name of a function stands for. -/
inductive Slot
  | value (v : Value)
  | array (id : Nat)

/-- What is read from: the text that is left, and the status of the command that has given it. -/
structure Inlet where
  source : Option Source
  left : Text
  status : Nat

/-- What is written to, with the pieces that have not been written yet, the last one first. -/
structure Outlet where
  isCommand : Bool
  name : Text
  pieces : List Text

/-- The state of a report. -/
structure Machine where
  names : List (Text × Value)
  arrayIds : List (Text × Nat)
  arrays : Array Table
  frame : List (Text × Slot)
  record : Value
  fields : Array Value
  /-- Whether the record has to be put together again from its fields. -/
  stale : Bool
  main : Option Inlet
  /-- The number of the next argument that is a file or an assignment. -/
  argument : Nat
  /-- Whether something has been chosen to be read. -/
  opened : Bool
  /-- The files and the commands that are read from, by name. -/
  inlets : List ((Bool × Text) × Inlet)
  outlets : List Outlet
  /-- The rules between whose bounds the record is. -/
  inside : List Nat
  status : Nat
  seed : Value
  random : Nat

/-- How the work on a record ends early. -/
inductive Leave
  | leave | again | nextRecord | nextFile | exit
  | give (v : Value)

/-- A report changes its state, does what commands do, and may leave off early. -/
abbrev Running := ExceptT Leave (StateT Machine Work)

/-! ## 2. Separators -/

/-- What stands between the fields of a record. -/
inductive Separator
  | blanks
  | char (c : Char)
  | nothing
  | regex (r : Regex)

namespace Separator

/-- The separator that a text means. -/
def ofText (s : Text) : Except Text Separator :=
  match s with
  | [] => .ok .nothing
  | [' '] => .ok .blanks
  | [c] => .ok (.char c)
  | s => (Scanner.regex s).map .regex

/-- Cuts at the matches of an expression that have a character. -/
def cutAtRegex (r : Regex) (s : Regex.Subject) : (fuel : Nat) → (start first : Nat) → List Text
  | 0, _, _ => []
  | fuel + 1, start, first =>
    let piece (last : Nat) : Text := (s.chars.extract first last).toList
    match r.find s start with
    | none => [piece s.chars.size]
    | some m =>
      if m.first = m.last then
        if m.last < s.chars.size then cutAtRegex r s fuel (m.last + 1) first
        else [piece s.chars.size]
      else piece m.first :: cutAtRegex r s fuel m.last m.last

/-- Cuts a text into fields. -/
def cut (sep : Separator) (s : Text) : List Text :=
  if s.isEmpty then []
  else
    match sep with
    | .blanks => (Text.cutAt (fun c => c == ' ' || c == '\t' || c == '\n') s).filter (· != [])
    | .char c => Text.cutAt (· == c) s
    | .nothing => s.map fun c => [c]
    | .regex r => cutAtRegex r ⟨s.toArray, ⟨false, false⟩, true⟩ (s.length + 2) 0 0

end Separator

/-- Takes a record off a text: it ends as `rs` says. -/
def takeRecord (rs : Text) (s : Text) : Except Text (Option (Text × Text)) :=
  let upTo (c : Char) (s : Text) : Option (Text × Text) :=
    if s.isEmpty then none
    else
      let line := s.takeWhile (· != c)
      some (line, s.drop (line.length + 1))
  match rs with
  | [c] => .ok (upTo c s)
  | [] =>
    let s := s.dropWhile (· == '\n')
    let rec paragraph : Text → Text × Text
      | [] => ([], [])
      | '\n' :: '\n' :: rest => ([], rest.dropWhile (· == '\n'))
      | ['\n'] => ([], [])
      | c :: rest =>
        let (found, more) := paragraph rest
        (c :: found, more)
    .ok (if s.isEmpty then none else some (paragraph s))
  | rs => do
    let r ← Scanner.regex rs
    if s.isEmpty then return none
    else
      let subject : Regex.Subject := ⟨s.toArray, ⟨false, false⟩, true⟩
      match r.find subject 0 with
      | some m =>
        if m.first < m.last then return some (s.take m.first, s.drop m.last) else return some (s, [])
      | none => return some (s, [])

/-! ## 3. Names -/

namespace Machine

/-- The value of a name that every program knows. -/
def value (m : Machine) (name : String) : Value := (m.names.lookup name.toList).getD .nothing

/-- The format in which numbers become texts. -/
def format (m : Machine) : Text :=
  match m.value "CONVFMT" with
  | .text s | .input s => s
  | v => v.toText "%.6g".toList

/-- The text of a name that every program knows. -/
def textOf (m : Machine) (name : String) : Text := (m.value name).toText m.format

/-- Gives a name a value. -/
def bind (m : Machine) (name : Text) (v : Value) : Machine :=
  { m with names := (name, v) :: m.names.filter (·.1 != name) }

/-- Puts the record together from its fields, if they have changed. -/
def fresh (m : Machine) : Machine :=
  if m.stale then
    let text := Text.join (m.textOf "OFS") (m.fields.toList.map (·.toText m.format))
    { m with record := .input text, stale := false }
  else m

/-- Gives a record so many fields. -/
def resize (m : Machine) (n : Nat) : Machine :=
  let fields := m.fields.extract 0 n
  { m with fields := fields ++ Array.replicate (n - fields.size) Value.nothing, stale := true }

/-- The array of a number. -/
def table (m : Machine) (id : Nat) : Table := (m.arrays[id]?).getD Table.empty

/-- Puts an array in the place of the one of a number. -/
def setTable (m : Machine) (id : Nat) (t : Table) : Machine :=
  { m with arrays := m.arrays.setIfInBounds id t }

/-- Adds an array. -/
def addTable (m : Machine) : Nat × Machine :=
  (m.arrays.size, { m with arrays := m.arrays.push Table.empty })

end Machine

namespace Running

/-- Writes the pieces that are kept for files. -/
def flush : Running Unit := do
  let m ← get
  for o in m.outlets.reverse do
    if !o.isCommand && !o.pieces.isEmpty then
      discard (Work.writeFile o.name o.pieces.reverse.flatten true)
  set { m with outlets := m.outlets.map fun (o : Outlet) =>
    if o.isCommand then o else { o with pieces := [] } }

/-- Ends the report after a message. -/
def fail {α : Type} (message : Text) : Running α := do
  flush
  Work.fail 2 message

/-- Ends the report because something cannot be done with a record. -/
def fault {α : Type} (message : Text) : Running α := do
  let m ← get
  fail ("run time error: ".toList ++ message ++ "\n\tFILENAME=\"".toList ++ m.textOf "FILENAME"
    ++ "\" FNR=".toList ++ m.textOf "FNR" ++ " NR=".toList ++ m.textOf "NR")

/-- An expression from a text. -/
def regexOf (written : Text) : Running Regex := do
  match Scanner.regex written with
  | .ok r => return r
  | .error message => fault message

/-- Makes a text the record, and cuts it into fields. -/
def setRecord (s : Text) : Running Unit := do
  match Separator.ofText ((← get).textOf "FS") with
  | .ok sep =>
    modify fun m => { m with
      record := .input s, stale := false, fields := ((sep.cut s).map Value.input).toArray }
  | .error message => fault message

/-- The value of a field. -/
def field (i : Nat) : Running Value := do
  if i = 0 then
    modify Machine.fresh
    return (← get).record
  else return ((← get).fields[i - 1]?).getD .nothing

/-- Gives a field a value. -/
def setField (i : Nat) (v : Value) : Running Unit := do
  if i = 0 then setRecord (v.toText (← get).format)
  else
    let m ← get
    let m := if m.fields.size < i then m.resize i else m
    set { m with fields := m.fields.setIfInBounds (i - 1) v, stale := true }

/-- The number of an array. -/
def arrayId (name : Text) : Running Nat := do
  let m ← get
  let add : Running Nat := do
    let (id, m) := (← get).addTable
    set m
    return id
  match m.frame.lookup name with
  | some (.array id) => return id
  | some (.value _) =>
    let id ← add
    modify fun m => { m with frame := (name, .array id) :: m.frame.filter (·.1 != name) }
    return id
  | none =>
    match m.arrayIds.lookup name with
    | some id => return id
    | none =>
      let id ← add
      modify fun m => { m with arrayIds := (name, id) :: m.arrayIds }
      return id

/-- The value of a name. -/
def valueOf (name : Text) : Running Value := do
  let m ← get
  match m.frame.lookup name with
  | some (.value v) => return v
  | some (.array _) => return .nothing
  | none =>
    if name = "NF".toList then return .ofNat m.fields.size
    else return (m.names.lookup name).getD .nothing

/-- Gives a name a value. -/
def setValue (name : Text) (v : Value) : Running Unit := do
  let m ← get
  match m.frame.lookup name with
  | some _ => set { m with frame := (name, .value v) :: m.frame.filter (·.1 != name) }
  | none =>
    if name = "NF".toList then set (m.resize (Number.clamped v.toNumber).toNat)
    else if name = "OFS".toList then set (m.fresh.bind name v)
    else set (m.bind name v)

/-! ## 4. Starting commands -/

/-- How much of what a command writes is read. -/
def limit : Nat := 4194304

/-- Starts a command with other channels for some of its file numbers, and tells how it ended. -/
def start (invoke : Invoke) (command : Text) (fds : List (Nat × Nat)) : Work Stop := do
  let p ← get
  let (pid, sys) := (← getThe System).newPid
  let child : Process := { p with
    pid, parent := p.pid, held := [], name := "/bin/sh".toList
    fds := fds ++ p.fds.filter fun x => (fds.lookup x.1).isNone }
  let (result, sys) := (invoke child "/bin/sh".toList ["-c".toList, command]).run sys
  set { sys with alive := sys.alive.filter (· != pid) }
  match result with
  | .ok .starved => throw .starved
  | .ok stop => return stop
  | .error _ => return .exited 127

/-- The status that a command gives. -/
def statusOf : Stop → Nat
  | .exited n => n
  | .killed n => 256 + n
  | .starved => 0

/-- What a command writes, and its status. -/
def outputOf (invoke : Invoke) (command : Text) : Work Inlet := do
  let (channel, index, sys) := (← getThe System).collect (some limit)
  set sys
  let stop ← start invoke command [(1, channel)]
  let (text, _, sys) := (← getThe System).collected index
  set sys
  return ⟨none, text, statusOf stop⟩

/-- Gives a command its input. -/
def feed (invoke : Invoke) (command input : Text) : Work Stop := do
  let (channel, sys) := (← getThe System).addChannel (.source input false)
  set sys
  start invoke command [(0, channel)]

/-! ## 5. Writing -/

/-- Writes to a file or to a command. -/
def write (isCommand appends : Bool) (name text : Text) : Running Unit := do
  if !isCommand && (name = ['-'] || name = "/dev/stdout".toList) then Work.out text
  else if !isCommand && name = "/dev/stderr".toList then Work.errors text
  else
    let known := (← get).outlets.any fun (o : Outlet) => o.isCommand == isCommand && o.name == name
    if !known then
      if isCommand then
        flush
        Work.flush
      else
        match ← Work.writeFile name [] appends with
        | .ok () => pure ()
        | .error cause =>
          fail ("cannot open \"".toList ++ name ++ "\" for output (".toList ++ cause.wording ++ [')'])
      modify fun m => { m with outlets := ⟨isCommand, name, []⟩ :: m.outlets }
    modify fun m => { m with outlets := m.outlets.map fun (o : Outlet) =>
      if o.isCommand == isCommand && o.name == name then { o with pieces := text :: o.pieces } else o }

/-- Ends the writing to a file or a command, and tells the status. -/
def closeOutlet (invoke : Invoke) (o : Outlet) : Running Nat := do
  modify fun m => { m with
    outlets := m.outlets.filter fun (x : Outlet) => !(x.isCommand == o.isCommand && x.name == o.name) }
  if o.isCommand then return statusOf (← feed invoke o.name o.pieces.reverse.flatten)
  else
    discard (Work.writeFile o.name o.pieces.reverse.flatten true)
    return 0

/-- Ends all writing. -/
def closeAll (invoke : Invoke) : Running Unit := do
  flush
  for o in (← get).outlets.reverse do
    discard (closeOutlet invoke o)

/-! ## 6. Reading -/

/-- Opens a file to read it. -/
def openInlet (path : Text) : Running (Except SystemFault Inlet) := do
  let path := if path = "/dev/stdin".toList then ['-'] else path
  match ← Source.openPath path with
  | .error cause => return .error cause
  | .ok c =>
    match ← Source.ofChannel c with
    | .error .isDirectory => fail "read error (Is a directory)".toList
    | .error cause => return .error cause
    | .ok source =>
      -- the text is taken at once, as far as a block goes
      if !source.cut then source.take source.text.length
      return .ok ⟨some source, source.text, 0⟩

/-- Takes a record off what is read from. -/
def nextOf (i : Inlet) : Running (Option (Text × Inlet)) := do
  match takeRecord ((← get).textOf "RS") i.left with
  | .error message => fault message
  | .ok found =>
    let starved (left : Text) : Bool := match i.source with
      | some source => source.cut && left.isEmpty
      | none => false
    match found with
    | none =>
      if starved [] then
        match i.source with
        | some source => source.finish
        | none => pure ()
      return none
    | some (s, left) =>
      if starved left then
        match i.source with
        | some source => source.finish
        | none => pure ()
      return some (s, { i with left })

/-- The name and the value of an argument that is an assignment. -/
def assignment? (s : Text) : Option (Text × Text) :=
  let name := s.takeWhile fun c => c.isAlphanum || c == '_'
  match s.drop name.length with
  | '=' :: value =>
    match name with
    | c :: _ => if c.isDigit then none else some (name, Scanner.unescape (value.length + 1) value)
    | [] => none
  | _ => none

/-- Begins to read the next file among the arguments, or the input if there is none. -/
def openMain : (fuel : Nat) → Running Bool
  | 0 => return false
  | fuel + 1 => do
    let m ← get
    let count := (Number.clamped (m.value "ARGC").toNumber).toNat
    let begin (path : Text) (i : Inlet) : Running Unit :=
      modify fun m => ({ m with main := some i, opened := true }.bind "FILENAME".toList (.text path)).bind
        "FNR".toList (.ofNat 0)
    if count ≤ m.argument then
      if m.opened then return false
      else
        match ← openInlet ['-'] with
        | .ok i =>
          begin ['-'] i
          return true
        | .error _ => return false
    else
      set { m with argument := m.argument + 1 }
      let id ← arrayId "ARGV".toList
      let arg := (((← get).table id).get? (Text.ofNat m.argument)).getD .nothing
      let s := arg.toText m.format
      match assignment? s with
      | some (name, value) =>
        setValue name (.input value)
        openMain fuel
      | none =>
        if s.isEmpty then openMain fuel
        else
          match ← openInlet s with
          | .ok i =>
            begin s i
            return true
          | .error cause => fail ("cannot open \"".toList ++ s ++ "\" (".toList ++ cause.wording ++ [')'])

/-- Takes the next record of the files among the arguments. -/
def nextMain : (fuel : Nat) → Running (Option Text)
  | 0 => return none
  | fuel + 1 => do
    match (← get).main with
    | none => if ← openMain fuel then nextMain fuel else return none
    | some i =>
      match ← nextOf i with
      | none =>
        modify fun m => { m with main := none }
        nextMain fuel
      | some (s, i) =>
        modify fun m =>
          let m := { m with main := some i }
          let count (name : String) : Value := .number (Number.add (m.value name).toNumber (Number.ofNat 1))
          (m.bind "NR".toList (count "NR")).bind "FNR".toList (count "FNR")
        return some s

/-- How many files there may be to look at. -/
def patience : Nat := 100000

/-- Takes the next record of a file or of a command. -/
def nextNamed (invoke : Invoke) (isCommand : Bool) (name : Text) :
    Running (Except SystemFault (Option Text)) := do
  let key := (isCommand, name)
  let found : Except SystemFault Inlet ← match (← get).inlets.lookup key with
    | some i => pure (.ok i)
    | none => do
      if isCommand then
        flush
        Work.flush
        pure (.ok (← outputOf invoke name))
      else openInlet name
  match found with
  | .error cause => return .error cause
  | .ok i =>
    let keep (i : Inlet) : Running Unit :=
      modify fun m => { m with inlets := (key, i) :: m.inlets.filter (·.1 != key) }
    keep i
    match ← nextOf i with
    | none => return .ok none
    | some (s, i) =>
      keep i
      return .ok (some s)

/-- Ends the reading from or the writing to what has a name, and tells the status if there was any. -/
def close (invoke : Invoke) (name : Text) : Running (Option Nat) := do
  let m ← get
  let read := m.inlets.find? (·.1.2 == name)
  modify fun m => { m with inlets := m.inlets.filter (·.1.2 != name) }
  let mut status := read.map fun r => r.2.status
  for o in m.outlets.filter (·.name == name) do
    status := some (← closeOutlet invoke o)
  return status

end Running

end Manpage.Awk
