/-
# Channels

What commands read from and write to.  A system holds the tree of files, the channels that have been
opened on them and on other commands, and what has been collected from commands.  Commands that run
side by side are run one after the other here: what one writes to the next is collected first.

A command may write without end, so what a command writes to the next has a limit.  A reader that
comes to the end of a text that was cut off at its limit cannot go on; the text has then to be
collected again with a greater limit.
-/
import Manpage.Files.Change
import Manpage.Text.Octets

namespace Manpage

/-- What may be done with an opened file. -/
structure Access where
  reads : Bool
  writes : Bool
  /-- Whether what is written goes to the end, wherever that is. -/
  appends : Bool
deriving DecidableEq, Repr

namespace Access

/-- For reading. -/
def input : Access := ⟨true, false, false⟩

/-- For writing. -/
def output : Access := ⟨false, true, false⟩

/-- For writing at the end. -/
def append : Access := ⟨false, true, true⟩

/-- For both. -/
def update : Access := ⟨true, true, false⟩

end Access

/-- What a command reads from or writes to. -/
inductive Channel
  /-- Collects what is written. -/
  | stream (index : Nat)
  /-- Gives a text; `cut` says that there would have been more of it. -/
  | source (rest : Text) (cut : Bool)
  /-- A file, from an offset on. -/
  | file (l : Location) (offset : Nat) (access : Access)
  /-- A directory, which can be opened but not read. -/
  | directory (l : Location)
  /-- Gives nothing and swallows everything. -/
  | null
  /-- Gives zeros without end. -/
  | zeros
  /-- Gives zeros and has no room for anything. -/
  | full
  /-- Has been closed for everybody. -/
  | closed
deriving DecidableEq, Repr

/-- What is collected: the pieces, the last one first, and how many characters more there is room
for, if that is limited. -/
structure Stream where
  pieces : List Text
  room : Option Nat
deriving Repr

namespace Stream

/-- The text that has been collected. -/
def text (s : Stream) : Text := s.pieces.reverse.flatten

/-- Whether the limit has been reached. -/
def isFull (s : Stream) : Bool := s.room == some 0

/-- Adds a piece, as much of it as there is room for; tells whether all of it was. -/
def add (s : Stream) (piece : Text) : Stream × Bool :=
  match s.room with
  | none => (⟨piece :: s.pieces, none⟩, true)
  | some n =>
    let taken := piece.take n
    let size := taken.length
    (⟨taken :: s.pieces, some (n - size)⟩, size == piece.length)

end Stream

/-- The files, the channels, what has been collected, and the signals that have been sent to commands
and have not reached them yet. -/
structure System where
  files : Files
  channels : Array Channel
  streams : Array Stream
  lastPid : Nat
  /-- The receiver and the number of each signal. -/
  pending : List (Nat × Nat)
  /-- The commands that are running or have not been waited for. -/
  alive : List Nat

namespace System

/-! ## 1. Opening -/

/-- Adds a channel. -/
def addChannel (sys : System) (c : Channel) : Nat × System :=
  (sys.channels.size, { sys with channels := sys.channels.push c })

/-- Adds a channel that collects up to a limit, and gives the numbers of the channel and of the
stream. -/
def collect (sys : System) (limit : Option Nat) : Nat × Nat × System :=
  let index := sys.streams.size
  let sys := { sys with streams := sys.streams.push ⟨[], limit⟩ }
  let (channel, sys) := sys.addChannel (.stream index)
  (channel, index, sys)

/-- What has been collected in a stream, and whether it was cut off; the stream is emptied. -/
def collected (sys : System) (index : Nat) : Text × Bool × System :=
  match sys.streams[index]? with
  | none => ([], false, sys)
  | some s =>
    (s.text, s.isFull, { sys with streams := sys.streams.setIfInBounds index ⟨[], s.room⟩ })

/-- The channel of a number. -/
def channel (sys : System) (c : Nat) : Channel := sys.channels[c]?.getD .closed

/-- The device of a location, if there is one; chance gives nothing but zeros here. -/
def device? (l : Location) : Option Channel :=
  match l with
  | [dev, name] =>
    if dev ≠ "dev".toList then none
    else if name = "null".toList then some .null
    else if (["zero", "random", "urandom"].map String.toList).contains name then some .zeros
    else if name = "full".toList then some .full
    else none
  | _ => none

/-- Opens the file at a location to read it. -/
def openToRead (sys : System) (l : Location) : Except SystemFault Channel :=
  match device? l, sys.files.get? l with
  | some c, _ => .ok c
  | none, none => .error .notFound
  | none, some .directory => .ok (.directory l)
  | none, some (.file ..) => .ok (.file l 0 .input)

/-- Opens a file to write to it, with permission bits for a new one: `fresh` empties one that is
there, and `unique` refuses it. -/
def openToWrite (sys : System) (cwd : Location) (path : Text) (access : Access) (mode : Nat)
    (fresh unique : Bool) : Except SystemFault (Channel × System) := do
  match ← sys.files.place cwd path with
  | .noName => .error .isDirectory
  | .entry dir name slashes =>
    let l := dir ++ [name]
    match device? l, sys.files.get? l with
    | some c, _ => .ok (c, sys)
    | none, some .directory => .error .isDirectory
    | none, some (.file bits content) =>
      if slashes then .error .notDirectory
      else if unique then .error .exists
      else
        let sys := if fresh && !content.isEmpty then
            { sys with files := sys.files.put l (.file bits []) } else sys
        .ok (.file l 0 access, sys)
    | none, none =>
      if slashes then .error .isDirectory
      else .ok (.file l 0 access, { sys with files := sys.files.put l (.file mode []) })

/-! ## 2. Reading -/

/-- The bytes of the file at a location from an offset on. -/
def bytesFrom (sys : System) (l : Location) (offset : Nat) : Bytes :=
  match sys.files.get? l with
  | some (.file _ content) => content.drop offset
  | _ => []

/-- What there is to read, and whether there would be more. -/
def available (sys : System) (c : Nat) : Except SystemFault (Text × Bool) :=
  match sys.channel c with
  | .source rest cut => .ok (rest, cut)
  | .file l offset access =>
    if access.reads then .ok (Text.ofBytes (sys.bytesFrom l offset), false)
    else .error .badDescriptor
  | .directory _ => .error .isDirectory
  | .null => .ok ([], false)
  | .zeros | .full => .ok (List.replicate 1048576 '\x00', true)
  | .stream _ | .closed => .error .badDescriptor

/-- Takes a number of bytes off a channel. -/
def advance (sys : System) (c n : Nat) : System :=
  match sys.channel c with
  | .source rest cut =>
    { sys with channels := sys.channels.setIfInBounds c (.source (rest.drop n) cut) }
  | .file l offset access =>
    { sys with channels := sys.channels.setIfInBounds c (.file l (offset + n) access) }
  | _ => sys

/-- The text up to the next line feed, and whether there is one: without the line feed, and with what
is needed to take both. -/
def nextLine (sys : System) (c : Nat) : Except SystemFault (Text × Bool × Bool) :=
  match sys.channel c with
  | .file l offset access =>
    if access.reads then
      let bytes := sys.bytesFrom l offset
      let line := bytes.takeWhile (· != 10)
      .ok (Text.ofBytes line, line.length < bytes.length, false)
    else .error .badDescriptor
  | .source rest cut =>
    let line := rest.takeWhile (· != '\n')
    .ok (line, line.length < rest.length, cut)
  | _ =>
    match sys.available c with
    | .error fault => .error fault
    | .ok (rest, cut) =>
      let line := rest.takeWhile (· != '\n')
      .ok (line, line.length < rest.length, cut)

/-! ## 3. Writing -/

/-- The bytes of a file after some have been written over it at an offset; a gap is filled with
zeros. -/
def overwritten (content : Bytes) (offset : Nat) (written : Bytes) : Bytes :=
  if content.length = offset then content ++ written
  else if content.length < offset then
    content ++ List.replicate (offset - content.length) 0 ++ written
  else content.take offset ++ written ++ content.drop (offset + written.length)

/-- Writes to a channel; what does not fit is a broken pipe. -/
def write (sys : System) (c : Nat) (s : Text) : Except SystemFault Unit × System :=
  match sys.channel c with
  | .stream index =>
    match sys.streams[index]? with
    | none => (.error .badDescriptor, sys)
    | some stream =>
      let (stream, all) := stream.add s
      let sys := { sys with streams := sys.streams.setIfInBounds index stream }
      (if all then .ok () else .error .brokenPipe, sys)
  | .file l offset access =>
    if access.writes then
      match sys.files.get? l with
      | some (.file mode content) =>
        let place := if access.appends then content.length else offset
        let content := overwritten content place (Text.toBytes s)
        (.ok (), { sys with
          files := sys.files.put l (.file mode content)
          channels := sys.channels.setIfInBounds c (.file l (place + s.length) access) })
      | _ => (.ok (), sys)
    else (.error .badDescriptor, sys)
  | .null | .zeros => (.ok (), sys)
  | .full => (.error .noSpace, sys)
  | .source .. | .directory _ | .closed => (.error .badDescriptor, sys)

/-! ## 4. Files that go away while they are open -/

/-- Keeps what is left to read of the files at and below a location, which are about to go away. -/
def detach (sys : System) (l : Location) : System :=
  { sys with channels := sys.channels.map fun
      | .file m offset access =>
        if l.isPrefixOf m then
          if access.reads then .source (Text.ofBytes (sys.bytesFrom m offset)) false else .null
        else .file m offset access
      | c => c }

/-- Makes the channels of the files at and below a location follow them to another. -/
def follow (sys : System) (l l' : Location) : System :=
  { sys with channels := sys.channels.map fun
      | .file m offset access =>
        if l.isPrefixOf m then .file (l' ++ m.drop l.length) offset access
        else .file m offset access
      | c => c }

/-- Removes what is at and below a location. -/
def remove (sys : System) (l : Location) : System :=
  let sys := sys.detach l
  { sys with files := sys.files.eraseBelow l }

/-- Moves what is at and below a location to another, in place of what is there. -/
def move (sys : System) (l l' : Location) : System :=
  if l = l' then sys
  else
    let sys := (sys.detach l').follow l l'
    let moved := sys.files.entries.filter fun x => l.isPrefixOf x.1
    let files := (sys.files.eraseBelow l').eraseBelow l
    { sys with files := moved.foldl (fun fs x => fs.put (l' ++ x.1.drop l.length) x.2) files }

/-! ## 5. Processes -/

/-- A new process number. -/
def newPid (sys : System) : Nat × System :=
  let pid := sys.lastPid + 1
  (pid, { sys with lastPid := pid, alive := pid :: sys.alive })

/-- The signals that have been sent to a process, which are then no longer pending. -/
def takeSignals (sys : System) (pid : Nat) : List Nat × System :=
  if sys.pending.isEmpty then ([], sys)
  else
    let mine := sys.pending.filter (·.1 == pid)
    (mine.reverse.map Prod.snd, { sys with pending := sys.pending.filter (·.1 != pid) })

end System

end Manpage
