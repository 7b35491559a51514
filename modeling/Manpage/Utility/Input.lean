/-
# Reading the files of a command

Commands that go through text take the files that their arguments name, or their input, one after
another.  A file is read as far as it goes; a command that comes to the end of a text that was cut off
has to wait for more of it.
-/
import Manpage.Utility.Options

namespace Manpage.Utility

/-- A text that is being read: the channel it comes from, what there is of it, and whether there
would be more. -/
structure Source where
  channel : Nat
  text : Text
  cut : Bool

namespace Source

/-- Opens a file; a hyphen is the input. -/
def openPath (path : Text) : Work (Except SystemFault Nat) := do
  if path = ['-'] then
    match ← Work.channelOf? 0 with
    | some c => return .ok c
    | none => return .error .badDescriptor
  else Work.openFile path

/-- What there is to read of a channel. -/
def ofChannel (c : Nat) : Work (Except SystemFault Source) := do
  match (← getThe System).available c with
  | .error fault => return .error fault
  | .ok (text, cut) => return .ok ⟨c, text, cut⟩

/-- What there is to read of a channel for somebody who needs so many bytes: zeros never run out. -/
def ofChannelFor (c need : Nat) : Work (Except SystemFault Source) := do
  match (← getThe System).channel c with
  | .zeros | .full =>
    if need ≤ 67108864 then return .ok ⟨c, List.replicate need '\x00', true⟩ else ofChannel c
  | _ => ofChannel c

/-- Takes a number of bytes off a source.  A file is left exactly behind them; of what another command
writes a whole block is taken. -/
def take (s : Source) (n : Nat) : Work Unit := do
  let sys ← getThe System
  let n := match sys.channel s.channel with
    | .source .. => (n + 8191) / 8192 * 8192
    | _ => n
  set (sys.advance s.channel n)

/-- Takes all of a source; if it was cut off, what has been written so far is all that can be. -/
def finish (s : Source) : Work Unit := do
  if s.cut then
    Work.flush
    throw .starved
  set ((← getThe System).advance s.channel s.text.length)

end Source

/-- Lines with the line feeds that end them. -/
def cutLines : Text → List Text
  | [] => []
  | c :: rest =>
    if c = '\n' then ['\n'] :: cutLines rest
    else
      match cutLines rest with
      | [] => [[c]]
      | line :: more => (c :: line) :: more

/-- Records with the characters that end them. -/
def cutRecords (terminator : Char) (s : Text) : List Text :=
  if terminator = '\n' then cutLines s
  else
    let pieces := Text.cutAt (· == terminator) s
    let ended := pieces.dropLast.map (· ++ [terminator])
    match pieces.getLast? with
    | some [] | none => ended
    | some last => ended ++ [last]

theorem flatten_cutLines : ∀ s : Text, (cutLines s).flatten = s
  | [] => rfl
  | c :: rest => by
    have ih := flatten_cutLines rest
    unfold cutLines
    split
    · next h => simp [ih, h]
    · cases h : cutLines rest with
      | nil => simp [h] at ih; simp [ih]
      | cons line more => simp [h] at ih; simp [ih]

/-- A line without the line feed at its end. -/
def bare (line : Text) : Text := if line.getLast? = some '\n' then line.dropLast else line

/-- The lines of a text without their line feeds. -/
def bareLines (s : Text) : List Text := (cutLines s).map bare

/-- The fault of a file in a message. -/
def faultText (path : Text) (fault : SystemFault) : Text :=
  shownName path ++ ": ".toList ++ fault.wording

/-- Reads files one after another, and tells for each that cannot be read; gives the texts, and
whether all could be read. -/
def readAll (paths : List Text) (message : Text → SystemFault → Text) :
    Work (List (Text × Text) × Bool) := do
  let paths := if paths.isEmpty then [['-']] else paths
  let mut found : List (Text × Text) := []
  let mut fine := true
  for path in paths do
    match ← Work.readFile path with
    | .ok s => found := (path, s) :: found
    | .error fault =>
      Work.complain (message path fault)
      fine := false
  return (found.reverse, fine)

/-- Asks a question; the answer is the next line of the input, and without one it is no. -/
def ask (question : Text) : Work Bool := do
  Work.errors ((← get).name ++ ": ".toList ++ question)
  match ← Work.channelOf? 0 with
  | none => return false
  | some c =>
    match ← Source.ofChannel c with
    | .error _ => return false
    | .ok source =>
      let line := (cutLines source.text).headD []
      set ((← getThe System).advance c line.length)
      return line.head? == some 'y' || line.head? == some 'Y'

/-- A status. -/
def statusOf (fine : Bool) : Nat := if fine then 0 else 1

/-- A number in an argument, with a letter that multiplies it. -/
def countOf? (s : Text) : Option Nat :=
  let digits := s.takeWhile Char.isDigit
  let unit := s.drop digits.length
  let scale := List.lookup (String.ofList unit)
    [("", 1), ("b", 512), ("kB", 1000), ("KB", 1000), ("k", 1024), ("K", 1024), ("KiB", 1024), ("MB", 1000000),
     ("M", 1048576), ("m", 1048576), ("MiB", 1048576), ("GB", 1000000000), ("G", 1073741824),
     ("GiB", 1073741824), ("T", 1099511627776), ("TB", 1000000000000)]
  if digits.isEmpty then none
  else scale.map fun k => digits.foldl (fun n c => n * 10 + (c.toNat - 48)) 0 * k

/-- Fills a text with blanks at its beginning. -/
def alignRight (width : Nat) (s : Text) : Text := List.replicate (width - s.length) ' ' ++ s

/-- Fills a text with blanks at its end. -/
def alignLeft (width : Nat) (s : Text) : Text := s ++ List.replicate (width - s.length) ' '

end Manpage.Utility
