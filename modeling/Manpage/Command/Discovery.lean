/-
# Listing the applets with a command

When no applets are named, a command lists them, one on each line of its output.
-/
import Manpage.Applet
import Manpage.Command.Outcome
import Manpage.Log.Event

namespace Manpage

/-- Why a command lists no applets. -/
inductive DiscoveryFault
  | noCommand
  /-- The command cannot be started. -/
  | notStarted (fault : SystemFault)
  /-- The command ended without success. -/
  | unsuccessful (status : ExitStatus) (complaint : Text)
  | nothingListed
deriving DecidableEq, Repr

/-- The wording of why a command lists no applets. -/
def DiscoveryFault.wording : DiscoveryFault → Text
  | .noCommand => "empty command".toList
  | .notStarted fault => fault.message
  | .unsuccessful status complaint => Text.trimEnd (status.wording ++ ' ' :: complaint)
  | .nothingListed => "no applets listed".toList

/-- A command that lists no applets, and why. -/
structure DiscoveryFailure where
  command : List Text
  fault : DiscoveryFault
deriving DecidableEq, Repr

/-- The words of a command on one line. -/
def commandLine (command : List Text) : Text := Text.join [' '] command

/-- The message that reports a command that lists no applets. -/
def DiscoveryFailure.message (f : DiscoveryFailure) : Text :=
  "applet discovery via \x60".toList ++ commandLine f.command ++ "\x60 failed: ".toList
    ++ f.fault.wording

/-- The applets that a completed command lists. -/
def listedBy (completed : Completed) : Except DiscoveryFault (List Text) :=
  if completed.status.isSuccess then
    match Applet.ofListing (Utf8.decodeLossy completed.output) with
    | [] => .error .nothingListed
    | applets => .ok applets
  else .error (.unsuccessful completed.status completed.complaint)

/-- Runs a command and takes the applets that it lists. -/
def discover (launcher : Launcher) (command : List Text) (files : Files) :
    Except DiscoveryFailure (List Text) × Files :=
  match command with
  | [] => (.error ⟨command, .noCommand⟩, files)
  | program :: args =>
    match launcher files ⟨program, args, []⟩ with
    | (.error fault, files) => (.error ⟨command, .notStarted fault⟩, files)
    | (.ok completed, files) =>
      match listedBy completed with
      | .ok applets => (.ok applets, files)
      | .error fault => (.error ⟨command, fault⟩, files)

/-- The event that reports the applets listed by a command. -/
def discoveredEvent (command : List Text) (applets : List Text) : Event :=
  .discovered applets.length (commandLine command)

end Manpage
