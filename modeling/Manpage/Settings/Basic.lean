/-
# The settings of a run

Each setting comes from the command line, else from the configuration file, else from a default.
A configuration file must be valid by itself: a bad value in it is refused even where the command
line overrides it.

The rule by which a command is split into words is a parameter of the checks, `splitWords?` unless
another is given.
-/
import Manpage.Settings.Arguments
import Manpage.Settings.Words
import Manpage.Text.Quoted

namespace Manpage

/-- All settings of a run. -/
structure Settings where
  tool : Text
  /-- The words of the command that lists the applets. -/
  discovery : List Text
  includeDir : Text
  outDir : Text
  /-- The date of the pages; none stands for the current month. -/
  date : Option Text
  /-- The number of workers; none leaves it to the machine. -/
  jobs : Option Nat
deriving DecidableEq, Repr

/-- What is wrong with the choices of a user. -/
inductive SettingsFault
  /-- The configuration file asks for no workers. -/
  | noJobs
  /-- The choice in force asks for no workers. -/
  | noJobsInForce
  /-- The configuration file names a blank tool. -/
  | blankTool
  /-- A quote in the command that lists the applets is not closed. -/
  | openQuote (command : Text)
  /-- The command that lists the applets has no word. -/
  | emptyCommand
deriving DecidableEq, Repr

/-- The message that reports a fault in the choices. -/
def SettingsFault.message : SettingsFault → Text
  | .noJobs => "jobs must be at least 1".toList
  | .noJobsInForce => "--jobs must be at least 1".toList
  | .blankTool => "tool must be non-empty".toList
  | .openQuote command =>
    "parse applets command ".toList ++ Text.quoted command ++ ": missing closing quote".toList
  | .emptyCommand => "applets command must be non-empty".toList

namespace Settings

/-- The tool when none is chosen. -/
def defaultTool : Text := "q".toList

/-- The command that lists the applets when none is chosen. -/
def defaultCommand : Text := "./applets.sh".toList

/-- The directory of fragments when none is chosen. -/
def defaultIncludeDir : Text := "include".toList

/-- The directory of pages when none is chosen. -/
def defaultOutDir : Text := ".".toList

/-- The words of the command that lists the applets, at least one. -/
def commandWords (command : Text) (split : Splitter := splitWords?) :
    Except SettingsFault (List Text) :=
  match split command with
  | none => .error (.openQuote command)
  | some [] => .error .emptyCommand
  | some words => .ok words

/-- Checks the choices of a configuration file. -/
def checkFile (file : Choices) (split : Splitter := splitWords?) : Except SettingsFault Unit := do
  if file.jobs = some 0 then throw .noJobs
  if (file.tool.map Text.blank).getD false then throw .blankTool
  match file.appletsCommand with
  | none => return ()
  | some command => discard (commandWords command split)

/-- The settings of a run, from the command line first and the configuration file second. -/
def resolve (line file : Choices) (split : Splitter := splitWords?) :
    Except SettingsFault Settings := do
  let jobs := line.jobs <|> file.jobs
  if jobs = some 0 then throw .noJobsInForce
  let command := (line.appletsCommand <|> file.appletsCommand).getD defaultCommand
  let discovery ← commandWords command split
  return {
    tool := (line.tool <|> file.tool).getD defaultTool
    discovery := discovery
    includeDir := (line.includeDir <|> file.includeDir).getD defaultIncludeDir
    outDir := (line.outDir <|> file.outDir).getD defaultOutDir
    date := line.date <|> file.date
    jobs := jobs }

end Settings

end Manpage
