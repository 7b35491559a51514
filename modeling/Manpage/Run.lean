/-
# A whole run

What the program does with its arguments, step by step: read and check the configuration, settle
the applets, find the tool, and make the pages.  Each step before the last is fatal when it fails,
and none of them prints or changes anything (`prepare`).  The pages are made by as many workers as the
settings say, in whatever order (`run`).  After the last step the exit status says whether every page
has been made, and a line on the error output names those that have not.
-/
import Manpage.Batch.Basic
import Manpage.Command.Discovery
import Manpage.Command.Tool
import Manpage.Settings.Basic
import Manpage.Settings.ConfigFile

namespace Manpage

/-- Why a run ends before any page is begun. -/
inductive Fatal
  /-- The configuration file cannot be read. -/
  | unreadableConfig (path : Text) (fault : SystemFault)
  /-- The configuration file is malformed. -/
  | malformedConfig (path : Text) (misread : Json.Misread)
  | badSettings (fault : SettingsFault)
  | noApplets (failure : DiscoveryFailure)
  | noTool (tool : Text)

/-- The message that reports why a run ends. -/
def Fatal.message : Fatal → Text
  | .unreadableConfig path fault => causedBy ("read config ".toList ++ path) fault.message
  | .malformedConfig path misread => causedBy ("parse config JSON ".toList ++ path) misread.message
  | .badSettings fault => fault.message
  | .noApplets failure => failure.message
  | .noTool tool =>
    causedBy ("locate tool ".toList ++ Text.quoted tool) "cannot find binary path".toList

/-- What a run depends on besides its arguments and the files. -/
structure Machine where
  cwd : Location
  /-- The path of the working directory. -/
  cwdPath : Text
  /-- The directories in which bare program names are looked for. -/
  searchPath : List Text
  launcher : Launcher
  /-- The current month, which dates the pages when nothing else does. -/
  month : Text
  /-- The number of workers when nothing else is asked for. -/
  processors : Nat := 1
  processors_pos : 0 < processors := by decide

/-- What a run leaves: its exit status, the lines it printed, the events it logged, its last words
on the error output, and the files. -/
structure RunReport where
  exitCode : Nat
  printed : List Text
  events : List Event
  lastWords : Option Text
  files : Files

namespace Run

/-! ## 1. The settings -/

/-- The choices in the configuration file at a path. -/
def loadConfig (files : Files) (cwd : Location) (path : Text) : Except Fatal Choices :=
  match files.readBytes cwd path with
  | .error fault => .error (.unreadableConfig path fault)
  | .ok bytes =>
    match ConfigFile.parse bytes with
    | .error misread => .error (.malformedConfig path misread)
    | .ok choices => .ok choices

/-- The choices of the configuration file that the arguments name. -/
def fileChoices (files : Files) (cwd : Location) (args : Arguments) : Except Fatal Choices :=
  match args.config with
  | none => .ok .none
  | some path => loadConfig files cwd path

/-- The settings from a configuration's choices and those of the command line. -/
def combine (line file : Choices) (split : Splitter := splitWords?) :
    Except SettingsFault Settings := do
  Settings.checkFile file split
  Settings.resolve line file split

/-- The settings of the run. -/
def settings (files : Files) (cwd : Location) (args : Arguments) : Except Fatal Settings := do
  let file ← fileChoices files cwd args
  (combine args.choices file).mapError .badSettings

/-! ## 2. The applets -/

/-- The applets of the run with the events logged on the way: those that the arguments name, or
those that the command lists. -/
def applets (machine : Machine) (args : Arguments) (settings : Settings) (files : Files) :
    Except Fatal (List Text × List Event) × Files :=
  if args.applets = [] then
    match discover machine.launcher settings.discovery files with
    | (.error failure, files) => (.error (.noApplets failure), files)
    | (.ok names, files) => (.ok (names, [discoveredEvent settings.discovery names]), files)
  else (.ok (Applet.normalize args.applets, []), files)

/-! ## 3. The report -/

/-- What begins every line on the error output. -/
def speaker : Text := "mkman: ".toList

/-- The report of a run that ends before any page is begun. -/
def fatalReport (fatal : Fatal) (events : List Event) (files : Files) : RunReport where
  exitCode := 2
  printed := []
  events := events
  lastWords := some (speaker ++ fatal.message)
  files := files

/-- How the summary names a failed applet. -/
def failedEntry (o : Outcome) : Text := o.applet ++ " (".toList ++ o.output ++ [')']

/-- The line that sums up which applets have failed. -/
def failureSummary (outcomes : List Outcome) : Text :=
  let failed := Batch.failures outcomes
  speaker ++ Text.ofNat failed.length ++ " of ".toList ++ Text.ofNat outcomes.length
    ++ " applets failed: ".toList ++ Text.join [',', ' '] (failed.map failedEntry)

/-- The report of a run that came to its pages. -/
def batchReport (outcomes : List Outcome) (w : World) : RunReport where
  exitCode := if Batch.succeeded outcomes then 0 else 1
  printed := w.printed
  events := w.events
  lastWords := if Batch.succeeded outcomes then none else some (failureSummary outcomes)
  files := w.files

/-! ## 4. The run -/

/-- The batch that settings ask for. -/
def batchOf (machine : Machine) (settings : Settings) (applets : List Text) : Batch where
  applets := applets
  includeDir := settings.includeDir
  outDir := settings.outDir
  date := settings.date.getD machine.month
  jobs := settings.jobs

/-- What the steps before the pages come to: where the work is done, what is to be made, and the
world as it is by then. -/
structure Job where
  site : Site
  batch : Batch
  world : World

/-- The steps before the pages, or the report of the one that has failed. -/
def prepare (machine : Machine) (args : Arguments) (files : Files) : Except RunReport Job :=
  match settings files machine.cwd args with
  | .error fatal => .error (fatalReport fatal [] files)
  | .ok settings =>
    match applets machine args settings files with
    | (.error fatal, files) => .error (fatalReport fatal [] files)
    | (.ok (names, events), files) =>
      let events := events ++ [.resolved names]
      match Tool.locate? files machine.cwd machine.cwdPath machine.searchPath settings.tool with
      | none => .error (fatalReport (.noTool settings.tool) events files)
      | some tool =>
        .ok
          { site := ⟨machine.cwd, Tool.helpSource machine.launcher tool⟩
            batch := batchOf machine settings names
            world := ⟨files, [], events⟩ }

/-- The run with given arguments.  The schedule says in which order the workers go on; the empty one
makes the pages one after another. -/
def run (machine : Machine) (args : Arguments) (files : Files) (schedule : List Tick := []) :
    RunReport :=
  match prepare machine args files with
  | .error report => report
  | .ok job =>
    let (outcomes, w) :=
      job.batch.runPooled job.site (job.batch.workers machine.processors) schedule job.world
    batchReport outcomes w

end Run

end Manpage
