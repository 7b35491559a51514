/-
# The command line

The program as it is started.  It reads the tree below the working directory, makes the run on it,
puts what has changed back, and prints what the run printed and logged.  Commands are shell scripts
and are run by this library's own shell.  The pages are made one after another, which is one of the
orders that are left to the workers.
-/
import Manpage.Calendar
import Manpage.Command.Host
import Manpage.Log.Filter
import Manpage.Run

namespace Manpage.Main

/-- How the program is called. -/
def usage : String :=
  "Usage: mkman [OPTIONS] [APPLETS]...\n\n" ++
  "Options:\n" ++
  "      --tool <PATH>        Multi-call tool invoked as <tool> <applet> --help\n" ++
  "      --applets-cmd <CMD>  Command that prints the supported applets, one per line\n" ++
  "      --include-dir <DIR>  Directory of <applet>.desc and <applet>-*.include\n" ++
  "      --out-dir <DIR>      Directory the <applet>.1 pages are written to\n" ++
  "      --date <TEXT>        Date printed in the page header\n" ++
  "  -j, --jobs <N>           Number of worker threads\n" ++
  "      --config <PATH>      JSON config file\n" ++
  "  -v, --verbose...         Increase log verbosity\n" ++
  "  -h, --help               Print help\n" ++
  "  -V, --version            Print version"

/-- What is printed instead of a run. -/
def answerTo : ArgumentFault → String
  | .helpWanted => usage
  | .versionWanted => "mkman 0.1.0"
  | .unknownOption => "error: unexpected argument found\n\n" ++ usage
  | .missingValue => "error: a value is required for an option but none was supplied"
  | .badNumber => "error: invalid value for --jobs: not a number"
  | .repeatedOption => "error: an option cannot be used multiple times"
  | .unwantedValue => "error: unexpected value for an option that takes none"

/-- The bits of a file that is read from the disk: scripts may be started. -/
def modeOf (content : Bytes) : Nat :=
  if (Utf8.encode "#!".toList).isPrefixOf content then 0o755 else 0o644

/-- Puts what is in a directory into the tree. -/
def load (l : Location) : (depth : Nat) → Files → IO.FS.DirEntry → IO Files
  | 0, files, _ => return files
  | depth + 1, files, e => do
    let here := l ++ [e.fileName.toList]
    if ← e.path.isDir then
      let mut found := files.put here .directory
      for inner in ← e.path.readDir do
        found ← load here depth found inner
      return found
    else
      let content ← IO.FS.readBinFile e.path
      return files.put here (.file (modeOf content.toList) content.toList)

/-- Puts an entry of the tree on the disk if it was not there before. -/
def store (before : Files) (l : Location) (e : Entry) : IO Unit := do
  if before.get? l = some e then return
  let path := String.ofList ('/' :: Text.join ['/'] l)
  match e with
  | .directory => IO.FS.createDirAll path
  | .file _ content => IO.FS.writeBinFile path ⟨content.toArray⟩

/-- What the environment gives, if it is set. -/
def environment (name : String) : IO (Option Text) := do
  return (← IO.getEnv name).map String.toList

/-- The current month. -/
def currentMonth : IO Text :=
  IO.FS.withTempFile fun _ path => do
    return Calendar.monthOf (← path.metadata).modified.sec

/-- Runs the program with read arguments. -/
def runWith (args : Arguments) : IO UInt32 := do
  let here ← IO.currentDir
  let cwdPath := here.toString.toList
  let cwd := Path.names cwdPath
  let mut files := Command.Host.files
  for depth in List.range cwd.length do
    files := files.put (cwd.take (depth + 1)) .directory
  for e in ← here.readDir do
    files ← load cwd 64 files e
  let dirs := Text.cutAt (· == ':') ((← environment "PATH").getD "/usr/bin:/bin".toList)
  let machine : Machine :=
    { cwd := cwd
      cwdPath := cwdPath
      searchPath := dirs
      launcher := Command.Host.launcher cwd cwdPath dirs
      month := ← currentMonth
      processors_pos := Nat.one_pos }
  let report := Run.run machine args files
  for (l, e) in report.files.entries do
    if cwd.isPrefixOf l then store files l e
  for line in report.printed do
    IO.println (String.ofList line)
  let filter := LogFilter.inForce (← environment "RUST_LOG") args.verbosity
  for event in report.events.filter filter.allows do
    IO.eprintln (String.ofList event.render)
  match report.lastWords with
  | some words => IO.eprintln (String.ofList words)
  | none => pure ()
  return report.exitCode.toUInt32

end Manpage.Main

/-- Reads the arguments and runs the program, or answers why it does not. -/
def main (argv : List String) : IO UInt32 := do
  match Manpage.Arguments.parse (argv.map String.toList) with
  | .ok args => Manpage.Main.runWith args
  | .error fault =>
    if fault.exitCode = 0 then IO.println (Manpage.Main.answerTo fault)
    else IO.eprintln (Manpage.Main.answerTo fault)
    return fault.exitCode.toUInt32
