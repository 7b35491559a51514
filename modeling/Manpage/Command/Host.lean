/-
# The system that commands run on

The files that a system has before anything else is put there, and the launcher that starts
commands on it.  A native program is a file that begins with a mark and goes on with its name; the
programs are the shells and the small commands that scripts are made of.
-/
import Manpage.Command.Outcome
import Manpage.Shell.Start
import Manpage.Utility.Table

namespace Manpage.Command.Host

/-! ## 1. The files of the system -/

/-- The shells, by the names of their programs. -/
def shells : List (Text × Shell.Dialect) :=
  [("sh".toList, .small), ("dash".toList, .small), ("bash".toList, .large), ("rbash".toList, .large)]

/-- The names of the programs. -/
def programs : List Text := shells.map Prod.fst ++ Utility.commandNames

/-- The directories of the system. -/
def directories : List Location :=
  [["bin"], ["dev"], ["tmp"], ["usr"], ["usr", "bin"]].map (List.map String.toList)

/-- The directories that hold the programs. -/
def programDirectories : List Location := [["bin"], ["usr", "bin"]].map (List.map String.toList)

/-- The devices. -/
def devices : List Location :=
  [["dev", "full"], ["dev", "null"], ["dev", "stderr"], ["dev", "stdin"], ["dev", "stdout"],
   ["dev", "zero"]].map (List.map String.toList)

/-- The file of a program. -/
def programFile (name : Text) : Entry := .file 0o755 (Image.nativeMark ++ Utf8.encode name)

/-- The files of the system. -/
def files : Files :=
  let withDirs := directories.foldl (fun fs l => fs.put l .directory) Files.empty
  let withPrograms := programDirectories.foldl
    (fun fs dir => programs.foldl (fun fs name => fs.put (dir ++ [name]) (programFile name)) fs)
    withDirs
  devices.foldl (fun fs l => fs.put l (.file 0o666 [])) withPrograms

/-! ## 2. Programs -/

/-- Runs a native program in a process. -/
def runNative (invoke : Invoke) (name : Text) (p : Process) (args : List Text) :
    StateM System (Except SystemFault Stop) := do
  match shells.lookup name with
  | some dialect => return .ok (← Shell.start invoke dialect p args)
  | none =>
    match Utility.command? invoke name with
    | some command => return .ok (← Work.run p (command args))
    | none => return .error .badExecutable

/-- Runs the program in a file in a process; a script is run by its interpreter.  `depth` bounds how
deep programs may start each other. -/
def invoke : (depth : Nat) → Invoke
  | 0 => fun _ _ _ => return .error .busy
  | depth + 1 => fun p path args => do
    let sys ← get
    match Image.startable sys.files p.cwd path with
    | .error fault => return .error fault
    | .ok content =>
      match Image.ofContent content with
      | .native name => runNative (invoke depth) name p args
      | .script interpreter arg =>
        match Image.startable sys.files p.cwd interpreter with
        | .error fault => return .error fault
        | .ok _ => invoke depth { p with name := interpreter } interpreter (arg.toList ++ path :: args)
      | .unknown => return .error .badExecutable

/-- How deep programs may start each other. -/
def depthLimit : Nat := 2000

/-! ## 3. Starting commands -/

/-- What is started for a program: its path, if the system can start it. -/
def image (files : Files) (cwd : Location) (searchPath : List Text) (program : Text) :
    Except SystemFault Text := do
  let (path, content) ← Image.findProgram files cwd searchPath program
  match Image.ofContent content with
  | .native _ => return path
  | .script interpreter _ => do
    discard (Image.startable files cwd interpreter)
    return path
  | .unknown => .error .badExecutable

/-- A system with an empty input and two outputs that are collected. -/
def freshSystem (files : Files) : System where
  files := files
  channels := #[.null, .stream 0, .stream 1]
  streams := #[⟨[], none⟩, ⟨[], none⟩]
  lastPid := 1000
  pending := []
  alive := []

/-- The process in which a program is started. -/
def freshProcess (pid : Nat) (name : Text) (cwd : Location) (cwdPath : Text)
    (env : List (Text × Text)) : Process where
  name := name
  pid := pid
  parent := 1
  cwd := cwd
  cwdPath := cwdPath
  env := env
  fds := [(0, 0), (1, 1), (2, 2)]
  umask := 0o022
  ignored := []
  held := []

/-- The end of a process as the end of a command, with what has been collected. -/
def completed (stop : Stop) (sys : System) : Completed where
  status := match stop with
    | .killed signal => .killed signal
    | .exited status => .exited (status % 256)
    | .starved => .killed 9
  output := Text.toBytes ((sys.streams[0]?.map Stream.text).getD [])
  errors := Text.toBytes ((sys.streams[1]?.map Stream.text).getD [])

/-- Starts commands in a directory, with an empty input. -/
def launcher (cwd : Location) (cwdPath : Text) (searchPath : List Text) : Launcher :=
  fun files call =>
    if (call.program :: call.args).any (fun s => s.contains '\x00') then
      (.error .nulInArgument, files)
    else
      let name := Text.octets call.program
      let dirs := searchPath.map Text.octets
      match image files cwd dirs name with
      | .error fault => (.error fault, files)
      | .ok path =>
        let env := ("PATH".toList, Text.join [':'] dirs)
          :: call.bindings.map fun (n, v) => (Text.octets n, Text.octets v)
        let (pid, sys) := (freshSystem files).newPid
        let p := freshProcess pid name cwd (Text.octets cwdPath) env
        match (invoke depthLimit p path (call.args.map Text.octets)).run sys with
        | (.error fault, sys) => (.error fault, sys.files)
        | (.ok stop, sys) => (.ok (completed stop sys), sys.files)

end Manpage.Command.Host
