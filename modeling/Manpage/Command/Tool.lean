/-
# The tool whose applets are documented

The tool is looked for once, and is then asked for the help text of one applet after another, with
coloured output turned off.
-/
import Manpage.Command.Outcome
import Manpage.Program

namespace Manpage.Tool

/-! ## 1. Finding the tool -/

/-- Whether a path leads to a file that may be run. -/
def isExecutable (files : Files) (cwd : Location) (path : Text) : Bool :=
  match files.stat cwd path with
  | .ok (.file mode _) => mode &&& 0o111 != 0
  | _ => false

/-- Whether a path has more than one step; the root and a leading dot count as steps. -/
def hasSeparator (path : Text) : Bool :=
  let steps := (Path.names path).length
  if Path.isAbsolute path then 0 < steps
  else if (Path.pieces path).head? = some ['.'] then 0 < steps
  else 1 < steps

/-- The path of the tool: a path of several steps is taken from the working directory, whose path is
`cwdPath`, and a bare name is looked for in the directories of the search path. -/
def locate? (files : Files) (cwd : Location) (cwdPath : Text) (searchPath : List Text)
    (tool : Text) : Option Text :=
  let candidates :=
    if hasSeparator tool then [Path.join cwdPath tool]
    else searchPath.map fun dir => Path.join dir tool
  candidates.find? (isExecutable files cwd)

/-! ## 2. Asking the tool -/

/-- The variables that turn coloured output off. -/
def plainOutput : List (Text × Text) := [("NOCOLOR".toList, "1".toList)]

/-- The help text that a completed tool gave, and what is logged about it. -/
def helpOf (tool applet : Text) (completed : Completed) : Except Failure Text × List Event :=
  if completed.status.isSuccess then
    let errors := Text.trim (Utf8.decodeLossy completed.errors)
    (.ok (Utf8.decodeLossy completed.output), if errors = [] then [] else [.complaint applet errors])
  else (.error (.unsuccessful tool applet completed.status completed.complaint), [])

/-- The tool as a source of help texts. -/
def helpSource (launcher : Launcher) (tool : Text) : HelpSource := fun applet files =>
  match launcher files ⟨tool, [applet, "--help".toList], plainOutput⟩ with
  | (.error fault, files) => ⟨.error (.notStarted tool applet fault), [], files⟩
  | (.ok completed, files) =>
    let (text, events) := helpOf tool applet completed
    ⟨text, events, files⟩

end Manpage.Tool
