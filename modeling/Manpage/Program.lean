/-
# Programs of single steps

The work on one page touches what other work touches too: files, the help source, the output and
the log.  It is therefore a program of single steps.  A program is done, or it asks for one action
and goes on with the reply; what an action does to the world is said once, in `perform`.

Running a program alone (`run`) performs its actions one after another.  Since nothing happens
between the steps, several programs can be run step by step in any order by the same `perform`.
-/
import Manpage.Failure
import Manpage.Files.Change
import Manpage.Fragments
import Manpage.Log.Event

namespace Manpage

/-! ## 1. Actions -/

/-- One step of a program. -/
inductive Action
  /-- Asks for the help text of an applet. -/
  | askHelp (applet : Text)
  /-- Prints a line. -/
  | announce (line : Text)
  /-- Logs an event. -/
  | report (event : Event)
  /-- Reads a file as text. -/
  | readText (path : Text)
  /-- Looks for the further sections of an applet. -/
  | listIncludes (dir applet : Text)
  /-- Makes a directory with all those above it. -/
  | makeDirectories (dir : Text)
  /-- Makes an empty staged file in a directory, for a file of the name `tag`. -/
  | stage (dir tag : Text)
  /-- Writes the content of a staged file. -/
  | write (l : Location) (content : Bytes)
  /-- Sets the permission bits of a staged file. -/
  | setMode (l : Location) (mode : Nat)
  /-- Renames a staged file to its path. -/
  | publish (l : Location) (path : Text)
  /-- Removes a staged file. -/
  | discard (l : Location)
deriving DecidableEq, Repr

/-- What a program learns from an action. -/
def Action.Reply : Action → Type
  | .askHelp _ => Except Failure Text
  | .announce _ => Unit
  | .report _ => Unit
  | .readText _ => Except SystemFault Text
  | .listIncludes .. => List Text
  | .makeDirectories _ => Except SystemFault Unit
  | .stage .. => Except SystemFault Location
  | .write .. => Unit
  | .setMode .. => Unit
  | .publish .. => Except SystemFault Unit
  | .discard _ => Unit

/-! ## 2. The world -/

/-- What a help source answers: the help text or why there is none, what it logs, and the tree of
files that it leaves. -/
structure HelpReply where
  text : Except Failure Text
  events : List Event
  files : Files

/-- Where help texts come from. -/
abbrev HelpSource := (applet : Text) → Files → HelpReply

/-- The help source that only looks the text up and touches nothing. -/
def HelpSource.ofFunction (help : Text → Except Failure Text) : HelpSource :=
  fun applet files => ⟨help applet, [], files⟩

/-- What actions change: the files, the lines printed, and the events logged. -/
structure World where
  files : Files
  printed : List Text
  events : List Event

/-- What actions depend on and do not change: the working directory and the help source. -/
structure Site where
  cwd : Location
  source : HelpSource

/-- The world with other files. -/
def World.withFiles (w : World) (files : Files) : World := { w with files := files }

/-- Performs one action. -/
def perform (site : Site) : (a : Action) → World → a.Reply × World
  | .askHelp applet, w =>
    let reply := site.source applet w.files
    (reply.text, { w with files := reply.files, events := w.events ++ reply.events })
  | .announce line, w => ((), { w with printed := w.printed ++ [line] })
  | .report event, w => ((), { w with events := w.events ++ [event] })
  | .readText path, w => (w.files.readText site.cwd path, w)
  | .listIncludes dir applet, w => (Fragments.includePaths w.files site.cwd dir applet, w)
  | .makeDirectories dir, w =>
    let (result, files) := w.files.makeDirectories site.cwd dir
    (result, w.withFiles files)
  | .stage dir tag, w =>
    let (result, files) := w.files.stage site.cwd dir tag
    (result, w.withFiles files)
  | .write l content, w => ((), w.withFiles (w.files.write l content))
  | .setMode l mode, w => ((), w.withFiles (w.files.setMode l mode))
  | .publish l path, w =>
    let (result, files) := w.files.rename l site.cwd path
    (result, w.withFiles files)
  | .discard l, w => ((), w.withFiles (w.files.erase l))

/-! ## 3. Programs -/

/-- A program of single steps. -/
inductive Program (α : Type) : Type
  | done (result : α)
  | step (a : Action) (next : a.Reply → Program α)

namespace Program

/-- One program after another. -/
def bind {α β : Type} : Program α → (α → Program β) → Program β
  | .done a, f => f a
  | .step a next, f => .step a fun reply => (next reply).bind f

instance : Monad Program where
  pure := .done
  bind := bind

/-- The program of one action. -/
def ask (a : Action) : Program a.Reply := .step a .done

/-- Performs all steps of a program one after another. -/
def run {α : Type} (site : Site) : Program α → World → α × World
  | .done a, w => (a, w)
  | .step a next, w => (next (perform site a w).1).run site (perform site a w).2

@[simp] theorem run_pure {α : Type} (site : Site) (a : α) (w : World) :
    run site (pure a) w = (a, w) := rfl

@[simp] theorem run_bind {α β : Type} (site : Site) (f : α → Program β) :
    ∀ (p : Program α) (w : World),
      run site (p >>= f) w = run site (f (run site p w).1) (run site p w).2
  | .done _, _ => rfl
  | .step a next, w => run_bind site f (next (perform site a w).1) (perform site a w).2

@[simp] theorem run_ask (site : Site) (a : Action) (w : World) :
    run site (ask a) w = perform site a w := rfl

end Program

end Manpage
