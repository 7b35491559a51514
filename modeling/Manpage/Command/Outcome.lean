/-
# How a command ended

A command that could be started ends with an exit status or by a signal, and leaves what it wrote
to its two outputs.
-/
import Manpage.Files.Fault
import Manpage.Files.Basic
import Manpage.Text.Line

namespace Manpage

/-- How a command ended: with a status, or by a signal. -/
inductive ExitStatus
  | exited (code : Nat)
  | killed (signal : Nat)
deriving DecidableEq, Repr

namespace ExitStatus

/-- Only the status zero is success. -/
def isSuccess : ExitStatus → Bool
  | .exited 0 => true
  | _ => false

/-- The names of the signals, from number one on. -/
def signalNames : List Text :=
  ["SIGHUP", "SIGINT", "SIGQUIT", "SIGILL", "SIGTRAP", "SIGABRT", "SIGBUS", "SIGFPE", "SIGKILL",
   "SIGUSR1", "SIGSEGV", "SIGUSR2", "SIGPIPE", "SIGALRM", "SIGTERM", "SIGSTKFLT", "SIGCHLD",
   "SIGCONT", "SIGSTOP", "SIGTSTP", "SIGTTIN", "SIGTTOU", "SIGURG", "SIGXCPU", "SIGXFSZ",
   "SIGVTALRM", "SIGPROF", "SIGWINCH", "SIGIO", "SIGPWR", "SIGSYS"].map String.toList

/-- How a message shows the end of a command. -/
def wording : ExitStatus → Text
  | .exited code => "exit status: ".toList ++ Text.ofNat code
  | .killed signal =>
    "signal: ".toList ++ Text.ofNat signal
      ++ match signalNames[signal - 1]? with
         | some name => " (".toList ++ name ++ [')']
         | none => []

end ExitStatus

/-- What a command left: how it ended, and the bytes on its output and its error output. -/
structure Completed where
  status : ExitStatus
  output : Bytes
  errors : Bytes
deriving DecidableEq, Repr

/-- The first line of the error output, which says what went wrong, without white space around. -/
def Completed.complaint (c : Completed) : Text :=
  Text.trim (Text.firstLine (Utf8.decodeLossy c.errors))

/-- A command to be run: the program, its arguments, and variables for it in addition to those that
every command gets. -/
structure Call where
  program : Text
  args : List Text
  bindings : List (Text × Text)
deriving DecidableEq, Repr

/-- How commands are run: a command is started on a tree of files, or cannot be, and leaves a tree
of files. -/
abbrev Launcher := Files → Call → Except SystemFault Completed × Files

end Manpage
