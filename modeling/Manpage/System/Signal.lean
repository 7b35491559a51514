/-
# Signals

The signals that can end a command, by number and by name.
-/
import Manpage.Text.Basic

namespace Manpage.Signal

/-- The names of the signals, from number one on; one of them is called only by its number. -/
def names : List Text :=
  ["HUP", "INT", "QUIT", "ILL", "TRAP", "ABRT", "BUS", "FPE", "KILL", "USR1", "SEGV", "USR2",
   "PIPE", "ALRM", "TERM", "16", "CHLD", "CONT", "STOP", "TSTP", "TTIN", "TTOU", "URG", "XCPU",
   "XFSZ", "VTALRM", "PROF", "WINCH", "IO", "PWR", "SYS"].map String.toList

/-- The name of a signal. -/
def name? (n : Nat) : Option Text := if n = 0 then none else names[n - 1]?

/-- The signal of a name, whatever its case. -/
def ofName? (s : Text) : Option Nat :=
  (names.idxOf? (s.map Char.toUpper)).map (· + 1)

/-- What the end by a signal is called; two that are common are not told. -/
def description? (n : Nat) : Option Text :=
  if 34 ≤ n then some ("Real-time signal ".toList ++ Text.ofNat (n - 34))
  else ((["Hangup", "", "Quit", "Illegal instruction", "Trace/breakpoint trap", "Aborted", "Bus error",
    "Floating point exception", "Killed", "User defined signal 1", "Segmentation fault",
    "User defined signal 2", "", "Alarm clock", "Terminated", "Stack fault", "", "", "", "", "", "", "",
    "CPU time limit exceeded", "File size limit exceeded", "Virtual timer expired",
    "Profiling timer expired", "", "I/O possible", "Power failure", "Bad system call"][n - 1]?).map
      String.toList).filter (· != [])

/-- What a signal does when nothing else has been asked for. -/
inductive Effect
  | ends
  | nothing
deriving DecidableEq, Repr

/-- The greatest number of a signal. -/
def greatest : Nat := 64

/-- The effect of a signal: a few change nothing, and all others end what they are sent to. -/
def effect (n : Nat) : Effect :=
  if n = 0 ∨ n = 17 ∨ n = 18 ∨ n = 23 ∨ n = 28 then .nothing else .ends

/-- The number of the signal that a broken pipe sends. -/
def pipe : Nat := 13

/-- **A signal is found by its name.** -/
theorem ofName?_of_name? {n : Nat} {s : Text} (h : name? n = some s) : ofName? s = some n := by
  have hall : ∀ i < names.length, names[i]?.bind ofName? = some (i + 1) := by decide
  cases n with
  | zero => cases h
  | succ i =>
    have hi : names[i]? = some s := h
    obtain ⟨hlt, -⟩ := List.getElem?_eq_some_iff.mp hi
    have hfound := hall i hlt
    rwa [hi] at hfound

/-- The case of a name does not matter. -/
example : ofName? "kill".toList = some 9 := by decide

end Manpage.Signal
