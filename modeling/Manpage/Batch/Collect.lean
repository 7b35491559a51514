/-
# Collecting fragments

Reads what has been written by hand for an applet.  A missing description is an empty one; any
other fault in reading the description or a further section fails the page.
-/
import Manpage.Program

namespace Manpage.Fragments

/-- A description as it was read; one that is missing is empty. -/
def descriptionOf : Except SystemFault Text → Except SystemFault Text
  | .ok text => .ok (ofDescription text)
  | .error .notFound => .ok []
  | .error fault => .error fault

/-- Reads further sections one after another. -/
def readIncludes (applet : Text) : List Text → Program (Except Failure (List Text))
  | [] => return .ok []
  | path :: rest => do
    match ← Program.ask (.readText path) with
    | .error fault => return .error (.unreadable path fault)
    | .ok text =>
      Program.ask (.report (.includeRead applet path))
      match ← readIncludes applet rest with
      | .error failure => return .error failure
      | .ok includes => return .ok (ofInclude text :: includes)

/-- Reads the fragments of an applet. -/
def load (dir applet : Text) : Program (Except Failure Fragments) := do
  match descriptionOf (← Program.ask (.readText (descriptionPath dir applet))) with
  | .error fault => return .error (.unreadable (descriptionPath dir applet) fault)
  | .ok description =>
    match ← readIncludes applet (← Program.ask (.listIncludes dir applet)) with
    | .error failure => return .error failure
    | .ok includes => return .ok ⟨description, includes⟩

end Manpage.Fragments
