/-
# Writing a page

A page comes into its place whole or not at all.  Its directory is made if it is missing; then the
page is written to a staged file in that directory, made readable for everyone, and renamed.  If
the last step is refused, the staged file is removed.
-/
import Manpage.Program

namespace Manpage

/-- The permission bits of a page: everyone may read it, the owner may write it. -/
def pageMode : Nat := 0o644

/-- The directory of a path as it is written; the working directory is a dot. -/
def directoryOf? (path : Text) : Option Text :=
  (Path.parent? path).map fun parent => if parent = [] then ['.'] else parent

/-- Writes a page to a path. -/
def writePage (path text : Text) : Program (Except Failure Unit) := do
  match directoryOf? path with
  | none => return .error (.noParent path)
  | some dir =>
    match ← Program.ask (.makeDirectories dir) with
    | .error fault => return .error (.noDirectory dir fault)
    | .ok () =>
      match ← Program.ask (.stage dir ((Path.fileName? path).getD [])) with
      | .error fault => return .error (.notStaged dir fault)
      | .ok staged =>
        Program.ask (.write staged (Utf8.encode text))
        Program.ask (.setMode staged pageMode)
        match ← Program.ask (.publish staged path) with
        | .ok () => return .ok ()
        | .error fault =>
          Program.ask (.discard staged)
          return .error (.notPublished path fault)

end Manpage
