/-
# The commands of the system

All commands that are native programs and not shells, by name.
-/
import Manpage.Awk.Command
import Manpage.Utility.Attributes
import Manpage.Utility.Blocks
import Manpage.Utility.Columns
import Manpage.Utility.Counting
import Manpage.Utility.Dates
import Manpage.Utility.Dumping
import Manpage.Utility.Editing
import Manpage.Utility.Ends
import Manpage.Utility.Expression
import Manpage.Utility.Finding
import Manpage.Utility.Listing
import Manpage.Utility.Making
import Manpage.Utility.Numbering
import Manpage.Utility.Pairing
import Manpage.Utility.Removing
import Manpage.Utility.Searching
import Manpage.Utility.Sorting
import Manpage.Utility.Speaking
import Manpage.Utility.Starting
import Manpage.Utility.Surroundings
import Manpage.Utility.Tabs
import Manpage.Utility.Test

namespace Manpage.Utility

/-- The commands that start nothing. -/
def plainCommands : List (Text × (List Text → Work Nat)) :=
  ([("[", Test.run .program true), ("arch", arch), ("base64", base64), ("basename", basename), ("cat", cat),
    ("chmod", chmod), ("cmp", cmp), ("comm", comm), ("cp", cp), ("cut", cut), ("date", date), ("dd", dd), ("dir", dir), ("dirname", dirname),
    ("echo", echo .program), ("egrep", egrep), ("expand", expand), ("expr", Expression.expr), ("false", beFalse), ("fgrep", fgrep), ("fold", fold),
    ("grep", grep), ("head", head), ("hostname", hostname), ("id", id), ("install", install), ("join", join),
    ("ln", ln), ("logname", logname), ("ls", ls), ("mkdir", mkdir), ("mktemp", mktemp), ("mv", mv),
    ("nl", nl), ("nproc", nproc), ("od", od), ("paste", paste), ("printenv", printenv), ("printf", printf),
    ("pwd", workingDirectory), ("readlink", readlink), ("realpath", realpath), ("rev", rev), ("rm", rm),
    ("rmdir", rmdir), ("sed", sed), ("seq", seq), ("sleep", sleep), ("sort", sort), ("stat", stat), ("tac", tac),
    ("tail", tail), ("tee", tee), ("test", Test.run .program false), ("touch", touch), ("tr", tr),
    ("true", succeed), ("truncate", truncate), ("tty", tty), ("uname", uname), ("unexpand", unexpand), ("uniq", uniq), ("unlink", unlink),
    ("wc", wc), ("which", which), ("whoami", whoami), ("yes", yes)] :
    List (String × (List Text → Work Nat))).map fun (name, command) => (name.toList, command)

/-- The commands that start others. -/
def startingCommands : List (Text × (Invoke → List Text → Work Nat)) :=
  ([("awk", Awk.awk), ("env", env), ("find", find), ("mawk", Awk.awk), ("nawk", Awk.awk), ("nice", nice), ("nohup", nohup), ("setsid", setsid), ("stdbuf", stdbuf),
    ("timeout", timeout), ("xargs", xargs)] :
    List (String × (Invoke → List Text → Work Nat))).map fun (name, command) => (name.toList, command)

/-- The names of the commands. -/
def commandNames : List Text := plainCommands.map Prod.fst ++ startingCommands.map Prod.fst

/-- What the command of a name does with its arguments. -/
def command? (invoke : Invoke) (name : Text) : Option (List Text → Work Nat) :=
  match plainCommands.lookup name with
  | some command => some command
  | none => (startingCommands.lookup name).map fun command => command invoke

end Manpage.Utility
