/-
# Why a page is not made

The causes for which the page of one applet fails, and the message for each: from the outermost
step inwards, separated by colons.
-/
import Manpage.Command.Outcome
import Manpage.Help.Malformed

namespace Manpage

/-- Why the page of an applet is not made. -/
inductive Failure
  /-- The help text departs from the format. -/
  | malformed (m : Malformed)
  /-- The source of help texts gives a reason of its own. -/
  | reported (message : Text)
  /-- The tool cannot be started. -/
  | notStarted (tool applet : Text) (fault : SystemFault)
  /-- The tool ended without success. -/
  | unsuccessful (tool applet : Text) (status : ExitStatus) (complaint : Text)
  /-- A fragment cannot be read. -/
  | unreadable (path : Text) (fault : SystemFault)
  /-- The path of the page leads to no file. -/
  | noParent (path : Text)
  /-- The directory of the page cannot be made. -/
  | noDirectory (dir : Text) (fault : SystemFault)
  /-- The page cannot be staged. -/
  | notStaged (dir : Text) (fault : SystemFault)
  /-- The staged page cannot be put in its place. -/
  | notPublished (path : Text) (fault : SystemFault)
deriving DecidableEq, Repr

/-- Two messages, the second being the cause of the first. -/
def causedBy (message cause : Text) : Text := message ++ [':', ' '] ++ cause

/-- How an applet is asked for its help text. -/
def helpCall (tool applet : Text) : Text := tool ++ ' ' :: applet ++ " --help".toList

/-- The message that reports a failure. -/
def Failure.message : Failure → Text
  | .malformed m => m.message
  | .reported message => message
  | .notStarted tool applet fault =>
    causedBy ("run ".toList ++ helpCall tool applet) fault.message
  | .unsuccessful tool applet status complaint =>
    let ended := helpCall tool applet ++ " failed: ".toList ++ status.wording
    if complaint = [] then ended else causedBy ended complaint
  | .unreadable path fault => causedBy ("read ".toList ++ path) fault.message
  | .noParent path => "output path ".toList ++ path ++ " has no parent".toList
  | .noDirectory dir fault => causedBy ("create ".toList ++ dir) fault.message
  | .notStaged dir fault => causedBy ("stage page in ".toList ++ dir) fault.message
  | .notPublished path fault => causedBy ("publish ".toList ++ path) fault.message

end Manpage
