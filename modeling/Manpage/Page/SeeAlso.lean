/-
# Cross references

A page refers to the page of every other known applet.
-/
import Manpage.Text.Ordered

namespace Manpage.SeeAlso

/-- The reference to the page of an applet. -/
def reference (name : Text) : Text := ".BR ".toList ++ name ++ " (1)".toList

/-- The applets that the page of `applet` refers to: each known one but itself, once, in order. -/
def others (applet : Text) (known : List Text) : List Text :=
  Text.ordered (known.filter (· ≠ applet))

/-- The references on the page of `applet`. -/
def references (applet : Text) (known : List Text) : List Text :=
  (others applet known).map reference

end Manpage.SeeAlso
