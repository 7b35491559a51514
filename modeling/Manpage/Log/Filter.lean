/-
# Which events are written

A filter is a list of rules.  For an event the most particular rule that concerns it decides, the
last such rule if it is given twice, and it lets through what its level covers; without such a rule
the event is not written.

A filter is given as rules between commas.  One malformed rule spoils the whole filter.
-/
import Manpage.Log.Rule

namespace Manpage

/-- Which events are written. -/
abbrev LogFilter := List LogRule

namespace LogFilter

/-! ## 1. Deciding -/

/-- The rule for all targets that lets a number of levels through. -/
def upTo (rank : Nat) : LogFilter := [⟨none, [], rank⟩]

/-- The filter that a number of requests for more output stands for. -/
def ofVerbosity (verbosity : Nat) : LogFilter := upTo (min 5 (verbosity + 2))

/-- The more particular of two rules that concern an event, the later one when neither is. -/
def better (e : Event) (best : Option LogRule) (rule : LogRule) : Option LogRule :=
  if rule.concerns e then
    match best with
    | none => some rule
    | some b => if b.yieldsTo rule then some rule else some b
  else best

/-- Whether an event is written. -/
def allows (filter : LogFilter) (e : Event) : Bool :=
  match filter.foldl (better e) none with
  | none => false
  | some rule => e.level.rank ≤ rule.rank

/-! ## 2. Reading a filter -/

/-- The filter that a text gives, or none if a rule is malformed; without any rule errors alone are
written. -/
def parse? (s : Text) : Option LogFilter :=
  match ((Text.cutAt (· == ',') s).filter (· ≠ [])).mapM LogRule.written? with
  | none => none
  | some [] => some (upTo 1)
  | some rules => some (rules.filterMap LogRule.ofWritten?)

/-- The filter in force: the given one if it can be read, else by the requests for more output. -/
def inForce (given : Option Text) (verbosity : Nat) : LogFilter :=
  (given.bind parse?).getD (ofVerbosity verbosity)

end LogFilter

end Manpage
