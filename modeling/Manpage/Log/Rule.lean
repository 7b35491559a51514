/-
# Rules of a log filter

A rule says for which events it is, by the beginning of their target and the fields that they must
have, and up to which level it lets them through.  It is written

    target[span{field=value}]=level

where every part can be missing, and a target or a level can stand alone.  A rule that asks for a
span or for a value is for no event here, since nothing happens inside a span.

The parts are told apart in the text without the white space around it, and taken by the same
offsets from the text as it was given; so white space in front makes every part begin, and end
where another follows, that much earlier.
-/
import Manpage.Log.Event
import Manpage.Log.ValuePattern
import Manpage.Text.Alphanumeric
import Manpage.Text.Utf8

namespace Manpage

/-- A rule of a filter: the beginning of the targets it is for (none: of all), the fields that its
events have, and how much it lets through. -/
structure LogRule where
  target : Option Text
  fields : List Text
  rank : Nat
deriving DecidableEq, Repr

namespace LogRule

/-! ## 1. Which events a rule is for -/

/-- Whether a rule is for an event.  Every event has a message beside its own fields. -/
def concerns (rule : LogRule) (e : Event) : Bool :=
  (match rule.target with
    | none => true
    | some beginning => beginning.isPrefixOf e.target)
  && rule.fields.all fun field =>
    field = "message".toList || e.fields.any fun (name, _) => field = name

/-- The measure of a beginning: none is less than any. -/
def targetSize (rule : LogRule) : Nat :=
  match rule.target with
  | none => 0
  | some beginning => (Utf8.encode beginning).length + 1

/-- Whether a text comes before another in the order of characters, or is the same. -/
def upToText : Text → Text → Bool
  | [], _ => true
  | _ :: _, [] => false
  | a :: s, b :: t => if a = b then upToText s t else a.toNat < b.toNat

/-- Whether a rule yields to another: the one with the longer beginning goes first, then the one
with more fields, then the one whose beginning, and whose fields, come later in the order of
characters. -/
def yieldsTo (a b : LogRule) : Bool :=
  if a.targetSize ≠ b.targetSize then a.targetSize < b.targetSize
  else if a.fields.length ≠ b.fields.length then a.fields.length < b.fields.length
  else if a.target ≠ b.target then upToText (a.target.getD []) (b.target.getD [])
  else upToText (Text.join ['\x00'] a.fields) (Text.join ['\x00'] b.fields)

/-! ## 2. Levels -/

/-- A number without a sign, or with a plus in front. -/
def number? (s : Text) : Option Nat :=
  let digits := match s with
    | '+' :: rest => rest
    | s => s
  if digits ≠ [] ∧ digits.all Char.isDigit then
    some (digits.foldl (fun n c => n * 10 + (c.toNat - 48)) 0)
  else none

/-- A level by name, whatever its case, or by number; the empty name is that of errors. -/
def rankOfName? (name : Text) : Option Nat :=
  match number? name with
  | some n => if n ≤ 5 then some n else none
  | none =>
    let lower := name.map Char.toLower
    if lower = [] ∨ lower = "error".toList then some 1
    else if lower = "off".toList then some 0
    else if lower = "warn".toList then some 2
    else if lower = "info".toList then some 3
    else if lower = "debug".toList then some 4
    else if lower = "trace".toList then some 5
    else none

/-! ## 3. Reading a rule -/

/-- Whether a rule may begin with a character other than a bracket. -/
def beginsRule (c : Char) : Bool :=
  c == '-' || c == ':' || c == '_' || Text.isAlphanumeric c

/-- The part of a rule that has been reached, with the offset where it began. -/
inductive Stage
  | start
  | word (since : Nat)
  | span (since : Nat)
  | field (since : Nat)
  /-- Behind the fields, where the bracket must close. -/
  | fieldsDone
  /-- Behind the bracket, where only a level may follow. -/
  | spanDone
  | level (since : Nat)
deriving DecidableEq, Repr

/-- A rule as it is written. -/
structure Written where
  target : Option Text
  span : Option Text
  fields : List (Text × Option Text)
  rank : Nat
deriving DecidableEq, Repr

/-- The characters of a text between two offsets in bytes. -/
def slice (s : Text) (first last : Nat) : Text :=
  let rec go : Nat → Text → Text
    | _, [] => []
    | n, c :: rest =>
      let inside := go (n + c.utf8Size) rest
      if first ≤ n ∧ n < last then c :: inside else inside
  go 0 s

/-- A field of a rule: a name, and what its value must be. -/
def field? (s : Text) : Option (Text × Option Text) :=
  match Text.cutAt (· == '=') s with
  | name :: value :: _ => if ValuePattern.valid value then some (name, some value) else none
  | _ => if s = [] then none else some (s, none)

/-- Reads one character of a rule, at an offset; `raw` is the rule as it was given. -/
def step (raw : Text) (stage : Stage) (place : Nat) (c : Char) (rule : Written) :
    Option (Stage × Written) :=
  match stage with
  | .start =>
    if c = '[' then some (.span (place + 1), rule)
    else if beginsRule c then some (.word place, rule)
    else none
  | .word since =>
    if c = '=' then some (.level (place + 1), { rule with target := some (slice raw since place) })
    else if c = '[' then some (.span (place + 1), { rule with target := some (slice raw since place) })
    else some (stage, rule)
  | .span since =>
    if c = ']' then some (.spanDone, { rule with span := some (slice raw since place) })
    else if c = '\x7b' then
      let name := slice raw since place
      some (.field (place + 1), { rule with span := if name = [] then none else some name })
    else some (stage, rule)
  | .field since =>
    if c = '\x7d' then
      let text := slice raw since place
      if text = [] then none
      else (field? text).map fun f => (.fieldsDone, { rule with fields := rule.fields ++ [f] })
    else some (stage, rule)
  | .fieldsDone => if c = ']' then some (.spanDone, rule) else none
  | .spanDone => if c = '=' then some (.level (place + 1), rule) else none
  | .level _ => some (stage, rule)

/-- Reads the characters of a rule from an offset on. -/
def steps (raw : Text) : Stage → (place : Nat) → Text → Written → Option (Stage × Written)
  | stage, _, [], rule => some (stage, rule)
  | stage, n, c :: rest, rule =>
    match step raw stage n c rule with
    | none => none
    | some (stage, rule) => steps raw stage (n + c.utf8Size) rest rule

/-- Reads a rule.  A level alone is for all targets, and a target alone lets everything through. -/
def written? (raw : Text) : Option Written :=
  match steps raw .start 0 (Text.trim raw) ⟨none, none, [], 5⟩ with
  | none => none
  | some (stage, rule) =>
    let behind (since : Nat) : Text := slice raw since (Utf8.encode raw).length
    match stage with
    | .word since =>
      let word := behind since
      if word = [] then some rule
      else
        match rankOfName? word with
        | some rank => some { rule with rank }
        | none => some { rule with target := some word }
    | .level since =>
      let name := behind since
      if name = [] then some rule else (rankOfName? name).map fun rank => { rule with rank }
    | .spanDone => some rule
    | _ => none

/-- The rule for events that a written rule comes to; a span or a value of a field makes it one for
no event. -/
def ofWritten? (w : Written) : Option LogRule :=
  if w.span.isSome ∨ w.fields.any (fun f => f.2.isSome) then none
  else some ⟨w.target, w.fields.map Prod.fst, w.rank⟩

end LogRule

end Manpage
