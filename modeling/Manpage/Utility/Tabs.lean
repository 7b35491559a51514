/-
# Tabs and blanks

Where the tab stops of a line are, and lines with blanks in the place of tabs, or with tabs in the place
of blanks.
-/
import Manpage.Utility.Decimal
import Manpage.Utility.Input

namespace Manpage.Utility

/-! ## 1. Tab stops -/

/-- What comes behind the last tab stop of a list. -/
inductive FurtherStops
  /-- Nothing: a tab is a blank there. -/
  | absent
  /-- A stop at each multiple of a number. -/
  | multiples (n : Nat)
  /-- Stops in equal distances from the last one of the list. -/
  | distances (n : Nat)
deriving DecidableEq, Repr

/-- Tab stops: those of a list, and those behind it. -/
structure TabStops where
  listed : List Nat
  further : FurtherStops
deriving DecidableEq, Repr

namespace TabStops

/-- The first stop behind a column; behind the last of a list there may be none. -/
def next? (t : TabStops) (column : Nat) : Option Nat :=
  match t.listed.find? (fun stop => decide (column < stop)), t.further with
  | some stop, _ => some stop
  | none, .absent => none
  | none, .multiples n => some ((column / (max n 1) + 1) * max n 1)
  | none, .distances n =>
    let last := t.listed.getLastD 0
    some (last + ((column - last) / (max n 1) + 1) * max n 1)

theorem lt_mul_of_div (a n : Nat) (h : 0 < n) : a < (a / n + 1) * n := by
  have := Nat.lt_succ_iff.mpr (Nat.le_refl (a / n))
  exact (Nat.div_lt_iff_lt_mul h).mp this

/-- A tab goes forward. -/
theorem lt_next {t : TabStops} {column stop : Nat} (h : t.next? column = some stop) : column < stop := by
  unfold next? at h
  split at h
  · next found =>
    have := List.find?_some found
    simp only [Option.some.injEq] at h
    simpa [h] using this
  · simp at h
  · simp only [Option.some.injEq] at h
    rw [← h]
    exact lt_mul_of_div _ _ (by omega)
  · next n _ _ =>
    simp only [Option.some.injEq] at h
    have := lt_mul_of_div (column - t.listed.getLastD 0) (max n 1) (by omega)
    omega

/-- Reads the numbers of a list of tab stops; a slash or a plus sign before the last one says that the
stops go on. -/
def readList : (fuel : Nat) → (sign : Option Char) → Text → Except Text (List (Option Char × Nat))
  | 0, _, _ => .ok []
  | _ + 1, _, [] => .ok []
  | fuel + 1, sign, c :: rest =>
    if c = ',' ∨ c = ' ' ∨ c = '\t' then readList fuel sign rest
    else if c = '/' ∨ c = '+' then readList fuel (some c) rest
    else if c.isDigit then do
      let digits := (c :: rest).takeWhile Char.isDigit
      let more ← readList fuel none ((c :: rest).drop digits.length)
      return (sign, ofDigits 10 digits) :: more
    else .error ("tab size contains invalid character(s): ".toList ++ quotedWord (c :: rest))

/-- The stops that numbers stand for: one alone is a distance. -/
def ofNumbers (numbers : List (Option Char × Nat)) : Except Text TabStops :=
  let listed := numbers.filterMap fun (sign, n) => if sign.isNone then some n else none
  let ascending := (listed.zip (listed.drop 1)).all fun (a, b) => decide (a < b)
  let further := numbers.findSome? fun (sign, n) => match sign with
    | some '/' => some (FurtherStops.multiples n)
    | some _ => some (.distances n)
    | none => none
  if listed.contains 0 then .error "tab size cannot be 0".toList
  else if !ascending then .error "tab sizes must be ascending".toList
  else match listed, further with
    | [], none => .ok ⟨[], .multiples 8⟩
    | [n], none => .ok ⟨[], .multiples n⟩
    | listed, further => .ok ⟨listed, further.getD .absent⟩

/-- The stops that the values of options stand for. -/
def ofValues (values : List Text) : Except Text TabStops := do
  let numbers ← values.mapM fun (s : Text) => readList (s.length + 1) none s
  ofNumbers numbers.flatten

end TabStops

/-- Whether a character is a blank. -/
def isBlank (c : Char) : Bool := c == ' ' || c == '\t'

/-- The tab stops of the options of a command. -/
def tabStops (a : Arguments) : Work TabStops := do
  match TabStops.ofValues (a.values "t") with
  | .ok stops => return stops
  | .error message => Work.fail 1 message

/-- Options that are tab stops alone. -/
def withoutBareStops (args : List Text) : List Text :=
  args.map fun arg =>
    match arg with
    | '-' :: c :: _ => if c.isDigit || c == ',' then "-t".toList ++ arg.drop 1 else arg
    | _ => arg

/-! ## 2. Blanks in the place of tabs -/

/-- A line with blanks in the place of its tabs: of all, or of those before its first other character. -/
def withoutTabs (stops : TabStops) (initialOnly : Bool) (line : Text) : Text :=
  let rec go : Text → (column : Nat) → (leading : Bool) → Text
    | [], _, _ => []
    | c :: rest, column, leading =>
      if initialOnly = true ∧ leading = false then c :: rest
      else if c = '\t' then
        let stop := (stops.next? column).getD (column + 1)
        List.replicate (stop - column) ' ' ++ go rest stop leading
      else if c = '\x08' then c :: go rest (column - 1) false
      else c :: go rest (column + 1) (leading && isBlank c)
  go line 0 true

/-- `expand`: turns tabs into blanks. -/
def expand (args : List Text) : Work Nat := do
  let a ← arguments "i:initial t:tabs=" (withoutBareStops args) 1 false
  let stops ← tabStops a
  let (found, fine) ← readAll a.operands faultText
  for (_, s) in found do
    for line in cutLines s do
      Work.out (withoutTabs stops (a.has "i") line)
  return statusOf fine

/-! ## 3. Tabs in the place of blanks -/

/-- How far a line has come: the column, the blanks that may still become a tab, whether they begin with
one that stands alone before a stop, and whether the character before was a blank. -/
structure Gathering where
  column : Nat
  waiting : Text
  lonely : Bool
  afterBlank : Bool

/-- The blanks that have been waiting, as they are written. -/
def Gathering.written (g : Gathering) : Text :=
  if g.lonely && 1 < g.waiting.length then '\t' :: g.waiting.drop 1 else g.waiting

/-- A line with tabs in the place of its blanks: of all, or of those before its first other character. -/
def withTabs (stops : TabStops) (initialOnly : Bool) : Text → Gathering → Text
  | [], g => g.written
  | c :: rest, g =>
    if isBlank c then
      match stops.next? g.column with
      | none => g.written ++ c :: rest
      | some stop =>
        let kept : Text := if g.lonely then ['\t'] else []
        let reached : Gathering := ⟨stop, [], false, true⟩
        if c = '\t' then kept ++ '\t' :: withTabs stops initialOnly rest reached
        else if g.afterBlank ∧ g.column + 1 = stop then
          kept ++ '\t' :: withTabs stops initialOnly rest reached
        else
          withTabs stops initialOnly rest
            ⟨g.column + 1, g.waiting ++ [c], g.lonely || g.column + 1 == stop, true⟩
    else
      let column := if c = '\x08' then g.column - 1 else g.column + 1
      g.written ++ c :: (if initialOnly then rest
        else withTabs stops initialOnly rest ⟨column, [], false, false⟩)

/-- `unexpand`: turns blanks into tabs. -/
def unexpand (args : List Text) : Work Nat := do
  let a ← arguments "a:all t:tabs= -:first-only" (withoutBareStops args) 1 false
  let stops ← tabStops a
  let initialOnly := a.has "first-only" || !(a.has "a" || a.has "t")
  let (found, fine) ← readAll a.operands faultText
  for (_, s) in found do
    for line in cutLines s do
      Work.out (withTabs stops initialOnly line ⟨0, [], false, true⟩)
  return statusOf fine

end Manpage.Utility
