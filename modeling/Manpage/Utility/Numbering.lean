/-
# Numbers before lines

Copies lines with numbers before them.  A text may be divided into pages with a header, a body and a
footer by lines that hold only a delimiter; which lines have numbers is chosen for each part.
-/
import Manpage.Utility.Searching

namespace Manpage.Utility

/-! ## 1. Which lines have numbers -/

/-- Which lines of a part of a page have numbers. -/
inductive NumberStyle
  | all
  | filled
  | none
  | matching (r : Regex)

namespace NumberStyle

/-- A style by its letter. -/
def ofText? (s : Text) : Except Text (Option NumberStyle) :=
  match s with
  | ['a'] => .ok (some .all)
  | ['t'] => .ok (some .filled)
  | ['n'] => .ok (some .none)
  | 'p' :: pattern => (Regex.read .basic pattern).map fun r => some (.matching r)
  | _ => .ok Option.none

/-- Whether a line has a number, and how many empty lines have come since the last one with a number; of
the empty lines that follow one another only each so many has one. -/
def numbers (style : NumberStyle) (most empty : Nat) (line : Text) : Bool × Nat :=
  match style with
  | .all => if line.isEmpty ∧ 1 < most ∧ empty + 1 ≠ most then (false, empty + 1) else (true, 0)
  | .filled => (!line.isEmpty, empty)
  | .none => (false, empty)
  | .matching r => (Regex.occurs r ⟨line.toArray, ⟨false, false⟩, true⟩, empty)

end NumberStyle

/-- The parts of a page. -/
inductive PagePart
  | header
  | body
  | footer
deriving DecidableEq, Repr

/-- The part that begins with a line, if it is a delimiter. -/
def PagePart.begins? (delimiter line : Text) : Option PagePart :=
  if delimiter.length < 2 then none
  else if line = delimiter then some .footer
  else if line = delimiter ++ delimiter then some .body
  else if line = delimiter ++ delimiter ++ delimiter then some .header
  else none

/-! ## 2. Lines with numbers -/

/-- How numbers are written. -/
structure Numbering where
  styles : PagePart → NumberStyle
  most : Nat
  delimiter : Text
  renumbers : Bool
  first : Int
  step : Int
  width : Nat
  separator : Text
  format : Text

namespace Numbering

/-- A number in its column. -/
def written (n : Numbering) (number : Int) : Text :=
  let digits := Text.ofNat number.natAbs
  let sign : Text := if number < 0 then ['-'] else []
  if n.format = "ln".toList then alignLeft n.width (sign ++ digits)
  else if n.format = "rz".toList then
    sign ++ List.replicate (n.width - sign.length - digits.length) '0' ++ digits
  else alignRight n.width (sign ++ digits)

/-- Where the copying stands: the part of the page, the next number, and the empty lines since the last
line with a number. -/
structure Place where
  part : PagePart
  number : Int
  empty : Nat

/-- Lines with their numbers. -/
def lines (n : Numbering) : Place → List Text → List Text
  | _, [] => []
  | place, line :: rest =>
    match PagePart.begins? n.delimiter line with
    | some part =>
      ['\n'] :: lines n { place with part, number := if n.renumbers then n.first else place.number } rest
    | none =>
      let (has, empty) := (n.styles place.part).numbers n.most place.empty line
      if has then
        (n.written place.number ++ n.separator ++ line ++ ['\n'])
          :: lines n { place with number := place.number + n.step, empty } rest
      else
        (List.replicate (n.width + n.separator.length) ' ' ++ line ++ ['\n'])
          :: lines n { place with empty } rest

/-- Every line is copied, with a number or without. -/
theorem length_lines (n : Numbering) (place : Place) (s : List Text) :
    (n.lines place s).length = s.length := by
  induction s generalizing place with
  | nil => rfl
  | cons line rest ih =>
    unfold lines
    split
    · simp [ih]
    · split
      split <;> simp [ih]

end Numbering

/-- A number with a sign in an argument. -/
def signedOf? (s : Text) : Option Int :=
  match s with
  | '-' :: rest => (countOf? rest).map fun n => -(n : Int)
  | '+' :: rest => (countOf? rest).map fun n => (n : Int)
  | s => (countOf? s).map fun n => (n : Int)

/-- `nl`: copies lines with numbers before them. -/
def nl (args : List Text) : Work Nat := do
  let a ← arguments ("b:body-numbering= d:section-delimiter= f:footer-numbering= h:header-numbering="
    ++ " i:line-increment= l:join-blank-lines= n:number-format= p:no-renumber s:number-separator="
    ++ " v:starting-line-number= w:number-width=") args 1 false
  let style (key part : String) (usual : NumberStyle) : Work NumberStyle := do
    match a.value? key with
    | none => return usual
    | some s =>
      match NumberStyle.ofText? s with
      | .ok (some style) => return style
      | .ok none => misuse 1 (("invalid " ++ part ++ " numbering style: ").toList ++ quotedWord s)
      | .error message => Work.fail 1 message
  let integer (key what : String) (usual : Int) : Work Int := do
    match a.value? key with
    | none => return usual
    | some s =>
      match signedOf? s with
      | some n => return n
      | none => Work.fail 1 (("invalid " ++ what ++ ": ").toList ++ quotedWord s)
  let positive (key what : String) (usual : Nat) : Work Nat := do
    let n ← integer key what usual
    if n < 1 then
      Work.fail 1 (("invalid " ++ what ++ ": ").toList ++ quotedWord ((a.value? key).getD [])
        ++ ": Numerical result out of range".toList)
    else return n.toNat
  let header ← style "h" "header" .none
  let body ← style "b" "body" .filled
  let footer ← style "f" "footer" .none
  let first ← integer "v" "starting line number" 1
  let step ← integer "i" "line number increment" 1
  let most ← positive "l" "line number of blank lines" 1
  let width ← positive "w" "line number field width" 6
  let format := (a.value? "n").getD "rn".toList
  if !(["ln", "rn", "rz"].map String.toList).contains format then
    misuse 1 ("invalid line numbering format: ".toList ++ quotedWord format)
  let delimiter := match a.value? "d" with
    | none => ['\\', ':']
    | some [c] => [c, ':']
    | some s => s
  let numbering : Numbering :=
    { styles := fun part => match part with
        | .header => header
        | .body => body
        | .footer => footer
      most, delimiter, renumbers := !a.has "p", first, step, width
      separator := (a.value? "s").getD ['\t'], format }
  let (found, fine) ← readAll a.operands faultText
  let text := found.flatMap fun (_, s) => bareLines s
  Work.out (numbering.lines ⟨.body, first, 0⟩ text).flatten
  return statusOf fine

end Manpage.Utility
