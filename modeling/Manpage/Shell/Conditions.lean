/-
# Conditions

What a condition of the large shell comes to.  A word on its own holds if it is not empty; a comparison
with an equals sign takes the word behind it for a pattern.
-/
import Manpage.Regex.Reader
import Manpage.Shell.Builtins

namespace Manpage.Shell.Act

/-- Whether a text matches a regular expression; what its parts have matched is kept. -/
def matchesRegex (s pattern : Text) : Act Bool := do
  match Regex.read .extendedForm pattern with
  | .error _ =>
    setStatus 2
    throw .failed
  | .ok r =>
    let subject : Regex.Subject := ⟨s.toArray, ⟨false, false⟩, true⟩
    match Regex.find r subject 0 with
    | none => return false
    | some m =>
      let count := pattern.countP (· == '(')
      let parts := (List.range (count + 1)).map fun n => m.group subject n
      assignValue "BASH_REMATCH".toList (.list ((List.range parts.length).zip parts))
      return true

/-- A text of which some characters are quoted, as a regular expression: those stand for themselves. -/
def regexText (marked : List Marked) : Text :=
  marked.flatMap fun (c, quoted) =>
    if quoted && ".[]*+?()\x7b\x7d|^$\\".toList.contains c then ['\\', c] else [c]

/-- A word of a condition as it is shown: a pattern has backslashes before what is quoted in it. -/
def shownOperand (op : Text) (marked : List Marked) : Text :=
  let text := match String.ofList op with
    | "=" | "==" | "!=" => marked.flatMap fun (c, quoted) => if quoted then ['\\', c] else [c]
    | "=~" => regexText marked
    | _ => marked.map Prod.fst
  if text = [] then "''".toList else text

/-- Shows a condition before it is judged. -/
def traceCondition (e : Engine) (negated : Bool) (words : List Text) : Act Unit :=
  trace e [Text.join [' ']
    ("[[".toList :: (if negated then [['!']] else []) ++ words ++ ["]]".toList])]

/-- The value of an expression in a condition. -/
def operandNumber (s : Text) : Act Int := do
  match ← calculate s with
  | .ok n => return n
  | .error failure => failArithmetic failure

/-- Whether a comparison holds. -/
def compareWords (e : Engine) (negated : Bool) (op : Text) (a b : Word) : Act Bool := do
  let left ← textOfWord e a
  let marked := Atom.marked (← (words e).atoms Manner.single b)
  let right := marked.map Prod.fst
  traceCondition e negated [shownOperand [] (left.map fun c => (c, false)), op, shownOperand op marked]
  let fits := Pattern.fits (Pattern.ofMarked { patternRules (← get) with groups := true } marked) left
  match String.ofList op with
  | "=" | "==" => return fits
  | "!=" => return !fits
  | "=~" => matchesRegex left (regexText marked)
  | "<" => return Paths.inOrder left right && left != right
  | ">" => return !Paths.inOrder left right
  | "-eq" | "-ne" | "-lt" | "-le" | "-gt" | "-ge" =>
    let x ← operandNumber left
    let y ← operandNumber right
    return match String.ofList op with
      | "-eq" => x == y
      | "-ne" => x != y
      | "-lt" => decide (x < y)
      | "-le" => decide (x ≤ y)
      | "-gt" => decide (y < x)
      | _ => decide (y ≤ x)
  | _ =>
    judge .large false [left, op, right]
    return (← get).status == 0

/-- Whether a variable, or one of its values, is set. -/
def isSet (s : Text) : Act Bool := do
  let st ← get
  let name := s.takeWhile (· != '[')
  let index := (s.drop (name.length + 1)).dropLast
  let v := variableOf st name
  if name.length = s.length then
    return match find st s with
      | .unset => false
      | .text _ => true
      | .many _ values => !values.isEmpty
  else if index = ['@'] ∨ index = ['*'] then return !v.all.isEmpty
  else return (valueAt v index).isSome

/-- Whether a condition holds; `negated` says that it is shown with a sign for the opposite. -/
def holds (e : Engine) (negated : Bool) : Condition → Act Bool
  | .word w => do
    let s ← textOfWord e w
    traceCondition e negated ["-n".toList, shownOperand [] (s.map fun c => (c, false))]
    return s != []
  | .unary op w => do
    let s ← textOfWord e w
    traceCondition e negated [op, shownOperand [] (s.map fun c => (c, false))]
    if op = "-v".toList then isSet s
    else
      judge .large false [op, s]
      return (← get).status == 0
  | .binary op a b => compareWords e negated op a b
  | .not c => do return !(← holds e true c)
  | .both a b => do
    if ← holds e false a then holds e false b else return false
  | .either a b => do
    if ← holds e false a then return true else holds e false b

/-- Runs a condition as a command. -/
def judgeCondition (e : Engine) (c : Condition) : Act Unit := do
  let st ← get
  set { st with speaker := some "[[".toList }
  let flow ← attempt do
    let found ← holds e false c
    setStatus (if found then 0 else 1)
  modify fun after => { after with speaker := st.speaker }
  match flow with
  | some .failed => pure ()
  | flow => resume flow

end Manpage.Shell.Act
