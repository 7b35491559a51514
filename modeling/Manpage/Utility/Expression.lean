/-
# Expressions in arguments

The command `expr`: numbers and texts between operators, each an argument of its own.
-/
import Manpage.Utility.Options
import Manpage.Utility.Decimal
import Manpage.Regex.Reader

namespace Manpage.Utility.Expression

/-- A value: every value is a text, and some texts are numbers. -/
abbrev Value := Text

/-- A whole number, if a text is nothing else. -/
def integer? (s : Value) : Option Int :=
  let (negative, digits) := match s with
    | '-' :: r => (true, r)
    | r => (false, r)
  if digits.isEmpty || !digits.all Char.isDigit then none
  else
    let n : Int := ofDigits 10 digits
    some (if negative then -n else n)

/-- The text of a number. -/
def ofInteger (n : Int) : Value := (if n < 0 then ['-'] else []) ++ Text.ofNat n.natAbs

/-- Whether a value counts as false: the empty text and every zero. -/
def isNull (s : Value) : Bool :=
  s.isEmpty || (match s with
    | '-' :: r => !r.isEmpty && r.all (· == '0')
    | r => r.all (· == '0'))

/-- The reading of an expression takes arguments off a list and may be refused; the last argument that
was taken is kept for messages. -/
abbrev Reading := ExceptT Text (StateM (List Text × Text))

/-- Takes the next argument if it is a certain one. -/
def take? (word : String) : Reading Bool := do
  let (args, _) ← get
  match args with
  | arg :: rest =>
    if arg = word.toList then
      set (rest, arg)
      return true
    else return false
  | [] => return false

/-- Takes the next argument, which must be there. -/
def takeAny : Reading Text := do
  let (args, last) ← get
  match args with
  | arg :: rest =>
    set (rest, arg)
    return arg
  | [] => throw ("syntax error: missing argument after ".toList ++ quotedWord last)

/-- Matches a text from its beginning: the first group, or how long the match is. -/
def matchText (s pattern : Text) : Reading Value := do
  match Regex.read .basic pattern with
  | .error message => throw message
  | .ok r =>
    let subject : Regex.Subject := ⟨s.toArray, ⟨false, false⟩, true⟩
    let hasGroup := (List.range pattern.length).any fun i => ("\\(".toList).isPrefixOf (pattern.drop i)
    match Regex.matchAt r subject 0 with
    | none => return if hasGroup then [] else ['0']
    | some m => return if hasGroup then m.group subject 1 else Text.ofNat (m.last - m.first)

/-- Two numbers, or a refusal. -/
def numbers (a b : Value) : Reading (Int × Int) :=
  match integer? a, integer? b with
  | some x, some y => pure (x, y)
  | _, _ => throw "non-integer argument".toList

/-- The truth value of a comparison. -/
def truth (b : Bool) : Value := if b then ['1'] else ['0']

/-- Compares two values, as numbers if both are. -/
def compareValues (a b : Value) : Ordering :=
  match integer? a, integer? b with
  | some x, some y => compare x y
  | _, _ =>
    let rec texts : Text → Text → Ordering
      | [], [] => .eq
      | [], _ :: _ => .lt
      | _ :: _, [] => .gt
      | c :: s, d :: t => if c = d then texts s t else compare c.toNat d.toNat
    texts a b

/-- The operators of a level, from the loosest to the tightest. -/
def operators : List (List String) :=
  [["|"], ["&"], ["<=", "<", "==", "=", "!=", ">=", ">"], ["+", "-"], ["*", "/", "%"], [":"]]

/-- Combines two values; `live` says that the value is asked for. -/
def combine (op : String) (live : Bool) (a b : Value) : Reading Value := do
  if !live then return ['0']
  match op with
  | "|" => return if !isNull a then a else if !isNull b then b else ['0']
  | "&" => return if isNull a || isNull b then ['0'] else a
  | "<" => return truth (compareValues a b == .lt)
  | "<=" => return truth (compareValues a b != .gt)
  | "=" | "==" => return truth (compareValues a b == .eq)
  | "!=" => return truth (compareValues a b != .eq)
  | ">" => return truth (compareValues a b == .gt)
  | ">=" => return truth (compareValues a b != .lt)
  | ":" => matchText a b
  | _ =>
    let (x, y) ← numbers a b
    match op with
    | "+" => return ofInteger (x + y)
    | "-" => return ofInteger (x - y)
    | "*" => return ofInteger (x * y)
    | _ =>
      if y = 0 then throw "division by zero".toList
      else if op = "/" then return ofInteger (x.tdiv y)
      else return ofInteger (x.tmod y)

/-- Goes on with the operators of a level behind a value; `operand` reads what follows one. -/
def goOn (operand : (live : Bool) → Reading Value) (ops : List String) (live : Bool) :
    (rounds : Nat) → Value → Reading Value
  | 0, a => return a
  | rounds + 1, a => do
    let mut found : Option String := none
    for op in ops do
      if found.isNone then
        if ← take? op then found := some op
    match found with
    | none => return a
    | some op =>
      let inner := live && !(op == "|" && !isNull a) && !(op == "&" && isNull a)
      let b ← operand inner
      goOn operand ops live rounds (← combine op live a b)

/-- Reads an expression whose operators are at least as tight as a level. -/
def read : (fuel : Nat) → (level : Nat) → (live : Bool) → Reading Value
  | 0, _, _ => throw "expression too deep".toList
  | fuel + 1, level, live => do
    match operators[level]? with
    | some ops =>
      let a ← read fuel (level + 1) live
      goOn (read fuel (level + 1)) ops live fuel a
    | none =>
      if ← take? "+" then takeAny
      else if ← take? "length" then
        let s ← read fuel level live
        return Text.ofNat s.length
      else if ← take? "match" then
        let s ← read fuel level live
        let pattern ← read fuel level live
        if live then matchText s pattern else return []
      else if ← take? "index" then
        let s ← read fuel level live
        let chars ← read fuel level live
        return Text.ofNat ((s.findIdx? fun c => chars.contains c).map (· + 1) |>.getD 0)
      else if ← take? "substr" then
        let s ← read fuel level live
        let first ← read fuel level live
        let size ← read fuel level live
        match integer? first, integer? size with
        | some i, some n =>
          if i ≤ 0 ∨ n ≤ 0 then return []
          else return (s.drop (i.toNat - 1)).take n.toNat
        | _, _ => return []
      else if ← take? "(" then
        let v ← read fuel 0 live
        if ← take? ")" then return v
        else
          let (args, last) ← get
          match args with
          | [] => throw ("syntax error: expecting ')' after ".toList ++ quotedWord last)
          | arg :: _ => throw ("syntax error: expecting ')' instead of ".toList ++ quotedWord arg)
      else if ← take? ")" then throw "syntax error: unexpected ')'".toList
      else takeAny

/-- `expr`: gives the value of an expression. -/
def expr (args : List Text) : Work Nat := do
  let args := match args with
    | ['-', '-'] :: rest => rest
    | args => args
  if args.isEmpty then misuse 2 "missing operand".toList
  let (result, (rest, _)) := (read (8 * args.length + 16) 0 true).run.run (args, [])
  match result with
  | .error message => Work.fail 2 message
  | .ok value =>
    match rest with
    | extra :: _ => Work.fail 2 ("syntax error: unexpected argument ".toList ++ quotedWord extra)
    | [] =>
      Work.outLine value
      return if isNull value then 1 else 0

end Manpage.Utility.Expression
