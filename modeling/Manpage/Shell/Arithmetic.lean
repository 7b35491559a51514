/-
# Arithmetic in scripts

The value of an arithmetic expression: whole numbers of 64 bits, variables, the operators of the
language C with their precedence, and assignments.  A part that does not count, since it stands behind
a condition that settles the value, is read but sets no variable and divides by nothing.

To the small shell a variable is a number; to the large one it is an expression of its own, and there
are operators that count up and down, powers, and several expressions in a row.
-/
import Manpage.Shell.Basic
import Manpage.Utility.Decimal

namespace Manpage.Shell.Arithmetic

/-! ## 1. Numbers -/

/-- A number within 64 bits. -/
def wrap (n : Int) : Int := Int.bmod n (Nat.pow 2 64)

/-- Applies an operator on bits. -/
def onBits (op : UInt64 → UInt64 → UInt64) (a b : Int) : Int :=
  let bits (n : Int) : UInt64 := UInt64.ofNat (n % Int.pow 2 64).toNat
  wrap (op (bits a) (bits b)).toNat

/-- The truth of a value. -/
def truth (b : Bool) : Int := if b then 1 else 0

/-- How far a number shifts another. -/
def distance (n : Int) : Nat := (n % 64).toNat

/-- Why an expression has no value. -/
inductive Fault
  | noOperand
  /-- Something follows the expression. -/
  | notEnded
  | noColon
  | noParenthesis
  | divisionByZero
  /-- The value of a variable is no number. -/
  | badNumber (s : Text)
  /-- A digit is too great, or a base is unknown. -/
  | badDigit
  | badOperator
  | notAssignable
  | negativePower
  /-- A variable that may not be set. -/
  | fixed (name : Text)
  | unset (name : Text)
  | tooDeep
deriving DecidableEq, Repr

/-- An expression without a value: why, the expression, and what is left of it at the fault. -/
structure Failure where
  fault : Fault
  expression : Text
  rest : Text
deriving DecidableEq, Repr

/-- The wording of a failure in the small shell. -/
def Failure.wording (f : Failure) : Text :=
  let told (s : String) : Text :=
    "arithmetic expression: ".toList ++ s.toList ++ ": \"".toList ++ f.expression ++ ['"']
  match f.fault with
  | .notEnded | .badOperator | .notAssignable | .badDigit => told "expecting EOF"
  | .noColon => told "expecting ':'"
  | .noParenthesis => told "expecting ')'"
  | .divisionByZero => told "division by zero"
  | .badNumber s => "Illegal number: ".toList ++ s
  | .fixed name => name ++ ": is read only".toList
  | .unset name => name ++ ": parameter not set".toList
  | .noOperand | .negativePower | .tooDeep => told "expecting primary"

/-- The wording of a failure in the large shell. -/
def Failure.largeWording (f : Failure) : Text :=
  let told (s : String) : Text :=
    f.expression ++ ": ".toList ++ s.toList ++ " (error token is \"".toList ++ f.rest ++ "\")".toList
  match f.fault with
  | .noOperand => told "syntax error: operand expected"
  | .notEnded => told "syntax error in expression"
  | .noColon => told "\x60:' expected for conditional expression"
  | .noParenthesis => told "missing \x60)'"
  | .divisionByZero => told "division by 0"
  | .badNumber _ | .badDigit => told "value too great for base"
  | .badOperator => told "syntax error: invalid arithmetic operator"
  | .notAssignable => told "attempted assignment to non-variable"
  | .negativePower => told "exponent less than 0"
  | .fixed name => name ++ ": readonly variable".toList
  | .unset name => name ++ ": unbound variable".toList
  | .tooDeep => told "expression recursion level exceeded"

/-! ## 2. Reading -/

/-- A variable, or one of its values by an index that is an expression. -/
structure Reference where
  name : Text
  index : Option Text
deriving DecidableEq, Repr

/-- A token of an expression. -/
inductive Token
  | number (n : Int)
  | named (r : Reference)
  | op (s : Text)
  /-- A number with a digit that its base has not. -/
  | badNumber
  | bad
deriving DecidableEq, Repr

/-- The operators, the longer ones first. -/
def operators : Dialect → List Text
  | .small =>
    ["<<=", ">>=", "==", "!=", "<=", ">=", "&&", "||", "<<", ">>", "+=", "-=", "*=", "/=", "%=", "&=",
     "|=", "^=", "+", "-", "*", "/", "%", "<", ">", "=", "!", "~", "&", "|", "^", "?", ":", "(",
     ")"].map String.toList
  | .large =>
    ["<<=", ">>=", "**", "++", "--", "==", "!=", "<=", ">=", "&&", "||", "<<", ">>", "+=", "-=", "*=",
     "/=", "%=", "&=", "|=", "^=", "+", "-", "*", "/", "%", "<", ">", "=", "!", "~", "&", "|", "^", "?",
     ":", "(", ")", ","].map String.toList

/-- The value of a digit in bases up to 64. -/
def digitValue? (base : Nat) (c : Char) : Option Nat :=
  let v? : Option Nat :=
    if c.isDigit then some (c.toNat - 48)
    else if 'a' ≤ c ∧ c ≤ 'z' then some (c.toNat - 87)
    else if 'A' ≤ c ∧ c ≤ 'Z' then some (if base ≤ 36 then c.toNat - 55 else c.toNat - 29)
    else if c = '@' then some 62
    else if c = '_' then some 63
    else none
  v?.bind fun v => if v < base then some v else none

/-- Takes the longest number in a base. -/
def takeDigits (base : Nat) (s : Text) : Text :=
  s.takeWhile fun c => (digitValue? base c).isSome && c != '_' && c != '@'

/-- The number at the beginning of a text, and what is left: decimal, octal behind a zero, or
hexadecimal behind a zero and an x. -/
def smallNumber (s : Text) : Nat × Text :=
  match s with
  | '0' :: x :: c :: rest =>
    if (x = 'x' ∨ x = 'X') ∧ (Utility.hexValue? c).isSome then
      let digits := takeDigits 16 (c :: rest)
      (Utility.ofDigits 16 digits, (c :: rest).drop digits.length)
    else
      let digits := takeDigits 8 s
      (Utility.ofDigits 8 digits, s.drop digits.length)
  | '0' :: _ =>
    let digits := takeDigits 8 s
    (Utility.ofDigits 8 digits, s.drop digits.length)
  | s =>
    let digits := s.takeWhile Char.isDigit
    (Utility.ofDigits 10 digits, s.drop digits.length)

/-- The number that a text is, all of it, for the large shell. -/
def largeNumber? (s : Text) : Option Nat :=
  let read (base : Nat) (digits : Text) : Option Nat :=
    digits.foldlM (fun n c => (digitValue? base c).map (n * base + ·)) 0
  match s with
  | '0' :: x :: rest => if x = 'x' ∨ x = 'X' then read 16 rest else read 8 (x :: rest)
  | s =>
    if s.contains '#' then
      let base := s.takeWhile (· != '#')
      let digits := s.drop (base.length + 1)
      match (String.ofList base).toNat? with
      | some b => if 2 ≤ b ∧ b ≤ 64 ∧ digits ≠ [] then read b digits else none
      | none => none
    else read 10 s

/-- The greatest number. -/
def greatest : Nat := Nat.pow 2 63 - 1

/-- Takes an index in brackets, behind the first of them. -/
def takeIndex : (fuel : Nat) → (depth : Nat) → Text → Option (Text × Text)
  | 0, _, _ => none
  | _, _, [] => none
  | fuel + 1, depth, c :: rest =>
    if c = ']' ∧ depth = 0 then some ([], rest)
    else
      let depth := if c = '[' then depth + 1 else if c = ']' then depth - 1 else depth
      (takeIndex fuel depth rest).map fun (s, more) => (c :: s, more)

/-- Whether a character is a blank in an expression. -/
def isBlank (c : Char) : Bool := c == ' ' || c == '\t' || c == '\n'

/-- The first token of a text without blanks before it, and what is left. -/
def tokenOf (dialect : Dialect) (s : Text) : Token × Text :=
  match s with
  | [] => (.bad, [])
  | c :: rest =>
    if c.isDigit then
      match dialect with
      | .small =>
        let (n, rest) := smallNumber s
        (.number (min n greatest), rest)
      | .large =>
        let word := s.takeWhile fun c => c.isAlphanum || c == '#' || c == '_' || c == '@'
        match largeNumber? word with
        | some n => (.number (wrap n), s.drop word.length)
        | none => (.badNumber, s)
    else if beginsName c then
      let name := s.takeWhile inName
      let after := s.drop name.length
      match dialect, after with
      | .large, '[' :: inner =>
        match takeIndex (inner.length + 1) 0 inner with
        | some (index, more) => (.named ⟨name, some index⟩, more)
        | none => (.named ⟨name, none⟩, after)
      | _, _ => (.named ⟨name, none⟩, after)
    else
      match (operators dialect).find? fun op => op.isPrefixOf s with
      | some op => (.op op, s.drop op.length)
      | none => (.bad, rest)

/-! ## 3. Evaluation -/

/-- What an expression knows of variables: their values, by an index if they have several, and
whether they may be set. -/
structure Surroundings where
  dialect : Dialect
  valueOf? : Text → Option Text → Option Text
  /-- Whether an index is a key and no expression. -/
  keyed : Text → Bool
  fixed : Text → Bool
  /-- Whether a variable that is not set is a fault. -/
  checked : Bool

/-- An expression at work: the whole of it, what is left, and the variables that have been set, the
last one first. -/
structure Progress where
  whole : Text
  rest : Text
  /-- What was left at the last token. -/
  atToken : Text
  assigned : List ((Text × Option Text) × Text)

/-- A step of an evaluation. -/
abbrev Eval := StateT Progress (Except Failure)

/-- The parts of an evaluation that contain one another: a whole expression, of which it is said
whether it counts, and the value of another expression. -/
structure Evaluator where
  expression : Bool → Eval Int
  nested : Text → Eval Int

/-- Gives up. -/
def fail {α : Type} (fault : Fault) : Eval α := do
  let p ← get
  throw ⟨fault, p.whole, p.rest⟩

/-- Gives up at the last token. -/
def failAtToken {α : Type} (fault : Fault) : Eval α := do
  let p ← get
  throw ⟨fault, p.whole, p.atToken⟩

/-- The next token, which is not taken; none at the end. -/
def peek (env : Surroundings) : Eval (Option Token) := do
  let p ← get
  let s := p.rest.dropWhile isBlank
  set { p with rest := s }
  return if s = [] then none else some (tokenOf env.dialect s).1

/-- Takes the next token. -/
def advance (env : Surroundings) : Eval Unit := do
  let p ← get
  let s := p.rest.dropWhile isBlank
  set { p with atToken := s, rest := (tokenOf env.dialect s).2 }

/-- Takes an operator if it is the next token. -/
def takeOp (env : Surroundings) (op : String) : Eval Bool := do
  if (← peek env) = some (.op op.toList) then
    advance env
    return true
  else return false

/-- The index of a reference, as the variable's values are numbered. -/
def indexOf (env : Surroundings) (e : Evaluator) (r : Reference) : Eval (Option Text) := do
  match r.index with
  | none => return none
  | some index =>
    if env.keyed r.name then return some index
    else return some (toString (← e.nested index)).toList

/-- A number written in decimal. -/
def shown (n : Int) : Text := if n < 0 then '-' :: Text.ofNat n.natAbs else Text.ofNat n.toNat

/-- The number in the value of a variable, for the small shell. -/
def numberIn? (s : Text) : Option Int :=
  let isSpace (c : Char) : Bool := c == ' ' || ('\t' ≤ c && c ≤ '\r')
  let t := s.dropWhile isSpace
  let (negative, t) := match t with
    | '-' :: r => (true, r)
    | '+' :: r => (false, r)
    | r => (false, r)
  match t with
  | [] => if s.all isSpace then some 0 else none
  | c :: _ =>
    if !c.isDigit then none
    else
      let (n, rest) := smallNumber t
      let limit := if negative then greatest + 1 else greatest
      if rest.all isSpace ∧ n ≤ limit then some (if negative then -(n : Int) else n) else none

/-- The value of a variable. -/
def valueOf (env : Surroundings) (e : Evaluator) (name : Text) (index : Option Text) : Eval Int := do
  let p ← get
  let s? := (p.assigned.lookup (name, index)).orElse fun _ => env.valueOf? name index
  match s?, env.dialect with
  | none, dialect =>
    if env.checked ∧ dialect = .large then fail (.unset name) else return 0
  | some s, .small =>
    match numberIn? s with
    | some n => return n
    | none => fail (.badNumber s)
  | some s, .large => if s.all isBlank then return 0 else e.nested s

/-- Sets a variable, if that counts. -/
def assign (env : Surroundings) (counts : Bool) (name : Text) (index : Option Text) (n : Int) :
    Eval Unit := do
  if counts then
    if env.fixed name then fail (.fixed name)
    modify fun p => { p with assigned := ((name, index), shown n) :: p.assigned }

/-- Applies an operator between two numbers. -/
def apply (op : Text) (a b : Int) : Eval Int := do
  match String.ofList op with
  | "+" => return wrap (a + b)
  | "-" => return wrap (a - b)
  | "*" => return wrap (a * b)
  | "/" => if b = 0 then failAtToken .divisionByZero else return wrap (a.tdiv b)
  | "%" => if b = 0 then failAtToken .divisionByZero else return wrap (a.tmod b)
  | "<<" => return wrap (a * Int.pow 2 (distance b))
  | ">>" => return a.fdiv (Int.pow 2 (distance b))
  | "<" => return truth (a < b)
  | "<=" => return truth (a ≤ b)
  | ">" => return truth (b < a)
  | ">=" => return truth (b ≤ a)
  | "==" => return truth (a == b)
  | "!=" => return truth (a != b)
  | "&" => return onBits (· &&& ·) a b
  | "^" => return onBits (· ^^^ ·) a b
  | "|" => return onBits (· ||| ·) a b
  | "**" => if b < 0 then failAtToken .negativePower else return wrap (Int.pow a b.toNat)
  | _ => failAtToken .notEnded

/-- The precedence of an operator between two numbers; a higher one binds more tightly. -/
def precedence? (op : Text) : Option Nat :=
  List.lookup (String.ofList op)
    [("|", 1), ("^", 2), ("&", 3), ("==", 4), ("!=", 4), ("<", 5), ("<=", 5), (">", 5), (">=", 5),
     ("<<", 6), (">>", 6), ("+", 7), ("-", 7), ("*", 8), ("/", 8), ("%", 8), ("**", 9)]

/-- The operator in an assignment with one. -/
def assignedOp? (op : Text) : Option Text :=
  if ["=", "+=", "-=", "*=", "/=", "%=", "<<=", ">>=", "&=", "|=", "^="].contains (String.ofList op)
  then some op.dropLast else none

/-- An operand with the operators before and behind it. -/
def operand (env : Surroundings) (e : Evaluator) : (fuel : Nat) → (counts : Bool) → Eval Int
  | 0, _ => fail .tooDeep
  | fuel + 1, counts => do
    match ← peek env with
    | some (.number n) =>
      advance env
      return n
    | some (.named r) =>
      advance env
      let index ← if counts then indexOf env e r else pure none
      let n ← if counts then valueOf env e r.name index else pure 0
      if env.dialect = .large then
        if ← takeOp env "++" then
          assign env counts r.name index (wrap (n + 1))
        else if ← takeOp env "--" then
          assign env counts r.name index (wrap (n - 1))
      return n
    | some (.op op) =>
      match String.ofList op with
      | "(" =>
        advance env
        let n ← e.expression counts
        if ← takeOp env ")" then return n else fail .noParenthesis
      | "+" =>
        advance env
        operand env e fuel counts
      | "-" =>
        advance env
        return wrap (-(← operand env e fuel counts))
      | "!" =>
        advance env
        return truth ((← operand env e fuel counts) == 0)
      | "~" =>
        advance env
        return -(← operand env e fuel counts) - 1
      | "++" | "--" =>
        advance env
        let step : Int := if op = "++".toList then 1 else -1
        match ← peek env with
        | some (.named r) =>
          advance env
          let index ← if counts then indexOf env e r else pure none
          let n := wrap ((← if counts then valueOf env e r.name index else pure 0) + step)
          assign env counts r.name index n
          return n
        | _ =>
          let n ← operand env e fuel counts
          return n
      | _ => fail .noOperand
    | some .badNumber => fail .badDigit
    | some .bad => fail .noOperand
    | none => if env.dialect = .large then failAtToken .noOperand else fail .noOperand

/-- What follows a first operand: operators of at least a precedence. -/
def operatorsOn (env : Surroundings) (e : Evaluator) :
    (fuel : Nat) → (counts : Bool) → (least : Nat) → Int → Eval Int
  | 0, _, _, _ => fail .tooDeep
  | fuel + 1, counts, least, a => do
    match ← peek env with
    | some (.op op) =>
      match precedence? op with
      | none => return a
      | some level =>
        if level < least then return a
        else
          advance env
          let b ← operand env e fuel counts
          let b ← operatorsOn env e fuel counts (if op = "**".toList then level else level + 1) b
          let n ← if counts then apply op a b else pure b
          operatorsOn env e fuel counts least n
    | _ => return a

/-- Operands joined by operators between numbers. -/
def joined (env : Surroundings) (e : Evaluator) (fuel : Nat) (counts : Bool) : Eval Int := do
  operatorsOn env e fuel counts 0 (← operand env e fuel counts)

/-- Operands joined by "and". -/
def conjunction (env : Surroundings) (e : Evaluator) : (fuel : Nat) → (counts : Bool) → Eval Int
  | 0, _ => fail .tooDeep
  | fuel + 1, counts => do
    let a ← joined env e fuel counts
    if ← takeOp env "&&" then
      let b ← conjunction env e fuel (counts && a != 0)
      return truth (a != 0 && b != 0)
    else return a

/-- Operands joined by "or". -/
def disjunction (env : Surroundings) (e : Evaluator) : (fuel : Nat) → (counts : Bool) → Eval Int
  | 0, _ => fail .tooDeep
  | fuel + 1, counts => do
    let a ← conjunction env e fuel counts
    if ← takeOp env "||" then
      let b ← disjunction env e fuel (counts && a == 0)
      return truth (a != 0 || b != 0)
    else return a

/-- A choice between two values. -/
def choice (env : Surroundings) (e : Evaluator) : (fuel : Nat) → (counts : Bool) → Eval Int
  | 0, _ => fail .tooDeep
  | fuel + 1, counts => do
    let a ← disjunction env e fuel counts
    if ← takeOp env "?" then
      let b ← e.expression (counts && a != 0)
      if ← takeOp env ":" then
        let c ← choice env e fuel (counts && a == 0)
        return if a != 0 then b else c
      else if env.dialect = .large then failAtToken .noColon
      else fail .noColon
    else return a

/-- An assignment, or a value. -/
def assignment (env : Surroundings) (e : Evaluator) : (fuel : Nat) → (counts : Bool) → Eval Int
  | 0, _ => fail .tooDeep
  | fuel + 1, counts => do
    let before ← get
    match ← peek env with
    | some (.named r) =>
      advance env
      let op ← peek env
      let assigned : Option Text := match op with
        | some (.op op) => assignedOp? op
        | _ => none
      match assigned with
      | none =>
        set before
        choice env e fuel counts
      | some op =>
        advance env
        let index ← if counts then indexOf env e r else pure none
        let b ← assignment env e fuel counts
        let n ← if op = [] ∨ !counts then pure b
          else apply op (← valueOf env e r.name index) b
        assign env counts r.name index n
        return n
    | _ => choice env e fuel counts

/-- Expressions in a row. -/
def row (env : Surroundings) (e : Evaluator) : (fuel : Nat) → (counts : Bool) → Eval Int
  | 0, _ => fail .tooDeep
  | fuel + 1, counts => do
    let n ← assignment env e fuel counts
    if env.dialect = .large then
      if ← takeOp env "," then row env e fuel counts else return n
    else return n

/-- A whole expression, to its end. -/
def whole (env : Surroundings) (e : Evaluator) : Eval Int := do
  let n ← e.expression true
  match ← peek env, env.dialect with
  | none, _ => return n
  | some _, .small => fail .notEnded
  | some (.op op), .large =>
    if assignedOp? op ≠ none then fail .notAssignable else fail .notEnded
  | some .bad, .large => fail .badOperator
  | some .badNumber, .large => fail .badDigit
  | some _, .large => fail .notEnded

/-- The evaluator, as deep as expressions may be nested. -/
def evaluator (env : Surroundings) : (depth : Nat) → Evaluator
  | 0 => ⟨fun _ => fail .tooDeep, fun _ => fail .tooDeep⟩
  | depth + 1 =>
    { expression := fun counts p => row env (evaluator env depth) (2 * p.rest.length + 4) counts p
      nested := fun s p =>
        if s.all isBlank then .ok (0, p)
        else
          match (whole env (evaluator env depth)).run { p with whole := s, rest := s, atToken := s } with
          | .ok (n, q) => .ok (n, { p with assigned := q.assigned })
          | .error f => .error f }

/-- The value of an expression, with the variables that it sets in order. -/
def evaluate (env : Surroundings) (s : Text) :
    Except Failure (Int × List ((Text × Option Text) × Text)) :=
  if env.dialect = .large ∧ s.all isBlank then .ok (0, [])
  else
    let s' := if env.dialect = .large then s.dropWhile isBlank else s
    match (whole env (evaluator env 1024)).run ⟨s', s', s', []⟩ with
    | .ok (n, p) => .ok (n, p.assigned.reverse)
    | .error f => .error f

end Manpage.Shell.Arithmetic
