/-
# The grammar of programs for reports

A program is read from its words by going down from the operators that bind least to those that bind
most.  Two texts next to each other are joined; that binds less than a sum and more than a comparison.
Behind `print` a sign for greater is the way to a file, unless it stands in parentheses.
-/
import Manpage.Awk.Scanner

namespace Manpage.Awk

/-- A call of a function: its name, how many arguments it has, and its line. -/
structure Called where
  function : Text
  count : Nat
  line : Nat
deriving Repr

/-- The state of the reader. -/
structure Reader where
  words : List Placed
  /-- The line behind the last word. -/
  lastLine : Nat
  braces : Nat
  parens : Nat
  /-- Whether a sign for greater leads to a file. -/
  printing : Bool
  loops : Nat
  /-- Whether a record can be left for the next one. -/
  hasRecord : Bool
  /-- The parameters of the function that is read. -/
  params : Option (List Text)
  /-- The names of all functions. -/
  functions : List Text
  /-- Which names are those of arrays. -/
  kinds : List (Text × Bool)
  called : List Called

/-- Reading takes words off, or refuses the program. -/
abbrev Reading := StateT Reader (Except Refusal)

namespace Grammar

/-! ## 1. Words -/

/-- The next word. -/
def next? : Reading (Option Word) := do return (← get).words.head?.map Placed.word

/-- The line of the next word. -/
def line : Reading Nat := do
  let r ← get
  match r.words with
  | w :: _ => return w.line
  | [] => return r.lastLine

/-- Refuses the program with a message. -/
def refuseWith {α : Type} (message : Text) : Reading α := do
  throw ⟨Scanner.atLine (← line) message⟩

/-- Refuses the next word. -/
def refuse {α : Type} : Reading α := do
  let r ← get
  match r.words with
  | [] =>
    if 0 < r.braces then refuseWith "missing \x7d near end of file".toList
    else refuseWith "syntax error at or near end of file".toList
  | w :: _ =>
    let closes : Bool := match w.word with
      | .newline | .sign ";" | .sign "\x7d" => true
      | _ => false
    if closes ∧ 0 < r.parens then refuseWith ("missing ) near ".toList ++ w.written)
    else
      match w.word with
      | .sign "\x7d" =>
        if r.braces = 0 then
          refuseWith ("extra '\x7d'\nawk: ".toList
            ++ Scanner.atLine w.line "syntax error at or near end of line".toList)
        else refuseWith "syntax error at or near \x7d".toList
      | .sign ")" =>
        if r.parens = 0 then refuseWith "extra ')'".toList
        else refuseWith "syntax error at or near )".toList
      | _ => refuseWith ("syntax error at or near ".toList ++ w.written)

/-- Goes past a word. -/
def skip : Reading Unit := modify fun r => { r with words := r.words.drop 1 }

/-- Whether the next word is a sign. -/
def isSign (s : String) : Reading Bool := do
  match ← next? with
  | some (.sign t) => return t == s
  | _ => return false

/-- Goes past a sign if it is there. -/
def accept (s : String) : Reading Bool := do
  if ← isSign s then
    skip
    return true
  else return false

/-- Goes past a sign that has to be there. -/
def expect (s : String) : Reading Unit := do
  if !(← accept s) then refuse

/-- Whether the next word is a keyword. -/
def isKeyword (s : String) : Reading Bool := do
  match ← next? with
  | some (.keyword t) => return t == s
  | _ => return false

/-- Goes past the ends of lines. -/
def skipLines : Reading Unit :=
  modify fun r => { r with words := r.words.dropWhile fun w => match w.word with
    | .newline => true
    | _ => false }

/-- Reads what stands in parentheses, behind the opening one. -/
def enclosed {α : Type} (inner : Reading α) : Reading α := do
  let printing := (← get).printing
  modify fun r => { r with parens := r.parens + 1, printing := false }
  let found ← inner
  expect ")"
  modify fun r => { r with parens := r.parens - 1, printing }
  return found

/-- Notes whether a name is that of an array; one that has been used otherwise is refused. -/
def note (x : Text) (isArray : Bool) : Reading Unit := do
  let r ← get
  let isParam := (r.params.getD []).contains x
  match r.kinds.lookup x with
  | some known =>
    if known ≠ isArray then
      refuseWith ("illegal reference to ".toList ++ (if isParam then "local ".toList else [])
        ++ (if known then "array " else "variable ").toList ++ x)
  | none => set { r with kinds := (x, isArray) :: r.kinds }

/-- Reads the name of an array. -/
def arrayName : Reading Text := do
  match ← next? with
  | some (.name x) =>
    note x true
    skip
    return x
  | _ => refuse

/-! ## 2. Operators -/

/-- The operators that compare or decide, by how little they bind. -/
def operators : List (List (String × (Expr → Expr → Expr))) :=
  [[("||", .or)], [("&&", .and)], [], [("~", .fits true), ("!~", .fits false)],
    [("<", .compare .lt), ("<=", .compare .le), ("==", .compare .eq), ("!=", .compare .ne),
      (">", .compare .gt), (">=", .compare .ge)]]

/-- Where the operator that looks for keys stands among them. -/
def memberLevel : Nat := 2

/-- The operators of sums. -/
def sums : List (String × Arithmetic) := [("+", .add), ("-", .sub)]

/-- The operators of products. -/
def products : List (String × Arithmetic) := [("*", .mul), ("/", .div), ("%", .rem)]

/-- The operators that give a place a value. -/
def assignments : List (String × Option Arithmetic) :=
  [("=", none), ("+=", some .add), ("-=", some .sub), ("*=", some .mul), ("/=", some .div),
    ("%=", some .rem), ("^=", some .pow)]

/-- The operator that comes next, if it is one of some. -/
def operator? {α : Type} (known : List (String × α)) : Reading (Option α) := do
  match ← next? with
  | some (.sign s) => return known.lookup s
  | _ => return none

/-- Whether an expression is a place that can be given a value. -/
def isPlace : Expr → Bool
  | .name _ | .field _ | .element .. => true
  | _ => false

/-- Whether a word begins an operand. -/
def beginsOperand : Option Word → Bool
  | some (.number _) | some (.text _) | some (.regex ..) | some (.name _) | some (.call _)
  | some (.builtin _) => true
  | some (.keyword k) => k == "getline"
  | some (.sign s) => ["(", "!", "$", "++", "--"].contains s
  | _ => false

/-- How many arguments a function that every program knows takes. -/
def argumentCounts : Builtin → Nat × Nat
  | .length => (0, 1)
  | .substr => (2, 3)
  | .index => (2, 2)
  | .split => (2, 3)
  | .sub | .gsub => (2, 3)
  | .position => (2, 2)
  | .sprintf => (1, 255)
  | .tolower | .toupper | .int | .sqrt | .exp | .log | .sin | .cos | .system | .close => (1, 1)
  | .atan2 => (2, 2)
  | .rand => (0, 0)
  | .srand | .fflush => (0, 1)

/-- The name of a function that every program knows. -/
def builtinName (b : Builtin) : Text :=
  match Scanner.builtins.find? (·.2 == b) with
  | some (name, _) => name.toList
  | none => []

/-! ## 3. Expressions -/

mutual

/-- Reads an expression. -/
def expr : (fuel : Nat) → Reading Expr
  | 0 => refuse
  | fuel + 1 => do
    let condition ← binary fuel 0
    if ← accept "?" then
      let a ← expr fuel
      expect ":"
      let b ← expr fuel
      return .choose condition a b
    else return condition

/-- Reads an expression whose operators bind at least as much as those of a level. -/
def binary : (fuel : Nat) → (level : Nat) → Reading Expr
  | 0, _ => refuse
  | fuel + 1, level =>
    if operators.length ≤ level then joined fuel
    else do
      let a ← binary fuel (level + 1)
      binaryOn fuel level a

/-- Goes on with the operators of a level behind an operand. -/
def binaryOn : (fuel : Nat) → (level : Nat) → Expr → Reading Expr
  | 0, _, _ => refuse
  | fuel + 1, level, a => do
    let known := (operators[level]?).getD []
    let known ← if (← get).printing then pure (known.filter (·.1 != ">")) else pure known
    let looks ← isKeyword "in"
    if level = memberLevel ∧ looks = true then
      skip
      let array ← arrayName
      binaryOn fuel level (.member [a] array)
    else
      match ← operator? known with
      | none => return a
      | some op =>
        let breaks ← (do return (← isSign "&&") || (← isSign "||"))
        skip
        if breaks then skipLines
        let b ← binary fuel (level + 1)
        binaryOn fuel level (op a b)

/-- Reads operands that are joined, or a value for a place. -/
def joined : (fuel : Nat) → Reading Expr
  | 0 => refuse
  | fuel + 1 => do
    let a ← sum fuel
    match ← operator? assignments with
    | some op =>
      if isPlace a then
        skip
        let value ← expr fuel
        return .assign op a value
      else refuse
    | none => joinedOn fuel a

/-- Goes on with operands that are joined to one. -/
def joinedOn : (fuel : Nat) → Expr → Reading Expr
  | 0, _ => refuse
  | fuel + 1, a => do
    if beginsOperand (← next?) then
      let b ← sum fuel
      joinedOn fuel (.concat a b)
    else return a

/-- Reads a sum. -/
def sum : (fuel : Nat) → Reading Expr
  | 0 => refuse
  | fuel + 1 => do
    let a ← product fuel
    sumOn fuel a

/-- Goes on with a sum. -/
def sumOn : (fuel : Nat) → Expr → Reading Expr
  | 0, _ => refuse
  | fuel + 1, a => do
    match ← operator? sums with
    | none => return a
    | some op =>
      skip
      let b ← product fuel
      sumOn fuel (.arithmetic op a b)

/-- Reads a product. -/
def product : (fuel : Nat) → Reading Expr
  | 0 => refuse
  | fuel + 1 => do
    let a ← signed fuel
    productOn fuel a

/-- Goes on with a product. -/
def productOn : (fuel : Nat) → Expr → Reading Expr
  | 0, _ => refuse
  | fuel + 1, a => do
    match ← operator? products with
    | none => return a
    | some op =>
      skip
      let b ← signed fuel
      productOn fuel (.arithmetic op a b)

/-- Reads an operand with signs in front of it. -/
def signed : (fuel : Nat) → Reading Expr
  | 0 => refuse
  | fuel + 1 => do
    if ← accept "!" then return .not (← signed fuel)
    else if ← accept "-" then return .sign true (← signed fuel)
    else if ← accept "+" then return .sign false (← signed fuel)
    else
      let a ← power fuel
      pipedOn fuel a

/-- Goes on with lines that are read from a command. -/
def pipedOn : (fuel : Nat) → Expr → Reading Expr
  | 0, _ => refuse
  | fuel + 1, a => do
    let r ← get
    match r.words with
    | ⟨.sign "|", _, _⟩ :: ⟨.keyword "getline", _, _⟩ :: rest =>
      if r.printing then return a
      else
        set { r with words := rest }
        let target ← target? fuel
        pipedOn fuel (.getline .command (some a) target)
    | _ => return a

/-- Reads the place that a line is put into, if one is named. -/
def target? : (fuel : Nat) → Reading (Option Expr)
  | 0 => refuse
  | fuel + 1 => do
    match ← next? with
    | some (.name _) => return some (← primary fuel)
    | some (.sign "$") => return some (← primary fuel)
    | _ => return none

/-- Reads a power. -/
def power : (fuel : Nat) → Reading Expr
  | 0 => refuse
  | fuel + 1 => do
    let a ← stepped fuel
    if ← accept "^" then return .arithmetic .pow a (← exponent fuel)
    else return a

/-- Reads an exponent, which may have a sign. -/
def exponent : (fuel : Nat) → Reading Expr
  | 0 => refuse
  | fuel + 1 => do
    if ← accept "!" then return .not (← exponent fuel)
    else if ← accept "-" then return .sign true (← exponent fuel)
    else if ← accept "+" then return .sign false (← exponent fuel)
    else power fuel

/-- Reads an operand with a step behind it. -/
def stepped : (fuel : Nat) → Reading Expr
  | 0 => refuse
  | fuel + 1 => do
    let a ← primary fuel
    if isPlace a then
      if ← accept "++" then return .step true true a
      else if ← accept "--" then return .step false true a
      else return a
    else return a

/-- Reads what is behind a dollar sign. -/
def fieldNumber : (fuel : Nat) → Reading Expr
  | 0 => refuse
  | fuel + 1 => do
    match ← next? with
    | some (.name x) => if x = "NF".toList then stepped fuel else primary fuel
    | some (.sign s) => if ["-", "+", "!"].contains s then exponent fuel else primary fuel
    | _ => primary fuel

/-- Reads an operand. -/
def primary : (fuel : Nat) → Reading Expr
  | 0 => refuse
  | fuel + 1 => do
    match ← next? with
    | some (.number n) =>
      skip
      return .number n
    | some (.text s) =>
      skip
      return .text s
    | some (.regex r written) =>
      skip
      return .regex r written
    | some (.name x) => do
      skip
      let r ← get
      let opens ← isSign "("
      if ← accept "[" then
        note x true
        let printing := r.printing
        modify fun r => { r with printing := false }
        let keys ← exprs fuel
        expect "]"
        modify fun r => { r with printing }
        return .element x keys
      else if opens = true ∧ r.functions.contains x = true then callOf fuel x
      else
        note x false
        return .name x
    | some (.call x) => do
      skip
      callOf fuel x
    | some (.builtin b) => do
      let at_ ← line
      skip
      if ← accept "(" then
        let args ← enclosed (arguments fuel)
        let (least, most) := argumentCounts b
        if args.length < least ∨ most < args.length then
          throw ⟨Scanner.atLine at_ ("wrong number of arguments in call to ".toList ++ builtinName b)⟩
        match b, args with
        | .split, _ :: .name x :: _ => note x true
        | _, _ => pure ()
        return .builtin b args
      else if b = .length then return .builtin b []
      else refuse
    | some (.sign "(") => do
      skip
      let inner ← enclosed (exprs fuel)
      match inner with
      | [e] => return .group e
      | keys =>
        if ← isKeyword "in" then
          skip
          return .member keys (← arrayName)
        else refuse
    | some (.sign "$") => do
      skip
      return .field (← fieldNumber fuel)
    | some (.sign "++") => do
      skip
      let place ← primary fuel
      if isPlace place then return .step true false place else refuse
    | some (.sign "--") => do
      skip
      let place ← primary fuel
      if isPlace place then return .step false false place else refuse
    | some (.keyword "getline") => do
      skip
      let target ← target? fuel
      if ← accept "<" then return .getline .file (some (← power fuel)) target
      else return .getline .input none target
    | _ => refuse

/-- Reads the arguments of a function that is called. -/
def callOf : (fuel : Nat) → (function : Text) → Reading Expr
  | 0, _ => refuse
  | fuel + 1, function => do
    let line ← line
    expect "("
    let args ← enclosed (arguments fuel)
    modify fun r => { r with called := ⟨function, args.length, line⟩ :: r.called }
    return .call function args

/-- Reads arguments in front of a closing parenthesis; a name alone may be that of an array. -/
def arguments : (fuel : Nat) → Reading (List Expr)
  | 0 => refuse
  | fuel + 1 => do
    if ← isSign ")" then return []
    else
      let alone : Option (Text × List Placed) := match (← get).words with
        | ⟨.name x, _, _⟩ :: ⟨.sign s, line, written⟩ :: rest =>
          if s = "," ∨ s = ")" then some (x, ⟨.sign s, line, written⟩ :: rest) else none
        | _ => none
      let first ← match alone with
        | some (x, rest) => do
          modify fun r => { r with words := rest }
          pure (Expr.name x)
        | none => expr fuel
      if ← accept "," then
        skipLines
        if ← isSign ")" then refuse
        return first :: (← arguments fuel)
      else return [first]

/-- Reads expressions between commas. -/
def exprs : (fuel : Nat) → Reading (List Expr)
  | 0 => refuse
  | fuel + 1 => do
    let first ← expr fuel
    if ← accept "," then
      skipLines
      return first :: (← exprs fuel)
    else return [first]

end

/-! ## 4. Statements -/

/-- Goes past the end of a simple statement: a semicolon, the end of a line, or nothing in front of a
closing brace. -/
def endStatement : Reading Unit := do
  match ← next? with
  | some (.sign ";") =>
    skip
    skipLines
  | some .newline => skipLines
  | some (.sign "\x7d") => if 0 < (← get).parens ∨ (← get).braces = 0 then refuse
  | _ => refuse

/-- Whether a simple statement ends here. -/
def isEnd : Reading Bool := do
  match ← next? with
  | some (.sign ";") | some .newline | some (.sign "\x7d") | none => return true
  | _ => return false

/-- How many words there are up to a closing parenthesis, and what stands behind it. -/
def behindParens : (depth : Nat) → List Placed → List Placed
  | _, [] => []
  | depth, w :: rest =>
    match w.word with
    | .sign "(" => behindParens (depth + 1) rest
    | .sign ")" => if depth ≤ 1 then rest else behindParens (depth - 1) rest
    | _ => behindParens depth rest

/-- Reads where something is written. -/
def direction? (fuel : Nat) : Reading (Option (Direction × Expr)) := do
  let kind ← operator? [(">", Direction.file), (">>", .append), ("|", .command)]
  match kind with
  | none => return none
  | some d =>
    skip
    modify fun r => { r with printing := false }
    return some (d, ← expr fuel)

/-- Reads what is to be written, and where. -/
def printArgs (fuel : Nat) : Reading (List Expr × Option (Direction × Expr)) := do
  modify fun r => { r with printing := true }
  let opens ← isSign "("
  let wholly : Bool := match behindParens 0 (← get).words with
    | [] => true
    | w :: _ => match w.word with
      | .newline => true
      | .sign s => [";", "\x7d", ">", ">>", "|"].contains s
      | _ => false
  let args ← if opens = true ∧ wholly = true then do
      skip
      let empty ← isSign ")"
      enclosed (if empty then pure [] else exprs fuel)
    else if (← isEnd) || (← isSign ">") || (← isSign ">>") || (← isSign "|") then pure []
    else exprs fuel
  let way ← direction? fuel
  modify fun r => { r with printing := false }
  return (args, way)

/-- The loop over keys that begins here, behind its keyword: the name, the array, and what follows. -/
def keyLoop? : List Placed → Option (Text × Text × List Placed)
  | ⟨.sign "(", _, _⟩ :: ⟨.name x, _, _⟩ :: ⟨.keyword "in", _, _⟩ :: ⟨.name a, _, _⟩
    :: ⟨.sign ")", _, _⟩ :: rest => some (x, a, rest)
  | _ => none

mutual

/-- Reads a statement with its end. -/
def statement : (fuel : Nat) → Reading Statement
  | 0 => refuse
  | fuel + 1 => do
    match ← next? with
    | some (.sign "\x7b") => block fuel
    | some (.sign ";") =>
      endStatement
      return .block []
    | some .newline =>
      endStatement
      return .block []
    | some (.sign "\x7d") =>
      endStatement
      return .block []
    | some (.keyword k) => keyword fuel k
    | _ => do
      let e ← expr fuel
      endStatement
      return .expr e

/-- Reads a statement that begins with a keyword. -/
def keyword : (fuel : Nat) → String → Reading Statement
  | 0, _ => refuse
  | fuel + 1, k => do
    match k with
    | "print" =>
      skip
      let (args, way) ← printArgs fuel
      endStatement
      return .print args way
    | "printf" =>
      skip
      if ← isEnd then refuseWith "no arguments in call to printf".toList
      let (args, way) ← printArgs fuel
      endStatement
      return .printf args way
    | "if" =>
      skip
      let condition ← condition fuel
      let yes ← statement fuel
      if ← isKeyword "else" then
        skip
        skipLines
        return .choice condition yes (some (← statement fuel))
      else return .choice condition yes none
    | "while" =>
      skip
      let condition ← condition fuel
      return .loop false condition (← body fuel)
    | "do" =>
      skip
      skipLines
      let inner ← body fuel
      if !(← isKeyword "while") then refuse
      skip
      expect "("
      let condition ← enclosed (expr fuel)
      endStatement
      return .loop true condition inner
    | "for" =>
      skip
      match keyLoop? (← get).words with
      | some (x, a, rest) =>
        note x false
        note a true
        modify fun r => { r with words := rest }
        skipLines
        return .forKeys x a (← body fuel)
      | none =>
        expect "("
        let (first, condition, step) ← enclosed (do
          let first ← part fuel ";"
          expect ";"
          skipLines
          let condition ← part fuel ";"
          expect ";"
          skipLines
          let step ← part fuel ")"
          return (first, condition, step))
        skipLines
        return .count (first.map Statement.expr) condition (step.map Statement.expr) (← body fuel)
    | "next" => simple ((← get).hasRecord) "improper use of next" .nextRecord
    | "nextfile" => simple ((← get).hasRecord) "improper use of nextfile" .nextFile
    | "break" => simple (0 < (← get).loops) "break statement outside of loop" .leave
    | "continue" => simple (0 < (← get).loops) "continue statement outside of loop" .again
    | "exit" =>
      skip
      let status ← if ← isEnd then pure none else pure (some (← expr fuel))
      endStatement
      return .exit status
    | "return" =>
      if (← get).params.isNone then refuseWith "return outside function body".toList
      skip
      let value ← if ← isEnd then pure none else pure (some (← expr fuel))
      endStatement
      return .give value
    | "delete" =>
      skip
      let array ← arrayName
      let keys ← if ← accept "[" then do
          let keys ← exprs fuel
          expect "]"
          pure keys
        else pure []
      endStatement
      return .delete array keys
    | "getline" =>
      let e ← expr fuel
      endStatement
      return .expr e
    | _ => refuse

/-- Reads a part of the head of a loop, which may be missing. -/
def part : (fuel : Nat) → String → Reading (Option Expr)
  | 0, _ => refuse
  | fuel + 1, stop => do
    if ← isSign stop then return none else return some (← expr fuel)

/-- Reads a condition in parentheses. -/
def condition : (fuel : Nat) → Reading Expr
  | 0 => refuse
  | fuel + 1 => do
    expect "("
    let found ← enclosed (expr fuel)
    skipLines
    return found

/-- Reads the body of a loop. -/
def body : (fuel : Nat) → Reading Statement
  | 0 => refuse
  | fuel + 1 => do
    modify fun r => { r with loops := r.loops + 1 }
    let found ← statement fuel
    modify fun r => { r with loops := r.loops - 1 }
    return found

/-- Reads a statement of one word, if it has a meaning here. -/
def simple (meant : Bool) (message : String) (s : Statement) : Reading Statement := do
  if !meant then refuseWith message.toList
  skip
  endStatement
  return s

/-- Reads statements in braces. -/
def block : (fuel : Nat) → Reading Statement
  | 0 => refuse
  | fuel + 1 => do
    expect "\x7b"
    modify fun r => { r with braces := r.braces + 1 }
    skipLines
    let inner ← statements fuel
    expect "\x7d"
    modify fun r => { r with braces := r.braces - 1 }
    if (← get).braces = 0 then discard (accept ";")
    skipLines
    return .block inner

/-- Reads the statements up to a closing brace. -/
def statements : (fuel : Nat) → Reading (List Statement)
  | 0 => refuse
  | fuel + 1 => do
    if ← isSign "\x7d" then return []
    else
      let first ← statement fuel
      return first :: (← statements fuel)

end

/-! ## 5. Programs -/

/-- Reads the names of parameters up to a closing parenthesis. -/
def parameters (function : Text) : (fuel : Nat) → Reading (List Text)
  | 0 => refuse
  | fuel + 1 => do
    match ← next? with
    | some (.sign ")") => return []
    | some (.name x) => do
      if x = function then refuseWith "function parameter cannot be the function".toList
      skip
      if ← accept "," then
        skipLines
        if ← isSign ")" then refuse
        return x :: (← parameters function fuel)
      else if ← isSign ")" then return [x]
      else refuse
    | _ => refuse

/-- Reads a function behind its keyword. -/
def function (fuel : Nat) : Reading Function := do
  let name ← match ← next? with
    | some (.name x) => pure x
    | some (.call x) => pure x
    | _ => refuse
  skip
  expect "("
  let params ← enclosed (parameters name fuel)
  skipLines
  let outside := (← get).kinds
  modify fun r => { r with
    params := some params
    hasRecord := true
    kinds := outside.filter fun k => !params.contains k.1 }
  let body ← block fuel
  modify fun r => { r with
    params := none
    kinds := r.kinds.filter (fun k => !params.contains k.1)
      ++ outside.filter fun k => params.contains k.1 }
  return ⟨name, params, body, []⟩

/-- Reads a rule. -/
def rule (fuel : Nat) : Reading Rule := do
  let bounded (pattern : Pattern) : Reading Rule := do
    skip
    modify fun r => { r with hasRecord := false }
    if ← isSign "\x7b" then return ⟨pattern, some (← block fuel)⟩ else refuse
  let withBody (pattern : Pattern) : Reading Rule := do
    modify fun r => { r with hasRecord := true }
    if ← isSign "\x7b" then return ⟨pattern, some (← block fuel)⟩
    else
      endStatement
      return ⟨pattern, none⟩
  match ← next? with
  | some (.keyword "BEGIN") => bounded .first
  | some (.keyword "END") => bounded .last
  | some (.sign "\x7b") => withBody .always
  | _ => do
    let first ← expr fuel
    if ← accept "," then
      skipLines
      let last ← expr fuel
      withBody (.range first last)
    else withBody (.when first)

/-- Reads rules and functions. -/
def items (depth : Nat) : (fuel : Nat) → Reading Program
  | 0 => refuse
  | fuel + 1 => do
    if (← get).words.isEmpty then return ⟨[], []⟩
    else if ← isKeyword "function" then
      skip
      let f ← function depth
      let rest ← items depth fuel
      return { rest with functions := f :: rest.functions }
    else
      let r ← rule depth
      let rest ← items depth fuel
      return { rest with rules := r :: rest.rules }

/-- The names of the functions that a program has. -/
def declared : List Placed → List Text
  | ⟨.keyword "function", _, _⟩ :: ⟨.name x, line, written⟩ :: rest =>
    x :: declared (⟨.name x, line, written⟩ :: rest)
  | ⟨.keyword "function", _, _⟩ :: ⟨.call x, line, written⟩ :: rest =>
    x :: declared (⟨.call x, line, written⟩ :: rest)
  | _ :: rest => declared rest
  | [] => []

/-- What is wrong with the calls of functions. -/
def checkCalls (functions : List Function) (lastLine : Nat) : List Called → Except Refusal Unit
  | [] => .ok ()
  | c :: rest =>
    match functions.find? (·.name == c.function) with
    | none =>
      .error ⟨Scanner.atLine lastLine ("function ".toList ++ c.function ++ " never defined".toList)⟩
    | some f =>
      if f.params.length < c.count then
        .error ⟨Scanner.atLine c.line ("too many arguments in call to ".toList ++ c.function)⟩
      else checkCalls functions lastLine rest

end Grammar

namespace Program

/-- Reads a program. -/
def read (text : Text) : Except Refusal Program := do
  let text := text ++ ['\n']
  let words ← Scanner.words (text.length + 1) none 1 text
  let lastLine := 1 + (text.filter (· == '\n')).length
  let start : Reader := {
    words, lastLine, braces := 0, parens := 0, printing := false, loops := 0, hasRecord := false
    params := none, functions := Grammar.declared words, kinds := [], called := [] }
  let reading : Reading Program := do
    Grammar.skipLines
    Grammar.items (20 * words.length + 40) (words.length + 1)
  let (program, r) ← StateT.run reading start
  Grammar.checkCalls program.functions lastLine r.called.reverse
  return program.withArrays

end Program

end Manpage.Awk
