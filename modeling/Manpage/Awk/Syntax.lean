/-
# Programs for reports

A program of `awk` is a list of rules, each with a pattern and what is to be done for the records that
have it, and of functions.
-/
import Manpage.Awk.Number
import Manpage.Regex.Basic

namespace Manpage.Awk

/-- The operators of two numbers. -/
inductive Arithmetic
  | add | sub | mul | div | rem | pow
deriving DecidableEq, Repr

/-- The comparisons. -/
inductive Comparison
  | lt | le | eq | ne | gt | ge
deriving DecidableEq, Repr

/-- The functions that every program knows. -/
inductive Builtin
  | length | substr | index | split | sub | gsub | position | sprintf | tolower | toupper
  | int | sqrt | exp | log | sin | cos | atan2 | rand | srand | system | close | fflush
deriving DecidableEq, Repr

/-- Where a record is read from. -/
inductive Origin
  | input | file | command
deriving DecidableEq, Repr

/-- An expression. -/
inductive Expr
  | number (n : Number)
  | text (s : Text)
  /-- A regular expression: as an operand of its own it is looked for in the record. -/
  | regex (r : Regex) (written : Text)
  | name (x : Text)
  | field (e : Expr)
  | element (array : Text) (keys : List Expr)
  | assign (op : Option Arithmetic) (target value : Expr)
  /-- A step up or down, whose value is the one before or after it. -/
  | step (up after : Bool) (target : Expr)
  | not (e : Expr)
  | sign (negative : Bool) (e : Expr)
  | arithmetic (op : Arithmetic) (a b : Expr)
  | compare (op : Comparison) (a b : Expr)
  | concat (a b : Expr)
  | and (a b : Expr)
  | or (a b : Expr)
  | choose (condition a b : Expr)
  | fits (wanted : Bool) (a b : Expr)
  | member (keys : List Expr) (array : Text)
  | call (function : Text) (args : List Expr)
  | builtin (b : Builtin) (args : List Expr)
  | getline (origin : Origin) (source target : Option Expr)
  | group (e : Expr)
deriving Repr

/-- Where something is written. -/
inductive Direction
  | file | append | command
deriving DecidableEq, Repr

/-- A statement. -/
inductive Statement
  | print (args : List Expr) (way : Option (Direction × Expr))
  | printf (args : List Expr) (way : Option (Direction × Expr))
  | expr (e : Expr)
  | block (body : List Statement)
  | choice (condition : Expr) (yes : Statement) (no : Option Statement)
  /-- As long as a condition holds; a check at the end lets the body be done at least once. -/
  | loop (checksAtEnd : Bool) (condition : Expr) (body : Statement)
  | count (first : Option Statement) (condition : Option Expr) (step : Option Statement)
      (body : Statement)
  | forKeys (x array : Text) (body : Statement)
  | nextRecord
  | nextFile
  | leave
  | again
  | exit (status : Option Expr)
  | give (value : Option Expr)
  | delete (array : Text) (keys : List Expr)
deriving Repr

/-- For which records a rule is. -/
inductive Pattern
  | always
  | first
  | last
  | when (e : Expr)
  | range (first last : Expr)
deriving Repr

/-- A rule; without a body the record is written. -/
structure Rule where
  pattern : Pattern
  body : Option Statement
deriving Repr

/-- A function, with the parameters that are arrays. -/
structure Function where
  name : Text
  params : List Text
  body : Statement
  arrays : List Text
deriving Repr

/-- A program. -/
structure Program where
  rules : List Rule
  functions : List Function
deriving Repr

/-! ## Which parameters are arrays -/

mutual

/-- The names that are used as arrays in an expression; `known` tells of a function which of its
arguments are. -/
def Expr.arrays (known : Text → Nat → Bool) : Expr → List Text
  | .number _ | .text _ | .regex .. | .name _ => []
  | .field e | .not e | .sign _ e | .group e | .step _ _ e => e.arrays known
  | .element a keys | .member keys a => a :: Expr.arraysOfList known keys
  | .assign _ a b | .arithmetic _ a b | .compare _ a b | .concat a b | .and a b | .or a b | .fits _ a b =>
    a.arrays known ++ b.arrays known
  | .choose c a b => c.arrays known ++ a.arrays known ++ b.arrays known
  | .call f args => Expr.arraysOfArgs known f 0 args ++ Expr.arraysOfList known args
  | .builtin b args =>
    (match b, args with
      | .split, _ :: .name x :: _ => [x]
      | _, _ => []) ++ Expr.arraysOfList known args
  | .getline _ source target =>
    (match source with
      | some e => e.arrays known
      | none => [])
      ++ (match target with
        | some e => e.arrays known
        | none => [])

/-- The names that are used as arrays in expressions. -/
def Expr.arraysOfList (known : Text → Nat → Bool) : List Expr → List Text
  | [] => []
  | e :: rest => e.arrays known ++ Expr.arraysOfList known rest

/-- The names among the arguments of a function that it takes for arrays. -/
def Expr.arraysOfArgs (known : Text → Nat → Bool) (f : Text) : (i : Nat) → List Expr → List Text
  | _, [] => []
  | i, e :: rest =>
    (match e with
      | .name x => if known f i then [x] else []
      | _ => []) ++ Expr.arraysOfArgs known f (i + 1) rest

end

mutual

/-- The names that are used as arrays in a statement. -/
def Statement.arrays (known : Text → Nat → Bool) : Statement → List Text
  | .print args way | .printf args way =>
    Expr.arraysOfList known args
      ++ (match way with
        | some (_, e) => e.arrays known
        | none => [])
  | .expr e => e.arrays known
  | .block body => Statement.arraysOfList known body
  | .choice c yes no =>
    c.arrays known ++ yes.arrays known
      ++ (match no with
        | some s => s.arrays known
        | none => [])
  | .loop _ c body => c.arrays known ++ body.arrays known
  | .count before c step body =>
    (match before with
      | some s => s.arrays known
      | none => [])
      ++ (match c with
        | some e => e.arrays known
        | none => [])
      ++ (match step with
        | some s => s.arrays known
        | none => [])
      ++ body.arrays known
  | .forKeys _ a body => a :: body.arrays known
  | .nextRecord | .nextFile | .leave | .again => []
  | .exit e | .give e =>
    match e with
    | some e => e.arrays known
    | none => []
  | .delete a keys => a :: Expr.arraysOfList known keys

/-- The names that are used as arrays in statements. -/
def Statement.arraysOfList (known : Text → Nat → Bool) : List Statement → List Text
  | [] => []
  | s :: rest => s.arrays known ++ Statement.arraysOfList known rest

end

namespace Program

/-- Tells of each function which of its parameters are arrays, from what its body does with them and
what the functions that it calls do. -/
def withArrays (p : Program) : Program :=
  let refine (functions : List Function) : List Function :=
    let known (f : Text) (i : Nat) : Bool :=
      match functions.find? (·.name == f) with
      | some g => match g.params[i]? with
        | some x => g.arrays.contains x
        | none => false
      | none => false
    functions.map fun g =>
      let used := g.body.arrays known
      { g with arrays := g.params.filter used.contains }
  { p with functions := Nat.repeat refine (p.functions.length + 1) p.functions }

end Program

end Manpage.Awk
