/-
# Declaring variables

The commands of the shell that declare variables: such as commands are given, such as may not be
changed, such as a function has for itself, and those that are to be forgotten.
-/
import Manpage.Shell.Expansion

namespace Manpage.Shell.Act

/-! ## 1. Options of the commands of the shell -/

/-- The letters of the options in front of arguments, of which some are known, and the rest. -/
def shellOptions (known : String) : List Text → Except Char (List Char × List Text)
  | [] => .ok ([], [])
  | arg :: rest =>
    match arg with
    | ['-', '-'] => .ok ([], rest)
    | '-' :: c :: letters => do
      let all := c :: letters
      match all.find? fun l => !known.toList.contains l with
      | some l => .error l
      | none =>
        let (more, rest) ← shellOptions known rest
        return (all ++ more, rest)
    | _ => .ok ([], arg :: rest)

/-- Reads the options of a command of the shell, or fails. -/
def takeOptions (known usage : String) (args : List Text) : Act (List Char × List Text) := do
  match shellOptions known args with
  | .ok found => return found
  | .error c =>
    match (← get).dialect with
    | .small => fail ("Illegal option -".toList ++ [c])
    | .large =>
      complain ("-".toList ++ [c] ++ ": invalid option".toList)
      errors ((((← get).speaker).getD []) ++ ": usage: ".toList ++ usage.toList ++ ['\n'])
      setStatus 2
      throw .failed

/-- A whole number that is not negative, with white space around it. -/
def wholeNumber? (s : Text) : Option Nat :=
  let isWhite (c : Char) : Bool := c == ' ' || ('\t' ≤ c && c ≤ '\r')
  let body := s.dropWhile isWhite
  let (negative, body) := match body with
    | '-' :: rest => (true, rest)
    | '+' :: rest => (false, rest)
    | rest => (false, rest)
  let digits := body.takeWhile Char.isDigit
  let n := Utility.ofDigits 10 digits
  if digits ≠ [] ∧ (body.drop digits.length).all isWhite ∧ (n = 0 ∨ negative = false) ∧ n < Nat.pow 2 31 then
    some n
  else none

/-- A number in an argument. -/
def numberArgument (s : Text) : Act Nat := do
  let found := match (← get).dialect with
    | .small => wholeNumber? s
    | .large => if s ≠ [] ∧ s.all Char.isDigit then some (Utility.ofDigits 10 s) else none
  match found, (← get).dialect with
  | some n, _ => return n
  | none, .small => fail ("Illegal number: ".toList ++ s)
  | none, .large =>
    complain (s ++ ": numeric argument required".toList)
    setStatus 2
    throw .failed

/-! ## 2. The small shell -/

/-- Refuses a name that is not one of a variable. -/
def checkName (name : Text) : Act Unit := do
  if !isName name then fail (name ++ ": bad variable name".toList)

/-- A name and a value, cut at the first equals sign. -/
def cutSetting (s : Text) : Text × Option Text :=
  let name := s.takeWhile (· != '=')
  (name, if name.length < s.length then some (s.drop (name.length + 1)) else none)

/-- Variables in the order of their names. -/
def sortedVariables (st : State) : List (Text × Variable) :=
  st.bindings.mergeSort fun a b => Paths.inOrder a.1 b.1

/-- Shows the variables that are marked in some way, as commands that would mark them again. -/
def showMarked (command : Text) (marked : Variable → Bool) : Act Unit := do
  let mut shown : Text := []
  for (name, v) in sortedVariables (← get) do
    if marked v then
      let value := match v.text? with
        | some s => '=' :: Quoting.small s
        | none => []
      shown := shown ++ command ++ ' ' :: name ++ value ++ ['\n']
  say shown

/-- `export` and `readonly` of the small shell. -/
def markVariables (readonly : Bool) (args : List Text) : Act Unit := do
  let (letters, rest) ← takeOptions "p" "" args
  let command := if readonly then "readonly".toList else "export".toList
  if rest.isEmpty ∨ letters ≠ [] then
    showMarked command fun v => if readonly then v.fixed else v.exported
  else
    for arg in rest do
      let (name, value) := cutSetting arg
      checkName name
      match value with
      | some s => assign name s
      | none => pure ()
      let v := variableOf (← get) name
      putVariable name (if readonly then { v with fixed := true } else { v with exported := true })
  setStatus 0

/-- `local` of the small shell: the variables keep their values until they are set. -/
def makeLocal (args : List Text) : Act Unit := do
  if (← get).locals.isEmpty then fail "not in a function".toList
  for arg in args do
    if arg ≠ ['-'] then
      let (name, value) := cutSetting arg
      checkName name
      keep name
      match value with
      | some s => assign name s
      | none => pure ()
  setStatus 0

/-- `unset`: forgets variables or functions. -/
def forget (args : List Text) : Act Unit := do
  let (letters, names) ← takeOptions "vfn" "unset [-f] [-v] [-n] [name ...]" args
  let large := (← get).dialect == .large
  setStatus 0
  for name in names do
    let st ← get
    let isFunction := (st.functions.lookup name).isSome
    let isVariable := (st.bindings.lookup name).isSome
    if letters.getLast? = some 'f' ∨
        (large = true ∧ letters = [] ∧ isVariable = false ∧ isFunction = true) then
      set { st with functions := st.functions.filter (·.1 != name) }
    else if large then
      let plain := name.takeWhile (· != '[')
      if plain.length < name.length then
        let index := (name.drop (plain.length + 1)).dropLast
        let v := variableOf st plain
        let value := match v.value with
          | .list items =>
            let last := (items.getLast?.map (·.1)).getD 0
            let n := match indexNumber? index with
              | some i => if i < 0 then (i + last + 1).toNat else i.toNat
              | none => 0
            if index = ['@'] ∨ index = ['*'] then Value.unset
            else .list (items.filter fun (x : Nat × Text) => x.1 != n)
          | .keyed items => .keyed (items.filter fun (x : Text × Text) => x.1 != index)
          | value => value
        putVariable plain { v with value }
      else
        match ← attempt (unset name) with
        | none => pure ()
        | some .failed => pure ()
        | some flow => throw flow
    else
      checkName name
      unset name

/-! ## 3. Showing commands -/

/-- An assignment as it is shown: what is set and to what, which may stand as it was written. -/
structure Shown where
  target : Text
  value : Text
  asWritten : Bool

/-- The lines that show assignments and the words of a command. -/
def Shown.words (dialect : Dialect) (assigns : List Shown) (ws : List Text) : List Text :=
  match dialect with
  | .small => [Text.join [' '] (assigns.map (fun a => a.target ++ a.value) ++ ws)]
  | .large =>
    assigns.map (fun a => a.target ++ (if a.asWritten then a.value
        else if a.value = [] then [] else Quoting.shown a.value))
      ++ (if ws.isEmpty then [] else [Text.join [' '] (ws.map Quoting.shown)])

/-- What lines begin with that show commands.  The large shell repeats its first character for each
text that is being run inside another. -/
def traceStart (e : Engine) : Act Text := do
  let st ← get
  let source := (textOf? st "PS4".toList).getD "+ ".toList
  match Reader.wordOf st.dialect source with
  | .error _ => return source
  | .ok w =>
    let start ← textOfWord e w
    return match st.dialect, start with
      | .large, c :: rest => List.replicate (st.nesting + 1) c ++ rest
      | _, start => start

/-- Shows commands before they are run, if that has been asked for. -/
def trace (e : Engine) (lines : List Text) : Act Unit := do
  let st ← get
  if st.options.contains 'x' && !st.showing then
    set { st with showing := true }
    let start ← traceStart e
    modify fun after => { after with showing := false, status := st.status }
    for line in lines do errors (start ++ line ++ ['\n'])

/-! ## 4. The large shell -/

/-- What a declaration makes of variables. -/
structure Declaration where
  letters : List Char
  /-- The letters that are taken back. -/
  off : List Char
  isLocal : Bool

/-- The options of a declaration, and the arguments behind them. -/
def declarationOptions : List Text → List Char × List Char × List Text
  | arg :: rest =>
    match arg with
    | ['-', '-'] => ([], [], rest)
    | '-' :: c :: letters =>
      let (on, off, rest) := declarationOptions rest
      (c :: letters ++ on, off, rest)
    | '+' :: c :: letters =>
      let (on, off, rest) := declarationOptions rest
      (on, c :: letters ++ off, rest)
    | _ => ([], [], arg :: rest)
  | [] => ([], [], [])

/-- A variable with the marks of a declaration. -/
def Declaration.mark (d : Declaration) (v : Variable) : Variable :=
  let on (c : Char) (before : Bool) : Bool :=
    if d.letters.contains c then true else if d.off.contains c then false else before
  let value := match v.value with
    | .unset =>
      if d.letters.contains 'A' then Value.keyed []
      else if d.letters.contains 'a' then .list [] else .unset
    | .text s => if d.letters.contains 'a' then .list [(0, s)] else v.value
    | value => value
  { value
    exported := on 'x' v.exported
    fixed := v.fixed
    whole := on 'i' v.whole
    letters := if d.letters.contains 'u' then some true else if d.letters.contains 'l' then some false
      else v.letters }

/-- A declaration of a variable without a value, which stands in an argument. -/
def declareName (d : Declaration) (name argument : Text) : Act Unit := do
  if !isName name then
    complain ("\x60".toList ++ argument ++ "': not a valid identifier".toList)
    setStatus 1
  else
    if d.isLocal then
      let known := match (← get).locals with
        | frame :: _ => (frame.lookup name).isSome
        | [] => true
      if !known then
        keep name
        let v := variableOf (← get) name
        putVariable name { Variable.none with exported := v.exported }
    putVariable name (d.mark (variableOf (← get) name))

/-- Fixes a variable if the declaration says so. -/
def declareEnd (d : Declaration) (name : Text) : Act Unit := do
  if d.letters.contains 'r' then
    putVariable name { variableOf (← get) name with fixed := true }

/-- How the large shell declares a variable. -/
def declarationText (name : Text) (v : Variable) : Text :=
  let marks := (match v.value with
      | .list _ => ['a']
      | .keyed _ => ['A']
      | _ => []) ++ (if v.whole then ['i'] else []) ++ (if v.fixed then ['r'] else [])
    ++ (if v.exported then ['x'] else [])
  let value := match v.value with
    | .unset => []
    | .text s => '=' :: Quoting.declared s
    | .list items =>
      "=(".toList ++ Text.join [' '] (items.map fun (n, s) =>
        '[' :: Text.ofNat n ++ "]=".toList ++ Quoting.declared s) ++ [')']
    | .keyed items =>
      "=(".toList ++ (items.flatMap fun (k, s) =>
        '[' :: Quoting.largeIfNeeded k ++ "]=".toList ++ Quoting.declared s ++ [' ']) ++ [')']
  "declare -".toList ++ (if marks = [] then ['-'] else marks) ++ ' ' :: name ++ value

/-- Shows variables as declarations. -/
def showDeclarations (wanted : Variable → Bool) : Act Unit := do
  let mut shown : Text := []
  for (name, v) in sortedVariables (← get) do
    if wanted v then shown := shown ++ declarationText name v ++ ['\n']
  say shown

/-- Shows some variables as declarations. -/
def showNamed (names : List Text) : Act Unit := do
  setStatus 0
  for name in names do
    match (← get).bindings.lookup name with
    | some v => sayLine (declarationText name v)
    | none =>
      complain (name ++ ": not found".toList)
      setStatus 1

/-- Sets a variable to a text, as its declaration says. -/
def assignDeclared (name value : Text) (append : Bool) : Act Unit := do
  let st ← get
  let v := variableOf st name
  if v.whole then
    let before := if append then (v.text?.getD ['0']) ++ "+".toList else []
    match ← calculate (before ++ value) with
    | .ok n => assign name (numberText n)
    | .error failure => failArithmetic failure
  else
    let before := if append then v.text?.getD [] else []
    assign name (before ++ value)

/-- A list of values from words. -/
def listValue (e : Engine) (before : Value) (items : List (Option Word × Word)) : Act Value := do
  match before with
  | .keyed old =>
    let mut made := old
    for (index, w) in items do
      let value ← valueOfWord e w
      match index with
      | some i => made := putKey (← textOfWord e i) value made
      | none => made := putKey value [] made
    return .keyed made
  | _ =>
    let mut made : List (Nat × Text) := match before with
      | .list old => old
      | .text s => [(0, s)]
      | _ => []
    let mut next := (made.getLast?.map (·.1 + 1)).getD 0
    for (index, w) in items do
      match index with
      | some i =>
        let n := (← numberOfWord e i).toNat
        made := putAt n (← valueOfWord e w) made
        next := n + 1
      | none =>
        for s in ← fieldsOfWord e w do
          made := putAt next s made
          next := next + 1
    return .list made

/-- Sets a variable, or one of its values, to a text. -/
def assignText (e : Engine) (name : Text) (index : Option Word) (append : Bool) (value : Text) :
    Act Unit := do
  match index with
  | none =>
    match (← get).dialect with
    | .small => assign name value
    | .large => assignDeclared name value append
  | some i =>
    let index ← indexText (words e) name i
    let st ← get
    let v := variableOf st name
    let index := match v.value, indexNumber? index with
      | .list items, some n =>
        if n < 0 then numberText (n + ((items.getLast?.map (·.1 + 1)).getD 0 : Nat)) else index
      | _, _ => index
    let before := if append then (valueAt v index).getD [] else []
    let value ← if v.whole then do
        match ← calculate value with
        | .ok n => pure (numberText n)
        | .error failure => failArithmetic failure
      else pure value
    assignAt name index (before ++ value)

/-- The left side of an assignment, for showing it. -/
def shownTarget : Assignment → Text
  | .mk name index append _ =>
    name ++ (match index with
      | some i => '[' :: shownIndex i ++ [']']
      | none => []) ++ (if append then "+=".toList else ['='])

/-- Makes an assignment, and gives it as it is shown; `tell` is done before the variable is set. -/
def makeAssignment (e : Engine) (tell : Shown → Act Unit) (a : Assignment) : Act Shown := do
  match a with
  | .mk name index append (.text w) =>
    let value ← valueOfWord e w
    let shown : Shown := ⟨shownTarget a, value, false⟩
    tell shown
    assignText e name index append value
    return shown
  | .mk name _ append (.list items shown) =>
    let v := variableOf (← get) name
    let start := match v.value with
      | .keyed old => Value.keyed (if append then old else [])
      | value => if append then value else .unset
    let shown : Shown := ⟨shownTarget a, shown, true⟩
    tell shown
    assignValue name (← listValue e start items)
    return shown

/-- An argument of a declaration whose words have been expanded. -/
inductive Declared
  | word (s : Text)
  | set (a : Assignment) (name : Text) (index : Option Word) (append : Bool) (value : Text)
  | list (a : Assignment) (name : Text)

/-- Expands the arguments of a declaration: an assignment does not fall apart. -/
def declaredArguments (e : Engine) : List Word → Act (List Declared)
  | [] => return []
  | w :: rest => do
    let here ← match Reading.assignment? .large w with
      | some a =>
        let .mk name index append value := a
        match value with
        | .text v => do pure [Declared.set a name index append (← valueOfWord e v)]
        | .list .. => pure [Declared.list a name]
      | none => do pure ((← fieldsOfWord e w).map Declared.word)
    return here ++ (← declaredArguments e rest)

/-- An argument of a declaration as it is shown. -/
def Declared.shown : Declared → Text
  | .word s => s
  | .set a _ _ _ value => shownTarget a ++ value
  | .list _ name => name

/-- Refuses to declare a variable that may not be changed; the command is named if `named` holds. -/
def refuseDeclared (named : Bool) (name : Text) : Act Unit := do
  let st ← get
  if !named then set { st with speaker := none }
  complain (name ++ ": readonly variable".toList)
  modify fun now => { now with speaker := st.speaker }
  setStatus 1

/-- Makes the declaration of an argument.  `inPassing` says that the values are set in passing, as if by
assignments of their own. -/
def declareOne (e : Engine) (d : Declaration) (inPassing : Bool) : Declared → Act Unit
  | .set a name index append value => do
    if inPassing then trace e (Shown.words .large [⟨shownTarget a, value, false⟩] [])
    if (variableOf (← get) name).fixed then refuseDeclared (!inPassing) name
    else
      declareName d name name
      assignText e name index append value
      declareEnd d name
  | .list a name => do
    if (variableOf (← get) name).fixed then refuseDeclared (!inPassing) name
    else
      declareName d name name
      discard (makeAssignment e (fun _ => pure ()) a)
      declareEnd d name
  | .word s => do
    let (name, value) := cutSetting s
    if inPassing && value.isSome then
      trace e (Shown.words .large [⟨name ++ ['='], value.getD [], false⟩] [])
    if (variableOf (← get) name).fixed && (value.isSome || d.isLocal) then
      refuseDeclared (!inPassing) name
    else
      declareName d name s
      if isName name then
        match value with
        | some s => assignDeclared name s false
        | none => pure ()
        declareEnd d name

/-- The functions of a shell as declarations of their names. -/
def functionNames (st : State) : Text :=
  ((st.functions.map Prod.fst).mergeSort Paths.inOrder).flatMap fun name =>
    "declare -f ".toList ++ name ++ ['\n']

/-- `declare`, `local`, `readonly` and `export` of the large shell, with options and other arguments. -/
def declareWords (e : Engine) (command : Text) (letters : List Text) (rest : List Declared) :
    Act Unit := do
  let (on, off, more) := declarationOptions letters
  trace e (Shown.words .large [] (command :: letters ++ rest.map Declared.shown))
  let name := String.ofList command
  let on := if name = "readonly" then 'r' :: on else if name = "export" then 'x' :: on else on
  let isLocal := (name = "local" ∨ name = "declare" ∨ name = "typeset") ∧
    !(← get).locals.isEmpty ∧ !on.contains 'g'
  if name = "local" ∧ (← get).locals.isEmpty then
    complain "can only be used in a function".toList
    setStatus 1
    throw .failed
  let (on, off) := if name = "export" ∧ on.contains 'n' then
      (on.filter (fun c => c != 'x' && c != 'n'), 'x' :: off)
    else (on, off)
  let d : Declaration := ⟨on, off, isLocal⟩
  setStatus 0
  if (on.contains 'f' ∨ on.contains 'F') ∧ rest.isEmpty then
    if on.contains 'F' then say (functionNames (← get))
  else if on.contains 'f' ∨ on.contains 'F' then
    for name in rest.map Declared.shown do
      if ((← get).functions.lookup name).isNone then setStatus 1
      else if on.contains 'F' then sayLine name
  else if on.contains 'p' ∧ !rest.isEmpty then
    if name ≠ "export" ∧ name ≠ "readonly" then showNamed (rest.map Declared.shown)
  else if rest.isEmpty ∧ more.isEmpty then
    if !isLocal then
      showDeclarations fun v =>
        (!on.contains 'x' || v.exported) && (!on.contains 'r' || v.fixed)
  else
    for argument in rest do
      declareOne e d (name == "readonly" || name == "export") argument

end Manpage.Shell.Act
