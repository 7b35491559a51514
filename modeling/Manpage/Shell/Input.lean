/-
# Reading lines into variables

`read` takes a line of the input and cuts it into fields, of which the last takes all that is left.  A
backslash protects a character, and joins the next line to this one.  `mapfile` takes all lines.
-/
import Manpage.Shell.Declaring
import Manpage.Utility.Input

namespace Manpage.Shell.Act

/-! ## 1. Fields of a line -/

/-- The last field of a line: all that is left, without white space at its end, and without the
separator that ends it if nothing else follows.  `kept` is how much of it is known to stay, `size` how
much has been seen, and `white` that white space has been seen behind it. -/
def lastFieldSize (separators : Text) : (seen : Bool) → (white : Bool) → (size : Nat) →
    (cut : Option Nat) → List Marked → Option Nat
  | _, _, _, cut, [] => cut
  | seen, white, size, cut, (c, quoted) :: rest =>
    let separates := !quoted && separators.contains c
    let blank := separates && Atom.isWhite c
    if !seen then
      if separates then lastFieldSize separators true blank (size + 1) (some size) rest
      else lastFieldSize separators false false (size + 1) none rest
    else if blank then
      lastFieldSize separators true white (size + 1) (some (cut.getD size)) rest
    else
      let cut := if separates && white then cut else none
      lastFieldSize separators true false (size + 1) cut rest

/-- The last field of a line. -/
def lastField (separators : Text) (s : List Marked) : Text :=
  match lastFieldSize separators false false 0 none s with
  | some n => Paths.textOf (s.take n)
  | none => Paths.textOf s

/-- Takes separators off the front: white space, and one other separator if a field went before. -/
def skipSeparators (separators : Text) : (inside : Bool) → List Marked → List Marked
  | inside, (c, quoted) :: rest =>
    if !quoted && separators.contains c then
      if Atom.isWhite c then skipSeparators separators inside rest
      else if inside then skipSeparators separators false rest
      else (c, quoted) :: rest
    else (c, quoted) :: rest
  | _, [] => []

/-- Cuts a line into at most so many fields. -/
def lineFields (separators : Text) : (count : Nat) → (after : Bool) → List Marked → List Text
  | 0, _, _ => []
  | count + 1, after, s =>
    let s := skipSeparators separators after s
    if s.isEmpty then []
    else if count = 0 then [lastField separators s]
    else
      let field := s.takeWhile fun (c, quoted) => quoted || !separators.contains c
      let rest := s.drop field.length
      match rest with
      | [] => [Paths.textOf field]
      | (c, _) :: more =>
        Paths.textOf field :: lineFields separators count (Atom.isWhite c) more

/-! ## 2. Lines of the input -/

/-- Marks the characters that a backslash protects; tells whether the line goes on with the next. -/
def unescape : List Char → List Marked × Bool
  | [] => ([], false)
  | ['\\'] => ([], true)
  | '\\' :: c :: rest =>
    let (more, joined) := unescape rest
    ((c, true) :: more, joined)
  | c :: rest =>
    let (more, joined) := unescape rest
    ((c, false) :: more, joined)

/-- Takes a line from a channel; tells whether it was ended. -/
def takeLine (c : Nat) : Act (Except SystemFault (Text × Bool)) := do
  match (← system).nextLine c with
  | .error fault => return .error fault
  | .ok (line, ended, cut) =>
    if !ended ∧ cut then throw .starved
    modifySystem fun sys => sys.advance c (line.length + (if ended then 1 else 0))
    return .ok (line.filter (· != '\x00'), ended)

/-- Takes a line with its marks, and the lines that are joined to it. -/
def takeMarkedLine (c : Nat) (raw : Bool) : (fuel : Nat) → Act (Except SystemFault (List Marked × Bool))
  | 0 => return .ok ([], false)
  | fuel + 1 => do
    match ← takeLine c with
    | .error fault => return .error fault
    | .ok (line, ended) =>
      if raw then return .ok (line.map fun c => (c, false), ended)
      else
        let (marked, joined) := unescape line
        if joined && ended then
          match ← takeMarkedLine c raw fuel with
          | .error fault => return .error fault
          | .ok (more, ended) => return .ok (marked ++ more, ended)
        else return .ok (marked, ended)

/-- Sets variables to the fields of a line. -/
def setFields (names fields : List Text) : Act Unit := do
  match names with
  | [] => pure ()
  | name :: rest =>
    if !isName (name.takeWhile (· != '[')) then
      match (← get).dialect with
      | .small => fail (name ++ ": bad variable name".toList)
      | .large =>
        complain ("\x60".toList ++ name ++ "': not a valid identifier".toList)
        setStatus 1
        throw .failed
    assign name (fields.headD [])
    setFields rest (fields.drop 1)

/-- The options in front of the arguments of `read`: the letters with their values, and the rest.
What is not known is an error. -/
def readOptions (bare valued : String) : (fuel : Nat) → List Text →
    Except (Char × Bool) (List (Char × Text) × List Text)
  | 0, args => .ok ([], args)
  | _ + 1, ['-', '-'] :: rest => .ok ([], rest)
  | fuel + 1, ('-' :: c :: letters) :: rest =>
    if bare.toList.contains c then do
      let (more, rest) ←
        readOptions bare valued fuel (if letters = [] then rest else ('-' :: letters) :: rest)
      return ((c, []) :: more, rest)
    else if valued.toList.contains c then
      match letters, rest with
      | [], [] => .error (c, true)
      | [], value :: rest => do
        let (more, rest) ← readOptions bare valued fuel rest
        return ((c, value) :: more, rest)
      | letters, rest => do
        let (more, rest) ← readOptions bare valued fuel rest
        return ((c, letters) :: more, rest)
    else .error (c, false)
  | _ + 1, args => .ok ([], args)

/-- How many steps the options of arguments may take. -/
def optionFuel (args : List Text) : Nat := (args.map List.length).foldl (· + ·) (args.length + 1)

/-- `read` of the small shell. -/
def readSmall (args : List Text) : Act Unit := do
  match readOptions "r" "p" (optionFuel args) args with
  | .error (c, true) => fail ("No arg for -".toList ++ [c] ++ " option".toList)
  | .error (c, false) => fail ("Illegal option -".toList ++ [c])
  | .ok (options, names) =>
    let raw := options.any (·.1 == 'r')
    if names.isEmpty then fail "arg count".toList
    match (← get).fds.lookup 0 with
    | none =>
      setStatus 1
      setFields names []
    | some c =>
      match ← takeMarkedLine c raw 100000 with
      | .error _ =>
        setFields names []
        setStatus 1
      | .ok (line, ended) =>
        let st ← get
        setFields names (lineFields (separators st) names.length false line)
        setStatus (if ended then 0 else 1)

/-! ## 3. The large shell -/

/-- Takes characters from a channel up to a mark, or a number of them; tells whether the mark or the
number was reached. -/
def takeUpTo (c : Nat) (mark : Option Char) (limit : Option Nat) (raw : Bool) :
    Act (Except SystemFault (List Marked × Bool)) := do
  match (← system).available c with
  | .error fault => return .error fault
  | .ok (text, cut) =>
    let rec go : Text → (taken : Nat) → (room : Option Nat) → List Marked × Nat × Bool
      | [], n, _ => ([], n, false)
      | ch :: rest, n, room =>
        if room = some 0 then ([], n, true)
        else if some ch = mark then ([], n + 1, true)
        else
          match raw, ch, rest with
          | false, '\\', d :: rest =>
            if d = '\n' then go rest (n + 2) room
            else
              let (more, m, ended) := go rest (n + 2) (room.map (· - 1))
              ((d, true) :: more, m, ended)
          | _, _, rest =>
            let (more, m, ended) := go rest (n + 1) (room.map (· - 1))
            ((ch, false) :: more, m, ended)
    let (found, n, ended) := go text 0 limit
    if !ended ∧ cut then throw .starved
    modifySystem fun sys => sys.advance c n
    return .ok (found.filter (·.1 != (Char.ofNat 0)), ended || limit == some 0)

/-- `read` of the large shell. -/
def readLarge (args : List Text) : Act Unit := do
  let usage := "read: usage: read [-ers] [-a array] [-d delim] [-i text] [-n nchars] [-N nchars] [-p prompt] [-t timeout] [-u fd] [name ...]\n"
  match readOptions "ers" "adinNptu" (optionFuel args) args with
  | .error (c, missing) =>
    complain ('-' :: c :: (if missing then ": option requires an argument".toList
      else ": invalid option".toList))
    errors usage.toList
    setStatus 2
    throw .failed
  | .ok (options, names) =>
    let value? (c : Char) : Option Text := (options.reverse.find? (·.1 == c)).map (·.2)
    let has (c : Char) : Bool := options.any (·.1 == c)
    let number (c : Char) : Act (Option Nat) := do
      match value? c with
      | none => return none
      | some s =>
        if s ≠ [] ∧ s.all Char.isDigit then return some (Utility.ofDigits 10 s)
        else
          complain (s ++ (if c = 'u' then ": invalid file descriptor specification".toList
            else ": invalid number".toList))
          setStatus 1
          throw .failed
    let fd := (← number 'u').getD 0
    let limit ← number 'n'
    let exact ← number 'N'
    let raw := has 'r'
    let mark := match value? 'd' with
      | some (c :: _) => some c
      | some [] => some (Char.ofNat 0)
      | none => some '\n'
    for name in names do
      if !isName (name.takeWhile (· != '[')) then
        complain ("\x60".toList ++ name ++ "': not a valid identifier".toList)
        setStatus 1
        throw .failed
    match (← get).fds.lookup fd with
    | none =>
      complain (if has 'u' then Text.ofNat fd ++ ": invalid file descriptor: Bad file descriptor".toList
        else "read error: 0: Bad file descriptor".toList)
      setStatus 1
    | some c =>
      let result ← match exact, limit with
        | some n, _ => takeUpTo c none (some n) raw
        | none, some n => takeUpTo c mark (some n) raw
        | none, none => if mark = some '\n' then takeMarkedLine c raw 100000 else takeUpTo c mark none raw
      match result with
      | .error fault =>
        complain ("read error: ".toList ++ Text.ofNat fd ++ ": ".toList ++ fault.wording)
        setStatus 1
      | .ok (line, ended) =>
        let st ← get
        setStatus (if ended then 0 else 1)
        match value? 'a' with
        | some name =>
          let items := lineFields (separators st) (line.length + 1) false line
          let all := match items.getLast? with
            | some [] => items.dropLast
            | _ => items
          assignValue name (.list ((List.range all.length).zip all))
        | none =>
          if names.isEmpty then assign "REPLY".toList (Paths.textOf line)
          else if exact.isSome then setFields names [Paths.textOf line]
          else setFields names (lineFields (separators st) names.length false line)

/-- `mapfile`: takes the lines of the input as a list of values. -/
def takeLines (args : List Text) : Act Unit := do
  match readOptions "t" "dnOsuCc" (optionFuel args) args with
  | .error (c, _) =>
    complain ('-' :: c :: ": invalid option".toList)
    errors ((((← get).speaker).getD []) ++ ": usage: ".toList ++ (((← get).speaker).getD [])
      ++ " [-d delim] [-n count] [-O origin] [-s count] [-t] [-u fd] [-C callback] [-c quantum] [array]\n".toList)
    setStatus 2
    throw .failed
  | .ok (options, names) =>
    let value? (c : Char) : Option Text := (options.reverse.find? (·.1 == c)).map (·.2)
    let number (c : Char) : Nat := ((value? c).map (Utility.ofDigits 10)).getD 0
    let mark := match value? 'd' with
      | some (c :: _) => c
      | some [] => (Char.ofNat 0)
      | none => '\n'
    let name := names.headD "MAPFILE".toList
    match (← get).fds.lookup (number 'u') with
    | none => setStatus 1
    | some c =>
      match (← system).available c with
      | .error fault =>
        complain ("read error: ".toList ++ Text.ofNat (number 'u') ++ ": ".toList ++ fault.wording)
        setStatus 1
      | .ok (text, cut) =>
        if cut then throw .starved
        let all := Utility.cutRecords mark text
        let wanted := all.drop (number 's')
        let wanted := if number 'n' = 0 then wanted else wanted.take (number 'n')
        let used := all.take (number 's' + wanted.length)
        modifySystem fun sys => sys.advance c used.flatten.length
        let items := if options.any (·.1 == 't') then
            wanted.map fun line => if line.getLast? = some mark then line.dropLast else line
          else wanted
        let start := number 'O'
        let before := match (variableOf (← get) name).value with
          | .list old => if (value? 'O').isSome then old else []
          | _ => []
        let made := (List.range items.length).foldl
          (fun made i => putAt (start + i) (items[i]?.getD []) made) before
        assignValue name (.list made)
        setStatus 0

end Manpage.Shell.Act
