/-
# Places

Where a shell works and which permissions it takes from new files: `cd`, `pwd`, `umask`, and the stack
of directories of the large shell.  The path of the working directory is kept as a text, in which `..`
takes the name before it away.
-/
import Manpage.Shell.Declaring
import Manpage.Utility.Input
import Manpage.Utility.Permissions

namespace Manpage.Shell.Act

/-! ## 1. The working directory -/

/-- Follows the pieces of a path from the names of a directory, as texts. -/
def tidied : (names : List Text) → List Text → List Text
  | names, [] => names
  | names, piece :: rest =>
    if Path.isIdle piece then tidied names rest
    else if piece = ['.', '.'] then tidied names.dropLast rest
    else tidied (names ++ [piece]) rest

/-- The path that a path means in a directory, without dots and slashes that lead nowhere. -/
def tidyPath (dir path : Text) : Text :=
  let whole := if Path.isAbsolute path then path else dir ++ '/' :: path
  let twice := match whole with
    | '/' :: '/' :: c :: _ => c != '/'
    | ['/', '/'] => true
    | _ => false
  (if twice then "//".toList else ['/']) ++ Text.join ['/'] (tidied [] (Path.pieces whole))

/-- Sets a variable that commands are given. -/
def assignExported (name value : Text) : Act Unit := do
  assign name value
  putVariable name { variableOf (← get) name with exported := true }

/-- Goes to a directory, whose path is kept as it is or looked up anew; tells why that cannot be
done. -/
def enter (path : Text) (physical : Bool) : Act (Option SystemFault) := do
  let st ← get
  let dest := if physical then path else tidyPath st.cwdPath path
  let files ← files
  match files.stat st.cwd (Text.ofOctets dest), files.locate st.cwd (Text.ofOctets dest) with
  | .error fault, _ => return some fault
  | _, .error fault => return some fault
  | .ok (.file ..), _ => return some .notDirectory
  | .ok .directory, .ok l =>
    let shown := if physical then tidyPath st.cwdPath path else dest
    set { st with cwd := l, cwdPath := shown }
    assignExported "OLDPWD".toList st.cwdPath
    assignExported "PWD".toList shown
    return none

/-- Whether a path begins with a step that is no name, so that it is not looked for elsewhere. -/
def isExplicit (path : Text) : Bool :=
  match Path.pieces path with
  | first :: _ => Path.isAbsolute path || first == ['.'] || first == ['.', '.']
  | [] => true

/-- The directory below one of a search path that is meant by a name, and whether it is to be told. -/
def elsewhere? (path : Text) : Act (Option (Text × Bool)) := do
  let st ← get
  if isExplicit path then return none
  else
    match textOf? st "CDPATH".toList with
    | none => return none
    | some dirs =>
      let files ← files
      let candidates := (Text.cutAt (· == ':') dirs).map fun dir =>
        if dir = [] then (path, false) else (Path.join dir path, true)
      return candidates.find? fun c => files.isDirectory st.cwd (Text.ofOctets c.1)

/-- `cd`: goes to a directory. -/
def changeDirectory (args : List Text) : Act Unit := do
  let (letters, rest) ← takeOptions "LP" "cd [-L|[-P [-e]] [-@]] [dir]" args
  let st ← get
  let large := st.dialect == .large
  if large ∧ rest.length > 1 then fail "too many arguments".toList
  let physical := letters.getLast? == some 'P'
  let fallback (name : String) : Act Text := do
    match textOf? st name.toList with
    | some s => return s
    | none => if large then fail (name ++ " not set").toList else return []
  let (dest, back) ← match rest with
    | [] => do pure (← fallback "HOME", false)
    | ['-'] :: _ => do pure (← fallback "OLDPWD", true)
    | dest :: _ => pure (dest, false)
  let dest := if dest = [] then ['.'] else dest
  let found ← elsewhere? dest
  let target := (found.map Prod.fst).getD dest
  match ← enter target physical with
  | some fault =>
    if large then fail (dest ++ ": ".toList ++ fault.wording)
    else fail ("can't cd to ".toList ++ dest)
  | none =>
    setStatus 0
    if back ∨ (found.map Prod.snd) = some true then sayLine (← get).cwdPath

/-- `pwd`: tells the working directory. -/
def tellDirectory (args : List Text) : Act Unit := do
  discard (takeOptions "LP" "pwd [-LP]" args)
  setStatus 0
  sayLine (← get).cwdPath

/-! ## 2. Permissions of new files -/

/-- A mask as the permissions that it leaves. -/
def maskLetters (mask : Nat) : Text :=
  let left := 0o777 &&& (0o777 ^^^ mask)
  let three (who : Char) (shift : Nat) : Text :=
    let b := left >>> shift &&& 7
    [who, '='] ++ (if b &&& 4 != 0 then ['r'] else []) ++ (if b &&& 2 != 0 then ['w'] else [])
      ++ (if b &&& 1 != 0 then ['x'] else [])
  three 'u' 6 ++ ',' :: three 'g' 3 ++ ',' :: three 'o' 0

/-- `umask`: tells or sets the permissions that new files do not get. -/
def setMask (args : List Text) : Act Unit := do
  let (letters, rest) ← takeOptions "Sp" "umask [-p] [-S] [mode]" args
  let st ← get
  setStatus 0
  match rest with
  | [] =>
    if letters.contains 'S' then sayLine (maskLetters st.umask)
    else
      let digits := Nat.toDigits 8 st.umask
      sayLine (List.replicate (4 - digits.length) '0' ++ digits)
  | change :: _ =>
    if change.head?.any Char.isDigit then
      if change.all fun c => '0' ≤ c && c ≤ '7' then
        set { st with umask := Utility.ofDigits 8 change % 0o1000 }
      else
        match st.dialect with
        | .small => fail ("Illegal number: ".toList ++ change)
        | .large => fail (change ++ ": octal number out of range".toList)
    else
      match Utility.changeMode 0 false (0o777 ^^^ st.umask) change with
      | some mode => set { st with umask := (0o777 ^^^ mode) % 0o1000 }
      | none =>
        match st.dialect with
        | .small => fail ("Illegal mode: ".toList ++ change)
        | .large => fail ("\x60".toList ++ change.take 1 ++ "': invalid symbolic mode operator".toList)

/-! ## 3. The stack of directories -/

/-- Where the stack of directories is kept: all but the working directory. -/
def stackName : Text := "DIRSTACK".toList

/-- A path with the home directory as a tilde. -/
def shortened (st : State) (path : Text) : Text :=
  match textOf? st "HOME".toList with
  | some home =>
    if home ≠ [] ∧ path = home then ['~']
    else
      match (home ++ ['/']).isPrefixOf? path with
      | some rest => if home = [] then path else '~' :: '/' :: rest
      | none => path
  | none => path

/-- `dirs`: tells the stack of directories. -/
def tellStack (args : List Text) : Act Unit := do
  let st ← get
  let stack := st.cwdPath :: (variableOf st stackName).all
  setStatus 0
  let texts := if args.contains "-l".toList then stack else stack.map (shortened st)
  if args.contains "-c".toList then assignValue stackName (.list [])
  else if args.contains "-v".toList then
    for (n, path) in (List.range texts.length).zip texts do
      sayLine (Utility.alignRight 2 (Text.ofNat n) ++ "  ".toList ++ path)
  else if args.contains "-p".toList then
    for path in texts do sayLine path
  else sayLine (Text.join [' '] texts)

/-- Replaces the stack of directories. -/
def putStack (stack : List Text) : Act Unit :=
  assignValue stackName (.list ((List.range stack.length).zip stack))

/-- `pushd`: goes to a directory, and keeps the one before on a stack. -/
def pushDirectory (args : List Text) : Act Unit := do
  let st ← get
  let stack := (variableOf st stackName).all
  setStatus 0
  match args, stack with
  | [], [] => fail "no other directory".toList
  | [], top :: rest =>
    match ← enter top false with
    | some fault => fail (top ++ ": ".toList ++ fault.wording)
    | none =>
      putStack (st.cwdPath :: rest)
      tellStack []
  | dest :: _, _ =>
    match ← enter dest false with
    | some fault => fail (dest ++ ": ".toList ++ fault.wording)
    | none =>
      putStack (st.cwdPath :: stack)
      tellStack []

/-- `popd`: goes back to the directory on the top of the stack. -/
def popDirectory : Act Unit := do
  setStatus 0
  match (variableOf (← get) stackName).all with
  | [] => fail "directory stack empty".toList
  | top :: rest =>
    match ← enter top false with
    | some fault => fail (top ++ ": ".toList ++ fault.wording)
    | none =>
      putStack rest
      tellStack []

end Manpage.Shell.Act
