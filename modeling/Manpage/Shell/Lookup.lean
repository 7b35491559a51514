/-
# What names mean

What the first word of a command means to a shell: a keyword, an alias, a function, a command of the
shell itself, or a program in the directories of the search path.
-/
import Manpage.Shell.Declaring
import Manpage.System.Image

namespace Manpage.Shell

/-! ## 1. The commands of the shells -/

/-- Commands of the shell whose failure ends the small shell. -/
def specialNames : List Text := Reading.reservedNames

/-- The other commands of both shells. -/
def regularNames : List Text :=
  ["alias", "bg", "cd", "command", "echo", "false", "fg", "getopts", "hash", "jobs", "kill", "local",
   "printf", "pwd", "read", "test", "[", "true", "type", "ulimit", "umask", "unalias", "wait"].map
     String.toList

/-- The other commands of one shell. -/
def ownNames : Dialect → List Text
  | .small => ["chdir".toList]
  | .large =>
    ["builtin", "caller", "declare", "dirs", "disown", "enable", "let", "mapfile", "popd", "pushd", "readarray",
     "shopt", "source", "typeset"].map String.toList

/-- Whether a name is that of a command of the shell. -/
def isBuiltin (dialect : Dialect) (name : Text) : Bool :=
  specialNames.contains name || regularNames.contains name || (ownNames dialect).contains name

/-- Whether a name is that of a command whose failure ends the small shell. -/
def isSpecial (dialect : Dialect) (name : Text) : Bool :=
  specialNames.contains name || (dialect == .small && name == "local".toList)

namespace Act

/-! ## 2. Programs -/

/-- The directories in which programs are looked for. -/
def searchPath (st : State) : List Text :=
  Text.cutAt (· == ':') ((textOf? st "PATH".toList).getD [])

/-- The path of a program that is looked for in directories: a file, whether it may be started or
not. -/
def programPath? (files : Files) (st : State) (dirs : List Text) (name : Text) : Option Text :=
  (dirs.map fun dir => Path.join dir name).find? fun path =>
    match files.stat st.cwd (Text.ofOctets path) with
    | .ok (.file mode _) => mode &&& 0o111 != 0
    | _ => false

/-- The directories of the system's own programs. -/
def systemPath : Dialect → List Text
  | .small => ["/usr/bin".toList, "/bin".toList]
  | .large => ["/bin".toList, "/usr/bin".toList]

/-! ## 3. Telling what names mean -/

/-- Aliases in the order in which they are told. -/
def orderedAliases (st : State) : List (Text × Text) :=
  match st.dialect with
  | .small => st.aliases.mergeSort fun a b => placeOf a.1 ≤ placeOf b.1
  | .large => st.aliases.mergeSort fun a b => Paths.inOrder a.1 b.1

/-- An alias as it is told. -/
def aliasText (dialect : Dialect) (name text : Text) : Text :=
  match dialect with
  | .small => name ++ '=' :: Quoting.small text
  | .large => "alias ".toList ++ name ++ '=' :: Quoting.large text

/-- What a name means, in words or as short as it can be told; none if it means nothing. -/
def meaning (name : Text) (verbose : Bool) (dirs : List Text) : Act (Option Text) := do
  let st ← get
  let told (words : String) : Option Text :=
    some (if verbose then name ++ words.toList else name)
  if (keyword? st.dialect name).isSome then return told " is a shell keyword"
  else
    match st.aliases.lookup name with
    | some text =>
      return some (if verbose then
          match st.dialect with
          | .small => name ++ " is an alias for ".toList ++ text
          | .large => name ++ " is aliased to \x60".toList ++ text ++ ['\'']
        else
          match st.dialect with
          | .small => "alias ".toList ++ aliasText .small name text
          | .large => aliasText .large name text)
    | none =>
      let files ← files
      if name.contains '/' then
        let found : Bool := match files.stat st.cwd (Text.ofOctets name) with
          | .ok (.file mode _) => st.dialect == .small || mode &&& 0o111 != 0
          | .ok .directory => st.dialect == .small
          | .error _ => false
        return if found then some (if verbose then name ++ " is ".toList ++ name else name) else none
      else if (st.functions.lookup name).isSome then
        return told (match st.dialect with
          | .small => " is a shell function"
          | .large => " is a function")
      else if isBuiltin st.dialect name then
        return told (if st.dialect = .small ∧ specialNames.contains name then
          " is a special shell builtin" else " is a shell builtin")
      else
        match programPath? files st dirs name with
        | some path => return some (if verbose then name ++ " is ".toList ++ path else path)
        | none => return none

/-- `type`: tells what names mean. -/
def tellTypes (args : List Text) : Act Unit := do
  let large := (← get).dialect == .large
  let (letters, names) ← if large then takeOptions "afptP" "type [-afptP] name [name ...]" args
    else pure ([], args)
  setStatus 0
  for name in names do
    let st ← get
    match ← meaning name true (searchPath st) with
    | some words =>
      if letters.contains 't' then
        let kind := if (keyword? st.dialect name).isSome then "keyword"
          else if (st.functions.lookup name).isSome then "function"
          else if isBuiltin st.dialect name then "builtin" else "file"
        sayLine kind.toList
      else if letters.contains 'p' ∨ letters.contains 'P' then
        match programPath? (← files) st (searchPath st) name with
        | some path => if !isBuiltin st.dialect name ∨ letters.contains 'P' then sayLine path
        | none => pure ()
      else sayLine words
    | none =>
      if large then
        if letters = [] then complain (name ++ ": not found".toList)
        setStatus 1
      else
        sayLine (name ++ ": not found".toList)
        setStatus 127

/-- `command -v` and `command -V`. -/
def tellCommand (verbose : Bool) (dirs : List Text) (names : List Text) : Act Unit := do
  let large := (← get).dialect == .large
  setStatus 0
  let names := if large then names else names.take 1
  let mut found := false
  for name in names do
    match ← meaning name verbose dirs with
    | some words =>
      sayLine words
      found := true
    | none =>
      if large then
        if verbose then complain (name ++ ": not found".toList)
      else if verbose then sayLine (name ++ ": not found".toList)
  if !found ∧ !names.isEmpty then setStatus (if large then 1 else 127)

/-- `hash`: looks programs up. -/
def lookUp (args : List Text) : Act Unit := do
  setStatus 0
  if (← get).dialect = .large ∧ args.isEmpty then sayLine "hash: hash table empty".toList
  for name in args do
    if name.head? ≠ some '-' then
      let st ← get
      let known := isBuiltin st.dialect name || (st.functions.lookup name).isSome
        || (programPath? (← files) st (searchPath st) name).isSome
      if !known then
        complain (name ++ ": not found".toList)
        setStatus 1

/-! ## 4. Aliases -/

/-- `alias`: sets and tells aliases. -/
def setAliases (args : List Text) : Act Unit := do
  setStatus 0
  let args := if args.head? = some "-p".toList then args.drop 1 else args
  if args.isEmpty then
    let st ← get
    say ((orderedAliases st).flatMap fun (n, s) => aliasText st.dialect n s ++ ['\n'])
  for arg in args do
    let (name, value) := cutSetting arg
    let st ← get
    match value with
    | some s => if name ≠ [] then set { st with aliases := putKey name s st.aliases }
    | none =>
      match st.aliases.lookup name with
      | some s => sayLine (aliasText st.dialect name s)
      | none =>
        match st.dialect with
        | .small => errors ("alias: ".toList ++ name ++ " not found\n".toList)
        | .large => complain (name ++ ": not found".toList)
        setStatus 1

/-- `unalias`: forgets aliases. -/
def forgetAliases (args : List Text) : Act Unit := do
  let (letters, names) ← takeOptions "a" "unalias [-a] name [name ...]" args
  setStatus 0
  if letters ≠ [] then modify fun st => { st with aliases := [] }
  for name in names do
    let st ← get
    if (st.aliases.lookup name).isSome then
      set { st with aliases := st.aliases.filter (·.1 != name) }
    else
      match st.dialect with
      | .small => errors ("unalias: ".toList ++ name ++ " not found\n".toList)
      | .large => complain (name ++ ": not found".toList)
      setStatus 1

end Act

end Manpage.Shell
