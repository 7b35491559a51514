/-
# Settings of a shell

The options of a shell and its parameters: `set`, `shift`, `getopts`, and the features of the large
shell.
-/
import Manpage.Shell.Declaring
import Manpage.Utility.Input

namespace Manpage.Shell.Act

/-! ## 1. Options -/

/-- The names and letters of the options; letters that cannot be written stand for options that have
none. -/
def optionNames : Dialect → List (String × Char)
  | .small =>
    [("errexit", 'e'), ("noglob", 'f'), ("ignoreeof", 'I'), ("interactive", 'i'), ("monitor", 'm'),
     ("noexec", 'n'), ("stdin", 's'), ("xtrace", 'x'), ("verbose", 'v'), ("vi", 'V'), ("emacs", 'E'),
     ("noclobber", 'C'), ("allexport", 'a'), ("notify", 'b'), ("nounset", 'u'), ("nolog", '1'),
     ("debug", '2')]
  | .large =>
    [("allexport", 'a'), ("braceexpand", 'B'), ("emacs", '1'), ("errexit", 'e'), ("errtrace", 'E'),
     ("functrace", 'T'), ("hashall", 'h'), ("histexpand", 'H'), ("history", '2'), ("ignoreeof", '3'),
     ("interactive-comments", '4'), ("keyword", 'k'), ("monitor", 'm'), ("noclobber", 'C'),
     ("noexec", 'n'), ("noglob", 'f'), ("nolog", '5'), ("notify", 'b'), ("nounset", 'u'),
     ("onecmd", 't'), ("physical", 'P'), ("pipefail", '6'), ("posix", '7'), ("privileged", 'p'),
     ("verbose", 'v'), ("vi", '8'), ("xtrace", 'x')]

/-- The letter that stands for the failure of a pipeline with any of its stages. -/
def pipefailLetter : Char := '6'

/-- The letters that can be written. -/
def writtenLetters (dialect : Dialect) : List Char :=
  ((optionNames dialect).map Prod.snd).filter fun c => !c.isDigit

/-- Whether an option is on, by its letter. -/
def isOn (st : State) (c : Char) : Bool :=
  if st.dialect = .large ∧ c = pipefailLetter then st.pipefail
  else if st.dialect = .large ∧ c = '4' then true
  else st.options.contains c

/-- Turns an option on or off. -/
def turn (c : Char) (on : Bool) : Act Unit := do
  let st ← get
  if st.dialect = .large ∧ c = pipefailLetter then set { st with pipefail := on }
  else if st.dialect = .small ∧ c = 'm' ∧ on = true then
    complain "can't access tty; job control turned off".toList
  else
    let others := st.options.filter (· != c)
    set { st with options := if on then c :: others else others }

/-- Tells all options. -/
def tellOptions (asCommands : Bool) : Act Unit := do
  let st ← get
  if !asCommands ∧ st.dialect = .small then sayLine "Current option settings".toList
  for (name, c) in optionNames st.dialect do
    let on := isOn st c
    if asCommands then
      sayLine ("set ".toList ++ (if on then "-o ".toList else "+o ".toList) ++ name.toList)
    else
      let state := if on then "on".toList else "off".toList
      match st.dialect with
      | .small => sayLine (Utility.alignLeft 16 name.toList ++ state)
      | .large => sayLine (Utility.alignLeft 15 name.toList ++ '\t' :: state)

/-- Refuses an option. -/
def refuseOption {α : Type} (sign c : Char) : Act α := do
  match (← get).dialect with
  | .small => fail ("Illegal option ".toList ++ ['-', c])
  | .large =>
    complain ([sign, c] ++ ": invalid option".toList)
    errors "set: usage: set [-abefhkmnptuvxBCEHPT] [-o option-name] [--] [-] [arg ...]\n".toList
    setStatus 2
    throw .failed

/-- Turns an option on or off by name. -/
def turnNamed (name : Text) (on : Bool) : Act Unit := do
  let st ← get
  match (optionNames st.dialect).find? fun o => o.1.toList == name with
  | some (_, c) => turn c on
  | none =>
    match st.dialect with
    | .small => fail ("Illegal option -o ".toList ++ name)
    | .large =>
      complain (name ++ ": invalid option name".toList)
      setStatus 2
      throw .failed

/-- Takes the letters of a word of options; tells which arguments are left. -/
def takeLetters (on : Bool) : Text → (rest : List Text) → Act (List Text)
  | [], rest => return rest
  | 'o' :: letters, rest => do
    match rest with
    | [] => tellOptions (!on)
    | name :: _ => turnNamed name on
    takeLetters on letters (rest.drop 1)
  | c :: letters, rest => do
    if (writtenLetters (← get).dialect).contains c then
      turn c on
      takeLetters on letters rest
    else refuseOption (if on then '-' else '+') c

/-- Takes options off the front of arguments; tells the parameters that follow, if there are any. -/
def takeSettings : (fuel : Nat) → List Text → Act (Option (List Text))
  | 0, _ => return none
  | _ + 1, [] => return none
  | fuel + 1, arg :: rest => do
    match arg with
    | ['-'] =>
      turn 'x' false
      turn 'v' false
      return if rest.isEmpty then none else some rest
    | ['-', '-'] => return some rest
    | '-' :: letters =>
      let rest ← takeLetters true letters rest
      takeSettings fuel rest
    | '+' :: letters =>
      let rest ← takeLetters false letters rest
      takeSettings fuel rest
    | _ => return some (arg :: rest)

/-- Sets the parameters. -/
def setParams (params : List Text) : Act Unit := modify fun st =>
  { st with params, optionIndex := 1, optionPlace := 0 }

/-- `set`: sets options and parameters, or tells all variables. -/
def setOptions (args : List Text) : Act Unit := do
  setStatus 0
  if args.isEmpty then
    let st ← get
    let mut shown : Text := []
    for (name, v) in sortedVariables st do
      match v.text? with
      | some s =>
        let value := match st.dialect with
          | .small => Quoting.small s
          | .large => if s = [] then [] else Quoting.largeIfNeeded s
        shown := shown ++ name ++ '=' :: value ++ ['\n']
      | none => pure ()
    say shown
  else
    match ← takeSettings (args.length + 1) args with
    | some params => setParams params
    | none => pure ()

/-! ## 2. Parameters -/

/-- `shift`: drops parameters. -/
def shift (args : List Text) : Act Unit := do
  let st ← get
  setStatus 0
  let n ← match args with
    | [] => pure 1
    | s :: _ =>
      if st.dialect = .large ∧ s.head? = some '-' ∧ (s.drop 1).all Char.isDigit then
        fail (s ++ ": shift count out of range".toList)
      else if st.dialect = .large ∧ !(s.all Char.isDigit) then
        fail (s ++ ": numeric argument required".toList)
      else numberArgument s
  if st.params.length < n then
    match st.dialect with
    | .small => fail "can't shift that many".toList
    | .large => setStatus 1
  else
    modify fun st => { st with params := st.params.drop n }
    if st.dialect = .small then
      modify fun st => { st with optionIndex := 1, optionPlace := 0 }

/-- What a letter of an option is to `getopts`. -/
inductive Letter
  | unknown
  | bare
  | valued

/-- Looks a letter up in the letters that are known. -/
def letterOf (c : Char) : Text → Letter
  | [] => .unknown
  | d :: ':' :: rest => if d = c then .valued else letterOf c rest
  | d :: rest => if d = c then .bare else letterOf c rest

/-- `getopts`: takes the next option of the parameters. -/
def takeOption (args : List Text) : Act Unit := do
  let st ← get
  let large := st.dialect == .large
  match args with
  | known :: name :: given =>
    let words := if given.isEmpty then st.params else given
    let (index, place) :=
      if words.length + 1 < st.optionIndex then (1, 0) else (st.optionIndex, st.optionPlace)
    let quiet := known.head? == some ':'
    let current := if index ≤ 1 ∨ place = 0 then [] else (words[index - 2]?.getD []).drop place
    -- the letters that are left, how many letters were before them, and the next word
    let found : Option (Text × Nat × Nat) :=
      if current ≠ [] then some (current, place, index)
      else
        match words[index - 1]? with
        | some ('-' :: c :: letters) =>
          if c = '-' ∧ letters = [] then none else some (c :: letters, 1, index + 1)
        | _ => none
    let finish (letter : Char) (place next : Nat) (done : Bool) : Act Unit := do
      let shown := if large ∧ place ≠ 0 then next - 1 else next
      assign "OPTIND".toList (Text.ofNat shown)
      if !isName name then
        match st.dialect with
        | .small => fail (name ++ ": bad variable name".toList)
        | .large => fail ("\x60".toList ++ name ++ "': not a valid identifier".toList)
      assign name [letter]
      modify fun st => { st with optionIndex := next, optionPlace := place }
      setStatus (if done then 1 else 0)
    match found with
    | none =>
      let isEnd := words[index - 1]? == some ['-', '-']
      if large then unset "OPTARG".toList
      finish '?' 0 (if isEnd then index + 1 else index) true
    | some ([], _, next) => finish '?' 0 next true
    | some (c :: letters, before, next) =>
      let place := if letters = [] then 0 else before + 1
      let kind := if c = ':' then Letter.unknown else letterOf c (if quiet then known.drop 1 else known)
      match kind with
      | .unknown =>
        if quiet then assign "OPTARG".toList [c]
        else
          if large then errors (st.name ++ ": illegal option -- ".toList ++ [c, '\n'])
          else errors ("Illegal option -".toList ++ [c, '\n'])
          unset "OPTARG".toList
        finish '?' place next false
      | .bare =>
        if large then unset "OPTARG".toList else assign "OPTARG".toList []
        finish c place next false
      | .valued =>
        match letters, words[next - 1]? with
        | [], none =>
          if quiet then
            assign "OPTARG".toList [c]
            finish ':' 0 next false
          else
            if large then
              errors (st.name ++ ": option requires an argument -- ".toList ++ [c, '\n'])
            else errors ("No arg for -".toList ++ c :: " option\n".toList)
            unset "OPTARG".toList
            finish '?' 0 next false
        | [], some value =>
          assign "OPTARG".toList value
          finish c 0 (next + 1) false
        | letters, _ =>
          assign "OPTARG".toList letters
          finish c 0 next false
  | _ =>
    match st.dialect with
    | .small => fail "Usage: getopts optstring var [arg...]".toList
    | .large =>
      errors "getopts: usage: getopts optstring name [arg ...]\n".toList
      setStatus 2
      throw .failed

/-! ## 3. Features of the large shell -/

/-- The names of the features. -/
def featureNames : List Text :=
  ["autocd", "assoc_expand_once", "cdable_vars", "cdspell", "checkhash", "checkjobs", "checkwinsize",
   "cmdhist", "compat31", "compat32", "compat40", "compat41", "compat42", "compat43", "compat44",
   "complete_fullquote", "direxpand", "dirspell", "dotglob", "execfail", "expand_aliases", "extdebug",
   "extglob", "extquote", "failglob", "force_fignore", "globasciiranges", "globskipdots", "globstar",
   "gnu_errfmt", "histappend", "histreedit", "histverify", "hostcomplete", "huponexit",
   "inherit_errexit", "interactive_comments", "lastpipe", "lithist", "localvar_inherit",
   "localvar_unset", "login_shell", "mailwarn", "no_empty_cmd_completion", "nocaseglob",
   "nocasematch", "noexpand_translation", "nullglob", "patsub_replacement", "progcomp",
   "progcomp_alias", "promptvars", "restricted_shell", "shift_verbose", "sourcepath",
   "varredir_close", "xpg_echo"].map String.toList

/-- A feature as it is told: as a command that would set it, or with its state. -/
def featureText (asCommand : Bool) (name : Text) (on : Bool) : Text :=
  if asCommand then "shopt -".toList ++ (if on then 's' else 'u') :: ' ' :: name ++ ['\n']
  else Utility.alignLeft 15 name ++ '\t' :: (if on then "on".toList else "off".toList) ++ ['\n']

/-- `shopt`: turns features on or off. -/
def setFeatures (args : List Text) : Act Unit := do
  let (letters, names) ← takeOptions "pqsuo" "shopt [-pqsu] [-o] [optname ...]" args
  setStatus 0
  if names.isEmpty ∧ letters.contains 'o' then tellOptions (letters.contains 'p')
  else if names.isEmpty then
    let features := (← get).features
    say ((featureNames.filter fun name =>
        (!letters.contains 's' || features.contains name)
          && (!letters.contains 'u' || !features.contains name)).flatMap fun name =>
      featureText (letters.contains 'p') name (features.contains name))
  for name in names do
    let st ← get
    if letters.contains 'o' then turnNamed name (!letters.contains 'u')
    else if !featureNames.contains name then
      complain (name ++ ": invalid shell option name".toList)
      setStatus 1
    else
      let on := st.features.contains name
      let others := st.features.filter (· != name)
      if letters.contains 's' then set { st with features := name :: others }
      else if letters.contains 'u' then set { st with features := others }
      else
        if !on then setStatus 1
        if !letters.contains 'q' then say (featureText (letters.contains 'p') name on)

/-- `let`: reckons. -/
def reckon (args : List Text) : Act Unit := do
  if args.isEmpty then fail "expression expected".toList
  let mut last : Int := 0
  for arg in args do
    match ← calculate arg with
    | .ok n => last := n
    | .error failure =>
      complain failure.largeWording
      setStatus 1
      throw .failed
  setStatus (if last = 0 then 1 else 0)

/-! ## 4. Limits -/

/-- `ulimit`: tells limits, and takes new ones without heeding them. -/
def limits (args : List Text) : Act Unit := do
  let letters := args.flatMap fun arg => match arg with
    | '-' :: letters => letters
    | _ => []
  let values := args.filter fun arg => arg.head? != some '-'
  setStatus 0
  match values with
  | value :: _ =>
    if !(value.all Char.isDigit) ∧ value ≠ "unlimited".toList then
      match (← get).dialect with
      | .small => fail "bad number".toList
      | .large => fail (value ++ ": invalid number".toList)
  | [] =>
    if letters.contains 'c' then sayLine ['0']
    else if letters.contains 'n' then sayLine "1048576".toList
    else if letters.contains 's' then sayLine "8192".toList
    else sayLine "unlimited".toList

/-- `times`: tells how long the shell has worked. -/
def tellTimes : Act Unit := do
  setStatus 0
  let line := match (← get).dialect with
    | .small => "0m0.000000s 0m0.000000s".toList
    | .large => "0m0.000s 0m0.000s".toList
  sayLine line
  sayLine line

end Manpage.Shell.Act
