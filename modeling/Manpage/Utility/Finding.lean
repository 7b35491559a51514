/-
# Finding files

`find` walks through directories and asks a question about everything in them.  The question is built
from tests and actions with `-a`, `-o`, `!`, parentheses and commas; an action is a test too, and does
something while it is asked.
-/
import Manpage.Regex.Reader
import Manpage.Shell.Pattern
import Manpage.Utility.Attributes
import Manpage.Utility.Removing
import Manpage.Utility.Starting

namespace Manpage.Utility

/-! ## 1. Questions -/

/-- A number that another one has to reach: more, less, or as many. -/
structure Measure where
  order : Ordering
  number : Nat
deriving DecidableEq, Repr

/-- Whether a number is as is asked for. -/
def Measure.holds (m : Measure) (n : Nat) : Bool := compare n m.number == m.order

/-- Which bits are asked for: just these, all of these, or some of these. -/
inductive BitsAsked
  | same | all | some
deriving DecidableEq, Repr

/-- A question about a file. -/
inductive Query
  | truth (b : Bool)
  /-- Whether the last name, or the whole path, fits a pattern. -/
  | name (whole : Bool) (pattern : Shell.Pattern) (fold : Bool)
  | path (r : Regex) (fold : Bool)
  | kind (letters : List Char)
  | empty
  | size (m : Measure) (unit : Nat)
  | bits (asked : BitsAsked) (mode : Nat)
  | runnable
  | write (mark : Char)
  | writeAs (format : Text)
  /-- Runs a command with the path in the place of braces, perhaps in the directory of the file. -/
  | run (words : List Text) (inPlace : Bool)
  /-- Keeps the path for a command that is run at the end for all of them. -/
  | keep (command : List Text)
  | delete
  | prune
  | quit
  | not (q : Query)
  | both (q r : Query)
  | either (q r : Query)
  /-- Asks one question and gives the answer to another. -/
  | after (q r : Query)

/-- Whether a question does something that makes writing the path superfluous. -/
def Query.acts : Query → Bool
  | .write _ | .writeAs _ | .run .. | .keep _ | .delete | .quit => true
  | .not q => q.acts
  | .both q r | .either q r | .after q r => q.acts || r.acts
  | _ => false

/-- Whether a question removes files, which is done below a directory first. -/
def Query.deletes : Query → Bool
  | .delete => true
  | .not q => q.deletes
  | .both q r | .either q r | .after q r => q.deletes || r.deletes
  | _ => false

/-! ## 2. Answers -/

/-- Something that is found: where the walk began, its path, how deep it lies, and what it is. -/
structure Found where
  start : Text
  path : Text
  depth : Nat
  location : Location
  entry : Entry

namespace Found

/-- The facts of what is found. -/
def facts (f : Found) : FileFacts := FileFacts.ofEntry f.path f.entry

/-- The path of the directory that holds it. -/
def above (f : Found) : Text :=
  let path := withoutSlashes f.path
  if path.contains '/' then
    let front := (path.reverse.dropWhile (· != '/')).drop 1
    front.reverse
  else ['.']

/-- The letter of its kind. -/
def letter (f : Found) : Char := if f.entry.isDirectory then 'd' else 'f'

/-- What a directive of a format comes to. -/
def value? (f : Found) (d : Printf.Directive) (letter : Char) : Option Text :=
  match letter with
  | 'p' => some (d.text f.path)
  | 'f' => some (d.text (baseName f.path))
  | 'h' => some (d.text f.above)
  | 'H' => some (d.text f.start)
  | 'P' => some (d.text ((f.path.drop f.start.length).dropWhile (· == '/')))
  | 'd' => some ({ d with kind := 'd' }.integer f.depth)
  | 'm' => some (f.facts.value d 'a')
  | 'M' => some (f.facts.value d 'A')
  | 's' => some ({ d with kind := 'd' }.integer f.facts.size)
  | 'k' => some (d.text (Text.ofNat ((f.facts.size + 4095) / 4096 * 4)))
  | 'b' => some (d.text (Text.ofNat ((f.facts.size + 4095) / 4096 * 8)))
  | 'n' => some ({ d with kind := 'd' }.integer 1)
  | 'u' | 'g' => some (d.text "root".toList)
  | 'U' | 'G' => some (d.text ['0'])
  | 'y' | 'Y' => some (d.text [f.letter])
  | 'l' => some (d.text [])
  | '%' => some ['%']
  | _ => none

/-- What a format comes to. -/
def inFormat (f : Found) : (fuel : Nat) → Text → Text
  | 0, _ => []
  | _ + 1, [] => []
  | fuel + 1, '%' :: rest =>
    let flags := rest.takeWhile fun c => "-+ #0".toList.contains c
    let behind := rest.drop flags.length
    let width := behind.takeWhile Char.isDigit
    let behind := behind.drop width.length
    let (precision, behind) := match behind with
      | '.' :: more =>
        let digits := more.takeWhile Char.isDigit
        (some (ofDigits 10 digits), more.drop digits.length)
      | _ => (none, behind)
    match behind with
    | [] => ['%']
    | c :: after =>
      match f.value? ⟨flags, ofDigits 10 width, precision, 's'⟩ c with
      | some s => s ++ inFormat f fuel after
      | none => '%' :: rest.take (rest.length - after.length) ++ inFormat f fuel after
  | fuel + 1, '\\' :: rest =>
    match Printf.escape .program true rest with
    | .chars s rest => s ++ inFormat f fuel rest
    | _ => []
  | fuel + 1, c :: rest => c :: inFormat f fuel rest

end Found

/-- What is known while files are found: whether the walk goes into the directory, whether it has ended,
whether all went well, and the paths that are kept for commands. -/
structure Walk where
  pruned : Bool
  ended : Bool
  fine : Bool
  kept : List (List Text × Text)

/-- What is done during a walk. -/
abbrev Walking := StateT Walk Work

/-- Tells what went wrong and goes on. -/
def Walking.trouble (message : Text) : Walking Unit := do
  monadLift (Work.complain message)
  modify fun w => { w with fine := false }

/-- Runs a command, and tells whether it was fine. -/
def Walking.command (invoke : Invoke) (words : List Text) : Walking Bool := do
  monadLift Work.flush
  match ← monadLift (runChild invoke none words) with
  | .ok (.exited status) => return status == 0
  | .ok .starved => throw .starved
  | .ok (.killed _) => return false
  | .error fault =>
    monadLift (Work.complain (quotedName (words.headD []) ++ ": ".toList ++ fault.wording))
    return false

/-- Asks a question about what is found. -/
def Query.ask (invoke : Invoke) (f : Found) : Query → Walking Bool
  | .truth b => return b
  | .name whole pattern fold =>
    let s := if whole then f.path else baseName f.path
    return Shell.Pattern.fits pattern (if fold then s.map Char.toLower else s)
  | .path r fold =>
    let ends := Regex.ends ⟨f.path.toArray, ⟨fold, false⟩, true⟩ [] r 0
    return ends.contains f.path.length
  | .kind letters => return letters.contains f.letter
  | .empty =>
    match f.entry with
    | .file _ content => return content.isEmpty
    | .directory => return ((← monadLift Work.files).namesIn f.location).isEmpty
  | .size m unit => return m.holds ((f.facts.size + unit - 1) / unit)
  | .bits asked mode =>
    let own := f.facts.mode
    match asked with
    | .same => return own == mode
    | .all => return own &&& mode == mode
    | .some => return mode == 0 || own &&& mode != 0
  | .runnable => return f.facts.mode &&& 0o111 != 0
  | .write mark => do
    monadLift (Work.out (f.path ++ [mark]))
    return true
  | .writeAs format => do
    monadLift (Work.out (f.inFormat (format.length + 1) format))
    return true
  | .run words inPlace => do
    let path := if inPlace then "./".toList ++ baseName f.path else f.path
    let words := words.map fun word => replaceMark "\x7b\x7d".toList path (word.length + 1) word
    if !inPlace then Walking.command invoke words
    else
      let p ← getThe Process
      let above ← monadLift (locate f.above)
      modifyThe Process fun p => { p with cwd := above.toOption.getD p.cwd, cwdPath := inside p.cwdPath f.above }
      let fine ← Walking.command invoke words
      modifyThe Process fun q => { q with cwd := p.cwd, cwdPath := p.cwdPath }
      return fine
  | .keep command => do
    modify fun w => { w with kept := (command, f.path) :: w.kept }
    return true
  | .delete => do
    if !((← monadLift Work.files).namesIn f.location).isEmpty then
      Walking.trouble ("cannot delete ".toList ++ quotedName f.path ++ ": Directory not empty".toList)
      return false
    else if f.path = ['.'] then return true
    else
      modifyThe System fun sys => sys.remove f.location
      return true
  | .prune => do
    modify fun w => { w with pruned := true }
    return true
  | .quit => do
    modify fun w => { w with ended := true }
    return true
  | .not q => do return !(← q.ask invoke f)
  | .both q r => do
    if ← q.ask invoke f then
      if (← get).ended then return false
      r.ask invoke f
    else return false
  | .either q r => do
    if ← q.ask invoke f then return true
    if (← get).ended then return false
    r.ask invoke f
  | .after q r => do
    discard (q.ask invoke f)
    if (← get).ended then return false
    r.ask invoke f

/-! ## 3. Walks -/

/-- How far a walk goes, and whether a directory comes after what it holds. -/
structure Reach where
  least : Nat
  most : Nat
  deepFirst : Bool

/-- Asks about what is found, and about what lies below it. -/
def walk (invoke : Invoke) (reach : Reach) (query : Query) : (fuel : Nat) → Found → Walking Unit
  | 0, _ => pure ()
  | fuel + 1, f => do
    if (← get).ended then return
    modify fun w => { w with pruned := false }
    let asks := decide (reach.least ≤ f.depth)
    if asks && !reach.deepFirst then discard (query.ask invoke f)
    let pruned := (← get).pruned
    if f.entry.isDirectory && !pruned && decide (f.depth < reach.most) then
      let files ← monadLift Work.files
      for name in files.namesIn f.location do
        let location := f.location ++ [name]
        match files.get? location with
        | some entry =>
          walk invoke reach query fuel
            { f with path := inside f.path (Text.octets name), depth := f.depth + 1, location, entry }
        | none => pure ()
    if asks && reach.deepFirst && !(← get).ended then discard (query.ask invoke f)

/-! ## 4. Reading questions -/

/-- A word of a question. -/
inductive QueryToken
  | opening | closing | comma
  | not (written : Text)
  | and (written : Text)
  | or (written : Text)
  | primary (q : Query)

/-- What is read of the arguments: words of a question, and how far the walk goes. -/
structure FindPlan where
  tokens : List QueryToken
  reach : Reach
  emacs : Bool

/-- A measure in an argument. -/
def measure? (s : Text) : Option Measure :=
  let (order, digits) := match s with
    | '+' :: rest => (Ordering.gt, rest)
    | '-' :: rest => (.lt, rest)
    | s => (.eq, s)
  if digits ≠ [] ∧ digits.all Char.isDigit then some ⟨order, ofDigits 10 digits⟩ else none

/-- An expression of the older kind, in which plus signs and question marks have a meaning by themselves. -/
def swappedSigns : Text → Text
  | '\\' :: c :: rest => (if c = '+' ∨ c = '?' then [c] else ['\\', c]) ++ swappedSigns rest
  | c :: rest => (if c = '+' ∨ c = '?' then ['\\', c] else [c]) ++ swappedSigns rest
  | [] => []

/-- The kinds of files in an argument. -/
def kindsOf : Text → Except Text (List Char)
  | [] => .ok []
  | c :: rest => do
    if !"bcdpflsD".toList.contains c then
      .error ("Unknown argument to -type: ".toList ++ [c])
    match rest with
    | [] => return [c]
    | ',' :: more => return c :: (← kindsOf more)
    | _ => .error "Must separate multiple arguments to -type using: ','".toList

/-- A size in an argument. -/
def sizeQuery (s : Text) : Except Text Query :=
  let unit? := s.getLast?.bind fun c => List.lookup c
    [('b', 512), ('c', 1), ('w', 2), ('k', 1024), ('M', 1048576), ('G', 1073741824)]
  match measure? (if unit?.isSome then s.dropLast else s) with
  | some m => .ok (.size m (unit?.getD 512))
  | none => .error (if s.getLast?.any Char.isDigit || unit?.isSome
      then "Invalid argument \x60".toList ++ s ++ "' to -size".toList
      else "invalid -size type \x60".toList ++ (s.getLast?.toList) ++ ['\''])

/-- Permission bits in an argument. -/
def bitsQuery (s : Text) : Except Text Query :=
  let (asked, change) : BitsAsked × Text := match s with
    | '-' :: rest => (.all, rest)
    | '/' :: rest => (.some, rest)
    | s => (.same, s)
  match changeMode 0 false 0 change with
  | some mode => .ok (.bits asked mode)
  | none => .error ("invalid mode ".toList ++ quotedName s)

/-- The words of a command up to its end, and what follows; `true` says that it is run once for all. -/
def commandWords : (behindBraces : Bool) → List Text → Option (List Text × Bool × List Text)
  | _, [] => none
  | behindBraces, word :: rest =>
    if word = [';'] then some ([], false, rest)
    else if word = ['+'] ∧ behindBraces = true then some ([], true, rest)
    else (commandWords (word == "\x7b\x7d".toList) rest).map fun (words, many, more) =>
      (word :: words, many, more)

/-- The tests and actions that take one argument. -/
def withArgument? (emacs : Bool) (name : String) (arg : Text) : Option (Except Text Query) :=
  let pattern (s : Text) : Shell.Pattern :=
    Shell.Pattern.ofMarked ⟨true, false, false⟩ (s.map fun c => (c, false))
  let expression (fold : Bool) : Except Text Query :=
    match (if emacs then Regex.read .basic (swappedSigns arg) else Regex.read ⟨true, true, false⟩ arg) with
    | .ok r => .ok (.path r fold)
    | .error message => .error message
  match name with
  | "-name" => some (.ok (.name false (pattern arg) false))
  | "-iname" => some (.ok (.name false (pattern (arg.map Char.toLower)) true))
  | "-path" | "-wholename" => some (.ok (.name true (pattern arg) false))
  | "-ipath" | "-iwholename" => some (.ok (.name true (pattern (arg.map Char.toLower)) true))
  | "-regex" => some (expression false)
  | "-iregex" => some (expression true)
  | "-type" | "-xtype" => some ((kindsOf arg).map .kind)
  | "-size" => some (sizeQuery arg)
  | "-perm" => some (bitsQuery arg)
  | "-printf" => some (.ok (.writeAs arg))
  | "-user" | "-group" => some (.ok (.truth (arg == "root".toList || arg == ['0'])))
  | "-uid" | "-gid" => some (.ok (.truth ((measure? arg).any (·.holds 0))))
  | "-links" => some (.ok (.truth ((measure? arg).any (·.holds 1))))
  | "-mtime" | "-atime" | "-ctime" => some (.ok (.truth ((measure? arg).any (·.holds 0))))
  | "-mmin" | "-amin" | "-cmin" => some (.ok (.truth ((measure? arg).any (·.holds 1))))
  | _ => none

/-- The tests and actions that take no argument. -/
def withoutArgument? (name : String) : Option Query :=
  match name with
  | "-true" | "-xdev" | "-mount" | "-noleaf" | "-follow" | "-warn" | "-nowarn" | "-readable" | "-writable"
  | "-daystart" | "-ignore_readdir_race" | "-noignore_readdir_race" => some (.truth true)
  | "-false" | "-nouser" | "-nogroup" => some (.truth false)
  | "-empty" => some .empty
  | "-executable" => some .runnable
  | "-print" => some (.write '\n')
  | "-print0" => some (.write '\x00')
  | "-delete" => some .delete
  | "-prune" => some .prune
  | "-quit" => some .quit
  | _ => none

/-- Reads the words of a question; `last` is the word before. -/
def readQuery (plan : FindPlan) : (fuel : Nat) → (last : Text) → List Text → Except Text FindPlan
  | 0, _, _ => .ok plan
  | _ + 1, _, [] => .ok { plan with tokens := plan.tokens.reverse }
  | fuel + 1, last, word :: rest =>
    let go (token : QueryToken) (rest : List Text) : Except Text FindPlan :=
      readQuery { plan with tokens := token :: plan.tokens } fuel word rest
    let missing : Except Text FindPlan :=
      .error ("missing argument to \x60".toList ++ word ++ ['\''])
    let withReach (reach : Reach) (rest : List Text) : Except Text FindPlan :=
      readQuery { plan with reach, tokens := .primary (.truth true) :: plan.tokens } fuel word rest
    match String.ofList word with
    | "(" => go .opening rest
    | ")" => go .closing rest
    | "," => go .comma rest
    | "!" | "-not" => go (.not word) rest
    | "-a" | "-and" => go (.and word) rest
    | "-o" | "-or" => go (.or word) rest
    | "-depth" | "-d" => withReach { plan.reach with deepFirst := true } rest
    | "-maxdepth" | "-mindepth" =>
      match rest with
      | [] => missing
      | n :: rest =>
        if n = [] ∨ n.any (fun c => !c.isDigit) then
          .error ("Expected a positive decimal integer argument to ".toList ++ word ++ ", but got ".toList
            ++ quotedName n)
        else if word = "-maxdepth".toList then withReach { plan.reach with most := ofDigits 10 n } rest
        else withReach { plan.reach with least := ofDigits 10 n } rest
    | "-regextype" =>
      match rest with
      | [] => missing
      | kind :: rest =>
        readQuery { plan with emacs := ["emacs", "findutils-default"].contains (String.ofList kind)
                              tokens := .primary (.truth true) :: plan.tokens } fuel word rest
    | "-exec" | "-execdir" =>
      match commandWords false rest with
      | none | some ([], _, _) => missing
      | some (words, true, rest) => go (.primary (.keep words.dropLast)) rest
      | some (words, false, rest) => go (.primary (.run words (word == "-execdir".toList))) rest
    | name =>
      match withoutArgument? name with
      | some q => go (.primary q) rest
      | none =>
        if (withArgument? plan.emacs name []).isSome then
          match rest with
          | [] => missing
          | arg :: rest =>
            match withArgument? plan.emacs name arg with
            | some (.ok q) => go (.primary q) rest
            | some (.error message) => .error message
            | none => missing
        else if word.head? = some '-' then .error ("unknown predicate \x60".toList ++ word ++ ['\''])
        else .error ("paths must precede expression: \x60".toList ++ word ++ ['\'']
          ++ (if last = [] then [] else '\n' :: last))

mutual

/-- Reads alternatives between commas. -/
def readList : (fuel : Nat) → List QueryToken → Except Text (Query × List QueryToken)
  | 0, _ => .error []
  | fuel + 1, tokens => do
    let (q, rest) ← readEither fuel tokens
    match rest with
    | .comma :: [] => .error "expected an expression after ','".toList
    | .comma :: more =>
      let (r, rest) ← readList fuel more
      return (.after q r, rest)
    | rest => return (q, rest)

/-- Reads questions of which one has to be answered with yes. -/
def readEither : (fuel : Nat) → List QueryToken → Except Text (Query × List QueryToken)
  | 0, _ => .error []
  | fuel + 1, tokens => do
    let (q, rest) ← readBoth fuel tokens
    match rest with
    | .or _ :: more =>
      let (r, rest) ← readEither fuel more
      return (.either q r, rest)
    | rest => return (q, rest)

/-- Reads questions that have all to be answered with yes. -/
def readBoth : (fuel : Nat) → List QueryToken → Except Text (Query × List QueryToken)
  | 0, _ => .error []
  | fuel + 1, tokens => do
    let (q, rest) ← readOne fuel tokens
    match rest with
    | .and _ :: more =>
      let (r, rest) ← readBoth fuel more
      return (.both q r, rest)
    | .primary _ :: _ | .not _ :: _ | .opening :: _ =>
      let (r, rest) ← readBoth fuel rest
      return (.both q r, rest)
    | rest => return (q, rest)

/-- Reads one question. -/
def readOne : (fuel : Nat) → List QueryToken → Except Text (Query × List QueryToken)
  | 0, _ => .error []
  | _ + 1, [] => .error "invalid expression".toList
  | fuel + 1, token :: rest =>
    let nothingBefore (written : Text) : Except Text (Query × List QueryToken) :=
      .error ("invalid expression; you have used a binary operator '".toList ++ written
        ++ "' with nothing before it.".toList)
    match token with
    | .primary q => .ok (q, rest)
    | .not written =>
      if rest.isEmpty then .error ("expected an expression after '".toList ++ written ++ ['\''])
      else do
        let (q, rest) ← readOne fuel rest
        return (.not q, rest)
    | .opening =>
      match rest with
      | .closing :: _ => .error "invalid expression; empty parentheses are not allowed.".toList
      | [] => .error ("invalid expression; I was expecting to find a ')' somewhere but did not see"
          ++ " one.").toList
      | _ => do
        let (q, rest) ← readList fuel rest
        match rest with
        | .closing :: rest => return (q, rest)
        | _ => .error ("invalid expression; I was expecting to find a ')' somewhere but did not see"
            ++ " one.").toList
    | .closing => .error "invalid expression; you have too many ')'".toList
    | .comma => nothingBefore [',']
    | .and written | .or written => nothingBefore written

end

/-- The question of all words; without an action the path is written. -/
def wholeQuery (tokens : List QueryToken) : Except Text Query := do
  if tokens.isEmpty then return .write '\n'
  let (q, rest) ← readList (4 * tokens.length + 8) tokens
  if !rest.isEmpty then .error "you have too many ')'".toList
  return if q.acts then q else .both q (.write '\n')

/-! ## 5. The command -/

/-- `find`: walks through directories. -/
def find (invoke : Invoke) (args : List Text) : Work Nat := do
  for arg in args do
    let word := String.ofList (arg.dropWhile (· == '-'))
    if arg.head? = some '-' then
      answerAbout ⟨[⟨word.toList, none⟩], []⟩ "[-H] [-L] [-P] [-Olevel] [-D debugopts] [path...] [expression]" "4.9"
  let args := args.dropWhile fun arg =>
    ["-H", "-L", "-P"].contains (String.ofList arg) || (arg.take 2 == "-O".toList)
  let isPath (arg : Text) : Bool :=
    arg.head? != some '-' && !(["(", ")", "!"].contains (String.ofList arg))
  let paths := args.takeWhile isPath
  let words := args.drop paths.length
  let plan : FindPlan := ⟨[], ⟨0, 1000, false⟩, true⟩
  let read : Except Text (FindPlan × Query) := do
    let plan ← readQuery plan (words.length + 1) [] words
    return (plan, ← wholeQuery plan.tokens)
  match read with
  | .error message =>
    match Text.cutAt (· == '\n') message with
    | [message, last] =>
      Work.complain message
      -- a word that is a file was perhaps meant as a pattern
      let word := (message.drop "paths must precede expression: \x60".toList.length).dropLast
      match ← Work.stat word with
      | .ok _ => Work.complain ("possible unquoted pattern after predicate \x60".toList ++ last ++ "'?".toList)
      | .error _ => pure ()
    | _ => Work.complain message
    return 1
  | .ok (plan, query) =>
    let reach := if query.deletes then { plan.reach with deepFirst := true } else plan.reach
    let all : Walking Unit := do
      for path in (if paths.isEmpty then [['.']] else paths) do
        match ← monadLift (locate path), ← monadLift (Work.stat path) with
        | .ok location, .ok entry => walk invoke reach query 1000 ⟨path, path, 0, location, entry⟩
        | .error fault, _ | _, .error fault =>
          if !(← get).ended then Walking.trouble (quotedName path ++ ": ".toList ++ fault.wording)
      let kept := (← get).kept.reverse
      for command in (kept.map Prod.fst).eraseDups do
        let own := (kept.filter (·.1 == command)).map Prod.snd
        if !(← Walking.command invoke (command ++ own)) then
          modify fun w => { w with fine := false }
    let (_, walk) ← all.run ⟨false, false, true, []⟩
    return statusOf walk.fine

end Manpage.Utility
