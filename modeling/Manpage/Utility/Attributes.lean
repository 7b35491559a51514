/-
# What is known of files

Changing the permission bits of files, and telling about files in a format.
-/
import Manpage.Utility.Moving
import Manpage.Utility.Permissions
import Manpage.Utility.Printf

namespace Manpage.Utility

/-! ## 1. Permission bits -/

/-- How bits are changed, and which changes are told: all, only real ones, or none. -/
structure ModePlan where
  change : Nat → Bool → Nat → Option Nat
  recursive : Bool
  verbose : Bool
  changes : Bool
  silent : Bool

/-- The bits of a directory; all directories have the same. -/
def directoryMode : Nat := 0o755

/-- Bits in octal and in letters. -/
def shownMode (mode : Nat) : Text :=
  let digits := octalMode mode
  List.replicate (4 - digits.length) '0' ++ digits ++ " (".toList ++ modeLetters mode ++ [')']

/-- Tells that bits have been changed, or have not. -/
def tellMode (plan : ModePlan) (path : Text) (before after : Nat) : Work Unit := do
  if before = after then
    if plan.verbose then
      Work.outLine ("mode of ".toList ++ quotedName path ++ " retained as ".toList ++ shownMode before)
  else if plan.verbose || plan.changes then
    Work.outLine ("mode of ".toList ++ quotedName path ++ " changed from ".toList ++ shownMode before
      ++ " to ".toList ++ shownMode after)

/-- Changes the bits of a file, and of those below a directory if asked for. -/
def changeModes (plan : ModePlan) : (fuel : Nat) → Text → Work Bool
  | 0, _ => return false
  | fuel + 1, path => do
    match ← locate path, ← Work.stat path with
    | .error fault, _ | _, .error fault =>
      if !plan.silent then
        Work.complain ("cannot access ".toList ++ quotedName path ++ ": ".toList ++ fault.wording)
      if plan.verbose then Work.outLine (quotedName path ++ " could not be accessed".toList)
      return false
    | .ok l, .ok e =>
      match e with
      | .file mode content =>
        let changed := (plan.change (← get).umask false mode).getD mode
        putEntryAt l (.file changed content)
        tellMode plan path mode changed
        return true
      | .directory =>
        tellMode plan path directoryMode
          ((plan.change (← get).umask true directoryMode).getD directoryMode)
        let mut fine := true
        if plan.recursive then
          for n in ((← Work.files).namesIn l).map Text.octets do
            if !(← changeModes plan fuel (inside path n)) then fine := false
        return fine

/-- `chmod`: changes permission bits. -/
def chmod (args : List Text) : Work Nat := do
  -- a change that takes bits away looks like options
  let isChange (arg : Text) : Bool := match arg with
    | '-' :: c :: rest => (c :: rest).all fun c => "rwxXstugo,+-=".toList.contains c
    | _ => false
  let change? := args.find? isChange
  let a ← arguments "c:changes f:silent v:verbose R:recursive -:reference= -:quiet -:preserve-root"
    (args.filter fun x => some x ≠ change?) 1 false
  let (change, paths) ← match a.value? "reference", change?, a.operands with
    | some model, _, paths =>
      match ← Work.stat model with
      | .error fault =>
        Work.fail 1 ("failed to get attributes of ".toList ++ quotedName model ++ ": ".toList ++ fault.wording)
      | .ok (.file mode _) => pure (octalMode mode, paths)
      | .ok .directory => pure (octalMode directoryMode, paths)
    | none, some c, paths => pure (c, paths)
    | none, none, [] => misuse 1 "missing operand".toList
    | none, none, c :: paths => pure (c, paths)
  if paths.isEmpty then
    if change?.isSome ∨ a.has "reference" = true then misuse 1 "missing operand".toList
    else misuse 1 ("missing operand after ".toList ++ quotedName change)
  if (changeMode 0 false 0 change).isNone then misuse 1 ("invalid mode: ".toList ++ quotedName change)
  let plan : ModePlan :=
    { change := fun umask isDirectory mode => changeMode umask isDirectory mode change
      recursive := a.has "R", verbose := a.has "v", changes := a.has "c"
      silent := a.has "f" || a.has "quiet" }
  let mut fine := true
  for path in paths do
    if !(← changeModes plan 200 path) then fine := false
  return statusOf fine

/-! ## 2. Telling -/

/-- What can be told about a file. -/
structure FileFacts where
  path : Text
  mode : Nat
  size : Nat
  kind : Text
  isDirectory : Bool

/-- What is known of what a path leads to. -/
def FileFacts.ofEntry (path : Text) (e : Entry) : FileFacts :=
  match e with
  | .directory => ⟨path, directoryMode, 4096, "directory".toList, true⟩
  | .file mode content =>
    ⟨path, mode, content.length,
      (if content.isEmpty then "regular empty file" else "regular file").toList, false⟩

/-- What a directive of a format comes to: a number is written by the kind of its directive. -/
def FileFacts.value (f : FileFacts) (d : Printf.Directive) (letter : Char) : Text :=
  let number (n : Nat) (kind : Char) : Text := { d with kind }.integer n
  match letter with
  | 'n' => d.text f.path
  | 'N' => d.text (quotedName f.path)
  | 'F' => d.text f.kind
  | 'A' => d.text ((if f.isDirectory then 'd' else '-') :: modeLetters f.mode)
  | 'U' | 'G' => d.text "root".toList
  | 'a' => number f.mode 'o'
  | 'f' => number (f.mode + if f.isDirectory then 0o40000 else 0o100000) 'x'
  | 's' => number f.size 'u'
  | 'b' => number ((f.size + 4095) / 4096 * 8) 'u'
  | 'B' => number 512 'u'
  | 'o' => number 4096 'u'
  | 'u' | 'g' => number 0 'u'
  | 't' | 'T' => number 0 'x'
  | 'h' => number 1 'u'
  | _ => ['?']

/-- What a format comes to; escapes have a meaning in some formats. -/
def FileFacts.inFormat (f : FileFacts) (escapes : Bool) : (fuel : Nat) → Text → Text
  | 0, _ => []
  | _ + 1, [] => []
  | fuel + 1, '%' :: rest =>
    let flags := rest.takeWhile fun c => "'-+ #0I".toList.contains c
    let behind := rest.drop flags.length
    let width := behind.takeWhile Char.isDigit
    let behind := behind.drop width.length
    let (precision, behind) := match behind with
      | '.' :: more =>
        let digits := more.takeWhile Char.isDigit
        (some (ofDigits 10 digits), more.drop digits.length)
      | _ => (none, behind)
    match behind with
    | [] => ['%']
    | '%' :: rest => '%' :: inFormat f escapes fuel rest
    | c :: rest => f.value ⟨flags, ofDigits 10 width, precision, 's'⟩ c ++ inFormat f escapes fuel rest
  | fuel + 1, '\\' :: rest =>
    if !escapes then '\\' :: inFormat f escapes fuel rest
    else match Printf.escape .largeShell false rest with
      | .chars s rest => s ++ inFormat f escapes fuel rest
      | _ => []
  | fuel + 1, c :: rest => c :: inFormat f escapes fuel rest

/-- `stat`: tells about files in a format. -/
def stat (args : List Text) : Work Nat := do
  let a ← arguments "c:format= f:file-system L:dereference t:terse -:printf=" args 1 false
  if a.operands.isEmpty then misuse 1 "missing operand".toList
  let escapes := a.lastOf? ["c", "printf"] == some "printf".toList
  let format := (if escapes then a.value? "printf" else a.value? "c").getD []
  let mut fine := true
  for path in a.operands do
    match ← Work.stat path with
    | .error fault =>
      Work.complain ("cannot statx ".toList ++ quotedName path ++ ": ".toList ++ fault.wording)
      fine := false
    | .ok e =>
      let shown := (FileFacts.ofEntry path e).inFormat escapes (format.length + 1) format
      Work.out (if escapes then shown else shown ++ ['\n'])
  return statusOf fine

end Manpage.Utility
