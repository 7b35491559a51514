/-
# Making files

New directories, empty files, further names, files of a size, files with new names, and copies with
permission bits.
-/
import Manpage.Utility.Dates
import Manpage.Utility.Moving
import Manpage.Utility.Permissions

namespace Manpage.Utility

/-! ## 1. Directories and names -/

/-- Makes a directory with those above it that are missing; tells which have been made, with a verb. -/
def makeWithAbove : (fuel : Nat) → (verb : Option String) → Text → Work Bool
  | 0, _, _ => return false
  | fuel + 1, verb, path => do
    if ← Work.isDirectory path then return true
    let above := dirName path
    let fine ← if above = ['.'] ∨ above = path then pure true else makeWithAbove fuel verb above
    if !fine then return false
    match (← Work.files).makeDirectory (← get).cwd (Text.ofOctets path) with
    | .ok files =>
      modifyThe System fun sys => { sys with files }
      match verb with
      | some verb =>
        Work.outLine ((← get).name ++ ": ".toList ++ verb.toList ++ " directory ".toList ++ quotedName path)
      | none => pure ()
      return true
    | .error fault =>
      let found ← Work.stat path
      let fault : SystemFault := match found, fault with
        | .ok (.file ..), .exists => if fuel = 199 then SystemFault.exists else SystemFault.notDirectory
        | _, fault => fault
      Work.complain ("cannot create directory ".toList ++ quotedName path ++ ": ".toList ++ fault.wording)
      return false

/-- `mkdir`: makes directories. -/
def mkdir (args : List Text) : Work Nat := do
  let a ← arguments "m:mode= p:parents v:verbose Z:context?" args 1 false
  if a.operands.isEmpty then misuse 1 "missing operand".toList
  match a.value? "m" with
  | some m =>
    if (changeMode (← get).umask true 0o777 m).isNone then
      Work.fail 1 ("invalid mode ".toList ++ quotedWord m)
  | none => pure ()
  let mut fine := true
  for path in a.operands do
    if a.has "p" then
      if !(← makeWithAbove 200 (if a.has "v" then some "created" else none) path) then fine := false
    else
      match (← Work.files).makeDirectory (← get).cwd (Text.ofOctets path) with
      | .ok files =>
        modifyThe System fun sys => { sys with files }
        if a.has "v" then Work.outLine ("mkdir: created directory ".toList ++ quotedName path)
      | .error fault =>
        Work.complain ("cannot create directory ".toList ++ quotedName path ++ ": ".toList ++ fault.wording)
        fine := false
  return statusOf fine

/-- `touch`: makes empty files. -/
def touch (args : List Text) : Work Nat := do
  let a ← arguments "a c:no-create d:date= f h:no-dereference m r:reference= t= -:time=" args 1 false
  let isMoment (s : Text) : Bool :=
    s.isEmpty || (moment? s).isSome || (["yesterday", "tomorrow"].map String.toList).contains s
  for s in a.values "d" do
    if !isMoment s then Work.fail 1 ("invalid date format ".toList ++ quotedName s)
  for s in a.values "t" do
    let digits := s.takeWhile Char.isDigit
    if digits.length % 2 = 1 ∨ digits.length < 8 ∨ 12 < digits.length then
      Work.fail 1 ("invalid date format ".toList ++ quotedName s)
  for model in a.values "r" do
    match ← Work.stat model with
    | .ok _ => pure ()
    | .error fault =>
      Work.fail 1 ("failed to get attributes of ".toList ++ quotedName model ++ ": ".toList ++ fault.wording)
  if a.operands.isEmpty then misuse 1 "missing file operand".toList
  let mut fine := true
  for path in a.operands do
    match ← Work.stat path with
    | .ok _ => pure ()
    | .error fault =>
      if fault = .notFound ∧ a.has "c" = true then pure ()
      else
        let p ← get
        match (← getThe System).openToWrite p.cwd (Text.ofOctets path) .output (← newMode 0o666) false false with
        | .ok (_, sys) => set sys
        | .error fault =>
          let fault := if path.getLast? = some '/' then SystemFault.notFound else fault
          Work.complain ("cannot touch ".toList ++ quotedName path ++ ": ".toList ++ fault.wording)
          fine := false
  return statusOf fine

/-- `ln`: gives files further names. -/
def ln (args : List Text) : Work Nat := do
  let a ← arguments ("b d f:force i:interactive L:logical n:no-dereference P:physical r:relative"
    ++ " s:symbolic S:suffix= t:target-directory= T:no-target-directory v:verbose") args 1 false
  let a := match a.operands with
    | [one] => { a with operands := [one, "./".toList ++ baseName one] }
    | _ => a
  let mut fine := true
  if a.operands.isEmpty then misuse 1 "missing file operand".toList
  let tell (source target : Text) : Work Unit := do
    if a.has "v" then
      Work.outLine (quotedName target ++ (if a.has "s" then " -> " else " => ").toList ++ quotedName source)
  for (source, target) in ← pairsOf a do
    match ← locate source, ← Work.stat source with
    | .error fault, _ | _, .error fault =>
      if a.has "s" then tell source target
      else
        Work.complain ("failed to access ".toList ++ quotedName source ++ ": ".toList ++ fault.wording)
        fine := false
    | .ok l, .ok e =>
      match e with
      | .directory =>
        if a.has "s" then tell source target
        else
          Work.complain (shownName source ++ ": hard link not allowed for directory".toList)
          fine := false
      | .file mode content =>
        match (← Work.files).place (← get).cwd (Text.ofOctets target) with
        | .ok (.entry dir name false) =>
          let l' := dir ++ [name]
          if ((← Work.files).get? l').isSome && !a.has "f" then
            Work.complain ((if a.has "s" then "failed to create symbolic link " else
              "failed to create hard link ").toList ++ quotedName target ++ ": File exists".toList)
            fine := false
          else
            if l' ≠ l then putEntryAt l' (.file mode content)
            tell source target
        | .ok _ =>
          Work.complain ("failed to create hard link ".toList ++ quotedName target
            ++ ": No such file or directory".toList)
          fine := false
        | .error fault =>
          Work.complain ("failed to create hard link ".toList ++ quotedName target ++ ": ".toList
            ++ fault.wording)
          fine := false
  return statusOf fine

/-! ## 2. Sizes and contents -/

/-- `truncate`: cuts files to a size, or fills them up to it. -/
def truncate (args : List Text) : Work Nat := do
  let a ← arguments "c:no-create o:io-blocks r:reference= s:size=" args 1 false
  match a.value? "s", a.value? "r" with
  | none, none => misuse 1 "you must specify either '--size' or '--reference'".toList
  | size?, model? =>
    let size := (size?.getD "+0".toList).dropWhile fun c => c == ' ' || c == '\t'
    let (sign, digits) : Option Char × Text := match size with
      | c :: rest => if "+-<>/%".toList.contains c then (some c, rest) else (none, size)
      | [] => (none, [])
    let n ← match (digits.takeWhile Char.isDigit), countOf? digits with
      | [], _ | _, none => Work.fail 1 ("Invalid number: ".toList ++ quotedWord digits)
      | _, some n =>
        if Nat.pow 2 63 ≤ n then
          Work.fail 1 ("Invalid number: ".toList ++ quotedWord digits
            ++ ": Value too large for defined data type".toList)
        else pure n
    if (sign = some '/' ∨ sign = some '%') ∧ n = 0 then Work.fail 1 "division by zero".toList
    if model?.isSome ∧ sign.isNone then
      misuse 1 "you must specify a relative '--size' with '--reference'".toList
    if a.operands.isEmpty then misuse 1 "missing file operand".toList
    let model : Option Nat ← match model? with
      | none => pure none
      | some path =>
        match ← Work.stat path with
        | .ok (.file _ content) => pure (some content.length)
        | .ok .directory => pure (some 4096)
        | .error fault =>
          Work.fail 1 ("cannot stat ".toList ++ quotedName path ++ ": ".toList ++ fault.wording)
    let mut fine := true
    for path in a.operands do
      let there ← Work.stat path
      match there, a.has "c" with
      | .error .notFound, true => pure ()
      | .ok .directory, _ =>
        Work.complain ("cannot open ".toList ++ quotedName path ++ " for writing: Is a directory".toList)
        fine := false
      | _, _ =>
        let (mode, content) ← match there with
          | .ok (.file mode content) => pure (mode, content)
          | _ => do pure (← newMode 0o666, [])
        let size := model.getD content.length
        let wanted := match sign with
          | some '+' => size + n
          | some '-' => size - n
          | some '<' => min size n
          | some '>' => max size n
          | some '/' => size / n * n
          | some '%' => (size + n - 1) / n * n
          | _ => n
        if greatestSize < wanted then
          Work.complain ("failed to truncate ".toList ++ quotedName path ++ " at ".toList ++ Text.ofNat wanted
            ++ " bytes: File too large".toList)
          fine := false
        else
        let fitted := content.take wanted ++ List.replicate (wanted - content.length) 0
        if !(← copyFile true mode fitted path) then fine := false
    return statusOf fine
where
  /-- No file is made longer than this. -/
  greatestSize : Nat := Nat.pow 2 26

/-- `mktemp`: makes a file or a directory with a new name. -/
def mktemp (args : List Text) : Work Nat := do
  let a ← arguments "d:directory u:dry-run q:quiet p= -:tmpdir? t -:suffix=" args 1 false
  if 1 < a.operands.length then misuse 1 "too many templates".toList
  let whole := a.operands.headD "tmp.XXXXXXXXXX".toList
  let template ← match a.value? "suffix" with
    | some _ =>
      if whole.getLast? ≠ some 'X' then
        Work.fail 1 ("with --suffix, template ".toList ++ quotedWord whole ++ " must end in X".toList)
      pure whole
    | none => pure (whole.reverse.dropWhile (· != 'X')).reverse
  let suffix := (a.value? "suffix").getD (whole.drop template.length)
  if suffix.contains '/' then
    Work.fail 1 ("invalid suffix ".toList ++ quotedWord suffix ++ ", contains directory separator".toList)
  let marks := (template.reverse.takeWhile (· == 'X')).length
  if marks < 3 then
    Work.fail 1 ("too few X's in template ".toList ++ quotedWord (template ++ suffix))
  let usual := (← Work.binding? "TMPDIR".toList).getD "/tmp".toList
  let chosen := (a.value? "p").orElse fun _ => a.value? "tmpdir"
  let dir ← if a.has "t" then
      if template.contains '/' then
        Work.fail 1 ("invalid template, ".toList ++ quotedWord template
          ++ ", contains directory separator".toList)
      pure (some ((← Work.binding? "TMPDIR".toList).getD (chosen.getD "/tmp".toList)))
    else if a.operands.isEmpty || a.has "p" || a.has "tmpdir" then
      if template.head? = some '/' then
        Work.fail 1 ("invalid template, ".toList ++ quotedWord template
          ++ "; with --tmpdir, it may not be absolute".toList)
      pure (some (match chosen with
        | some (c :: rest) => c :: rest
        | _ => usual))
    else pure none
  let refuse (what : String) (fault : SystemFault) : Work Nat := do
    if a.has "q" then throw (.exited 1)
    let shown := match dir with
      | some d => inside d (template ++ suffix)
      | none => template ++ suffix
    Work.fail 1 (("failed to create " ++ what ++ " via template ").toList ++ quotedWord shown
      ++ ": ".toList ++ fault.wording)
  let stem := template.take (template.length - marks)
  let letters := "abcdefghijklmnopqrstuvwxyz0123456789".toList
  let sys ← getThe System
  let p ← get
  let candidate (n : Nat) : Text :=
    let tail := (List.range marks).map fun i => (letters[(n / Nat.pow 36 i + 7 * i + n) % 36]?).getD 'a'
    let name := stem ++ tail ++ suffix
    match dir with
    | some d => inside d name
    | none => name
  let free := ((List.range (sys.files.entries.length + 2)).map fun k => candidate (sys.lastPid + k)).find?
    fun path => !(sys.files.exists? p.cwd (Text.ofOctets path))
  let path := free.getD (candidate 0)
  if !a.has "u" then
    if a.has "d" then
      match sys.files.makeDirectory p.cwd (Text.ofOctets path) with
      | .ok files => set { sys with files }
      | .error fault => discard (refuse "directory" fault)
    else
      match sys.openToWrite p.cwd (Text.ofOctets path) .output 0o600 false true with
      | .ok (_, sys) => set sys
      | .error fault => discard (refuse "file" fault)
  Work.outLine path
  return 0

/-- `install`: copies files with permission bits, or makes directories. -/
def install (args : List Text) : Work Nat := do
  let a ← arguments ("b c C:compare d:directory D g:group= m:mode= o:owner= p:preserve-timestamps s:strip"
    ++ " S:suffix= t:target-directory= T:no-target-directory v:verbose") args 1 false
  let bits ← match a.value? "m" with
    | none => pure 0o755
    | some change =>
      match changeMode 0 false 0 change with
      | some bits => pure bits
      | none =>
        if a.operands.isEmpty then misuse 1 "missing file operand".toList
        else Work.fail 1 ("invalid mode ".toList ++ quotedWord change)
  let verb := if a.has "v" then some "creating" else none
  let mut fine := true
  if a.has "d" then
    if a.operands.isEmpty then misuse 1 "missing file operand".toList
    for path in a.operands do
      if !(← makeWithAbove 200 verb path) then fine := false
    return statusOf fine
  match a.value? "t" with
  | some dir =>
    match ← Work.stat dir with
    | .error fault =>
      if !a.has "D" then
        Work.fail 1 ("failed to access ".toList ++ quotedName dir ++ ": ".toList ++ fault.wording)
      else discard (makeWithAbove 200 verb dir)
    | .ok _ => pure ()
  | none => pure ()
  for (source, target) in ← pairsOf a do
    if a.has "D" then discard (makeWithAbove 200 verb (dirName target))
    match ← Work.stat source with
    | .error fault =>
      Work.complain ("cannot stat ".toList ++ quotedName source ++ ": ".toList ++ fault.wording)
      fine := false
    | .ok .directory =>
      Work.complain ("omitting directory ".toList ++ quotedName source)
      fine := false
    | .ok (.file _ content) =>
      if ← Work.isDirectory target then
        Work.complain ("cannot overwrite directory ".toList ++ quotedName target ++ " with non-directory".toList)
        fine := false
      else if (← locate source).toOption == (← locate target).toOption then
        Work.complain (quotedName source ++ " and ".toList ++ quotedName target ++ " are the same file".toList)
        fine := false
      else if !(← copyFile true bits content target) then fine := false
      else if a.has "v" then
        Work.outLine (quotedName source ++ " -> ".toList ++ quotedName target)
  return statusOf fine

end Manpage.Utility
