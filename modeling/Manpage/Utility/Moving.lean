/-
# Copying and moving files

Copies of files and of directories with what they hold, and other places for them.
-/
import Manpage.Utility.Names

namespace Manpage.Utility

/-! ## 1. Places -/

/-- The location that a path leads to. -/
def locate (path : Text) : Work (Except SystemFault Location) := do
  return (← Work.files).locate (← get).cwd (Text.ofOctets path)

/-- Puts an entry at a location. -/
def putEntryAt (l : Location) (e : Entry) : Work Unit :=
  modifyThe System fun sys => { sys with files := sys.files.put l e }

/-- The bits of a new file that asks for some. -/
def newMode (mode : Nat) : Work Nat := do return mode &&& (0o7777 ^^^ (← get).umask)

/-- A path of a file inside a directory. -/
def inside (dir name : Text) : Text :=
  if dir.getLast? = some '/' then dir ++ name else dir ++ '/' :: name

/-- The operands as sources and a target, with the complaints when there are too few. -/
def sourcesAndTarget (operands : List Text) : Work (List Text × Text) := do
  match operands with
  | [] => misuse 1 "missing file operand".toList
  | [one] => misuse 1 ("missing destination file operand after ".toList ++ quotedName one)
  | many => return (many.dropLast, many.getLastD [])

/-- Pairs of sources and the paths they go to: into a directory, or to one path. -/
def pairsOf (a : Arguments) : Work (List (Text × Text)) := do
  match a.value? "t" with
  | some dir =>
    if a.operands.isEmpty then misuse 1 "missing file operand".toList
    if !(← Work.isDirectory dir) then
      let fault := match ← Work.stat dir with
        | .error fault => fault
        | .ok _ => .notDirectory
      Work.fail 1 ("target directory ".toList ++ quotedName dir ++ ": ".toList ++ fault.wording)
    return a.operands.map fun s => (s, inside dir (baseName s))
  | none =>
    let (sources, target) ← sourcesAndTarget a.operands
    if a.has "T" then
      match sources with
      | [s] => return [(s, target)]
      | _ => misuse 1 ("extra operand ".toList ++ quotedName (sources.getD 1 []))
    else if ← Work.isDirectory target then
      return sources.map fun s => (s, inside target (baseName s))
    else
      match sources with
      | [s] => return [(s, target)]
      | _ =>
        let fault := match ← Work.stat target with
          | .error fault => fault
          | .ok _ => .notDirectory
        Work.fail 1 ("target ".toList ++ quotedName target ++ ": ".toList ++ fault.wording)

/-- Pairs of sources and the paths that they go to in a directory with the directories of their own paths,
which are made there. -/
def pairsWithParents (a : Arguments) : Work (List (Text × Text)) := do
  let (sources, target) ← match a.value? "t" with
    | some dir => pure (a.operands, dir)
    | none => sourcesAndTarget a.operands
  if !(← Work.isDirectory target) then
    misuse 1 "with --parents, the destination must be a directory".toList
  for source in sources do
    match ← Work.stat source with
    | .error _ => pure ()
    | .ok _ =>
      let above := (Text.cutAt (· == '/') source).dropLast.filter (· ≠ [])
      for k in List.range above.length do
        let dir := inside target (Text.join ['/'] (above.take (k + 1)))
        match (← Work.files).makeDirectory (← get).cwd (Text.ofOctets dir) with
        | .ok files =>
          modifyThe System fun sys => { sys with files }
          if a.has "v" then
            Work.outLine (Text.join ['/'] (above.take (k + 1)) ++ " -> ".toList ++ dir)
        | .error _ => pure ()
  return sources.map fun s => (s, inside target s)

/-- How a file that stands in the way of another is kept: not at all, with an ending, or with a number. -/
inductive Backup
  | none
  | ending (s : Text)
  | numbered

/-- The way of keeping files that options ask for. -/
def Backup.ofArguments (a : Arguments) : Work Backup := do
  if !(a.has "b" || a.has "backup" || a.has "S") then return .none
  let ending := (a.value? "S").getD ['~']
  match (a.value? "backup").map String.ofList with
  | some "none" | some "off" => return .none
  | some "numbered" | some "t" => return .numbered
  | _ => return .ending ending

/-- Gives the file that a path leads to another name. -/
def Backup.keep (b : Backup) (path : Text) : Work Unit := do
  match ← locate path, ← Work.stat path with
  | .ok l, .ok (.file mode content) =>
    let named (ending : Text) : Location :=
      l.dropLast ++ [Text.ofOctets (Text.octets (l.getLastD []) ++ ending)]
    let rename (l' : Location) : Work Unit := do
      putEntryAt l' (.file mode content)
      modifyThe System fun sys => sys.remove l
    match b with
    | .none => pure ()
    | .ending s => rename (named s)
    | .numbered =>
      let files ← Work.files
      let number (n : Nat) : Location := named (".~".toList ++ Text.ofNat n ++ ['~'])
      let n := ((List.range 1000).find? fun k => (files.get? (number (k + 1))).isNone).getD 0
      rename (number (n + 1))
  | _, _ => pure ()

/-! ## 2. Copying -/

/-- How files are copied. -/
structure CopyPlan where
  recursive : Bool
  keepMode : Bool
  noClobber : Bool
  verbose : Bool
  /-- Whether a question comes before a file is written anew. -/
  asks : Bool
  /-- How a file that stood in the way is called afterwards. -/
  backup : Backup

/-- Copies the content of a file, with its bits or with those of a new file; tells what went wrong. -/
def copyFile (keepMode : Bool) (mode : Nat) (content : Bytes) (target : Text) : Work Bool := do
  let p ← get
  let sys ← getThe System
  let bits ← if keepMode then pure mode else newMode (mode &&& 0o777)
  match sys.openToWrite p.cwd (Text.ofOctets target) .output bits true false with
  | .error fault =>
    let fault := if fault = .isDirectory then .notDirectory else fault
    Work.complain ("cannot create regular file ".toList ++ quotedName target ++ ": ".toList ++ fault.wording)
    return false
  | .ok (channel, sys) =>
    let (c, sys) := sys.addChannel channel
    let (_, sys) := sys.write c (Text.ofBytes content)
    set sys
    match channel with
    | .file l _ _ =>
      if keepMode then putEntryAt l (.file mode content)
    | _ => pure ()
    return true

/-- Copies what is at a path to another, and what is below it. -/
def copyTree (plan : CopyPlan) : (fuel : Nat) → (source target : Text) → Work Bool
  | 0, _, _ => return false
  | fuel + 1, source, target => do
    match ← locate source, ← Work.stat source with
    | .error fault, _ | _, .error fault =>
      Work.complain ("cannot stat ".toList ++ quotedName source ++ ": ".toList ++ fault.wording)
      return false
    | .ok l, .ok e =>
      let there := match ← locate target with
        | .ok l' => some l'
        | .error _ => none
      let thereEntry := match ← Work.stat target with
        | .ok e => some e
        | .error _ => none
      match e with
      | .directory =>
        if !plan.recursive then
          Work.complain ("-r not specified; omitting directory ".toList ++ quotedName source)
          return false
        else if thereEntry.any fun e => !e.isDirectory then
          Work.complain ("cannot overwrite non-directory ".toList ++ quotedName target
            ++ " with directory ".toList ++ quotedName source)
          return false
        else if there.any fun l' => l.isPrefixOf l' && (l' ≠ l || true) then
          Work.complain ("cannot copy a directory, ".toList ++ quotedName source ++ ", into itself, ".toList
            ++ quotedName target)
          return false
        else
          let names := ((← Work.files).namesIn l).map Text.octets
          let made ← if thereEntry.isSome then pure true else do
            match (← Work.files).makeDirectory (← get).cwd (Text.ofOctets target) with
            | .ok files =>
              modifyThe System fun sys => { sys with files }
              if plan.verbose then
                Work.outLine (quotedName source ++ " -> ".toList ++ quotedName target)
              pure true
            | .error fault =>
              Work.complain ("cannot create directory ".toList ++ quotedName target ++ ": ".toList
                ++ fault.wording)
              pure false
          if !made then return false
          let mut fine := true
          for n in names do
            if !(← copyTree plan fuel (inside source n) (inside target n)) then fine := false
          return fine
      | .file mode content =>
        if thereEntry.any Entry.isDirectory then
          Work.complain ("cannot overwrite directory ".toList ++ quotedName target
            ++ " with non-directory".toList)
          return false
        else if there = some l then
          Work.complain (quotedName source ++ " and ".toList ++ quotedName target
            ++ " are the same file".toList)
          return false
        else if plan.noClobber && thereEntry.isSome then return true
        else
          if plan.asks && thereEntry.isSome then
            if !(← ask ("overwrite ".toList ++ quotedName target ++ "? ".toList)) then return false
          plan.backup.keep target
          let fine ← copyFile plan.keepMode mode content target
          if fine && plan.verbose then
            Work.outLine (quotedName source ++ " -> ".toList ++ quotedName target)
          return fine

/-- `cp`: copies files. -/
def cp (args : List Text) : Work Nat := do
  let a ← arguments ("a:archive b -:backup? d f:force i:interactive l:link L:dereference n:no-clobber"
    ++ " P:no-dereference p r:recursive R s:symbolic-link S:suffix= t:target-directory="
    ++ " T:no-target-directory u:update? v:verbose x:one-file-system H Z -:preserve? -:no-preserve="
    ++ " -:parents -:remove-destination -:reflink? -:sparse= -:strip-trailing-slashes"
    ++ " -:attributes-only") args 1 false
  let plan : CopyPlan :=
    { recursive := a.has "r" || a.has "R" || a.has "a", keepMode := a.has "p" || a.has "a" || a.has "preserve",
      noClobber := a.has "n" || a.has "u", verbose := a.has "v"
      asks := a.lastOf? ["i", "n", "f"] == some ['i'], backup := ← Backup.ofArguments a }
  let pairs ← if a.has "parents" then pairsWithParents a else pairsOf a
  if a.has "n" then
    Work.complain ("warning: behavior of -n is non-portable and may change in future; "
      ++ "use --update=none instead").toList
  let mut fine := true
  for (source, target) in pairs do
    if !(← copyTree plan 200 source target) then fine := false
  return statusOf fine

/-! ## 3. Moving -/

/-- Moves what is at a path to another; it may ask before it puts something else out of the way. -/
def moveOne (noClobber verbose asks : Bool) (backup : Backup) (source target : Text) : Work Bool := do
  match ← locate source, ← Work.stat source with
  | .error fault, _ | _, .error fault =>
    Work.complain ("cannot stat ".toList ++ quotedName source ++ ": ".toList ++ fault.wording)
    return false
  | .ok l, .ok e =>
    let p ← get
    match (← Work.files).place p.cwd (Text.ofOctets target) with
    | .error fault =>
      Work.complain ("cannot move ".toList ++ quotedName source ++ " to ".toList ++ quotedName target
        ++ ": ".toList ++ fault.wording)
      return false
    | .ok .noName =>
      Work.complain ("cannot move ".toList ++ quotedName source ++ " to ".toList ++ quotedName target
        ++ ": Device or resource busy".toList)
      return false
    | .ok (.entry dir name slashes) =>
      let l' := dir ++ [name]
      let old := (← Work.files).get? l'
      if l = l' then
        Work.complain (quotedName source ++ " and ".toList ++ quotedName target ++ " are the same file".toList)
        return false
      else if e.isDirectory && l.isPrefixOf l' then
        Work.complain ("cannot move ".toList ++ quotedName source ++ " to a subdirectory of itself, ".toList
          ++ quotedName target)
        return false
      else if noClobber && old.isSome then
        Work.complain ("not replacing ".toList ++ quotedName target)
        return false
      else if old.any (fun o => !o.isDirectory) && e.isDirectory then
        Work.complain ("cannot overwrite non-directory ".toList ++ quotedName target
          ++ " with directory ".toList ++ quotedName source)
        return false
      else if old.any Entry.isDirectory && !e.isDirectory then
        Work.complain ("cannot overwrite directory ".toList ++ quotedName target
          ++ " with non-directory".toList)
        return false
      else if old.any Entry.isDirectory && !((← Work.files).namesIn l').isEmpty then
        Work.complain ("cannot overwrite ".toList ++ quotedName target ++ ": Directory not empty".toList)
        return false
      else if slashes && !e.isDirectory then
        Work.complain ("cannot move ".toList ++ quotedName source ++ " to ".toList ++ quotedName target
          ++ ": Not a directory".toList)
        return false
      else
        if asks && old.isSome then
          if !(← ask ("overwrite ".toList ++ quotedName target ++ "? ".toList)) then return false
        backup.keep target
        modifyThe System fun sys => sys.move l l'
        if verbose then
          Work.outLine ("renamed ".toList ++ quotedName source ++ " -> ".toList ++ quotedName target)
        return true

/-- `mv`: moves files. -/
def mv (args : List Text) : Work Nat := do
  let a ← arguments ("b -:backup? f:force i:interactive n:no-clobber S:suffix= t:target-directory="
    ++ " T:no-target-directory u:update? v:verbose Z -:strip-trailing-slashes") args 1 false
  let manner := a.lastOf? ["n", "f", "i"]
  let pairs ← pairsOf a
  let backup ← Backup.ofArguments a
  let mut fine := true
  for (source, target) in pairs do
    if !(← moveOne (manner == some ['n']) (a.has "v") (manner == some ['i']) backup source target) then fine := false
  return statusOf fine

end Manpage.Utility
