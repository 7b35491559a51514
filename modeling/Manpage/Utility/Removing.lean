/-
# Removing files

Removing files and directories, with questions before each of them if they are asked for.
-/
import Manpage.Utility.Moving

namespace Manpage.Utility

/-! ## 1. Files -/

/-- What is done when a file is to be removed. -/
structure RemovalPlan where
  force : Bool
  recursive : Bool
  /-- Whether empty directories are removed like files. -/
  emptyDirectories : Bool
  verbose : Bool
  asks : Bool

/-- What a file is called in a question. -/
def fileKind (e : Entry) : Text :=
  match e with
  | .directory => "directory".toList
  | .file _ [] => "regular empty file".toList
  | .file .. => "regular file".toList

/-- Removes what is at a path; gives whether nothing went wrong. -/
def removePath (plan : RemovalPlan) : (fuel : Nat) → Text → Work Bool
  | 0, _ => return false
  | fuel + 1, path => do
    let refuse (fault : SystemFault) : Work Bool := do
      Work.complain ("cannot remove ".toList ++ quotedName path ++ ": ".toList ++ fault.wording)
      return false
    match ← locate path, ← Work.stat path with
    | .error fault, _ | _, .error fault =>
      if plan.force && (fault == .notFound || fault == .notDirectory) then return true
      else refuse fault
    | .ok l, .ok e =>
      let names := ((← Work.files).namesIn l).map Text.octets
      if e.isDirectory && !plan.recursive && !(plan.emptyDirectories && names.isEmpty) then
        refuse (if plan.emptyDirectories then .notEmpty else .isDirectory)
      else
        if e.isDirectory && !names.isEmpty then
          if plan.asks then
            if !(← ask ("descend into directory ".toList ++ quotedName path ++ "? ".toList)) then
              return true
          for name in names do discard (removePath plan fuel (inside path name))
        if plan.asks then
          if !(← ask ("remove ".toList ++ fileKind e ++ ' ' :: quotedName path ++ "? ".toList)) then
            return true
        if !((← Work.files).namesIn l).isEmpty then return (← refuse .notEmpty)
        modifyThe System fun sys => sys.remove l
        if plan.verbose then
          Work.outLine ((if e.isDirectory then "removed directory " else "removed ").toList ++ quotedName path)
        return true

/-- `rm`: removes files. -/
def rm (args : List Text) : Work Nat := do
  let a ← arguments ("d:dir f:force i I r:recursive R v:verbose -:interactive? -:one-file-system"
    ++ " -:no-preserve-root -:preserve-root?") args 1 false
  let manner := a.lastOf? ["f", "i", "I"]
  let plan : RemovalPlan :=
    { force := manner == some ['f'], recursive := a.has "r" || a.has "R", emptyDirectories := a.has "d"
      verbose := a.has "v", asks := manner == some ['i'] }
  if a.operands.isEmpty then
    if plan.force then return 0 else misuse 1 "missing operand".toList
  if manner == some ['I'] && (plan.recursive || 3 < a.operands.length) then
    let n := a.operands.length
    let question := "remove ".toList ++ Text.ofNat n ++ (if n = 1 then " argument" else " arguments").toList
      ++ (if plan.recursive then " recursively? " else "? ").toList
    if !(← ask question) then return 0
  let mut fine := true
  for path in a.operands do
    let last := baseName path
    if plan.recursive && (last == ['.'] || last == ['.', '.']) then
      Work.complain ("refusing to remove '.' or '..' directory: skipping ".toList ++ quotedName path)
      fine := false
    else if plan.recursive && withoutSlashes path == ['/'] then
      Work.complain "it is dangerous to operate recursively on '/'".toList
      Work.complain "use --no-preserve-root to override this failsafe".toList
      fine := false
    else
      if !(← removePath plan 200 path) then fine := false
  return statusOf fine

/-- `unlink`: removes one file. -/
def unlink (args : List Text) : Work Nat := do
  let a ← arguments "" args 1 false
  match a.operands with
  | [] => misuse 1 "missing operand".toList
  | [path] =>
    match ← locate path, ← Work.stat path with
    | .ok l, .ok (.file ..) =>
      modifyThe System fun sys => sys.remove l
      return 0
    | .error fault, _ | _, .error fault =>
      Work.fail 1 ("cannot unlink ".toList ++ quotedName path ++ ": ".toList ++ fault.wording)
    | _, .ok .directory => Work.fail 1 ("cannot unlink ".toList ++ quotedName path ++ ": Is a directory".toList)
  | _ :: extra :: _ => misuse 1 ("extra operand ".toList ++ quotedName extra)

/-! ## 2. Directories -/

/-- Removes an empty directory. -/
def removeDirectory (path : Text) : Work (Except SystemFault Unit) := do
  match ← locate path, ← Work.stat path with
  | .error fault, _ | _, .error fault => return .error fault
  | .ok l, .ok e =>
    if !e.isDirectory then return .error .notDirectory
    else if baseName path = ['.'] then return .error .invalidArgument
    else if !((← Work.files).namesIn l).isEmpty then return .error .notEmpty
    else
      modifyThe System fun sys => sys.remove l
      return .ok ()

/-- `rmdir`: removes empty directories. -/
def rmdir (args : List Text) : Work Nat := do
  let a ← arguments "p:parents v:verbose -:ignore-fail-on-non-empty" args 1 false
  if a.operands.isEmpty then misuse 1 "missing operand".toList
  let mut fine := true
  for path in a.operands do
    let steps := (path.filter (· == '/')).length
    let chain := if a.has "p" then
        ((List.range (steps + 1)).map fun k => Nat.repeat dirName k (withoutSlashes path)).filter fun p =>
          p != ['.'] && p != ['/']
      else [path]
    let mut going := true
    for p in chain do
      if going then
        if a.has "v" then Work.outLine ("rmdir: removing directory, ".toList ++ quotedName p)
        match ← removeDirectory p with
        | .ok () => pure ()
        | .error fault =>
          going := false
          if !(a.has "ignore-fail-on-non-empty" && fault == .notEmpty) then
            Work.complain ((if p = path then "failed to remove " else "failed to remove directory ").toList
              ++ quotedName p ++ ": ".toList ++ fault.wording)
            fine := false
  return statusOf fine

end Manpage.Utility
