/-
# Names of files

The parts of paths, paths without detours, and where commands are found.
-/
import Manpage.Utility.Input

namespace Manpage.Utility

/-- A path without the slashes at its end, of which one is kept if there is nothing else. -/
def withoutSlashes (path : Text) : Text :=
  let cut := Text.dropEndWhile (· == '/') path
  if cut.isEmpty ∧ path ≠ [] then ['/'] else cut

/-- The last part of a path. -/
def baseName (path : Text) : Text :=
  let cut := withoutSlashes path
  if cut = ['/'] then cut else (cut.reverse.takeWhile (· != '/')).reverse

/-- A path without its last part. -/
def dirName (path : Text) : Text :=
  let cut := withoutSlashes path
  if cut = ['/'] then cut
  else
    let front := cut.take (cut.length - (baseName cut).length)
    if front.isEmpty then ['.'] else withoutSlashes front

/-- A name without an ending, unless it is nothing but the ending. -/
def withoutEnding (name ending : Text) : Text :=
  if ending ≠ [] ∧ ending.length < name.length ∧ ending.isSuffixOf name then
    name.take (name.length - ending.length)
  else name

/-- `basename`: the last parts of paths. -/
def basename (args : List Text) : Work Nat := do
  let a ← arguments "a:multiple s:suffix= z:zero" args 1 true
  let mark := if a.has "z" then ['\x00'] else ['\n']
  let many := a.has "a" || a.has "s"
  match a.operands with
  | [] => misuse 1 "missing operand".toList
  | path :: rest =>
    if many then
      for p in path :: rest do
        Work.out (withoutEnding (baseName p) ((a.value? "s").getD []) ++ mark)
    else
      match rest with
      | [] => Work.out (baseName path ++ mark)
      | [ending] => Work.out (withoutEnding (baseName path) ending ++ mark)
      | _ :: extra :: _ => misuse 1 ("extra operand ".toList ++ quotedWord extra)
    return 0

/-- `dirname`: paths without their last parts. -/
def dirname (args : List Text) : Work Nat := do
  let a ← arguments "z:zero" args 1 true
  let mark := if a.has "z" then ['\x00'] else ['\n']
  if a.operands.isEmpty then misuse 1 "missing operand".toList
  for p in a.operands do
    Work.out (dirName p ++ mark)
  return 0

/-- The path of a location below the directory that the command works in, or from the root. -/
def pathOf (l : Location) : Work Text := do
  let p ← get
  let own := Text.octets (Text.join ['/'] l)
  -- where the command works is known by its path, which need not be the way in the tree
  match p.cwd.isPrefixOf l with
  | true =>
    let below := l.drop p.cwd.length
    return if below.isEmpty then p.cwdPath else Path.join p.cwdPath (Text.octets (Text.join ['/'] below))
  | false =>
    let up := (List.range p.cwd.length).findSome? fun k =>
      let above := p.cwd.take (p.cwd.length - 1 - k)
      if above.isPrefixOf l then some (k + 1, above) else none
    match up with
    | some (k, above) =>
      let base := Nat.repeat dirName k p.cwdPath
      let below := l.drop above.length
      return if below.isEmpty then base else Path.join base (Text.octets (Text.join ['/'] below))
    | none => return '/' :: own

/-- A path without detours; `missing` is how many of its last parts need not exist. -/
def canonical? (path : Text) (missingLast missingAll : Bool) : Work (Except SystemFault Text) := do
  let p ← get
  let files ← Work.files
  match files.locate p.cwd (Text.ofOctets path) with
  | .ok l =>
    if (files.get? l).isSome || missingLast || missingAll then return .ok (← pathOf l)
    else return .error .notFound
  | .error fault =>
    if missingAll then
      let names := Path.names (Text.ofOctets path)
      let start := if Path.isAbsolute path then [] else p.cwd
      let l := names.foldl (fun l n => if n = ['.', '.'] then l.dropLast else l ++ [n]) start
      return .ok (← pathOf l)
    else return .error fault

/-- Whether a path is below another, or is it. -/
def isBelow (path base : Text) : Bool := (Path.names base).isPrefixOf (Path.names path)

/-- The way from a directory to a path. -/
def relativePath (path start : Text) : Text :=
  let names := Path.names path
  let above := Path.names start
  let common := ((names.zip above).takeWhile fun (x, y) => x == y).length
  let way := List.replicate (above.length - common) "..".toList ++ names.drop common
  if way.isEmpty then ['.'] else Text.join ['/'] way

/-- `realpath`: paths without detours. -/
def realpath (args : List Text) : Work Nat := do
  let a ← arguments ("e:canonicalize-existing m:canonicalize-missing L:logical P:physical q:quiet s:strip"
    ++ " z:zero -:relative-to= -:relative-base= -:no-symlinks") args 1 false
  if a.operands.isEmpty then misuse 1 "missing operand".toList
  let resolved (path : Text) : Work Text := do
    match ← canonical? path (!a.has "e") (a.has "m") with
    | .ok found => return found
    | .error fault => Work.fail 1 (faultText path fault)
  let base ← match a.value? "relative-base" with
    | some path => some <$> resolved path
    | none => pure none
  let start ← match a.value? "relative-to" with
    | some path => some <$> resolved path
    | none => pure base
  let shown (path : Text) : Text := match start with
    | none => path
    | some start =>
      let inBase := match base with
        | none => true
        | some base => isBelow start base && isBelow path base
      if inBase then relativePath path start else path
  let mark := if a.has "z" then ['\x00'] else ['\n']
  let mut fine := true
  for path in a.operands do
    match ← canonical? path (!a.has "e") (a.has "m") with
    | .ok found => Work.out (shown found ++ mark)
    | .error fault =>
      if !a.has "q" then Work.complain (faultText path fault)
      fine := false
  return statusOf fine

/-- `readlink`: paths without detours; nothing is a link. -/
def readlink (args : List Text) : Work Nat := do
  let a ← arguments ("f:canonicalize e:canonicalize-existing m:canonicalize-missing n:no-newline q:quiet"
    ++ " s:silent v:verbose z:zero") args 1 false
  if a.operands.isEmpty then misuse 1 "missing operand".toList
  let mark := if a.has "n" then [] else if a.has "z" then ['\x00'] else ['\n']
  let follows := a.has "f" || a.has "e" || a.has "m"
  let mut fine := true
  for path in a.operands do
    if follows then
      match ← canonical? path (!a.has "e") (a.has "m") with
      | .ok found => Work.out (found ++ mark)
      | .error fault =>
        if a.has "v" then Work.complain (faultText path fault)
        fine := false
    else
      if a.has "v" then
        let fault := match ← Work.stat path with
          | .error fault => fault
          | .ok _ => .invalidArgument
        Work.complain (faultText path fault)
      fine := false
  return statusOf fine

/-- Whether a path leads to a file that may be run. -/
def isExecutable (path : Text) : Work Bool := do
  match ← Work.stat path with
  | .ok (.file mode _) => return mode &&& 0o111 != 0
  | _ => return false

/-- `which`: where commands are found. -/
def which (args : List Text) : Work Nat := do
  let a ← match Arguments.read (KnownOption.ofString "a s") true args with
    | .ok a => pure a
    | .error _ => do
      let letter := args.findSome? fun arg =>
        if arg.head? = some '-' then arg.tail.find? (fun c => c != 'a' && c != 's') else none
      Work.errors ("Illegal option -".toList ++ [letter.getD '-', '\n'])
      Work.outLine "Usage: /usr/bin/which [-as] args".toList
      throw (.exited 2)
  let dirs := Text.cutAt (· == ':') ((← Work.binding? "PATH".toList).getD [])
  let mut fine := !a.operands.isEmpty
  for name in a.operands do
    let candidates := if name.contains '/' then [name]
      else dirs.map fun d => (if d.isEmpty then ['.'] else d) ++ '/' :: name
    let found ← candidates.filterM isExecutable
    match found with
    | [] => fine := false
    | first :: _ => for path in (if a.has "a" then found else [first]) do Work.outLine path
  return statusOf fine

end Manpage.Utility
