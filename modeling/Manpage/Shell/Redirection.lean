/-
# Redirections

Where the file numbers of a command lead while it runs.  Redirections are made one after another, so
that a later one finds what an earlier one has changed; one that cannot be made keeps the command from
being run.
-/
import Manpage.Shell.Expansion

namespace Manpage.Shell.Act

/-- Why a redirection cannot be made. -/
def refuseRedirect {α : Type} (message : Text) : Act α := do
  complain message
  setStatus (match (← get).dialect with
    | .small => 2
    | .large => 1)
  throw .refused

/-- Lets a file number lead to a channel. -/
def lead (fd c : Nat) : Act Unit := modify fun st =>
  { st with fds := (fd, c) :: st.fds.filter (·.1 != fd) }

/-- Lets a file number lead nowhere. -/
def close (fd : Nat) : Act Unit := modify fun st => { st with fds := st.fds.filter (·.1 != fd) }

/-- Why a file cannot be opened. -/
def openFault (dialect : Dialect) (opening : Opening) (path : Text) (fault : SystemFault) : Text :=
  match dialect with
  | .large => path ++ ": ".toList ++ fault.wording
  | .small =>
    let missing := fault = .notFound ∨ fault = .notDirectory
    if opening = .input then
      "cannot open ".toList ++ path ++ ": ".toList
        ++ (if missing then "No such file".toList else fault.wording)
    else
      "cannot create ".toList ++ path ++ ": ".toList
        ++ (if missing then "Directory nonexistent".toList else fault.wording)

/-- Opens a file for a file number. -/
def openFor (fd : Nat) (opening : Opening) (path : Text) : Act Unit := do
  let st ← get
  let refuse {α : Type} (fault : SystemFault) : Act α :=
    refuseRedirect (openFault st.dialect opening path fault)
  match (Work.ownNumber? path).bind fun n => st.fds.lookup n with
  | some c => lead fd c
  | none =>
    let sys ← system
    let target := Text.ofOctets path
    if opening = .input then
      match sys.files.locate st.cwd target with
      | .error fault => refuse fault
      | .ok l =>
        match sys.openToRead l with
        | .error fault => refuse fault
        | .ok channel => lead fd (← onSystem fun sys => sys.addChannel channel)
    else
      let guarded := opening = .output ∧ st.options.contains 'C'
      let isFile := match sys.files.stat st.cwd target with
        | .ok (.file ..) => true
        | _ => false
      if guarded ∧ isFile = true ∧ path ≠ "/dev/null".toList then
        match st.dialect with
        | .small => refuse .exists
        | .large => refuseRedirect (path ++ ": cannot overwrite existing file".toList)
      let access := match opening with
        | .append => Access.append
        | .update => Access.update
        | _ => Access.output
      let mode := 0o666 &&& (0o777 ^^^ st.umask)
      let fresh := opening = .output ∨ opening = .replace
      match sys.openToWrite st.cwd target access mode fresh false with
      | .error fault => refuse fault
      | .ok (channel, sys) =>
        modifySystem fun _ => sys
        lead fd (← onSystem fun sys => sys.addChannel channel)

/-- Lets a file number lead where another leads, or nowhere. -/
def copyTo (fd : Nat) (input : Bool) (source : Text) : Act Unit := do
  let st ← get
  let digits := source.all Char.isDigit && !source.isEmpty
  if source = ['-'] then close fd
  else if digits ∧ (source.length = 1 ∨ st.dialect = .large) then
    let n := Utility.ofDigits 10 source
    match st.fds.lookup n with
    | some c => lead fd c
    | none => refuseRedirect (source ++ ": Bad file descriptor".toList)
  else
    match st.dialect with
    | .small => fail "Syntax error: Bad fd number".toList
    | .large =>
      if !input && fd == 1 then
        openFor 1 .output source
        match (← get).fds.lookup 1 with
        | some c => lead 2 c
        | none => pure ()
      else refuseRedirect (source ++ ": ambiguous redirect".toList)

/-- Lets a file number give a text. -/
def leadText (fd : Nat) (s : Text) : Act Unit := do
  lead fd (← onSystem fun sys => sys.addChannel (.source s false))

/-- The path of a redirection. -/
def redirectPath (e : Engine) (w : Word) (shown : Text) : Act Text := do
  match (← get).dialect with
  | .small => textOfWord e w
  | .large =>
    match ← fieldsOfWord e w with
    | [path] => return path
    | _ => refuseRedirect (shown ++ ": ambiguous redirect".toList)

/-- Makes a redirection. -/
def redirectOne (e : Engine) (r : Redirect) : Act Unit := do
  match r with
  | .file fd opening w shown => openFor fd opening (← redirectPath e w shown)
  | .copy fd input w => copyTo fd input (← textOfWord e w)
  | .document fd number =>
    let w := ((← get).documents[number]?).getD []
    leadText fd (← textOfWord e w)
  | .word fd w => leadText fd ((← textOfWord e w) ++ ['\n'])
  | .outputs appends w shown =>
    openFor 1 (if appends then .append else .output) (← redirectPath e w shown)
    match (← get).fds.lookup 1 with
    | some c => lead 2 c
    | none => pure ()

/-- Makes redirections. -/
def redirectAll (e : Engine) : List Redirect → Act Unit
  | [] => pure ()
  | r :: rest => do
    redirectOne e r
    redirectAll e rest

/-- Makes redirections, and tells whether all could be made; if not, those that were are undone. -/
def tryRedirects (e : Engine) (rs : List Redirect) : Act Bool := do
  let before := (← get).fds
  match ← attempt (redirectAll e rs) with
  | none => return true
  | some .refused =>
    modify fun st => { st with fds := before }
    return false
  | some flow => throw flow

/-- Runs an action with redirections, which are undone at its end.  Where they cannot be made the
action is not run; that is a failure of its own if `fatal` holds. -/
def redirected (e : Engine) (rs : List Redirect) (fatal : Bool) (act : Act Unit) : Act Unit := do
  if rs.isEmpty then act
  else
    let before := (← get).fds
    if ← tryRedirects e rs then
      let flow ← attempt act
      modify fun st => { st with fds := before }
      resume flow
    else if fatal then throw .failed

end Manpage.Shell.Act
