/-
# Programs in a shell

How a shell starts programs: where it looks for them, what it says when one cannot be started, and how
it runs a file that the system does not know as a program, which is a script of its own.
-/
import Manpage.Shell.Fork
import Manpage.Shell.Lookup
import Manpage.Shell.Redirection

namespace Manpage.Shell.Act

/-! ## 1. Finding programs -/

/-- What is found for the name of a program: its path, or the status and the message of a command that
cannot be run. -/
def programFor (name : Text) (dirs : List Text) : Act (Except (Nat × Text) Text) := do
  let st ← get
  let files ← files
  if name.contains '/' then return .ok name
  else
    match st.dialect with
    | .small =>
      let state (dir : Text) : Except SystemFault Entry :=
        files.stat st.cwd (Text.ofOctets (Path.join dir name))
      let starts (dir : Text) : Bool := match state dir with
        | .ok (.file mode _) => mode &&& 0o111 != 0
        | _ => false
      match dirs.find? starts with
      | some dir => return .ok (Path.join dir name)
      | none =>
        let reason := (dirs.filterMap fun dir => match state dir with
          | .ok _ => some SystemFault.permissionDenied
          | .error .notFound | .error .notDirectory => none
          | .error fault => some fault).getLast?
        return .error (127, name ++ ": ".toList ++ (match reason with
          | some fault => fault.wording
          | none => "not found".toList))
    | .large =>
      match (if name = [] then none else programPath? files st dirs name) with
      | some path => return .ok path
      | none =>
        let isThere (path : Text) : Bool := match files.stat st.cwd (Text.ofOctets path) with
          | .ok (.file ..) => true
          | _ => false
        let path (dir : Text) : Text := Path.join (if dir = [] then ['.'] else dir) name
        match (if name = [] then none else (dirs.map path).find? isThere) with
        | some path => return .error (126, path ++ ": Permission denied".toList)
        | none =>
          if dirs = [[]] ∧ (textOf? st "PATH".toList).getD [] = [] then
            return .error (127, name ++ ": No such file or directory".toList)
          else return .error (127, name ++ ": command not found".toList)

/-- Why a program cannot be started, with the status that this gives. -/
def startFault (path : Text) (fault : SystemFault) : Act (Nat × Text) := do
  let st ← get
  let files ← files
  let missing := fault = .notFound ∨ fault = .notDirectory
  match st.dialect with
  | .small =>
    return (if missing ∨ fault = .nameTooLong then 127 else 126,
      if missing then "not found".toList else fault.wording)
  | .large =>
    match files.stat st.cwd (Text.ofOctets path) with
    | .ok .directory => return (126, "Is a directory".toList)
    | .ok (.file mode _) =>
      if mode &&& 0o111 = 0 then return (126, "Permission denied".toList)
      else if missing then return (127, "cannot execute: required file not found".toList)
      else if fault = .badExecutable then
        return (126, "cannot execute binary file: Exec format error".toList)
      else return (126, fault.wording)
    | .error .notFound => return (127, "No such file or directory".toList)
    | .error fault => return (126, fault.wording)

/-! ## 2. Starting programs -/

/-- Whether the content of a file is no text: there is a zero in its first line. -/
def isBinary (content : Bytes) : Bool := ((content.take 128).takeWhile (· != 10)).contains 0

/-- The shell that runs scripts that name no interpreter. -/
def ownShell : Dialect → Text
  | .small => "/bin/sh".toList
  | .large => "/bin/bash".toList

/-- Starts the program at a path in a process. -/
def startAt (e : Engine) (p : Process) (path : Text) (args : List Text) :
    Act (Except SystemFault Stop) := do
  let st ← get
  match ← onSystem fun sys => (e.invoke p path args).run sys with
  | .error .badExecutable =>
    match (← files).stat st.cwd (Text.ofOctets path) with
    | .ok (.file _ content) =>
      if isBinary content then return .error .badExecutable
      else
        let shell := ownShell st.dialect
        onSystem fun sys =>
          (e.invoke { p with name := shell } shell (path :: args)).run sys
    | _ => return .error .badExecutable
  | result => return result

/-- Whether something is to be run at signals or at the end of the shell. -/
def hasTraps (st : State) : Bool := st.traps.any fun t => !t.2.isEmpty

/-- Runs a program with arguments, in the place of the shell if `replaces` holds. -/
def runProgram (e : Engine) (replaces : Bool) (name : Text) (args : List Text) (dirs : List Text) :
    Act Unit := do
  match ← programFor name dirs with
  | .error (status, message) =>
    complain message
    setStatus status
  | .ok path =>
    let st ← get
    let inPlace := replaces && !hasTraps st
    let pid ← if inPlace then pure st.pid else onSystem System.newPid
    let env := exportedVariables st
    let p := processFor st pid name (if st.dialect = .large then putKey ['_'] path env else env)
    let p := if inPlace then { p with parent := st.parent } else p
    match ← startAt e p path args with
    | .error fault =>
      let (status, message) ← startFault path fault
      complain ((if st.dialect = .small then name else path) ++ ": ".toList ++ message)
      setStatus status
    | .ok stop =>
      let status ← statusOf stop
      setStatus status
      if inPlace then
        match stop with
        | .killed signal => throw (.killed signal)
        | _ => pure ()
      else
        modifySystem fun sys => { sys with alive := sys.alive.filter (· != pid) }
        tellEnd stop true

/-- Ends the shell, since no program could take its place; the large shell goes on if it is told to. -/
def failReplaced (status : Nat) : Act Unit := do
  if (← get).features.contains "execfail".toList then setStatus status else exit status

/-- Tells why a program at a path cannot take the place of the shell. -/
def complainReplaced (path name : Text) (fault : SystemFault) : Act Nat := do
  let st ← get
  let (status, message) ← startFault path fault
  match st.dialect with
  | .small => complain (name ++ ": ".toList ++ message)
  | .large =>
    let whole := if Path.isAbsolute path then path
      else Path.join st.cwdPath (("./".toList.isPrefixOf? path).getD path)
    set { st with speaker := none }
    complain (whole ++ ": ".toList ++ message)
    set st
    if status = 126 then complain (whole ++ ": cannot execute: ".toList ++ message)
  return status

/-- `exec`: puts a program in the place of the shell. -/
def replace (e : Engine) (name : Text) (args : List Text) : Act Unit := do
  let st ← get
  match ← programFor name (searchPath st) with
  | .error (status, message) =>
    complain (match st.dialect with
      | .small => message
      | .large => name ++ ": not found".toList)
    failReplaced status
  | .ok path =>
    let p := { processFor st st.pid name (exportedVariables st) with parent := st.parent }
    match ← startAt e p path args with
    | .error fault => failReplaced (← complainReplaced path name fault)
    | .ok stop =>
      setStatus (← statusOf stop)
      match stop with
      | .killed signal => throw (.killed signal)
      | _ => throw .replaced

/-! ## 3. Commands of the shell that are also programs -/

/-- Runs work that is also that of a program, in the shell itself. -/
def ownWork (w : Work Nat) : Act Unit := do
  let st ← get
  let p := processFor st st.pid ((messageStart st).dropLast.dropLast) (exportedVariables st)
  let scene ← getThe Scene
  let ((result, p), system) :=
    StateT.run (StateT.run (ExceptT.run w) { p with parent := st.parent }) scene.system
  set { scene with system }
  say p.held.reverse.flatten
  match result with
  | .ok status => setStatus status
  | .error (.exited status) => setStatus status
  | .error (.killed signal) => throw (.killed signal)
  | .error .starved => throw .starved

end Manpage.Shell.Act
