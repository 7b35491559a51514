/-
# Commands that start commands

`env` and its like start a command with other surroundings than their own, and `xargs` starts one for
the words of its input.
-/
import Manpage.System.Image
import Manpage.Utility.Decimal
import Manpage.Utility.Surroundings

namespace Manpage.Utility

/-! ## 1. Starting a command -/

/-- Starts a command that is looked for in the directories of the search path; a file that the system
does not know is a script. -/
def spawn (invoke : Invoke) (p : Process) (name : Text) (args : List Text) :
    Work (Except SystemFault Stop) := do
  let sys ← getThe System
  let dirs := match p.env.lookup "PATH".toList with
    | some s => Image.searchPath s
    | none => ["/bin", "/usr/bin"].map String.toList
  match Image.findProgram sys.files p.cwd dirs name with
  | .error fault => return .error fault
  | .ok (path, _) =>
    let run (p : Process) (path : Text) (args : List Text) : Work (Except SystemFault Stop) := do
      let (result, sys) := (invoke { p with held := [] } path args).run (← getThe System)
      set sys
      return result
    match ← run { p with name } path args with
    | .error .badExecutable => run { p with name := "/bin/sh".toList } "/bin/sh".toList (path :: args)
    | result => return result

/-- Ends as a command ended that took the place of this one. -/
def endAs : Stop → Work Nat
  | .exited status => return status
  | stop => throw stop

/-- Puts a command in the place of this one; a command that cannot be started is told, with `lead` before
its name. -/
def putInPlace (invoke : Invoke) (p : Process) (lead : String) (name : Text) (args : List Text) :
    Work Nat := do
  Work.flush
  match ← spawn invoke p name args with
  | .ok stop => endAs stop
  | .error fault =>
    Work.complain (lead.toList ++ quotedName name ++ ": ".toList ++ fault.wording)
    return if fault = .notFound ∨ fault = .notDirectory then 127 else 126

/-! ## 2. Other surroundings -/

/-- Cuts the words of a text, in which quotes protect blanks. -/
def splitWords : (fuel : Nat) → (current : Option Text) → (quote : Option Char) → Text → List Text
  | 0, _, _, _ => []
  | _ + 1, current, _, [] => (current.map List.reverse).toList
  | fuel + 1, current, some q, c :: rest =>
    if c = q then splitWords fuel (some (current.getD [])) none rest
    else splitWords fuel (some (c :: current.getD [])) (some q) rest
  | fuel + 1, current, none, c :: rest =>
    if c = '\'' ∨ c = '"' then splitWords fuel (some (current.getD [])) (some c) rest
    else if c = ' ' ∨ c = '\t' then
      match current with
      | none => splitWords fuel none none rest
      | some word => word.reverse :: splitWords fuel none none rest
    else
      match c, rest with
      | '\\', d :: rest => splitWords fuel (some (d :: current.getD [])) none rest
      | _, _ => splitWords fuel (some (c :: current.getD [])) none rest

/-- Puts the words of an option that holds several in its place. -/
def spreadWords : (fuel : Nat) → List Text → List Text
  | 0, args => args
  | _ + 1, [] => []
  | fuel + 1, arg :: rest =>
    match arg, rest with
    | ['-', 'S'], words :: rest => splitWords (words.length + 1) none none words ++ rest
    | '-' :: 'S' :: words, _ => splitWords (words.length + 1) none none words ++ rest
    | '-' :: 'v' :: 'S' :: words, _ => splitWords (words.length + 1) none none words ++ rest
    | '-' :: _, _ =>
      match "--split-string=".toList.isPrefixOf? arg with
      | some words => splitWords (words.length + 1) none none words ++ rest
      | none =>
        if arg = "-u".toList ∨ arg = "-C".toList then
          match rest with
          | value :: rest => arg :: value :: spreadWords fuel rest
          | [] => [arg]
        else arg :: spreadWords fuel rest
    | _, _ => arg :: rest

/-- `env`: starts a command with other variables, or writes them. -/
def env (invoke : Invoke) (args : List Text) : Work Nat := do
  let args := spreadWords (args.length + 1) args
  let a ← arguments
    "i:ignore-environment 0:null u:unset= C:chdir= v:debug S:split-string= -:block-signal? -:default-signal? -:ignore-signal? -:list-signal-handling"
    args 125 true
  let (empty, operands) := match a.operands with
    | ['-'] :: rest => (true, rest)
    | rest => (a.has "i", rest)
  let p ← get
  let start := if empty then [] else p.env
  let start := start.filter fun v => !((a.values "u").contains v.1)
  let settings := operands.takeWhile fun s => s.contains '='
  let command := operands.drop settings.length
  let set (vars : List (Text × Text)) (s : Text) : List (Text × Text) :=
    let name := s.takeWhile (· != '=')
    let value := s.drop (name.length + 1)
    if (vars.lookup name).isSome then vars.map fun v => if v.1 = name then (name, value) else v
    else vars ++ [(name, value)]
  let vars := settings.foldl set start
  match command with
  | [] =>
    for (name, value) in vars do
      Work.out (name ++ '=' :: value ++ [if a.has "0" then Char.ofNat 0 else '\n'])
    return 0
  | name :: args =>
    if a.has "0" then
      Work.complain "cannot specify --null (-0) with command".toList
      hint
      return 125
    else
      let files ← Work.files
      let (cwd, cwdPath) ← match a.value? "C" with
        | none => pure (p.cwd, p.cwdPath)
        | some dir =>
          match files.stat p.cwd (Text.ofOctets dir), files.locate p.cwd (Text.ofOctets dir) with
          | .ok .directory, .ok l => pure (l, '/' :: Text.join ['/'] l)
          | .error fault, _ =>
            Work.fail 125 ("cannot change directory to ".toList ++ quotedName dir ++ ": ".toList
              ++ fault.wording)
          | _, _ =>
            Work.fail 125 ("cannot change directory to ".toList ++ quotedName dir
              ++ ": Not a directory".toList)
      let status ← putInPlace invoke { p with env := vars, cwd, cwdPath } "" name args
      if status = 127 ∧ name.contains ' ' then
        Work.complain "use -[v]S to pass options in shebang lines".toList
      return status

/-- Starts the operands as a command, or tells that there is none. -/
def startOperands (invoke : Invoke) (lead : String) (operands : List Text) : Work Nat := do
  match operands with
  | [] => misuse 125 "missing operand".toList
  | name :: args => putInPlace invoke (← get) lead name args

/-- `nice`: starts a command with a lower priority, which changes nothing here. -/
def nice (invoke : Invoke) (args : List Text) : Work Nat := do
  let a ← arguments "n:adjustment=" args 125 true
  if a.operands.isEmpty then
    Work.outLine ['0']
    return 0
  else startOperands invoke "" a.operands

/-- `nohup`: starts a command that does not heed the end of its terminal. -/
def nohup (invoke : Invoke) (args : List Text) : Work Nat := do
  let a ← arguments "" args 125 true
  modify fun p => { p with ignored := 1 :: p.ignored }
  startOperands invoke "failed to run command " a.operands

/-- `timeout`: starts a command that may take only so long; nothing takes any time here. -/
def timeout (invoke : Invoke) (args : List Text) : Work Nat := do
  let a ← arguments "k:kill-after= s:signal= v:verbose -:foreground -:preserve-status" args 125 true
  match a.operands with
  | interval :: name :: operands =>
    for s in (a.values "k") ++ [interval] do
      if !isInterval s then misuse 125 ("invalid time interval ".toList ++ quotedName s)
    startOperands invoke "failed to run command " (name :: operands)
  | _ =>
    hint
    return 125

/-- `stdbuf`: starts a command whose output is held back in another way, which shows nowhere here. -/
def stdbuf (invoke : Invoke) (args : List Text) : Work Nat := do
  let a ← arguments "i:input= o:output= e:error=" args 125 true
  if a.options.isEmpty ∧ a.operands ≠ [] then misuse 125 "you must specify a buffering mode option".toList
  startOperands invoke "failed to run command " a.operands

/-- `setsid`: starts a command as it is. -/
def setsid (invoke : Invoke) (args : List Text) : Work Nat := do
  match args.dropWhile fun arg => arg.head? == some '-' with
  | [] =>
    Work.complain "no command specified".toList
    hint
    return 1
  | name :: args =>
    Work.flush
    match ← spawn invoke (← get) name args with
    | .ok stop => endAs stop
    | .error fault =>
      Work.complain ("failed to execute ".toList ++ name ++ ": ".toList ++ fault.wording)
      return if fault = .notFound ∨ fault = .notDirectory then 127 else 126

/-! ## 3. Commands for the words of the input -/

/-- Reads words between blanks and line feeds; quotes and backslashes protect them.  A quote that is not
closed in its line ends the words with a message. -/
def inputWords : (fuel : Nat) → (current : Option Text) → Text → List (Text × Bool) × Option Text
  | 0, _, _ => ([], none)
  | _ + 1, current, [] => ((current.map fun w => (w.reverse, true)).toList, none)
  | fuel + 1, current, c :: rest =>
    if c = '\'' ∨ c = '"' then
      let inside := rest.takeWhile fun d => d != c && d != '\n'
      match rest.drop inside.length with
      | d :: rest =>
        if d = c then inputWords fuel (some (inside.reverse ++ current.getD [])) rest
        else ([], some (openQuote c))
      | [] => ([], some (openQuote c))
    else if c = ' ' ∨ c = '\t' ∨ c = '\n' then
      match current with
      | none => inputWords fuel none rest
      | some word =>
        -- a word at the end of a line says so, unless blanks follow it
        let (more, fault) := inputWords fuel none rest
        ((word.reverse, c == '\n') :: more, fault)
    else
      match c, rest with
      | '\\', d :: rest => inputWords fuel (some (d :: current.getD [])) rest
      | _, _ => inputWords fuel (some (c :: current.getD [])) rest
where
  /-- The message about a quote that is not closed. -/
  openQuote (c : Char) : Text :=
    "unmatched ".toList ++ (if c = '\'' then "single".toList else "double".toList)
      ++ " quote; by default quotes are special to xargs unless you use the -0 option".toList

/-- Cuts words into groups of at most so many. -/
def groupsOf {α : Type} (n : Nat) : (fuel : Nat) → List α → List (List α)
  | 0, _ => []
  | _ + 1, [] => []
  | fuel + 1, xs => xs.take n :: groupsOf n fuel (xs.drop n)

/-- Cuts words into groups of at most so many lines. -/
def lineGroups (n : Nat) : (seen : Nat) → (current : List Text) → List (Text × Bool) → List (List Text)
  | _, [], [] => []
  | _, current, [] => [current.reverse]
  | seen, current, (word, ends) :: rest =>
    if ends then
      if seen + 1 = n then (word :: current).reverse :: lineGroups n 0 [] rest
      else lineGroups n (seen + 1) (word :: current) rest
    else lineGroups n seen (word :: current) rest

/-- Puts a text in the place of a mark. -/
def replaceMark (mark value : Text) : (fuel : Nat) → Text → Text
  | 0, s => s
  | _ + 1, [] => []
  | fuel + 1, c :: rest =>
    match mark.isPrefixOf? (c :: rest) with
    | some more => if mark = [] then c :: rest else value ++ replaceMark mark value fuel more
    | none => c :: replaceMark mark value fuel rest

/-- Runs a command as a child, with another input if one is given. -/
def runChild (invoke : Invoke) (input : Option Nat) (words : List Text) :
    Work (Except SystemFault Stop) := do
  let p ← get
  let (pid, sys) := (← getThe System).newPid
  set sys
  let fds := match input with
    | some c => (0, c) :: p.fds.filter (·.1 != 0)
    | none => p.fds
  let stop ← spawn invoke { p with pid, parent := p.pid, fds } (words.headD []) (words.drop 1)
  modifyThe System fun sys => { sys with alive := sys.alive.filter (· != pid) }
  return stop

/-- Runs a command for each group of words; tells the status that this gives. -/
def runGroups (invoke : Invoke) (shows : Bool) (input : Nat) : List (List Text) → (status : Nat) →
    Work Nat
  | [], status => return status
  | words :: rest, status => do
    if shows then Work.errors (Text.join [' '] words ++ ['\n'])
    let name := words.headD []
    match ← runChild invoke (some input) words with
    | .error fault =>
      Work.complain (name ++ ": ".toList ++ fault.wording)
      return if fault = .notFound then 127 else 126
    | .ok .starved => throw .starved
    | .ok (.killed n) =>
      Work.complain (name ++ ": terminated by signal ".toList ++ Text.ofNat n)
      return 125
    | .ok (.exited 0) => runGroups invoke shows input rest status
    | .ok (.exited 255) =>
      Work.complain (name ++ ": exited with status 255; aborting".toList)
      return 124
    | .ok (.exited _) => runGroups invoke shows input rest 123

/-- `xargs`: runs a command for the words of the input. -/
def xargs (invoke : Invoke) (args : List Text) : Work Nat := do
  let a ← arguments
    "0:null a:arg-file= d:delimiter= E:eof= e:eof-str? I:replace= i:replace-str? L:max-lines= l:max-lines-str? n:max-args= o:open-tty P:max-procs= p:interactive r:no-run-if-empty s:max-chars= t:verbose x:exit"
    args 1 true
  let text ← match ← Work.readFile ((a.value? "a").getD ['-']) with
    | .ok s => pure s
    | .error fault => do
      match a.value? "a" with
      | some path =>
        Work.fail 1 ("Cannot open input file ".toList ++ quotedName path ++ ": ".toList ++ fault.wording)
      | none => pure []
  let mark? := if a.has "I" then a.value? "I" else if a.has "i" then some ((a.value? "i").getD "\x7b\x7d".toList)
    else none
  let delimiter? := match a.value? "d" with
    | some ['\\', 'n'] => some '\n'
    | some ['\\', 't'] => some '\t'
    | some ['\\', '0'] => some (Char.ofNat 0)
    | some (c :: _) => some c
    | _ => if a.has "0" then some (Char.ofNat 0) else none
  let count (key name : String) : Work (Option Nat) := do
    match a.value? key with
    | none => return none
    | some s =>
      if s ≠ [] ∧ s.all Char.isDigit ∧ ofDigits 10 s ≠ 0 then return some (ofDigits 10 s)
      else if s ≠ [] ∧ s.all Char.isDigit then
        Work.complain ("value ".toList ++ s ++ " for -".toList ++ name.toList
          ++ " option should be >= 1".toList)
        throw (.exited 1)
      else
        Work.complain ("invalid number \"".toList ++ s ++ "\" for -".toList ++ name.toList
          ++ " option".toList)
        throw (.exited 1)
  let perCommand ← count "n" "n"
  let perLines ← count "L" "L"
  let (words, fault) : List (Text × Bool) × Option Text := match delimiter?, mark? with
    | some d, _ =>
      ((cutRecords d text).map fun (w : Text) => (if w.getLast? = some d then w.dropLast else w, true), none)
    | none, some _ =>
      -- a line is a word, without blanks at its beginning
      let lines := (bareLines text).map fun line => line.dropWhile fun c => c == ' ' || c == '\t'
      let read := (lines.filter (· != [])).map fun (line : Text) =>
        inputWords (line.length + 1) none (line.map fun c => if c = ' ' then Char.ofNat 0 else c)
      let fine := read.takeWhile fun (r : List (Text × Bool) × Option Text) => r.2.isNone
      (fine.flatMap fun r => r.1.map fun w => (w.1.map fun c => if c = Char.ofNat 0 then ' ' else c, true),
        read.findSome? Prod.snd)
    | none, none => inputWords (text.length + 1) none text
  let wanted := match a.value? "E" with
    | some mark => words.takeWhile fun (w : Text × Bool) => w.1 != mark
    | none => words
  let command := if a.operands.isEmpty then ["echo".toList] else a.operands
  let groups : List (List Text) := match mark? with
    | some mark => wanted.map fun w => command.map fun arg => replaceMark mark w.1 (arg.length + 1) arg
    | none =>
      let groups := match perLines, perCommand with
        | some n, _ => lineGroups n 0 [] wanted
        | none, some n => groupsOf n wanted.length (wanted.map Prod.fst)
        | none, none => if wanted.isEmpty then [] else [wanted.map Prod.fst]
      let groups := if groups.isEmpty && !a.has "r" && fault.isNone then [[]] else groups
      groups.map fun ws => command ++ ws
  Work.flush
  let (input, sys) := (← getThe System).addChannel .null
  set sys
  match fault with
  | some message => Work.complain message
  | none => pure ()
  let status ← runGroups invoke (a.has "t") input groups 0
  return if fault.isSome then 1 else status

end Manpage.Utility
