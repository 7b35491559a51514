/-
# Two layers of settings

A setting may be chosen on the command line and in the configuration file, and the command line
wins.  Which choice is in force is one question, which choices are valid is another: each layer is
held to conditions of its own (`ValidFile`, `ValidLine`), and neither mentions the other layer.

* `checkFile_eq_ok_iff`: the check of a configuration file is for its own conditions.
* `resolve_eq_ok_iff`: settings are resolved to what is in force (`Layered`).
* `resolve_eq_error_iff_lineFault`: behind a valid file, they fail to resolve exactly by a fault of
  the command line.

`combine_layers` puts this together.  Nothing is known of the rule by which commands are split into
words, but that it makes one word of the default command.
-/
import Manpage.Run

namespace Manpage.Settings

variable {split : Splitter} {line file : Choices} {settings : Settings} {fault : SettingsFault}

/-! ## 1. The words of a command -/

/-- The command is split into one word at least. -/
def HasWords (split : Splitter) (command : Text) : Prop :=
  ∃ word rest, split command = some (word :: rest)

/-- Why a command has no words. -/
inductive CommandFault (split : Splitter) (command : Text) : SettingsFault → Prop
  | openQuote : split command = none → CommandFault split command (.openQuote command)
  | emptyCommand : split command = some [] → CommandFault split command .emptyCommand

theorem commandWords_eq_ok_iff {command : Text} {words : List Text} :
    commandWords command split = .ok words ↔ split command = some words ∧ words ≠ [] := by
  rw [commandWords]
  cases split command with
  | none => simp
  | some found =>
    cases found with
    | nil => simp [eq_comm]
    | cons word rest =>
      constructor
      · intro h
        cases h
        exact ⟨rfl, by simp⟩
      · rintro ⟨h, -⟩
        cases h
        rfl

theorem commandWords_eq_error_iff {command : Text} :
    commandWords command split = .error fault ↔ CommandFault split command fault := by
  rw [commandWords]
  constructor
  · intro h
    split at h
    · next hnone =>
      cases h
      exact .openQuote hnone
    · next hnil =>
      cases h
      exact .emptyCommand hnil
    · cases h
  · rintro (hnone | hnil)
    · rw [hnone]
    · rw [hnil]

theorem exists_commandWords_iff {command : Text} :
    (∃ words, commandWords command split = .ok words) ↔ HasWords split command := by
  constructor
  · rintro ⟨words, h⟩
    obtain ⟨hsplit, hne⟩ := commandWords_eq_ok_iff.mp h
    obtain ⟨word, rest, rfl⟩ := List.exists_cons_of_ne_nil hne
    exact ⟨word, rest, hsplit⟩
  · rintro ⟨word, rest, hsplit⟩
    exact ⟨word :: rest, commandWords_eq_ok_iff.mpr ⟨hsplit, by simp⟩⟩

theorem HasWords.not_commandFault {command : Text} (h : HasWords split command) :
    ¬CommandFault split command fault := by
  intro hfault
  obtain ⟨words, hwords⟩ := exists_commandWords_iff.mpr h
  rw [commandWords_eq_error_iff.mpr hfault] at hwords
  cases hwords

theorem hasWords_or_commandFault (split : Splitter) (command : Text) :
    HasWords split command ∨ ∃ fault, CommandFault split command fault := by
  cases h : commandWords command split with
  | ok words => exact .inl (exists_commandWords_iff.mp ⟨words, h⟩)
  | error fault => exact .inr ⟨fault, commandWords_eq_error_iff.mp h⟩

/-! ## 2. The configuration file by itself -/

/-- What is asked of a configuration file, whatever the command line says. -/
structure ValidFile (split : Splitter) (file : Choices) : Prop where
  jobs : file.jobs ≠ some 0
  tool : ∀ tool, file.tool = some tool → ∃ c ∈ tool, Text.isBlank c = false
  command : ∀ command, file.appletsCommand = some command → HasWords split command

/-- A check in front of the rest: both have to pass. -/
theorem throw_else_eq_ok_iff {ε α : Type} {c : Prop} [Decidable c] {fault : ε}
    {rest : Except ε α} {x : α} :
    (if c then (throw fault : Except ε PUnit) >>= fun _ => rest else rest) = .ok x ↔
      ¬c ∧ rest = .ok x := by
  by_cases hc : c
  · rw [if_pos hc]
    constructor
    · intro h
      cases h
    · intro h
      exact absurd hc h.1
  · rw [if_neg hc]
    simp only [hc, not_false_eq_true, true_and]

theorem not_blank_getD_iff {tool : Option Text} :
    ¬(tool.map Text.blank).getD false = true ↔
      ∀ t, tool = some t → ∃ c ∈ t, Text.isBlank c = false := by
  cases tool with
  | none => simp
  | some t => simp [Text.blank]

theorem discard_commandWords_eq_ok_iff {command : Text} :
    discard (commandWords command split) = .ok () ↔ HasWords split command := by
  rw [← exists_commandWords_iff]
  cases commandWords command split with
  | ok words => exact ⟨fun _ => ⟨words, rfl⟩, fun _ => rfl⟩
  | error fault =>
    constructor
    · intro h
      cases h
    · rintro ⟨words, h⟩
      cases h

/-- A configuration file passes exactly when it is valid. -/
theorem checkFile_eq_ok_iff : checkFile file split = .ok () ↔ ValidFile split file := by
  have hfields : checkFile file split = .ok () ↔ file.jobs ≠ some 0 ∧
      (∀ tool, file.tool = some tool → ∃ c ∈ tool, Text.isBlank c = false) ∧
      ∀ command, file.appletsCommand = some command → HasWords split command := by
    refine throw_else_eq_ok_iff.trans <| and_congr_right' <|
      throw_else_eq_ok_iff.trans <| and_congr not_blank_getD_iff ?_
    cases file.appletsCommand with
    | none => simp [pure, Except.pure]
    | some command => simp [discard_commandWords_eq_ok_iff]
  rw [hfields]
  constructor
  · rintro ⟨hjobs, htool, hcommand⟩
    exact ⟨hjobs, htool, hcommand⟩
  · rintro ⟨hjobs, htool, hcommand⟩
    exact ⟨hjobs, htool, hcommand⟩

/-! ## 3. What is in force -/

section InForce

variable {α : Type}

/-- The value in force for a setting: the one of the command line if it is given there, else the
one of the file, else the fallback. -/
inductive InForce (line file : Option α) (fallback : α) : α → Prop
  | line {x : α} : line = some x → InForce line file fallback x
  | file {x : α} : line = none → file = some x → InForce line file fallback x
  | fallback : line = none → file = none → InForce line file fallback fallback

theorem inForce_iff {line file : Option α} {fallback x : α} :
    InForce line file fallback x ↔ x = (line <|> file).getD fallback := by
  constructor
  · rintro (hline | ⟨hline, hfile⟩ | ⟨hline, hfile⟩)
    · simp [hline]
    · simp [hline, hfile]
    · simp [hline, hfile]
  · rintro rfl
    cases hline : line with
    | some x => exact .line rfl
    | none =>
      cases hfile : file with
      | some x => exact .file rfl rfl
      | none => exact .fallback rfl rfl

/-- A setting that may stay open is open when neither layer gives it. -/
theorem inForce_none_iff {line file x : Option α} :
    InForce (line.map some) (file.map some) none x ↔ x = (line <|> file) := by
  rw [inForce_iff]
  cases line with
  | some x => rfl
  | none =>
    cases file with
    | some x => rfl
    | none => rfl

end InForce

/-- Every setting is the one in force. -/
structure Layered (split : Splitter) (line file : Choices) (settings : Settings) : Prop where
  tool : InForce line.tool file.tool defaultTool settings.tool
  discovery : ∃ command, InForce line.appletsCommand file.appletsCommand defaultCommand command ∧
    split command = some settings.discovery
  includeDir : InForce line.includeDir file.includeDir defaultIncludeDir settings.includeDir
  outDir : InForce line.outDir file.outDir defaultOutDir settings.outDir
  date : InForce (line.date.map some) (file.date.map some) none settings.date
  jobs : InForce (line.jobs.map some) (file.jobs.map some) none settings.jobs

theorem resolve_of_noJobs (h : (line.jobs <|> file.jobs) = some 0) :
    resolve line file split = .error .noJobsInForce := by
  rw [resolve]
  simp only [h, if_true]
  rfl

theorem resolve_of_jobs (h : (line.jobs <|> file.jobs) ≠ some 0) :
    resolve line file split =
      (commandWords ((line.appletsCommand <|> file.appletsCommand).getD defaultCommand) split).map
        fun words =>
          { tool := (line.tool <|> file.tool).getD defaultTool
            discovery := words
            includeDir := (line.includeDir <|> file.includeDir).getD defaultIncludeDir
            outDir := (line.outDir <|> file.outDir).getD defaultOutDir
            date := line.date <|> file.date
            jobs := line.jobs <|> file.jobs } := by
  rw [resolve]
  simp only [h, if_false]
  rfl

/-- **Settings are resolved to what is in force**, which is fit for use. -/
theorem resolve_eq_ok_iff :
    resolve line file split = .ok settings ↔
      Layered split line file settings ∧ settings.jobs ≠ some 0 ∧ settings.discovery ≠ [] := by
  by_cases hjobs : (line.jobs <|> file.jobs) = some 0
  · rw [resolve_of_noJobs hjobs]
    constructor
    · intro h
      cases h
    · rintro ⟨hlayered, hne, -⟩
      exact absurd ((inForce_none_iff.mp hlayered.jobs).trans hjobs) hne
  rw [resolve_of_jobs hjobs]
  constructor
  · intro h
    cases hwords : commandWords
        ((line.appletsCommand <|> file.appletsCommand).getD defaultCommand) split with
    | error fault =>
      rw [hwords] at h
      cases h
    | ok words =>
      rw [hwords] at h
      cases h
      obtain ⟨hsplit, hne⟩ := commandWords_eq_ok_iff.mp hwords
      exact ⟨⟨inForce_iff.mpr rfl, ⟨_, inForce_iff.mpr rfl, hsplit⟩, inForce_iff.mpr rfl,
        inForce_iff.mpr rfl, inForce_none_iff.mpr rfl, inForce_none_iff.mpr rfl⟩, hjobs, hne⟩
  · rintro ⟨⟨htool, ⟨command, hcommand, hsplit⟩, hinclude, hout, hdate, hjobs⟩, -, hne⟩
    rw [← inForce_iff.mp hcommand, commandWords_eq_ok_iff.mpr ⟨hsplit, hne⟩,
      ← inForce_iff.mp htool, ← inForce_iff.mp hinclude, ← inForce_iff.mp hout,
      ← inForce_none_iff.mp hdate, ← inForce_none_iff.mp hjobs]
    rfl

theorem resolve_eq_error_iff :
    resolve line file split = .error fault ↔
      (line.jobs <|> file.jobs) = some 0 ∧ fault = .noJobsInForce ∨
        (line.jobs <|> file.jobs) ≠ some 0 ∧
          ∃ command, InForce line.appletsCommand file.appletsCommand defaultCommand command ∧
            CommandFault split command fault := by
  by_cases hjobs : (line.jobs <|> file.jobs) = some 0
  · rw [resolve_of_noJobs hjobs]
    simp [hjobs, eq_comm]
  rw [resolve_of_jobs hjobs]
  simp only [hjobs, false_and, false_or, ne_eq, not_false_eq_true, true_and, inForce_iff,
    exists_eq_left, ← commandWords_eq_error_iff]
  cases commandWords
      ((line.appletsCommand <|> file.appletsCommand).getD defaultCommand) split with
  | ok words => simp [Except.map]
  | error fault' => simp [Except.map]

/-! ## 4. The command line by itself -/

/-- What is asked of the command line, whatever the file says. -/
structure ValidLine (split : Splitter) (line : Choices) : Prop where
  jobs : line.jobs ≠ some 0
  command : ∀ command, line.appletsCommand = some command → HasWords split command

/-- What is wrong with the command line, the number of workers first. -/
inductive LineFault (split : Splitter) (line : Choices) : SettingsFault → Prop
  | noJobs : line.jobs = some 0 → LineFault split line .noJobsInForce
  | command {command : Text} {fault : SettingsFault} : line.jobs ≠ some 0 →
      line.appletsCommand = some command → CommandFault split command fault →
      LineFault split line fault

theorem validLine_iff : ValidLine split line ↔ ∀ fault, ¬LineFault split line fault := by
  constructor
  · rintro ⟨hjobs, hwords⟩ fault (hnone | ⟨-, hcommand, hfault⟩)
    · exact hjobs hnone
    · exact (hwords _ hcommand).not_commandFault hfault
  · intro h
    have hjobs : line.jobs ≠ some 0 := fun hnone => h _ (.noJobs hnone)
    refine ⟨hjobs, fun command hcommand => ?_⟩
    refine (hasWords_or_commandFault split command).resolve_right ?_
    rintro ⟨fault, hfault⟩
    exact h fault (.command hjobs hcommand hfault)

/-- **Behind a valid file only the command line can be at fault.** -/
theorem resolve_eq_error_iff_lineFault (hdefault : HasWords split defaultCommand)
    (hfile : ValidFile split file) :
    resolve line file split = .error fault ↔ LineFault split line fault := by
  have hjobs : (line.jobs <|> file.jobs) = some 0 ↔ line.jobs = some 0 := by
    cases line.jobs with
    | some jobs => rfl
    | none => exact iff_of_false hfile.jobs (by simp)
  rw [resolve_eq_error_iff, ne_eq, hjobs]
  constructor
  · rintro (⟨hnone, rfl⟩ | ⟨hsome, command, hforce, hfault⟩)
    · exact .noJobs hnone
    · cases hforce with
      | line hcommand => exact .command hsome hcommand hfault
      | file _ hcommand => exact absurd hfault (hfile.command command hcommand).not_commandFault
      | fallback => exact absurd hfault hdefault.not_commandFault
  · rintro (hnone | ⟨hsome, hcommand, hfault⟩)
    · exact .inl ⟨hnone, rfl⟩
    · exact .inr ⟨hsome, _, .line hcommand, hfault⟩

theorem exists_resolve_iff (hdefault : HasWords split defaultCommand)
    (hfile : ValidFile split file) :
    (∃ settings, resolve line file split = .ok settings) ↔ ValidLine split line := by
  simp only [validLine_iff, ← resolve_eq_error_iff_lineFault hdefault hfile]
  cases resolve line file split with
  | ok settings => simp
  | error fault => simp

end Manpage.Settings

namespace Manpage.Run

open Settings

variable {split : Splitter} {line file : Choices} {settings : Settings}

/-! ## 5. Both layers -/

theorem combine_eq_ok_iff :
    combine line file split = .ok settings ↔
      ValidFile split file ∧ resolve line file split = .ok settings := by
  rw [← checkFile_eq_ok_iff, combine]
  cases checkFile file split with
  | ok u => simp [bind, Except.bind]
  | error fault => simp [bind, Except.bind]

/-- An invalid file is refused, for the same reason whatever the command line says. -/
theorem exists_combine_eq_error (h : ¬ValidFile split file) :
    ∃ fault, ∀ line, combine line file split = .error fault := by
  rw [← checkFile_eq_ok_iff] at h
  cases hcheck : checkFile file split with
  | ok u => exact absurd hcheck h
  | error fault =>
    refine ⟨fault, fun line => ?_⟩
    rw [combine, hcheck]
    rfl

theorem exists_combine_iff (hdefault : HasWords split defaultCommand) :
    (∃ settings, combine line file split = .ok settings) ↔
      ValidFile split file ∧ ValidLine split line := by
  simp only [combine_eq_ok_iff, exists_and_left]
  exact and_congr_right fun hfile => exists_resolve_iff hdefault hfile

/-- The pages are dated with the date in force, the month of the run behind both layers. -/
theorem date_batchOf (h : Layered split line file settings) (machine : Machine)
    (applets : List Text) :
    InForce line.date file.date machine.month (batchOf machine settings applets).date := by
  rw [inForce_iff, batchOf, inForce_none_iff.mp h.date]

/-- **Settings are accepted exactly when both layers are valid.**  An invalid file is refused
whatever stands on the command line; behind a valid one every failure is a fault of the command
line.  What is accepted is what is in force, with a worker at least, unless their number is left
open, and a command that can be run. -/
theorem combine_layers {split : Splitter} (hdefault : ∃ word, split defaultCommand = some [word])
    (args : Arguments) (file : Choices) :
    ((∃ settings, combine args.choices file split = .ok settings) ↔
        ValidFile split file ∧ ValidLine split args.choices) ∧
      (¬ValidFile split file → ∃ fault, ∀ line, combine line file split = .error fault) ∧
      (checkFile file split = .ok () → ∀ fault,
        resolve args.choices file split = .error fault ↔ LineFault split args.choices fault) ∧
      ∀ settings, combine args.choices file split = .ok settings →
        Layered split args.choices file settings ∧
          (∀ machine applets, InForce args.choices.date file.date machine.month
            (batchOf machine settings applets).date) ∧
          (∀ jobs, settings.jobs = some jobs → 1 ≤ jobs) ∧ settings.discovery ≠ [] := by
  obtain ⟨word, hword⟩ := hdefault
  have hwords : HasWords split defaultCommand := ⟨word, [], hword⟩
  refine ⟨exists_combine_iff hwords, exists_combine_eq_error, fun hcheck fault => ?_,
    fun settings hcombine => ?_⟩
  · exact resolve_eq_error_iff_lineFault hwords (checkFile_eq_ok_iff.mp hcheck)
  · obtain ⟨hlayered, hjobs, hdiscovery⟩ := resolve_eq_ok_iff.mp (combine_eq_ok_iff.mp hcombine).2
    refine ⟨hlayered, fun machine applets => date_batchOf hlayered machine applets,
      fun jobs hsome => ?_, hdiscovery⟩
    rw [hsome] at hjobs
    exact Nat.one_le_iff_ne_zero.mpr fun hzero => hjobs (congrArg some hzero)

/-- A configuration file that leaves the directory of fragments and the date open. -/
def overridden : Choices where
  tool := some "/usr/bin/q".toList
  appletsCommand := some "sh 'list applets.sh'".toList
  includeDir := none
  outDir := some "pages".toList
  date := none
  jobs := some 2

/-- A command line that overrides all of `overridden` but the command.  Its tool is blank, which is
refused in a file only. -/
def overriding : Arguments where
  applets := []
  choices :=
    { tool := some " ".toList
      appletsCommand := none
      includeDir := none
      outDir := some "man".toList
      date := none
      jobs := some 4 }
  config := some "mkman.json".toList
  verbosity := 0

/-- A file that is overridden almost wholly, the same file with no workers, which are overridden
too, and an open quote on the command line. -/
theorem combine_layers_overridden :
    (∃ word, splitWords? defaultCommand = some [word]) ∧
      ValidFile splitWords? overridden ∧ ValidLine splitWords? overriding.choices ∧
      (∃ settings, combine overriding.choices overridden = .ok settings ∧
        Layered splitWords? overriding.choices overridden settings ∧
        settings.tool = " ".toList ∧
        settings.discovery = ["sh".toList, "list applets.sh".toList] ∧
        settings.jobs = some 4) ∧
      (∃ fault, ∀ line, combine line { overridden with jobs := some 0 } = .error fault) ∧
      LineFault splitWords? { overriding.choices with appletsCommand := some "sh 'list".toList }
        (.openQuote "sh 'list".toList) := by
  have hdefault : ∃ word, splitWords? defaultCommand = some [word] := ⟨defaultCommand, by decide⟩
  have hcombine : combine overriding.choices overridden = .ok
      { tool := " ".toList
        discovery := ["sh".toList, "list applets.sh".toList]
        includeDir := "include".toList
        outDir := "man".toList
        date := none
        jobs := some 4 } := by
    rfl
  obtain ⟨hvalid, -, -, hsettled⟩ := combine_layers hdefault overriding overridden
  obtain ⟨hfile, hline⟩ := hvalid.mp ⟨_, hcombine⟩
  obtain ⟨-, hrefused, -⟩ := combine_layers hdefault overriding { overridden with jobs := some 0 }
  obtain ⟨-, -, hfaults, -⟩ := combine_layers hdefault
    { overriding with
      choices := { overriding.choices with appletsCommand := some "sh 'list".toList } } overridden
  exact ⟨hdefault, hfile, hline, ⟨_, hcombine, (hsettled _ hcombine).1, rfl, rfl, rfl⟩,
    hrefused fun h => h.jobs rfl, (hfaults rfl _).mp rfl⟩

end Manpage.Run
