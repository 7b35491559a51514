/-
# A batch of pages

Makes the pages of a list of applets.  The work on one applet is a program of its own: it asks for
the help text, reads the fragments, puts the page together and writes it.  A failure ends the work
on its applet and is recorded; the other applets do not notice.

The work on the applets is done by a pool of workers, as a schedule says (`runPooled`), or by one after
another in the order of the list (`run`).
-/
import Manpage.Batch.Collect
import Manpage.Batch.Publish
import Manpage.Pool

namespace Manpage

/-- What a batch is to make. -/
structure Batch where
  /-- The applets to make pages for, which are also the ones that pages refer to. -/
  applets : List Text
  includeDir : Text
  outDir : Text
  date : Text
  /-- The number of workers, if one is asked for. -/
  jobs : Option Nat := none
deriving DecidableEq, Repr

/-- What has become of one applet. -/
structure Outcome where
  applet : Text
  /-- The path of the page. -/
  output : Text
  result : Except Failure PageCounts

namespace Outcome

/-- Whether the page has been written. -/
def isSuccess (o : Outcome) : Bool :=
  match o.result with
  | .ok _ => true
  | .error _ => false

theorem isSuccess_iff {o : Outcome} : o.isSuccess = true ↔ ∃ counts, o.result = .ok counts := by
  rw [isSuccess]
  cases o.result with
  | ok counts => simp
  | error failure => simp

theorem isSuccess_eq_false_iff {o : Outcome} :
    o.isSuccess = false ↔ ∃ failure, o.result = .error failure := by
  rw [isSuccess]
  cases o.result with
  | ok counts => simp
  | error failure => simp

end Outcome

namespace Batch

/-- The file name of the page of an applet. -/
def pageName (applet : Text) : Text := applet ++ ".1".toList

/-- The path of the page of an applet. -/
def outputPath (outDir applet : Text) : Text := Path.join outDir (pageName applet)

/-- What the pages of the batch share. -/
def edition (batch : Batch) : Edition := ⟨batch.date, batch.applets⟩

/-- A text filled up with blanks to ten characters. -/
def padded (s : Text) : Text := s ++ List.replicate (10 - s.length) ' '

/-- The line that announces a page. -/
def announcement (applet output : Text) : Text :=
  padded applet ++ ": generating ".toList ++ output

/-- Makes the page of one applet. -/
def makePage (batch : Batch) (applet : Text) : Program (Except Failure PageCounts) := do
  let output := outputPath batch.outDir applet
  Program.ask (.announce (announcement applet output))
  match ← Program.ask (.askHelp applet) with
  | .error failure => return .error failure
  | .ok help =>
    match ← Fragments.load batch.includeDir applet with
    | .error failure => return .error failure
    | .ok fragments =>
      match Page.generate batch.edition applet help fragments with
      | .error m => return .error (.malformed m)
      | .ok (page, counts) =>
        if (OptionEntry.block? help).isSome then
          Program.ask (.report (.optionsRead applet counts.options))
        match ← writePage output page with
        | .error failure => return .error failure
        | .ok () =>
          Program.ask (.report (.written output applet counts))
          return .ok counts

/-- The work on one applet: its page, or an event that tells why there is none. -/
def work (batch : Batch) (applet : Text) : Program Outcome := do
  let result ← makePage batch applet
  match result with
  | .error failure => Program.ask (.report (.failed applet failure.message))
  | .ok _ => pure ()
  return ⟨applet, outputPath batch.outDir applet, result⟩

/-- The work on several applets, one after another. -/
def workThrough (site : Site) (batch : Batch) : List Text → World → List Outcome × World
  | [], w => ([], w)
  | applet :: rest, w =>
    let (outcome, w) := (work batch applet).run site w
    let (outcomes, w) := workThrough site batch rest w
    (outcome :: outcomes, w)

/-- Makes all pages of a batch in the order of the list. -/
def run (site : Site) (batch : Batch) (w : World) : List Outcome × World :=
  workThrough site batch batch.applets w

/-- The number of workers at a batch: as many as are asked for, or as the machine has processors.  A
zero asks for nothing. -/
def workers (batch : Batch) (processors : Nat) : Nat :=
  match batch.jobs with
  | some (n + 1) => n + 1
  | _ => processors

theorem workers_pos (batch : Batch) {processors : Nat} (h : 0 < processors) :
    0 < batch.workers processors := by
  rw [workers]
  split
  · exact Nat.succ_pos _
  · exact h

theorem workers_of_jobs {batch : Batch} (h : batch.jobs ≠ some 0) (processors : Nat) :
    batch.workers processors = batch.jobs.getD processors := by
  rw [workers]
  rcases hjobs : batch.jobs with _ | _ | n
  · rfl
  · exact absurd hjobs h
  · rfl

/-- The pieces of work of a batch before its first step. -/
def pieces (batch : Batch) (applets : List Text) : List (Piece Outcome) :=
  applets.map fun applet => .waiting (work batch applet)

theorem map_program_pieces (batch : Batch) (applets : List Text) :
    (pieces batch applets).map Piece.program = applets.map (work batch) := List.map_map

/-- Makes all pages of a batch with a number of workers, as a schedule says. -/
def runPooled (site : Site) (batch : Batch) (workers : Nat) (schedule : List Tick) (w : World) :
    List Outcome × World :=
  Pool.run site workers schedule (pieces batch batch.applets) w

/-- The outcomes without a page. -/
def failures (outcomes : List Outcome) : List Outcome := outcomes.filter (fun o => !o.isSuccess)

/-- Whether every page has been written. -/
def succeeded (outcomes : List Outcome) : Bool := outcomes.all Outcome.isSuccess

theorem succeeded_iff {outcomes : List Outcome} :
    succeeded outcomes = true ↔ ∀ o ∈ outcomes, ∃ counts, o.result = .ok counts := by
  rw [succeeded, List.all_eq_true]
  exact forall₂_congr fun o _ => Outcome.isSuccess_iff

theorem succeeded_eq_false_iff {outcomes : List Outcome} :
    succeeded outcomes = false ↔ ∃ o ∈ outcomes, ∃ failure, o.result = .error failure := by
  rw [succeeded, List.all_eq_false]
  simp only [Bool.not_eq_true, Outcome.isSuccess_eq_false_iff]

end Batch

end Manpage
