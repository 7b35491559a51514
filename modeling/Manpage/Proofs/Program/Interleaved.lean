/-
# Programs side by side

Several programs run step by step in any order: a schedule picks the next program as it likes, and
its next action is performed (`Interleaved`).  A system is free to give a staged file any name that
is not taken, so the schedule picks that name, too (`Performs`).

A number of workers allows some schedules and not others (`Worked`, `Worked.interleaved`).  To run
the programs one after another is a schedule that one worker is enough for (`Worked.cons_run`).
-/
import Manpage.Pool

namespace Manpage

/-- What comes of an action: what `perform` says, or a staged file under another free name. -/
inductive Performs (site : Site) : (a : Action) → World → a.Reply → World → Prop
  | plain (a : Action) (w : World) : Performs site a w (perform site a w).1 (perform site a w).2
  | stage {dir tag middle : Text} {w : World} {d : Location}
      (located : w.files.locate site.cwd dir = .ok d)
      (directory : w.files.get? d = some .directory)
      (free : w.files.get? (d ++ [temporaryName middle]) = none) :
      Performs site (.stage dir tag) w (Except.ok (d ++ [temporaryName middle]))
        (w.withFiles (w.files.put (d ++ [temporaryName middle]) (.file 0o600 [])))

/-- Whether an action makes a staged file. -/
def Action.isStage : Action → Bool
  | .stage .. => true
  | _ => false

/-- Only staging leaves a choice. -/
theorem Performs.eq_perform {site : Site} {a : Action} {w w' : World} {reply : a.Reply}
    (h : Performs site a w reply w') (ha : a.isStage = false) :
    reply = (perform site a w).1 ∧ w' = (perform site a w).2 := by
  cases h with
  | plain => exact ⟨rfl, rfl⟩
  | stage => cases ha

/-- The programs run side by side from one world to another, with these results. -/
inductive Interleaved (site : Site) {α : Type} :
    List (Program α) → World → List α → World → Prop
  | done (results : List α) (w : World) : Interleaved site (results.map .done) w results w
  | step (before : List (Program α)) {after : List (Program α)} {a : Action}
      {next : a.Reply → Program α} {reply : a.Reply} {results : List α} {w w₁ w₂ : World}
      (performed : Performs site a w reply w₁)
      (rest : Interleaved site (before ++ next reply :: after) w₁ results w₂) :
      Interleaved site (before ++ .step a next :: after) w results w₂

/-- The pieces are worked at by a number of workers: each of them takes any piece that waits, goes on
with it when it likes, and is free again when the piece is done. -/
inductive Worked (site : Site) (workers : Nat) {α : Type} :
    List (Piece α) → World → List α → World → Prop
  | done (results : List α) (w : World) : Worked site workers (results.map .finished) w results w
  | take (before : List (Piece α)) {after : List (Piece α)} {p : Program α} {results : List α}
      {w w' : World} (free : (before ++ after).countP Piece.isUnderway < workers)
      (rest : Worked site workers (before ++ .underway p :: after) w results w') :
      Worked site workers (before ++ .waiting p :: after) w results w'
  | step (before : List (Piece α)) {after : List (Piece α)} {a : Action}
      {next : a.Reply → Program α} {reply : a.Reply} {results : List α} {w w₁ w₂ : World}
      (performed : Performs site a w reply w₁)
      (rest : Worked site workers (before ++ .underway (next reply) :: after) w₁ results w₂) :
      Worked site workers (before ++ .underway (.step a next) :: after) w results w₂
  | finish (before : List (Piece α)) {after : List (Piece α)} {result : α} {results : List α}
      {w w' : World} (rest : Worked site workers (before ++ .finished result :: after) w results w') :
      Worked site workers (before ++ .underway (.done result) :: after) w results w'

namespace Worked

variable {site : Site} {workers : Nat} {α : Type} {pieces : List (Piece α)} {w w' : World}
  {results : List α}

/-- **Whatever the workers do is a schedule.** -/
theorem interleaved (h : Worked site workers pieces w results w') :
    Interleaved site (pieces.map Piece.program) w results w' := by
  induction h with
  | done results w =>
    rw [List.map_map]
    exact .done results w
  | take before _ _ ih =>
    rw [List.map_append, List.map_cons] at ih ⊢
    exact ih
  | step before performed _ ih =>
    rw [List.map_append, List.map_cons] at ih ⊢
    exact .step (before.map Piece.program) performed ih
  | finish before _ ih =>
    rw [List.map_append, List.map_cons] at ih ⊢
    exact ih

/-- A piece that is done does not disturb the others. -/
theorem cons_finished (h : Worked site workers pieces w results w') (result : α) :
    Worked site workers (.finished result :: pieces) w (result :: results) w' := by
  induction h with
  | done results w => exact .done (result :: results) w
  | take before free _ ih => exact .take (.finished result :: before) free ih
  | step before performed _ ih => exact .step (.finished result :: before) performed ih
  | finish before _ ih => exact .finish (.finished result :: before) ih

/-- **A worker may go on with its piece to the end before anything else happens.** -/
theorem run_middle (before : List (Piece α)) : ∀ (p : Program α) {w : World},
    Worked site workers (before ++ .finished (p.run site w).1 :: pieces) (p.run site w).2 results w' →
      Worked site workers (before ++ .underway p :: pieces) w results w'
  | .done _, _, h => .finish before h
  | .step a next, w, h =>
    .step before (.plain a w) (run_middle before (next (perform site a w).1) h)

/-- So may the first one. -/
theorem cons_run (p : Program α) {w : World}
    (h : Worked site workers pieces (p.run site w).2 results w') :
    Worked site workers (.underway p :: pieces) w ((p.run site w).1 :: results) w' :=
  run_middle [] p (h.cons_finished _)

end Worked

end Manpage
