/-
# What a pool of workers can do

The pool does nothing but what a number of workers may do (`Pool.worked_run`), and everything that
they may do it can be told to do by a schedule (`Worked.exists_schedule`).  So the schedules of the
pool are all the orders that there are, and what is true of whatever the workers do is true of the
running pool.
-/
import Manpage.Proofs.Program.Interleaved

namespace Manpage

namespace Pool

variable {site : Site} {workers : Nat} {α : Type} {w w' : World} {results : List α}

/-! ## 1. One action -/

theorem stagedAs?_eq_some_iff {files : Files} {cwd : Location} {dir middle : Text} {l : Location} :
    stagedAs? files cwd dir middle = some l ↔
      ∃ d, files.locate cwd dir = .ok d ∧ files.get? d = some .directory ∧
        files.get? (d ++ [temporaryName middle]) = none ∧ l = d ++ [temporaryName middle] := by
  rw [stagedAs?]
  cases files.locate cwd dir with
  | error fault => simp
  | ok d => simp [and_assoc, eq_comm]

/-- What the pool does for an action is one of the things that may come of it. -/
theorem performs_performAs (site : Site) (middle : Option Text) (a : Action) (w : World) :
    Performs site a w (performAs site middle a w).1 (performAs site middle a w).2 := by
  cases a
  case stage dir tag =>
    cases hstaged : middle.bind (stagedAs? w.files site.cwd dir) with
    | none =>
      simp only [performAs, hstaged]
      exact .plain _ w
    | some staged =>
      obtain ⟨middle, -, hmiddle⟩ := Option.bind_eq_some_iff.mp hstaged
      obtain ⟨d, hlocate, hdirectory, hfree, rfl⟩ := stagedAs?_eq_some_iff.mp hmiddle
      simp only [performAs, hstaged]
      exact .stage hlocate hdirectory hfree
  all_goals exact .plain _ w

/-- Whatever may come of an action, the pool can be told to do. -/
theorem exists_performAs {a : Action} {w w' : World} {reply : a.Reply}
    (h : Performs site a w reply w') : ∃ middle, performAs site middle a w = (reply, w') := by
  cases h with
  | plain =>
    refine ⟨none, ?_⟩
    cases a <;> rfl
  | @stage dir tag middle w d located directory free =>
    have hstaged : stagedAs? w.files site.cwd dir middle = some (d ++ [temporaryName middle]) :=
      stagedAs?_eq_some_iff.mpr ⟨d, located, directory, free, rfl⟩
    exact ⟨some middle, by simp only [performAs, Option.bind_some, hstaged]⟩

/-! ## 2. One tick -/

section Tick

variable (site workers) (before : List (Piece α)) {after : List (Piece α)} (middle : Option Text)

theorem countP_waiting (p : Program α) :
    (before ++ .waiting p :: after).countP Piece.isUnderway
      = (before ++ after).countP Piece.isUnderway := by
  rw [List.countP_append, List.countP_append, List.countP_cons_of_neg]
  exact Bool.false_ne_true

theorem tick_waiting (p : Program α) :
    tick site workers (before ++ .waiting p :: after, w) ⟨before.length, middle⟩
      = if (before ++ after).countP Piece.isUnderway < workers
        then (before ++ .underway p :: after, w) else (before ++ .waiting p :: after, w) := by
  rw [← countP_waiting before p]
  simp [tick]

theorem tick_step (a : Action) (next : a.Reply → Program α) :
    tick site workers (before ++ .underway (.step a next) :: after, w) ⟨before.length, middle⟩
      = (before ++ .underway (next (performAs site middle a w).1) :: after,
        (performAs site middle a w).2) := by
  simp [tick]

theorem tick_done (result : α) :
    tick site workers (before ++ .underway (.done result) :: after, w) ⟨before.length, middle⟩
      = (before ++ .finished result :: after, w) := by
  simp [tick]

theorem tick_finished (result : α) :
    tick site workers (before ++ .finished result :: after, w) ⟨before.length, middle⟩
      = (before ++ .finished result :: after, w) := by
  simp [tick]

end Tick

/-- **A tick is something that the workers may do**, or nothing. -/
theorem worked_of_tick (pieces : List (Piece α)) (w : World) (t : Tick)
    (h : Worked site workers (tick site workers (pieces, w) t).1 (tick site workers (pieces, w) t).2
      results w') :
    Worked site workers pieces w results w' := by
  obtain ⟨i, middle⟩ := t
  by_cases hi : i < pieces.length
  · obtain ⟨before, after, hpieces, rfl, -⟩ := @List.exists_of_set _ i pieces[i] pieces hi
    generalize pieces[before.length] = piece at hpieces
    subst hpieces
    cases piece with
    | waiting p =>
      rw [tick_waiting] at h
      split at h
      · next free => exact .take before free h
      · exact h
    | underway p =>
      cases p with
      | done result =>
        rw [tick_done] at h
        exact .finish before h
      | step a next =>
        rw [tick_step] at h
        exact .step before (performs_performAs site middle a w) h
    | finished result =>
      rw [tick_finished] at h
      exact h
  · have hnone : pieces[i]? = none := List.getElem?_eq_none (Nat.not_lt.mp hi)
    simp only [tick, hnone] at h
    exact h

/-! ## 3. To the end -/

/-- To go on with everything that is underway is something that the workers may do. -/
theorem worked_of_settle (before : List (Piece α)) {pieces : List (Piece α)} {w : World}
    (h : Worked site workers (before ++ (settle site pieces w).1) (settle site pieces w).2
      results w') :
    Worked site workers (before ++ pieces) w results w' := by
  induction pieces generalizing before w with
  | nil => exact h
  | cons piece rest ih =>
    have hrest (first : Piece α) (w₁ : World) (h : Worked site workers
        (before ++ first :: (settle site rest w₁).1) (settle site rest w₁).2 results w') :
        Worked site workers (before ++ first :: rest) w₁ results w' := by
      rw [List.append_cons] at h ⊢
      exact ih _ h
    cases piece with
    | underway p => exact .run_middle before p (hrest _ _ h)
    | waiting p => exact hrest _ _ h
    | finished result => exact hrest _ _ h

/-- Then nothing is underway. -/
theorem countP_settle (pieces : List (Piece α)) (w : World) :
    (settle site pieces w).1.countP Piece.isUnderway = 0 := by
  induction pieces generalizing w with
  | nil => rfl
  | cons piece rest ih => cases piece <;> exact ih _

/-- When nothing is underway, there is nothing to go on with. -/
theorem settle_of_idle {pieces : List (Piece α)} (hidle : pieces.countP Piece.isUnderway = 0)
    (w : World) : settle site pieces w = (pieces, w) := by
  induction pieces with
  | nil => rfl
  | cons piece rest ih =>
    cases piece with
    | underway p =>
      rw [List.countP_cons_of_pos rfl] at hidle
      cases hidle
    | waiting p =>
      have hidle : rest.countP Piece.isUnderway = 0 := hidle
      simp only [settle, ih hidle]
    | finished result =>
      have hidle : rest.countP Piece.isUnderway = 0 := hidle
      simp only [settle, ih hidle]

/-- Without a schedule the programs run one after another. -/
theorem run_nil {pieces : List (Piece α)} (hidle : pieces.countP Piece.isUnderway = 0) (w : World) :
    run site workers [] pieces w = runAll site (pieces.map Piece.program) w := by
  rw [run, List.foldl_nil]
  simp only [settle_of_idle hidle]

/-- When nothing is underway, one worker may do everything that is left. -/
theorem worked_runAll (hworkers : 0 < workers) {pieces : List (Piece α)}
    (hidle : pieces.countP Piece.isUnderway = 0) (w : World) :
    Worked site workers pieces w (runAll site (pieces.map Piece.program) w).1
      (runAll site (pieces.map Piece.program) w).2 := by
  induction pieces generalizing w with
  | nil => exact .done [] w
  | cons piece rest ih =>
    cases piece with
    | underway p =>
      rw [List.countP_cons_of_pos rfl] at hidle
      cases hidle
    | waiting p =>
      have hidle : rest.countP Piece.isUnderway = 0 := hidle
      exact .take [] (hidle ▸ hworkers) (.cons_run p (ih hidle _))
    | finished result => exact (ih hidle w).cons_finished result

/-- **The pool does what its workers may do**, whatever the schedule says. -/
theorem worked_run (hworkers : 0 < workers) (schedule : List Tick) (pieces : List (Piece α))
    (w : World) :
    Worked site workers pieces w (run site workers schedule pieces w).1
      (run site workers schedule pieces w).2 := by
  induction schedule generalizing pieces w with
  | nil => exact worked_of_settle [] (worked_runAll hworkers (countP_settle pieces w) _)
  | cons t rest ih => exact worked_of_tick pieces w t (ih _ _)

end Pool

namespace Worked

variable {site : Site} {workers : Nat} {α : Type} {pieces : List (Piece α)} {w w' : World}
  {results : List α}

theorem countP_finished (results : List α) :
    (results.map Piece.finished).countP Piece.isUnderway = 0 := by
  rw [List.countP_map]
  exact List.countP_eq_zero.mpr fun _ _ => Bool.false_ne_true

theorem runAll_done (results : List α) (w : World) :
    Pool.runAll site (results.map .done) w = (results, w) := by
  induction results with
  | nil => rfl
  | cons result rest ih => simp only [List.map_cons, Pool.runAll, Program.run, ih]

/-- **Whatever the workers may do is done by a schedule.** -/
theorem exists_schedule (h : Worked site workers pieces w results w') :
    ∃ schedule, Pool.run site workers schedule pieces w = (results, w') := by
  induction h with
  | done results w =>
    refine ⟨[], ?_⟩
    rw [Pool.run_nil (countP_finished results), List.map_map]
    exact runAll_done results w
  | @take before after p results w w' free _ ih =>
    obtain ⟨schedule, hrun⟩ := ih
    refine ⟨⟨before.length, none⟩ :: schedule, ?_⟩
    rw [← hrun, Pool.run, List.foldl_cons, Pool.tick_waiting, if_pos free]
    rfl
  | @step before after a next reply results w w₁ w₂ performed _ ih =>
    obtain ⟨schedule, hrun⟩ := ih
    obtain ⟨middle, hperform⟩ := Pool.exists_performAs performed
    refine ⟨⟨before.length, middle⟩ :: schedule, ?_⟩
    rw [← hrun, Pool.run, List.foldl_cons, Pool.tick_step, hperform]
    rfl
  | @finish before after result results w w' _ ih =>
    obtain ⟨schedule, hrun⟩ := ih
    refine ⟨⟨before.length, none⟩ :: schedule, ?_⟩
    rw [← hrun, Pool.run, List.foldl_cons, Pool.tick_done]
    rfl

end Worked

end Manpage
