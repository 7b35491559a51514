/-
# Programs that honour a contract

Between two steps of a program others may take theirs, so what a program can count on is not the
tree that it left.  A contract says what it finds whenever it goes on, and what it may change by one
step in return.  Each program has a state of its own, which only its own steps change: what it has
done so far, as far as the others are concerned.

A program is judged alone (`Honors`).  If one step of a program that honours the contract keeps an
invariant of all states and the tree, and the invariant is what the programs may count on (`Upholds`),
then every schedule keeps it, and each program ends as it has been judged to
(`Traced.honors`).

A schedule leaves a trace, the trees that it passes through (`Traced`): what a program has read, it
has read from one of these.
-/
import Manpage.Proofs.Program.Interleaved

namespace Manpage

/-! ## 1. One program -/

/-- What a program finds of the tree when it goes on, and what it may change by one step. -/
structure Contract (σ : Type) where
  finds : σ → Files → Prop
  changes : σ → Files → σ → Files → Prop

/-- A program in a state honours a contract if each action that it comes to changes what may be
changed, and its result and the state in which it ends are as `post` says. -/
def Honors (site : Site) {σ : Type} (c : Contract σ) {α : Type} :
    Program α → σ → (α → σ → Prop) → Prop
  | .done result, u, post => post result u
  | .step a next, u, post => ∀ w reply w', c.finds u w.files → Performs site a w reply w' →
      ∃ u', c.changes u w.files u' w'.files ∧ Honors site c (next reply) u' post

namespace Honors

variable {site : Site} {σ : Type} {c : Contract σ} {α β : Type}

/-- **One program after another.** -/
theorem bind {f : α → Program β} {post : β → σ → Prop} :
    ∀ {p : Program α} {u : σ},
      Honors site c p u (fun result u' => Honors site c (f result) u' post) →
        Honors site c (p >>= f) u post
  | .done _, _, h => h
  | .step _ _, _, h => fun w reply w' hfinds hperforms =>
    let ⟨u', hchanges, hnext⟩ := h w reply w' hfinds hperforms
    ⟨u', hchanges, bind hnext⟩

/-- An action that leaves no choice to the system. -/
theorem ask {a : Action} (ha : a.isStage = false) {f : a.Reply → Program β} {u : σ}
    {post : β → σ → Prop}
    (h : ∀ w, c.finds u w.files → ∃ u', c.changes u w.files u' (perform site a w).2.files ∧
      Honors site c (f (perform site a w).1) u' post) :
    Honors site c (Program.ask a >>= f) u post := by
  intro w reply w' hfinds hperforms
  obtain ⟨rfl, rfl⟩ := hperforms.eq_perform ha
  exact h w hfinds

end Honors

/-! ## 2. The trace of a schedule -/

/-- The programs run side by side, and these are the trees that they pass through. -/
inductive Traced (site : Site) {α : Type} :
    List (Program α) → World → List Files → List α → World → Prop
  | done (results : List α) (w : World) : Traced site (results.map .done) w [w.files] results w
  | step (before : List (Program α)) {after : List (Program α)} {a : Action}
      {next : a.Reply → Program α} {reply : a.Reply} {trees : List Files} {results : List α}
      {w w₁ w₂ : World} (performed : Performs site a w reply w₁)
      (rest : Traced site (before ++ next reply :: after) w₁ trees results w₂) :
      Traced site (before ++ .step a next :: after) w (w.files :: trees) results w₂

/-- **Every schedule leaves a trace**, and what leaves a trace is a schedule. -/
theorem interleaved_iff_exists_traced {site : Site} {α : Type} {programs : List (Program α)}
    {w w' : World} {results : List α} :
    Interleaved site programs w results w' ↔
      ∃ trees, Traced site programs w trees results w' := by
  constructor
  · intro h
    induction h with
    | done results w => exact ⟨_, .done results w⟩
    | step before performed _ ih =>
      obtain ⟨trees, htraced⟩ := ih
      exact ⟨_, .step before performed htraced⟩
  · rintro ⟨trees, h⟩
    induction h with
    | done results w => exact .done results w
    | step before performed _ ih => exact .step before performed ih

/-! ## 3. Several programs -/

theorem mem_middle_iff {α : Type} {v x : α} {before after : List α} :
    v ∈ before ++ x :: after ↔ v = x ∨ v ∈ before ++ after :=
  List.perm_middle.mem_iff.trans List.mem_cons

/-- An invariant of all states and the tree that the programs may count on and that each of their
steps keeps, as long as the tree is one of `met`. -/
structure Upholds {σ : Type} (c : Contract σ) (met : Files → Prop)
    (inv : List σ → Files → Prop) : Prop where
  finds : ∀ {before : List σ} {u : σ} {after : List σ} {files : Files}, met files →
    inv (before ++ u :: after) files → c.finds u files
  changes : ∀ {before : List σ} {u u' : σ} {after : List σ} {files files' : Files},
    inv (before ++ u :: after) files → c.changes u files u' files' →
      inv (before ++ u' :: after) files'

/-- **Programs that honour a contract alone honour it side by side**: whatever the schedule, the
invariant holds in the end, and each program has ended as it must. -/
theorem Traced.honors {site : Site} {σ : Type} {c : Contract σ} {met : Files → Prop}
    {inv : List σ → Files → Prop} (hinv : Upholds c met inv) {α : Type}
    {programs : List (Program α)} {w w' : World} {trees : List Files} {results : List α}
    (h : Traced site programs w trees results w') (hmet : ∀ files ∈ trees, met files)
    (post : α → σ → Prop) (pool : List (σ × Program α)) (hpool : pool.map Prod.snd = programs)
    (hstart : inv (pool.map Prod.fst) w.files) (hhonors : ∀ x ∈ pool, Honors site c x.2 x.1 post) :
    ∃ ended : List (σ × α), ended.map Prod.snd = results ∧ inv (ended.map Prod.fst) w'.files ∧
      ∀ x ∈ ended, post x.2 x.1 := by
  induction h generalizing pool with
  | done results w =>
    -- the state of each program at its end, beside its result
    have hlength : pool.length = results.length := by
      simpa using congrArg List.length hpool
    have hzip : pool = ((pool.map Prod.fst).zip results).map (Prod.map id Program.done) := by
      rw [← List.zip_map_right]
      exact List.zip_of_prod rfl hpool
    refine ⟨(pool.map Prod.fst).zip results, List.map_snd_zip (by simp [hlength]), ?_, ?_⟩
    · rw [List.map_fst_zip (by simp [hlength])]
      exact hstart
    · intro x hx
      refine hhonors (x.1, .done x.2) ?_
      rw [hzip]
      exact List.mem_map.mpr ⟨x, hx, rfl⟩
  | @step before _ a next reply trees _ w w₁ _ performed _ ih =>
    obtain ⟨poolBefore, rest, rfl, hbefore, hrest⟩ := List.map_eq_append_iff.mp hpool
    obtain ⟨⟨u, p⟩, poolAfter, rfl, hp, hafter⟩ := List.map_eq_cons_iff.mp hrest
    obtain rfl : p = _ := hp
    obtain ⟨hnow, hlater⟩ := List.forall_mem_cons.mp hmet
    rw [List.map_append, List.map_cons] at hstart
    -- the program that takes the step
    have hu : Honors site c (.step a next) u post := hhonors (u, .step a next) (by simp)
    obtain ⟨u', hchanges, hnext⟩ := hu w reply w₁ (hinv.finds hnow hstart) performed
    refine ih hlater (poolBefore ++ (u', next reply) :: poolAfter) ?_ ?_ fun x hx => ?_
    · rw [List.map_append, List.map_cons, hbefore, hafter]
    · rw [List.map_append, List.map_cons]
      exact hinv.changes hstart hchanges
    · rcases List.mem_append.mp hx with hx | hx
      · exact hhonors x (List.mem_append_left _ hx)
      · rcases List.mem_cons.mp hx with rfl | hx
        · exact hnext
        · exact hhonors x (List.mem_append_right _ (List.mem_cons_of_mem _ hx))

end Manpage
