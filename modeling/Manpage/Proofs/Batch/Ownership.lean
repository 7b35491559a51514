/-
# What each piece of work owns

Side by side, the work on an applet may change two things: the page of its applet, and the staged
file that it has made.  Both are its own (`Held`), for pages of different applets have different
names and the name of a staged file was free when it was made.

So a program can be judged alone.  It is `Safe` if each of its actions changes what it owns and
nothing else, in every tree that agrees with a base tree apart from pages and staged files; what it
makes of its own is told along the way.  This is a contract, and one step of a program that honours it
keeps the works apart (`Apart.moves`).  So it follows what any schedule of safe programs leaves
(`Interleaved.apart`).
-/
import Manpage.Proofs.Batch.Reading
import Manpage.Proofs.Program.Contract

namespace Manpage

open Files

/-! ## 1. One piece of work -/

/-- What the work on an applet owns: what stands at the location of its page, and its staged file. -/
structure Held where
  applet : Text
  page : Option Entry
  staged : Option (Location × Entry)

namespace Held

/-- The location of the page. -/
def pageAt (out : Location) (u : Held) : Location := out ++ [Batch.pageName u.applet]

theorem file_ne_directory (mode : Nat) (content : Bytes) :
    Entry.file mode content ≠ .directory := by
  intro h
  cases h

/-- A location of a staged file. -/
def IsStage (out l : Location) : Prop := ∃ name, IsTemporary name ∧ l = out ++ [name]

theorem IsStage.ne_nil {out l : Location} (h : IsStage out l) : l ≠ [] := by
  obtain ⟨name, -, rfl⟩ := h
  simp

/-- A staged file does not stand where a page does. -/
theorem IsStage.ne_page {out l : Location} (h : IsStage out l) (d : Location) (applet : Text) :
    l ≠ d ++ [Batch.pageName applet] := by
  obtain ⟨name, htemporary, rfl⟩ := h
  intro heq
  obtain rfl := List.singleton_inj.mp (List.append_inj_right' heq rfl)
  have hlast := getLast?_of_isTemporary htemporary
  rw [getLast?_pageName] at hlast
  exact absurd hlast (by decide)

theorem IsStage.ne_pageAt {out l : Location} (h : IsStage out l) (u : Held) : l ≠ u.pageAt out :=
  h.ne_page out u.applet

theorem contested_pageAt (out : Location) (u : Held) : Contested out (u.pageAt out) :=
  ⟨_, rfl, Or.inr ⟨_, rfl⟩⟩

theorem IsStage.contested {out l : Location} (h : IsStage out l) : Contested out l := by
  obtain ⟨name, htemporary, rfl⟩ := h
  exact ⟨name, rfl, Or.inl htemporary⟩

end Held

open Held

/-- A tree as the work that holds `u` finds it. -/
structure Sees (out : Location) (base : Files) (u : Held) (files : Files) : Prop where
  alike : Alike out base files
  page : files.get? (u.pageAt out) = u.page
  staged : ∀ l e, u.staged = some (l, e) →
    files.get? l = some e ∧ e ≠ .directory ∧ IsStage out l

/-- A change of the tree that changes what is held from `u` to `u'`, and nothing else. -/
structure Moves (out : Location) (u : Held) (files : Files) (u' : Held) (files' : Files) : Prop where
  applet : u'.applet = u.applet
  page : files'.get? (u.pageAt out) = u'.page
  /-- A directory in place of the page stays. -/
  directory : u'.page = some .directory ↔ u.page = some .directory
  /-- A staged file has been held before, or its location was free. -/
  staged : ∀ l e, u'.staged = some (l, e) → files'.get? l = some e ∧ e ≠ .directory ∧ IsStage out l ∧
    ((∃ e₀, u.staged = some (l, e₀)) ∨ files.get? l = none)
  /-- A staged file that is no longer held is gone. -/
  released : ∀ l e, u.staged = some (l, e) → (∀ e', u'.staged ≠ some (l, e')) →
    files'.get? l = none
  elsewhere : ∀ l, l ≠ u.pageAt out → (∀ e, u.staged ≠ some (l, e)) →
    (∀ e, u'.staged ≠ some (l, e)) → files'.get? l = files.get? l

section Kinds

variable {out : Location} {base files : Files} {u : Held}

/-- Nothing changes. -/
theorem Sees.still (h : Sees out base u files) : Moves out u files u files where
  applet := rfl
  page := h.page
  directory := Iff.rfl
  staged l e hl := by
    obtain ⟨hget, hfile, hstage⟩ := h.staged l e hl
    exact ⟨hget, hfile, hstage, Or.inl ⟨e, hl⟩⟩
  released l e hl hgone := absurd hl (hgone e)
  elsewhere _ _ _ _ := rfl

variable {l : Location} {e : Entry}

/-- A file is staged where there is nothing. -/
theorem Sees.stage (h : Sees out base u files) (hu : u.staged = none) (hl : IsStage out l)
    (hnone : files.get? l = none) (he : e ≠ .directory) :
    Moves out u files { u with staged := some (l, e) } (files.put l e) where
  applet := rfl
  page := by rw [get?_put_of_ne files (hl.ne_pageAt u), h.page]
  directory := Iff.rfl
  staged m x hm := by
    cases hm
    exact ⟨get?_put_self files hl.ne_nil e, he, hl, Or.inr hnone⟩
  released m x hm _ := by
    rw [hu] at hm
    cases hm
  elsewhere m _ _ hm := get?_put_of_ne files (fun heq => hm e (by rw [heq])) e

/-- The staged file is written to. -/
theorem Sees.rewrite (h : Sees out base u files) {e' : Entry} (hu : u.staged = some (l, e))
    (he' : e' ≠ .directory) :
    Moves out u files { u with staged := some (l, e') } (files.put l e') := by
  obtain ⟨hget, -, hl⟩ := h.staged l e hu
  refine ⟨rfl, ?_, Iff.rfl, ?_, ?_, ?_⟩
  · rw [get?_put_of_ne files (hl.ne_pageAt u), h.page]
  · rintro m x hm
    cases hm
    exact ⟨get?_put_self files hl.ne_nil e', he', hl, Or.inl ⟨e, hu⟩⟩
  · intro m x hm hgone
    rw [hu] at hm
    cases hm
    exact absurd rfl (hgone e')
  · intro m _ _ hm
    exact get?_put_of_ne files (fun heq => hm e' (by rw [heq])) e'

/-- The staged file is removed. -/
theorem Sees.discard (h : Sees out base u files) (hu : u.staged = some (l, e)) :
    Moves out u files { u with staged := none } (files.erase l) := by
  obtain ⟨hget, -, hl⟩ := h.staged l e hu
  refine ⟨rfl, ?_, Iff.rfl, nofun, ?_, ?_⟩
  · rw [get?_erase_of_ne files (hl.ne_pageAt u), h.page]
  · intro m x hm _
    rw [hu] at hm
    cases hm
    rw [get?_erase _ _ _ hl.ne_nil, if_pos rfl]
  · intro m _ hm _
    exact get?_erase_of_ne files fun heq => hm e (heq ▸ hu)

/-- The staged file takes the place of the page. -/
theorem Sees.publish (h : Sees out base u files) (hu : u.staged = some (l, e))
    (hpage : u.page ≠ some .directory) :
    Moves out u files { u with page := some e, staged := none }
      ((files.erase l).put (u.pageAt out) e) := by
  obtain ⟨-, he, hl⟩ := h.staged l e hu
  obtain ⟨-, -, -, -, hreleased, helsewhere⟩ := h.discard hu
  have hne : u.pageAt out ≠ [] := by simp [pageAt]
  refine ⟨rfl, get?_put_self _ hne e, ?_, nofun, ?_, ?_⟩
  · exact iff_of_false (fun heq => he (Option.some.inj heq)) hpage
  · intro m x hm hgone
    rw [hu] at hm
    cases hm
    rw [get?_put_of_ne _ (hl.ne_pageAt u).symm]
    exact hreleased l e hu nofun
  · intro m hm hstaged _
    rw [get?_put_of_ne _ (Ne.symm hm)]
    exact helsewhere m hm hstaged nofun

end Kinds

/-! ## 2. Safe programs -/

/-- What the work on an applet may count on, and what it may change, in trees that agree with a base
tree. -/
def ownership (out : Location) (base : Files) : Contract Held := ⟨Sees out base, Moves out⟩

/-- A program that holds `u` is safe if every action that it comes to moves what it holds, and what it
holds at its end is as `post` says. -/
def Safe (site : Site) (out : Location) (base : Files) {α : Type} (p : Program α) (u : Held)
    (post : α → Held → Prop) : Prop :=
  Honors site (ownership out base) p u post

namespace Safe

variable {site : Site} {out : Location} {base : Files} {α β : Type} {u : Held}

/-- An action whose reply is settled, and which changes what is held in a settled way. -/
theorem of_moves {a : Action} (ha : a.isStage = false) {f : a.Reply → Program β}
    {post : β → Held → Prop} (reply : a.Reply) (u' : Held)
    (hstep : ∀ w, Sees out base u w.files → (perform site a w).1 = reply ∧
      Moves out u w.files u' (perform site a w).2.files)
    (hnext : Safe site out base (f reply) u' post) :
    Safe site out base (Program.ask a >>= f) u post :=
  Honors.ask ha fun w hsees => ⟨u', (hstep w hsees).2, (hstep w hsees).1 ▸ hnext⟩

/-- An action that changes no file, and whose reply is settled. -/
theorem of_still {a : Action} (ha : a.isStage = false) {f : a.Reply → Program β}
    {post : β → Held → Prop} (reply : a.Reply)
    (hreply : ∀ w, Sees out base u w.files →
      (perform site a w).1 = reply ∧ (perform site a w).2.files = w.files)
    (hnext : Safe site out base (f reply) u post) :
    Safe site out base (Program.ask a >>= f) u post :=
  of_moves ha reply u (fun w hsees => ⟨(hreply w hsees).1, (hreply w hsees).2 ▸ hsees.still⟩) hnext

/-- A file is staged in the output directory, under whatever name. -/
theorem of_stage {dir tag : Text} (hcheck : checkPath dir = .ok ())
    (hdir : base.directoryAt site.cwd dir = .ok out) (hu : u.staged = none)
    {f : Except SystemFault Location → Program β} {post : β → Held → Prop}
    (hnext : ∀ l, IsStage out l →
      Safe site out base (f (.ok l)) { u with staged := some (l, .file 0o600 []) } post) :
    Safe site out base (Program.ask (.stage dir tag) >>= f) u post := by
  intro w reply w' hsees hperforms
  have hout := hsees.alike.directoryAt hdir
  cases hperforms with
  | plain =>
    have hstage : w.files.stage site.cwd dir tag = _ := stage_eq site.cwd dir tag
    rw [hcheck, hout] at hstage
    have htemporary : IsStage out (out ++ [stagedName (w.files.freeNumber out tag) tag]) :=
      ⟨_, isTemporary_stagedName _ tag, rfl⟩
    rw [perform, hstage]
    exact ⟨_, hsees.stage hu htemporary (get?_freeNumber w.files out tag) (file_ne_directory _ _),
      hnext _ htemporary⟩
  | @stage _ _ middle _ d located _ free =>
    rw [locate_of_directoryAt hout, hcheck] at located
    cases located
    have htemporary : IsStage out (out ++ [temporaryName middle]) := ⟨_, ⟨middle, rfl⟩, rfl⟩
    exact ⟨_, hsees.stage hu htemporary free (file_ne_directory _ _), hnext _ htemporary⟩

end Safe

/-! ## 3. Several pieces of work -/

/-- Two pieces of work own nothing in common. -/
def Held.Disjoint (u v : Held) : Prop :=
  u.applet ≠ v.applet ∧ ∀ l e e', u.staged = some (l, e) → v.staged ≠ some (l, e')

theorem Held.Disjoint.symm {u v : Held} (h : u.Disjoint v) : v.Disjoint u :=
  ⟨h.1.symm, fun l e e' hv hu => h.2 l e' e hu hv⟩

/-- The tree is that of the start but for what the works hold, and these hold nothing in common. -/
structure Apart (out : Location) (start : Files) (units : List Held) (files : Files) : Prop where
  disjoint : units.Pairwise Held.Disjoint
  page : ∀ u ∈ units, files.get? (u.pageAt out) = u.page
  staged : ∀ u ∈ units, ∀ l e, u.staged = some (l, e) →
    files.get? l = some e ∧ e ≠ .directory ∧ IsStage out l ∧ start.get? l = none
  directories : ∀ l, files.get? l = some .directory ↔ start.get? l = some .directory
  elsewhere : ∀ l, (∀ u ∈ units, l ≠ u.pageAt out ∧ ∀ e, u.staged ≠ some (l, e)) →
    files.get? l = start.get? l

namespace Apart

variable {out : Location} {base start files files' : Files}

/-- Such a tree agrees with the start apart from pages and staged files. -/
theorem alike {units : List Held} (h : Apart out start units files) : Alike out start files where
  directories := h.directories
  elsewhere l hl := h.elsewhere l fun u hu =>
    ⟨fun heq => hl (heq ▸ u.contested_pageAt out), fun e hstaged =>
      hl (h.staged u hu l e hstaged).2.2.1.contested⟩

theorem sees {units : List Held} (h : Apart out start units files) (hbase : Alike out base start)
    {u : Held} (hu : u ∈ units) : Sees out base u files where
  alike := hbase.trans h.alike
  page := h.page u hu
  staged l e hl := by
    obtain ⟨hget, he, hstage, -⟩ := h.staged u hu l e hl
    exact ⟨hget, he, hstage⟩

section Step

variable {before after : List Held} {u u' : Held}
  (h : Apart out start (before ++ u :: after) files)

include h

theorem disjoint_middle :
    (∀ v ∈ before ++ after, u.Disjoint v) ∧ (before ++ after).Pairwise Held.Disjoint :=
  List.pairwise_cons.mp ((List.pairwise_middle fun hd => hd.symm).mp h.disjoint)

variable (hmoves : Moves out u files u' files')

include hmoves

/-- A staged file that is held at last stands where there was nothing at the start. -/
theorem get?_of_moves {l : Location} {e : Entry} (hl : u'.staged = some (l, e)) :
    start.get? l = none := by
  obtain ⟨-, -, hstage, hheld | hfree⟩ := hmoves.staged l e hl
  · obtain ⟨e₀, hheld⟩ := hheld
    exact (h.staged u (by simp) l e₀ hheld).2.2.2
  · rw [← h.elsewhere l fun v hv => ⟨hstage.ne_pageAt v, fun x hx => ?_⟩, hfree]
    rw [(h.staged v hv l x hx).1] at hfree
    cases hfree

/-- The staged file of another work is not the one that is held at last. -/
theorem staged_ne_of_moves {v : Held} (hv : v ∈ before ++ after) {l : Location} {e e' : Entry}
    (hl : u'.staged = some (l, e)) : v.staged ≠ some (l, e') := by
  intro hv'
  obtain ⟨-, -, -, ⟨x, hx⟩ | hfree⟩ := hmoves.staged l e hl
  · exact (h.disjoint_middle.1 v hv).2 l x e' hx hv'
  · have hmem : v ∈ before ++ u :: after := mem_middle_iff.mpr (Or.inr hv)
    rw [(h.staged v hmem l e' hv').1] at hfree
    cases hfree

/-- What another work holds is left as it is. -/
theorem kept_of_moves {v : Held} (hv : v ∈ before ++ after) {l : Location}
    (hl : l = v.pageAt out ∨ ∃ e, v.staged = some (l, e)) : files'.get? l = files.get? l := by
  have hu : u ∈ before ++ u :: after := by simp
  obtain ⟨happlet, hstaged⟩ := h.disjoint_middle.1 v hv
  rcases hl with rfl | ⟨e, hl⟩
  · refine hmoves.elsewhere _ ?_ (fun e he => ?_) (fun e he => ?_)
    · intro heq
      rw [pageAt, pageAt] at heq
      exact happlet (Batch.pageName_injective
        (List.singleton_inj.mp (List.append_cancel_left heq))).symm
    · exact (h.staged u hu _ e he).2.2.1.ne_pageAt v rfl
    · exact (hmoves.staged _ e he).2.2.1.ne_pageAt v rfl
  · have hmem : v ∈ before ++ u :: after := mem_middle_iff.mpr (Or.inr hv)
    exact hmoves.elsewhere l ((h.staged v hmem l e hl).2.2.1.ne_pageAt u)
      (fun x hx => hstaged l x e hx hl) (fun x hx => h.staged_ne_of_moves hmoves hv hx hl)

/-- A staged file that is no longer held is where there was nothing at the start, and is gone. -/
theorem released_of_moves {l : Location} {e : Entry} (hl : u.staged = some (l, e))
    (hgone : ∀ e', u'.staged ≠ some (l, e')) : files'.get? l = start.get? l := by
  rw [hmoves.released l e hl hgone, (h.staged u (by simp) l e hl).2.2.2]

/-- **A step keeps the works apart.** -/
theorem moves : Apart out start (before ++ u' :: after) files' := by
  have hu : u ∈ before ++ u :: after := by simp
  have hat : u'.pageAt out = u.pageAt out := by rw [pageAt, pageAt, hmoves.applet]
  obtain ⟨hown, hothers⟩ := h.disjoint_middle
  refine ⟨?_, ?_, ?_, ?_, ?_⟩
  · refine (List.pairwise_middle fun hd => hd.symm).mpr
      (List.pairwise_cons.mpr ⟨fun v hv => ?_, hothers⟩)
    exact ⟨hmoves.applet ▸ (hown v hv).1, fun l e e' hl => h.staged_ne_of_moves hmoves hv hl⟩
  · intro v hv
    rcases mem_middle_iff.mp hv with rfl | hv
    · rw [hat, hmoves.page]
    · rw [h.kept_of_moves hmoves hv (Or.inl rfl), h.page v (mem_middle_iff.mpr (Or.inr hv))]
  · intro v hv l e hl
    rcases mem_middle_iff.mp hv with rfl | hv
    · obtain ⟨hget, he, hstage, -⟩ := hmoves.staged l e hl
      exact ⟨hget, he, hstage, h.get?_of_moves hmoves hl⟩
    · rw [h.kept_of_moves hmoves hv (Or.inr ⟨e, hl⟩)]
      exact h.staged v (mem_middle_iff.mpr (Or.inr hv)) l e hl
  · intro l
    by_cases hpage : l = u.pageAt out
    · rw [hpage, hmoves.page, hmoves.directory, ← h.page u hu, h.directories]
    by_cases hnew : ∃ e, u'.staged = some (l, e)
    · obtain ⟨e, hl⟩ := hnew
      obtain ⟨hget, he, -⟩ := hmoves.staged l e hl
      rw [hget, h.get?_of_moves hmoves hl]
      exact iff_of_false (fun heq => he (Option.some.inj heq)) nofun
    by_cases hold : ∃ e, u.staged = some (l, e)
    · obtain ⟨e, hl⟩ := hold
      rw [h.released_of_moves hmoves hl (not_exists.mp hnew)]
    · rw [hmoves.elsewhere l hpage (not_exists.mp hold) (not_exists.mp hnew), h.directories]
  · intro l hl
    obtain ⟨hpage, hnew⟩ := hl u' (by simp)
    by_cases hold : ∃ e, u.staged = some (l, e)
    · obtain ⟨e, hl⟩ := hold
      exact h.released_of_moves hmoves hl hnew
    rw [hmoves.elsewhere l (hat ▸ hpage) (not_exists.mp hold) hnew]
    refine h.elsewhere l fun v hv => ?_
    rcases mem_middle_iff.mp hv with rfl | hv
    · exact ⟨hat ▸ hpage, not_exists.mp hold⟩
    · exact hl v (mem_middle_iff.mpr (Or.inr hv))

end Step

/-- The works stay apart, whoever takes the next step. -/
theorem upholds_apart (hbase : Alike out base start) (applets : List Text) :
    Upholds (ownership out base) (fun _ => True) fun units files =>
      Apart out start units files ∧ units.map Held.applet = applets where
  finds _ h := h.1.sees hbase (by simp)
  changes h hmoves := by
    refine ⟨h.1.moves hmoves, ?_⟩
    rw [← h.2, List.map_append, List.map_append, List.map_cons, List.map_cons, hmoves.applet]

end Apart

/-! ## 4. Any schedule -/

/-- **Programs that are safe alone are safe side by side**: whatever the schedule, each ends with what
it makes of its own, and nothing else changes. -/
theorem Interleaved.apart {site : Site} {out : Location} {base start : Files} {α : Type}
    {programs : List (Program α)} {w w' : World} {results : List α}
    (h : Interleaved site programs w results w') (hbase : Alike out base start)
    (post : α → Held → Prop) (pool : List (Held × Program α)) (hpool : pool.map Prod.snd = programs)
    (hapart : Apart out start (pool.map Prod.fst) w.files)
    (hsafe : ∀ x ∈ pool, Safe site out base x.2 x.1 post) :
    ∃ ended : List (Held × α), ended.map Prod.snd = results ∧
      ended.map (fun x => x.1.applet) = pool.map (fun x => x.1.applet) ∧
      Apart out start (ended.map Prod.fst) w'.files ∧ ∀ x ∈ ended, post x.2 x.1 := by
  obtain ⟨trees, htraced⟩ := interleaved_iff_exists_traced.mp h
  obtain ⟨ended, hresults, ⟨hapart', happlets⟩, hpost⟩ :=
    htraced.honors (Apart.upholds_apart hbase _) (fun _ _ => trivial) post pool hpool
      ⟨hapart, rfl⟩ hsafe
  rw [List.map_map, List.map_map] at happlets
  exact ⟨ended, hresults, happlets, hapart', hpost⟩

end Manpage
