/-
# Pages that last

While the works on several applets go on side by side, the output directory may come into being, a page
may appear where another work looks for fragments, and one applet may be worked at twice.  So what a
work reads depends on the order of the steps.  What it has written does not: a page that has been
put in its place is there in the end, or another page of the same applet is (`account_of_traced`).

What makes the pages last is a contract (`lasting`): every step leaves the directories, the pages of
other applets, and the staged files of other works as they are, and it replaces a page of its own
applet by another one only.  One step of a work that honours it keeps all pages (`Coherent.advances`).
-/
import Manpage.Proofs.Batch.Isolation
import Manpage.Proofs.Batch.Ownership

namespace Manpage

open Files Held

namespace Batch

/-! ## 1. One work and its step -/

/-- How far the work on an applet has come: the staged file that it has, and the page that it has
put in its place. -/
structure Progress where
  applet : Text
  staged : Option (Location × Entry)
  page : Option Text

/-- Before its first step a work has neither. -/
def Progress.begun (applet : Text) : Progress := ⟨applet, none, none⟩

/-- The staged file of a work is there, and it is a file. -/
def Holds (files : Files) (staged : Option (Location × Entry)) : Prop :=
  ∀ l e, staged = some (l, e) → files.get? l = some e ∧ e ≠ .directory ∧ ∃ d, IsStage d l

theorem Holds.ne_page {files : Files} {staged : Option (Location × Entry)} (h : Holds files staged)
    (d : Location) (applet : Text) (e : Entry) : staged ≠ some (d ++ [pageName applet], e) := by
  intro hstaged
  obtain ⟨-, -, out, hstage⟩ := h _ e hstaged
  exact hstage.ne_page d applet rfl

/-- What one step of a work may change. -/
structure Advances (cwd : Location) (batch : Batch) (u : Progress) (files : Files) (u' : Progress)
    (files' : Files) : Prop where
  applet : u'.applet = u.applet
  directories : KeepsDirectories files files'
  holds : Holds files' u'.staged
  /-- A staged file has been its own before, or its location was free. -/
  own : ∀ l e, u'.staged = some (l, e) → (∃ e₀, u.staged = some (l, e₀)) ∨ files.get? l = none
  /-- What is neither its staged file nor a page of its applet stays. -/
  kept : ∀ l e, files.get? l = some e → (∀ e₀, u.staged ≠ some (l, e₀)) →
    (∀ d, l ≠ d ++ [pageName u.applet]) → files'.get? l = some e
  /-- A page of its applet stays, or it puts one in its place. -/
  page : u'.page = u.page ∧ (∀ page, Stands cwd batch files u.applet page →
      Stands cwd batch files' u.applet page) ∨
    ∃ page, u'.page = some page ∧ Stands cwd batch files' u.applet page

section Steps

variable {cwd : Location} {batch : Batch} {files files' : Files} {u u' : Progress}

/-- A step that changes nothing but the staged file, if anything is there at all. -/
theorem advances_of_kept (happlet : u'.applet = u.applet) (hpage : u'.page = u.page)
    (hholds : Holds files u.staged) (hholds' : Holds files' u'.staged)
    (hown : ∀ l e, u'.staged = some (l, e) → (∃ e₀, u.staged = some (l, e₀)) ∨ files.get? l = none)
    (hkept : ∀ l e, files.get? l = some e → (∀ e₀, u.staged ≠ some (l, e₀)) →
      files'.get? l = some e) : Advances cwd batch u files u' files' := by
  have hdirectories : KeepsDirectories files files' := by
    intro l hl
    refine hkept l _ hl fun e hstaged => ?_
    obtain ⟨hget, hfile, -⟩ := hholds l e hstaged
    exact hfile (Option.some.inj (hget.symm.trans hl))
  refine ⟨happlet, hdirectories, hholds', hown, fun l e hl hstaged _ => hkept l e hl hstaged,
    Or.inl ⟨hpage, fun page hstands => ?_⟩⟩
  exact hstands.mono hdirectories fun d e _ hget => hkept _ e hget (hholds.ne_page d u.applet)

theorem advances_still (hholds : Holds files u.staged) : Advances cwd batch u files u files :=
  advances_of_kept rfl rfl hholds hholds (fun _ e hl => Or.inl ⟨e, hl⟩) fun _ _ hl _ => hl

/-- Directories are made where there was nothing. -/
theorem advances_of_grown {way : Location → Prop} (hgrown : Grown way files files')
    (hholds : Holds files u.staged) : Advances cwd batch u files u files' := by
  refine advances_of_kept rfl rfl hholds (fun l e hl => ?_) (fun _ e hl => Or.inl ⟨e, hl⟩)
    fun l e hl _ => (hgrown l).get?_of_some hl
  obtain ⟨hget, hfile, hstage⟩ := hholds l e hl
  exact ⟨(hgrown l).get?_of_some hget, hfile, hstage⟩

/-- A file is staged where there is nothing. -/
theorem advances_of_stage {d l : Location} {e : Entry} (hu : u.staged = none) (hl : IsStage d l)
    (hnone : files.get? l = none) (he : e ≠ .directory) :
    Advances cwd batch u files { u with staged := some (l, e) } (files.put l e) := by
  refine advances_of_kept rfl rfl (by rw [hu]; nofun) ?_ ?_ fun m x hm _ => ?_
  · rintro m x hm
    cases hm
    exact ⟨get?_put_self files hl.ne_nil e, he, d, hl⟩
  · rintro m x hm
    cases hm
    exact Or.inr hnone
  · rw [get?_put_of_ne, hm]
    rintro rfl
    rw [hnone] at hm
    cases hm

variable {l : Location} {e : Entry} (hholds : Holds files u.staged) (hu : u.staged = some (l, e))

include hholds hu

/-- The staged file is written to. -/
theorem advances_of_rewrite {e' : Entry} (he' : e' ≠ .directory) :
    Advances cwd batch u files { u with staged := some (l, e') } (files.put l e') := by
  obtain ⟨-, -, d, hl⟩ := hholds l e hu
  refine advances_of_kept rfl rfl hholds ?_ ?_ fun m x hm hstaged => ?_
  · rintro m x hm
    cases hm
    exact ⟨get?_put_self files hl.ne_nil e', he', d, hl⟩
  · rintro m x hm
    cases hm
    exact Or.inl ⟨e, hu⟩
  · rw [get?_put_of_ne, hm]
    rintro rfl
    exact hstaged e hu

/-- The staged file is removed. -/
theorem advances_of_discard :
    Advances cwd batch u files { u with staged := none } (files.erase l) := by
  refine advances_of_kept rfl rfl hholds nofun nofun fun m x hm hstaged => ?_
  have hne : l ≠ m := by
    rintro rfl
    exact hstaged e hu
  rw [get?_erase_of_ne files hne, hm]

/-- The staged file is renamed to the path of the page. -/
theorem advances_of_publish (h : Applet.IsNormal u.applet) {page : Text}
    (he : e = .file pageMode (Utf8.encode page))
    (hrename : files.rename l cwd (outputPath batch.outDir u.applet) = (.ok (), files')) :
    Advances cwd batch u files { u with staged := none, page := some page } files' := by
  obtain ⟨hget, hfile, d, hl⟩ := hholds l e hu
  obtain ⟨out, name, hplace, hfree, rfl⟩ := rename_eq_ok hget hrename
  obtain ⟨out', hout, hcheck, hshort, hentry⟩ := (place_outputPath_eq_ok_iff h _ _ _).mp hplace
  cases hentry
  have hkept : ∀ m x, files.get? m = some x → l ≠ m → out ++ [pageName u.applet] ≠ m →
      ((files.erase l).put (out ++ [pageName u.applet]) e).get? m = some x := fun m x hm hne hpage => by
    rw [get?_put_of_ne _ hpage, get?_erase_of_ne _ hne, hm]
  have hdirectories : KeepsDirectories files
      ((files.erase l).put (out ++ [pageName u.applet]) e) := by
    refine fun m hm => hkept m _ hm ?_ ?_
    · rintro rfl
      exact hfile (Option.some.inj (hget.symm.trans hm))
    · rintro rfl
      exact hfree hm
  refine ⟨rfl, hdirectories, nofun, nofun, fun m x hm hstaged hpage => ?_, Or.inr ⟨page, rfl, ?_⟩⟩
  · exact hkept m x hm (fun heq => hstaged e (heq ▸ hu)) (hpage out).symm
  · refine ⟨hcheck, hshort, out, directoryAt_of_keepsDirectories hdirectories hout, ?_⟩
    rw [get?_put_self _ (by simp), he]

end Steps

/-! ## 2. Several works -/

/-- What a work may count on, and what it may change, so that pages last. -/
def lasting (cwd : Location) (batch : Batch) (met : Files → Prop) : Contract Progress where
  finds u files := met files ∧ Holds files u.staged
  changes := Advances cwd batch

/-- The works have staged files of their own, and where one of them has put a page in its place, a page
that has been put there stands. -/
structure Coherent (cwd : Location) (batch : Batch) (units : List Progress) (files : Files) : Prop where
  disjoint : units.Pairwise fun u v => ∀ l e e', u.staged = some (l, e) → v.staged ≠ some (l, e')
  holds : ∀ u ∈ units, Holds files u.staged
  stands : ∀ u ∈ units, u.page ≠ none → ∃ v ∈ units, v.applet = u.applet ∧
    ∃ page, v.page = some page ∧ Stands cwd batch files u.applet page

namespace Coherent

variable {cwd : Location} {batch : Batch} {files files' : Files} {before after : List Progress}
  {u u' : Progress} (h : Coherent cwd batch (before ++ u :: after) files)
  (hadvances : Advances cwd batch u files u' files')

include h

theorem disjoint_middle :
    (∀ v ∈ before ++ after, ∀ l e e', u.staged = some (l, e) → v.staged ≠ some (l, e')) ∧
      (before ++ after).Pairwise fun u v =>
        ∀ l e e', u.staged = some (l, e) → v.staged ≠ some (l, e') :=
  List.pairwise_cons.mp
    ((List.pairwise_middle fun hd l e e' hv hu => hd l e' e hu hv).mp h.disjoint)

include hadvances

/-- The staged file of another work stays. -/
theorem holds_of_advances {v : Progress} (hv : v ∈ before ++ after) : Holds files' v.staged := by
  intro l e hl
  obtain ⟨hget, hfile, d, hstage⟩ := h.holds v (mem_middle_iff.mpr (Or.inr hv)) l e hl
  exact ⟨hadvances.kept l e hget (fun e₀ hu => h.disjoint_middle.1 v hv l e₀ e hu hl)
    (fun d' => hstage.ne_page d' u.applet), hfile, d, hstage⟩

/-- It is not the one that the work has now. -/
theorem staged_ne_of_advances {v : Progress} (hv : v ∈ before ++ after) {l : Location}
    {e e' : Entry} (hl : u'.staged = some (l, e)) : v.staged ≠ some (l, e') := by
  intro hv'
  rcases hadvances.own l e hl with ⟨e₀, hu⟩ | hfree
  · exact h.disjoint_middle.1 v hv l e₀ e' hu hv'
  · have hget := (h.holds v (mem_middle_iff.mpr (Or.inr hv)) l e' hv').1
    rw [hfree] at hget
    cases hget

/-- A page of another applet stays. -/
theorem stands_of_ne {applet page : Text} (hne : applet ≠ u.applet)
    (hstands : Stands cwd batch files applet page) : Stands cwd batch files' applet page := by
  refine hstands.mono hadvances.directories fun d e _ hget => ?_
  refine hadvances.kept _ e hget ((h.holds u (by simp)).ne_page d applet) fun d' heq => hne ?_
  exact pageName_injective (List.singleton_inj.mp (List.append_inj_right' heq rfl))

/-- Where a page of an applet stands, one stands after the step, perhaps the new one. -/
theorem stands_of_advances {v : Progress} (hv : v ∈ before ++ u :: after) (hpage : v.page ≠ none) :
    ∃ x ∈ before ++ u' :: after, x.applet = v.applet ∧
      ∃ page, x.page = some page ∧ Stands cwd batch files' v.applet page := by
  obtain ⟨x, hx, happlet, page, hsome, hstands⟩ := h.stands v hv hpage
  rcases hadvances.page with ⟨hsame, hstay⟩ | ⟨new, hput, hnew⟩
  · have hstands' : Stands cwd batch files' v.applet page := by
      by_cases hown : v.applet = u.applet
      · rw [hown] at hstands ⊢
        exact hstay page hstands
      · exact h.stands_of_ne hadvances hown hstands
    rcases mem_middle_iff.mp hx with rfl | hx
    · exact ⟨u', by simp, hadvances.applet.trans happlet, page, hsame.trans hsome, hstands'⟩
    · exact ⟨x, mem_middle_iff.mpr (Or.inr hx), happlet, page, hsome, hstands'⟩
  · by_cases hown : v.applet = u.applet
    · exact ⟨u', by simp, hadvances.applet.trans hown.symm, new, hput, hown ▸ hnew⟩
    · have hx' : x ∈ before ++ after := (mem_middle_iff.mp hx).resolve_left fun heq =>
        hown (happlet.symm.trans (congrArg Progress.applet heq))
      exact ⟨x, mem_middle_iff.mpr (Or.inr hx'), happlet, page, hsome,
        h.stands_of_ne hadvances hown hstands⟩

/-- **A step keeps the pages.** -/
theorem advances : Coherent cwd batch (before ++ u' :: after) files' := by
  obtain ⟨hown, hothers⟩ := h.disjoint_middle
  refine ⟨?_, fun v hv => ?_, fun v hv hpage => ?_⟩
  · exact (List.pairwise_middle fun hd l e e' hv hu => hd l e' e hu hv).mpr
      (List.pairwise_cons.mpr ⟨fun v hv l e e' hl => h.staged_ne_of_advances hadvances hv hl, hothers⟩)
  · rcases mem_middle_iff.mp hv with rfl | hv
    · exact hadvances.holds
    · exact h.holds_of_advances hadvances hv
  · rcases mem_middle_iff.mp hv with rfl | hv
    · rw [hadvances.applet]
      rcases hadvances.page with ⟨hsame, -⟩ | ⟨new, hput, hnew⟩
      · exact h.stands_of_advances hadvances (by simp) (hsame ▸ hpage)
      · exact ⟨v, by simp, hadvances.applet, new, hput, hnew⟩
    · exact h.stands_of_advances hadvances (mem_middle_iff.mpr (Or.inr hv)) hpage

end Coherent

/-- The pages last, whoever takes the next step. -/
theorem upholds_coherent (cwd : Location) (batch : Batch) (met : Files → Prop)
    (applets : List Text) :
    Upholds (lasting cwd batch met) met fun units files =>
      Coherent cwd batch units files ∧ units.map Progress.applet = applets where
  finds hmet h := ⟨hmet, h.1.holds _ (by simp)⟩
  changes h hadvances := by
    refine ⟨h.1.advances hadvances, ?_⟩
    rw [← h.2, List.map_append, List.map_append, List.map_cons, List.map_cons, hadvances.applet]

end Batch

end Manpage
