/-
# A batch keeps its pages apart

A batch works on its applets one after another, and each turn touches the page of its own applet
alone (`Turn.grownAt`).  So whatever becomes of one applet, the pages of the others are as they would
be, a failed applet's page stays as it was, and nothing else in the tree changes but for missing
directories on the way to the output directory (`isolated_run`).

The output directory must not be told by stepping back: a directory that has been made for `a/../b`
stands beside the way to it.
-/
import Manpage.Proofs.Batch.Turn

namespace Manpage.Batch

open Files

variable {site : Site} {batch : Batch}

/-! ## 1. One turn -/

/-- The location of an output directory that does not step back. -/
def outLocation (cwd : Location) (batch : Batch) : Location := target cwd batch.outDir

/-- The location of the page of an applet. -/
def pageLocation (cwd : Location) (batch : Batch) (applet : Text) : Location :=
  outLocation cwd batch ++ [pageName applet]

theorem pageLocation_injective (cwd : Location) (batch : Batch) :
    Function.Injective (pageLocation cwd batch) := fun _ _ h =>
  pageName_injective (List.singleton_inj.mp (List.append_cancel_left h))

theorem Placed.keepsDirectories {cwd d : Location} {outDir applet page : Text} {a b : Files}
    (h : Placed cwd outDir applet page d a b) : KeepsDirectories a b :=
  h.put ▸ keepsDirectories_put h.free

theorem Turn.keepsDirectories {applet : Text} {w w' : World} {outcome : Outcome}
    (h : Turn site batch applet w outcome w') : KeepsDirectories w.files w'.files := by
  obtain ⟨grown, hgrown, hfiles⟩ := h.files
  intro l hl
  split at hfiles
  · rw [hfiles]
    exact hgrown.keepsDirectories l hl
  · obtain ⟨page, d, -, hplaced⟩ := hfiles
    exact hplaced.keepsDirectories l (hgrown.keepsDirectories l hl)

/-- A page stands at the path of an applet. -/
structure Stands (cwd : Location) (batch : Batch) (files : Files) (applet page : Text) : Prop where
  path : checkPath (outputPath batch.outDir applet) = .ok ()
  short : ¬nameLimit < (Utf8.encode (pageName applet)).length
  found : ∃ d, files.directoryAt cwd batch.outDir = .ok d ∧
    files.get? (d ++ [pageName applet]) = some (.file pageMode (Utf8.encode page))

/-- A page that stands is found at its path. -/
theorem Stands.stat {cwd : Location} {files : Files} {applet page : Text}
    (hstands : Stands cwd batch files applet page) (h : Applet.IsNormal applet) :
    files.stat cwd (outputPath batch.outDir applet) = .ok (.file pageMode (Utf8.encode page)) := by
  obtain ⟨d, hdirectory, hget⟩ := hstands.found
  exact stat_join_eq_ok (slash_not_mem_pageName h) (isIdle_pageName h) (pageName_ne_back h)
    hstands.path hstands.short hdirectory hget

/-- A page that has just been put in its place stands. -/
theorem Placed.stands {cwd d : Location} {applet page : Text} {a b : Files}
    (h : Placed cwd batch.outDir applet page d a b) : Stands cwd batch b applet page := by
  refine ⟨h.path, h.short, d, directoryAt_of_keepsDirectories h.keepsDirectories h.directory, ?_⟩
  rw [h.put, get?_put_self a (by simp)]

/-- A page stands as long as the directories and its file stay. -/
theorem Stands.mono {cwd : Location} {a b : Files} {applet page : Text}
    (h : Stands cwd batch a applet page) (hkeep : KeepsDirectories a b)
    (hget : ∀ d e, a.directoryAt cwd batch.outDir = .ok d → a.get? (d ++ [pageName applet]) = some e →
      b.get? (d ++ [pageName applet]) = some e) : Stands cwd batch b applet page := by
  obtain ⟨d, hdirectory, hfile⟩ := h.found
  exact ⟨h.path, h.short, d, directoryAt_of_keepsDirectories hkeep hdirectory,
    hget d _ hdirectory hfile⟩

/-- **A turn leaves the pages of the other applets standing**, and that of its own if it fails. -/
theorem Turn.stands {applet other page : Text} {w w' : World} {outcome : Outcome}
    (h : Turn site batch applet w outcome w')
    (hother : outcome.isSuccess = true → applet ≠ other)
    (hstands : Stands site.cwd batch w.files other page) :
    Stands site.cwd batch w'.files other page := by
  obtain ⟨grown, hgrown, hfiles⟩ := h.files
  refine hstands.mono h.keepsDirectories fun d e hdirectory hget => ?_
  have hget' := (hgrown _).get?_of_some hget
  split at hfiles
  · rw [hfiles]
    exact hget'
  · next counts hresult =>
    obtain ⟨page', d', -, hplaced⟩ := hfiles
    -- both pages lie in the one directory that the output directory is by now
    have hd := directoryAt_of_keepsDirectories hgrown.keepsDirectories hdirectory
    obtain rfl : d' = d := Except.ok.inj (hplaced.directory.symm.trans hd)
    have hne : d' ++ [pageName applet] ≠ d' ++ [pageName other] := by
      simpa using fun hname => hother (by rw [Outcome.isSuccess, hresult]) (pageName_injective hname)
    rw [hplaced.put, get?_put_of_ne grown hne, hget']

section Straight

variable (hback : ['.', '.'] ∉ Path.names batch.outDir)

include hback

theorem Placed.put_pageLocation {cwd d : Location} {applet page : Text} {a b : Files}
    (h : Placed cwd batch.outDir applet page d a b) :
    b = a.put (pageLocation cwd batch applet) (.file pageMode (Utf8.encode page)) := by
  obtain rfl := eq_of_directoryAt hback h.directory
  exact h.put

/-- **A turn touches the page of its own applet alone**, and that only if it succeeds. -/
theorem Turn.grownAt {applet : Text} {w w' : World} {outcome : Outcome}
    (h : Turn site batch applet w outcome w') {l : Location}
    (hl : outcome.isSuccess = true → l ≠ pageLocation site.cwd batch applet) :
    GrownAt (· <+: outLocation site.cwd batch) w.files w'.files l := by
  obtain ⟨grown, hgrown, hfiles⟩ := h.files
  have hgrownAt : GrownAt (· <+: outLocation site.cwd batch) w.files grown l :=
    (hgrown l).mono fun hway => hway.resolve_left hback
  split at hfiles
  · rw [hfiles]
    exact hgrownAt
  · next counts hresult =>
    obtain ⟨page, d, -, hplaced⟩ := hfiles
    have hne : pageLocation site.cwd batch applet ≠ l :=
      (hl (by rw [Outcome.isSuccess, hresult])).symm
    rw [hplaced.put_pageLocation hback, GrownAt, get?_put_of_ne grown hne]
    exact hgrownAt

end Straight

/-! ## 2. The turns of a batch -/

theorem workThrough_cons (applet : Text) (rest : List Text) (w : World) :
    workThrough site batch (applet :: rest) w =
      (((work batch applet).run site w).1 ::
        (workThrough site batch rest ((work batch applet).run site w).2).1,
        (workThrough site batch rest ((work batch applet).run site w).2).2) := rfl

/-- Each outcome is that of a turn, with the turns of earlier applets before it and those of later
ones behind it. -/
theorem exists_turn {applets : List Text} {w : World} {outcome : Outcome}
    (h : outcome ∈ (workThrough site batch applets w).1) :
    ∃ before applet after, applets = before ++ applet :: after ∧
      outcome = ((work batch applet).run site (workThrough site batch before w).2).1 ∧
      (workThrough site batch applets w).2 = (workThrough site batch after
        ((work batch applet).run site (workThrough site batch before w).2).2).2 := by
  induction applets generalizing w with
  | nil => cases h
  | cons applet rest ih =>
    rw [workThrough_cons] at h ⊢
    rcases List.mem_cons.mp h with rfl | h
    · exact ⟨[], applet, rest, rfl, rfl, rfl⟩
    · obtain ⟨before, a, after, hsplit, houtcome, hw⟩ := ih h
      exact ⟨applet :: before, a, after, by rw [hsplit, List.cons_append], houtcome, hw⟩

section Run

variable (hquiet : site.source.Quiet) (batch)

include hquiet

theorem map_applet_workThrough {applets : List Text} (w : World)
    (hnormal : ∀ applet ∈ applets, Applet.IsNormal applet) :
    (workThrough site batch applets w).1.map Outcome.applet = applets := by
  induction applets generalizing w with
  | nil => rfl
  | cons applet rest ih =>
    obtain ⟨happlet, hrest⟩ := List.forall_mem_cons.mp hnormal
    rw [workThrough_cons, List.map_cons, (turn_work hquiet happlet batch w).about, ih _ hrest]

/-- **A batch touches the pages of the applets that succeed alone.** -/
theorem grownAt_workThrough (hback : ['.', '.'] ∉ Path.names batch.outDir) {applets : List Text}
    (w : World) (hnormal : ∀ applet ∈ applets, Applet.IsNormal applet) {l : Location}
    (hl : ∀ o ∈ (workThrough site batch applets w).1, o.isSuccess = true →
      l ≠ pageLocation site.cwd batch o.applet) :
    GrownAt (· <+: outLocation site.cwd batch) w.files (workThrough site batch applets w).2.files l
    := by
  induction applets generalizing w with
  | nil => exact Or.inl rfl
  | cons applet rest ih =>
    obtain ⟨happlet, hrest⟩ := List.forall_mem_cons.mp hnormal
    have hturn := turn_work hquiet happlet batch w
    rw [workThrough_cons] at hl ⊢
    obtain ⟨hown, hothers⟩ := List.forall_mem_cons.mp hl
    rw [hturn.about] at hown
    exact (hturn.grownAt hback hown).trans (ih _ hrest hothers)

/-- An outcome is that of an applet of the batch, with the path of its page. -/
theorem about_workThrough {applets : List Text} {w : World}
    (hnormal : ∀ applet ∈ applets, Applet.IsNormal applet) {o : Outcome}
    (ho : o ∈ (workThrough site batch applets w).1) :
    o.applet ∈ applets ∧ o.output = outputPath batch.outDir o.applet := by
  obtain ⟨before, applet, after, rfl, rfl, -⟩ := exists_turn ho
  have happlet : applet ∈ before ++ applet :: after := by simp
  have hturn := turn_work hquiet (hnormal applet happlet) batch (workThrough site batch before w).2
  rw [hturn.about]
  exact ⟨happlet, hturn.output⟩

theorem stands_workThrough {applets : List Text} {w : World} {other page : Text}
    (hnormal : ∀ applet ∈ applets, Applet.IsNormal applet) (hother : other ∉ applets)
    (hstands : Stands site.cwd batch w.files other page) :
    Stands site.cwd batch (workThrough site batch applets w).2.files other page := by
  induction applets generalizing w with
  | nil => exact hstands
  | cons applet rest ih =>
    obtain ⟨happlet, hrest⟩ := List.forall_mem_cons.mp hnormal
    obtain ⟨hne, hnotin⟩ := List.ne_and_not_mem_of_not_mem_cons hother
    exact ih hrest hnotin ((turn_work hquiet happlet batch w).stands (fun _ => hne.symm) hstands)

/-- The page of an applet that succeeds is there in the end: the later turns do not touch it. -/
theorem exists_stands_of_success {applets : List Text} {w : World} (hdistinct : applets.Nodup)
    (hnormal : ∀ applet ∈ applets, Applet.IsNormal applet) {o : Outcome}
    (ho : o ∈ (workThrough site batch applets w).1) {counts : PageCounts}
    (hok : o.result = .ok counts) :
    ∃ before after page, applets = before ++ o.applet :: after ∧
      rendered site batch (workThrough site batch before w).2.files o.applet = .ok (page, counts) ∧
      Stands site.cwd batch (workThrough site batch applets w).2.files o.applet page := by
  obtain ⟨before, applet, after, rfl, rfl, hw⟩ := exists_turn ho
  have happlet : Applet.IsNormal applet := hnormal applet (by simp)
  have hafter : ∀ a ∈ after, Applet.IsNormal a := fun a ha => hnormal a (by simp [ha])
  have hturn := turn_work hquiet happlet batch (workThrough site batch before w).2
  obtain ⟨grown, -, hfiles⟩ := hturn.files
  rw [hok] at hfiles
  obtain ⟨page, d, hpage, hplaced⟩ := hfiles
  rw [hturn.about, hw]
  exact ⟨before, after, page, rfl, hpage, stands_workThrough batch hquiet hafter
    (List.nodup_cons.mp hdistinct.of_append_right).1 hplaced.stands⟩

/-- Where the output directory is not told by stepping back, the page is at its location. -/
theorem exists_page_of_success (hback : ['.', '.'] ∉ Path.names batch.outDir) {applets : List Text}
    {w : World} (hdistinct : applets.Nodup)
    (hnormal : ∀ applet ∈ applets, Applet.IsNormal applet) {o : Outcome}
    (ho : o ∈ (workThrough site batch applets w).1) {counts : PageCounts}
    (hok : o.result = .ok counts) :
    ∃ before after page, applets = before ++ o.applet :: after ∧
      rendered site batch (workThrough site batch before w).2.files o.applet = .ok (page, counts) ∧
      (workThrough site batch applets w).2.files.stat site.cwd o.output
        = .ok (.file pageMode (Utf8.encode page)) ∧
      (workThrough site batch applets w).2.files.get? (pageLocation site.cwd batch o.applet)
        = some (.file pageMode (Utf8.encode page)) := by
  obtain ⟨happlet, houtput⟩ := about_workThrough batch hquiet hnormal ho
  obtain ⟨before, after, page, hsplit, hpage, hstands⟩ :=
    exists_stands_of_success batch hquiet hdistinct hnormal ho hok
  obtain ⟨d, hdirectory, hget⟩ := hstands.found
  obtain rfl := eq_of_directoryAt hback hdirectory
  rw [houtput]
  exact ⟨before, after, page, hsplit, hpage, hstands.stat (hnormal _ happlet), hget⟩

end Run

/-- The path of a page leads to its location. -/
theorem eq_pageLocation_of_locate {cwd l : Location} {files : Files} {applet : Text}
    (hback : ['.', '.'] ∉ Path.names batch.outDir) (h : Applet.IsNormal applet)
    (hl : files.locate cwd (outputPath batch.outDir applet) = .ok l) :
    l = pageLocation cwd batch applet := by
  rw [locate_outputPath h] at hl
  cases hcheck : checkPath (outputPath batch.outDir applet) with
  | error fault =>
    rw [hcheck] at hl
    cases hl
  | ok u =>
    cases hdir : files.directoryAt cwd batch.outDir with
    | error fault =>
      rw [hcheck, hdir] at hl
      cases hl
    | ok d =>
      rw [hcheck, hdir] at hl
      simp only [bind, Except.bind] at hl
      split_ifs at hl
      cases hl
      obtain rfl := eq_of_directoryAt hback hdir
      rfl

/-! ## 3. Isolation -/

/-- What a batch leaves of the files, applet by applet and beside them. -/
structure Isolated (cwd : Location) (help : Text → Except Failure Text) (batch : Batch) (w : World)
    (outcomes : List Outcome) (w' : World) : Prop where
  /-- There is one outcome for each applet, in order. -/
  applets : outcomes.map Outcome.applet = batch.applets
  output : ∀ o ∈ outcomes, o.output = Path.join batch.outDir (o.applet ++ ".1".toList)
  /-- The location of a page is where its path leads to. -/
  located : ∀ o ∈ outcomes, ∀ (files : Files) (l : Location),
    files.locate cwd o.output = .ok l → l = pageLocation cwd batch o.applet
  /-- The page of an applet that succeeds is the one for its help text, the fragments that are found
  when its turn comes, the date and all applets; it can be read by everyone. -/
  written : ∀ o ∈ outcomes, ∀ counts, o.result = .ok counts →
    ∃ before after text fragments page, batch.applets = before ++ o.applet :: after ∧
      help o.applet = .ok text ∧
      Fragments.inTree (workThrough ⟨cwd, .ofFunction help⟩ batch before w).2.files cwd
        batch.includeDir o.applet = .ok fragments ∧
      Page.generate ⟨batch.date, batch.applets⟩ o.applet text fragments = .ok (page, counts) ∧
      w'.files.stat cwd o.output = .ok (.file 0o644 (Utf8.encode page)) ∧
      w'.files.get? (pageLocation cwd batch o.applet) = some (.file 0o644 (Utf8.encode page))
  /-- What stood at the path of an applet that fails stays as it was. -/
  kept : ∀ o ∈ outcomes, ∀ failure, o.result = .error failure →
    w'.files.get? (pageLocation cwd batch o.applet)
      = w.files.get? (pageLocation cwd batch o.applet)
  /-- Besides the pages there are only missing directories on the way to the output directory. -/
  elsewhere : ∀ l, (∀ o ∈ outcomes, o.isSuccess = true → l ≠ pageLocation cwd batch o.applet) →
    w'.files.get? l = w.files.get? l ∨
      l <+: outLocation cwd batch ∧ w.files.get? l = none ∧ w'.files.get? l = some .directory
  /-- No staged file is left. -/
  noStaged : ∀ l mode content, w'.files.get? l = some (.file mode content) →
    w.files.get? l = some (.file mode content) ∨
      ∃ o ∈ outcomes, o.isSuccess = true ∧ l = pageLocation cwd batch o.applet

/-- **A batch keeps its pages apart.** -/
theorem isolated_run (cwd : Location) (help : Text → Except Failure Text) (batch : Batch)
    (w : World) (hdistinct : batch.applets.Nodup)
    (hnormal : ∀ applet ∈ batch.applets, Applet.IsNormal applet)
    (hback : ['.', '.'] ∉ Path.names batch.outDir) :
    Isolated cwd help batch w (run ⟨cwd, .ofFunction help⟩ batch w).1
      (run ⟨cwd, .ofFunction help⟩ batch w).2 := by
  have hquiet : (Site.mk cwd (.ofFunction help)).source.Quiet := HelpSource.quiet_ofFunction help
  have happlets := map_applet_workThrough batch hquiet w hnormal
  have habout (o : Outcome) (ho : o ∈ (run ⟨cwd, .ofFunction help⟩ batch w).1) :=
    about_workThrough batch hquiet hnormal ho
  have hkept (l : Location) := grownAt_workThrough batch hquiet hback w hnormal (l := l)
  refine ⟨happlets, fun o ho => (habout o ho).2, ?_, ?_, ?_, hkept, ?_⟩
  · intro o ho files l hl
    rw [(habout o ho).2] at hl
    exact eq_pageLocation_of_locate hback (hnormal _ (habout o ho).1) hl
  · intro o ho counts hok
    obtain ⟨before, after, page, hsplit, hpage, hstat, hget⟩ :=
      exists_page_of_success batch hquiet hback hdistinct hnormal ho hok
    obtain ⟨text, fragments, htext, hfragments, hpage⟩ := rendered_eq_ok hpage
    exact ⟨before, after, text, fragments, page, hsplit, htext, hfragments, hpage, hstat, hget⟩
  · intro o ho failure hfailed
    refine (hkept (pageLocation cwd batch o.applet) fun o' ho' hok heq => ?_).resolve_right ?_
    · -- only `o` itself could have written there, and it has failed
      have hnodup : ((workThrough ⟨cwd, .ofFunction help⟩ batch batch.applets w).1.map
          Outcome.applet).Nodup := happlets.symm ▸ hdistinct
      obtain rfl := List.inj_on_of_nodup_map hnodup ho ho' (pageLocation_injective cwd batch heq)
      rw [Outcome.isSuccess, hfailed] at hok
      cases hok
    · rintro ⟨hbegins, -⟩
      have hlength := hbegins.length_le
      simp only [pageLocation, List.length_append, List.length_singleton] at hlength
      omega
  · intro l mode content hl
    by_cases hpage : ∃ o ∈ (run ⟨cwd, .ofFunction help⟩ batch w).1,
        o.isSuccess = true ∧ l = pageLocation cwd batch o.applet
    · exact Or.inr hpage
    · refine Or.inl ?_
      rcases hkept l fun o ho hok heq => hpage ⟨o, ho, hok, heq⟩ with hsame | ⟨-, -, hdirectory⟩
      · exact hsame ▸ hl
      · rw [run, hdirectory] at hl
        cases hl

/-- Two applets, of which only the first has a help text. -/
def pair : Batch where
  applets := ["qa".toList, "qb".toList]
  includeDir := "inc".toList
  outDir := "man".toList
  date := "May".toList

def pairHelp (applet : Text) : Except Failure Text :=
  if applet = "qa".toList then .ok "Usage: qa <file> : ask\n\nOptions: -[h]\n -h * help\n".toList
  else .error (.reported "no such applet".toList)

/-- A tree with an old page of the second. -/
def pairWorld : World where
  files := (Files.empty.put ["man".toList] .directory).put
    ["man".toList, "qb.1".toList] (.file 0o600 [65])
  printed := []
  events := []

/-- The first page is made, and the old page of the second stays. -/
theorem isolated_run_pair :
    pair.applets.Nodup ∧ (∀ applet ∈ pair.applets, Applet.IsNormal applet) ∧
      ['.', '.'] ∉ Path.names pair.outDir ∧
      (run ⟨[], .ofFunction pairHelp⟩ pair pairWorld).1.map Outcome.isSuccess = [true, false] ∧
      Isolated [] pairHelp pair pairWorld (run ⟨[], .ofFunction pairHelp⟩ pair pairWorld).1
        (run ⟨[], .ofFunction pairHelp⟩ pair pairWorld).2 := by
  have hdistinct : pair.applets.Nodup := by decide
  have hnormal : ∀ applet ∈ pair.applets, Applet.IsNormal applet := by decide
  have hback : ['.', '.'] ∉ Path.names pair.outDir := by decide
  have hresults : (run ⟨[], .ofFunction pairHelp⟩ pair pairWorld).1.map Outcome.isSuccess
      = [true, false] := by decide +kernel
  exact ⟨hdistinct, hnormal, hback, hresults,
    isolated_run [] pairHelp pair pairWorld hdistinct hnormal hback⟩

end Manpage.Batch
