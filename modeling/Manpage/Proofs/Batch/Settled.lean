/-
# What becomes of an applet

While other works make their pages, the work on an applet comes to what is told by the tree at the
beginning (`settled`, `safe_work`): its page depends on what is read, and whether the page can be put
in its place depends on the path and on whether a directory stands there.  Neither changes.

Both directories are there at the beginning (`Grounds`), so none is made.
-/
import Manpage.Proofs.Batch.Ownership

namespace Manpage.Batch

open Files Held

/-! ## 1. What is settled -/

/-- Whether a staged page can be put in its place. -/
def landing (cwd out : Location) (batch : Batch) (base : Files) (applet : Text) :
    Except SystemFault Unit :=
  if '\x00' ∈ outputPath batch.outDir applet then .error .invalidArgument
  else
    match base.place cwd (outputPath batch.outDir applet) with
    | .error fault => .error fault
    | .ok _ =>
      if base.get? (out ++ [pageName applet]) = some .directory then .error .isDirectory else .ok ()

/-- What becomes of a page that is staged, and what is then in its place if it is put there. -/
def landed (cwd out : Location) (batch : Batch) (base : Files) (applet page : Text) :
    Except Failure Unit × Option Entry :=
  match landing cwd out batch base applet with
  | .error fault => (.error (.notPublished (outputPath batch.outDir applet) fault), none)
  | .ok () => (.ok (), some (.file pageMode (Utf8.encode page)))

/-- What becomes of an applet: its result, and its page if there is one. -/
def settled (site : Site) (out : Location) (batch : Batch) (base : Files) (applet : Text) :
    Except Failure PageCounts × Option Entry :=
  match rendered site batch base applet with
  | .error failure => (.error failure, none)
  | .ok (page, counts) =>
    ((landed site.cwd out batch base applet page).1.map fun _ => counts,
      (landed site.cwd out batch base applet page).2)

/-- What a batch finds: a tree with plain names, and both directories in it. -/
structure Grounds (cwd out : Location) (batch : Batch) (base : Files) : Prop where
  names : base.PlainlyNamed
  includeDir : base.isDirectory cwd batch.includeDir = true
  outDir : base.isDirectory cwd batch.outDir = true
  out : base.directoryAt cwd batch.outDir = .ok out

section Safety

variable {cwd out : Location} {batch : Batch} {base : Files} {help : Text → Except Failure Text}
  {u : Held}

/-! ## 2. Reading -/

/-- Further sections are read as they are in the base tree. -/
theorem safe_readIncludes {site : Site} {applet : Text} {paths : List Text}
    (hpaths : ∀ path ∈ paths, ∀ files, Alike out base files →
      files.readText site.cwd path = base.readText site.cwd path)
    {post : Except Failure (List Text) → Held → Prop}
    (hpost : post (Fragments.readAll base site.cwd paths) u) :
    Safe site out base (Fragments.readIncludes applet paths) u post := by
  induction paths generalizing post with
  | nil => exact hpost
  | cons path rest ih =>
    obtain ⟨hpath, hrest⟩ := List.forall_mem_cons.mp hpaths
    rw [Fragments.readAll] at hpost
    refine Safe.of_still rfl _ (fun w hsees => ⟨hpath _ hsees.alike, rfl⟩) ?_
    cases hread : base.readText site.cwd path with
    | error fault =>
      rw [hread] at hpost
      exact hpost
    | ok text =>
      rw [hread] at hpost
      refine Safe.of_still rfl _ (fun w _ => ⟨rfl, rfl⟩) ?_
      refine Honors.bind (ih hrest ?_)
      cases hall : Fragments.readAll base site.cwd rest with
      | error failure =>
        rw [hall] at hpost
        exact hpost
      | ok includes =>
        rw [hall] at hpost
        exact hpost

/-- **The fragments are loaded as the base tree has them.** -/
theorem safe_load (hgrounds : Grounds cwd out batch base) {applet : Text}
    (happlet : Applet.IsNormal applet) {source : HelpSource}
    {post : Except Failure Fragments → Held → Prop}
    (hpost : post (Fragments.inTree base cwd batch.includeDir applet) u) :
    Safe ⟨cwd, source⟩ out base (Fragments.load batch.includeDir applet) u post := by
  rw [Fragments.inTree] at hpost
  refine Safe.of_still rfl _ (fun w hsees => ⟨Fragments.readText_description_alike happlet
    hgrounds.includeDir hsees.alike, rfl⟩) ?_
  cases hdescription : Fragments.descriptionOf (base.readText cwd
      (Fragments.descriptionPath batch.includeDir applet)) with
  | error fault =>
    rw [hdescription] at hpost
    exact hpost
  | ok description =>
    rw [hdescription] at hpost
    refine Safe.of_still rfl _ (fun w hsees => ⟨Fragments.includePaths_alike happlet
      hgrounds.includeDir hsees.alike, rfl⟩) ?_
    refine Honors.bind (safe_readIncludes (fun path hpath files halike =>
      Fragments.readText_include_alike happlet hgrounds.includeDir halike hgrounds.names hpath) ?_)
    cases hall : Fragments.readAll base cwd
        (Fragments.includePaths base cwd batch.includeDir applet) with
    | error failure =>
      rw [hall] at hpost
      exact hpost
    | ok includes =>
      rw [hall] at hpost
      exact hpost

/-! ## 3. Writing -/

/-- **Whether a page can be put in its place is told by the base tree.** -/
theorem rename_staged (hgrounds : Grounds cwd out batch base) {files : Files}
    (hsees : Sees out base u files) (happlet : Applet.IsNormal u.applet) {l : Location} {e : Entry}
    (hu : u.staged = some (l, e)) :
    files.rename l cwd (outputPath batch.outDir u.applet) =
      match landing cwd out batch base u.applet with
      | .error fault => (.error fault, files)
      | .ok () => (.ok (), (files.erase l).put (u.pageAt out) e) := by
  have hdirectory : files.get? (out ++ [pageName u.applet]) = some .directory ↔
      base.get? (out ++ [pageName u.applet]) = some .directory := hsees.alike.directories _
  have hsame : files.place cwd (outputPath batch.outDir u.applet)
      = base.place cwd (outputPath batch.outDir u.applet) := by
    rw [place_outputPath happlet, place_outputPath happlet, hgrounds.out,
      hsees.alike.directoryAt hgrounds.out]
  rw [landing]
  by_cases hnul : '\x00' ∈ outputPath batch.outDir u.applet
  · rw [rename, if_pos hnul, if_pos hnul]
  rw [if_neg hnul]
  cases hplace : base.place cwd (outputPath batch.outDir u.applet) with
  | error fault => rw [rename, if_neg hnul, hsame, hplace]
  | ok place =>
    obtain ⟨d, hd, -, -, rfl⟩ := (place_outputPath_eq_ok_iff happlet _ _ _).mp hplace
    rw [hgrounds.out] at hd
    cases hd
    rw [rename_of_place hnul (hsame.trans hplace) (hsees.staged l e hu).1]
    by_cases hbase : base.get? (out ++ [pageName u.applet]) = some .directory
    · rw [if_pos (hdirectory.mpr hbase)]
      simp only [if_pos hbase]
    · rw [if_neg (mt hdirectory.mp hbase)]
      simp only [if_neg hbase]
      rfl

theorem page_ne_directory {files : Files} (hsees : Sees out base u files)
    (h : landing cwd out batch base u.applet = .ok ()) : u.page ≠ some .directory := by
  intro hpage
  rw [← hsees.page] at hpage
  have hbase : base.get? (out ++ [pageName u.applet]) = some .directory :=
    (hsees.alike.directories _).mp hpage
  simp only [landing, if_pos hbase] at h
  split at h
  · cases h
  · split at h <;> cases h

/-- **A staged page is put in its place or removed.** -/
theorem safe_publishing (hgrounds : Grounds cwd out batch base)
    (happlet : Applet.IsNormal u.applet) {source : HelpSource} {page : Text} {l : Location}
    {mode : Nat} {content : Bytes} (hu : u.staged = some (l, .file mode content))
    {post : Except Failure Unit → Held → Prop}
    (hpost : post (landed cwd out batch base u.applet page).1
      { u with page := (landed cwd out batch base u.applet page).2.or u.page, staged := none }) :
    Safe ⟨cwd, source⟩ out base (publishing (outputPath batch.outDir u.applet) page l) u post := by
  -- the staged file is written
  refine Safe.of_moves rfl _ { u with staged := some (l, .file mode (Utf8.encode page)) }
    (fun w hsees => ⟨rfl, ?_⟩) ?_
  · simp only [perform, World.withFiles, write, (hsees.staged l _ hu).1]
    exact hsees.rewrite hu (file_ne_directory _ _)
  refine Safe.of_moves rfl _
    { u with staged := some (l, .file pageMode (Utf8.encode page)) }
    (fun w hsees => ⟨rfl, ?_⟩) ?_
  · simp only [perform, World.withFiles, setMode, (hsees.staged l _ rfl).1]
    exact hsees.rewrite rfl (file_ne_directory _ _)
  -- and renamed
  rw [landed] at hpost
  cases hlanding : landing cwd out batch base u.applet with
  | ok _ =>
    rw [hlanding] at hpost
    refine Safe.of_moves rfl (Except.ok ()) _ (fun w hsees => ?_) hpost
    have hrename := rename_staged hgrounds hsees happlet rfl
    simp only [hlanding] at hrename
    simp only [perform, World.withFiles, hrename]
    exact ⟨rfl, hsees.publish rfl (page_ne_directory hsees hlanding)⟩
  | error fault =>
    rw [hlanding] at hpost
    refine Safe.of_still rfl (Except.error fault) (fun w hsees => ?_) ?_
    · have hrename := rename_staged hgrounds hsees happlet rfl
      simp only [hlanding] at hrename
      simp only [perform, World.withFiles, hrename]
      exact ⟨rfl, trivial⟩
    · exact Safe.of_moves rfl _ _ (fun w hsees => ⟨rfl, hsees.discard rfl⟩) hpost

/-- Writing a page makes no directory, stages the page, and puts it in its place or removes it. -/
theorem safe_writePage (hgrounds : Grounds cwd out batch base)
    (happlet : Applet.IsNormal u.applet) {source : HelpSource} {page : Text}
    (hu : u.staged = none) {post : Except Failure Unit → Held → Prop}
    (hpost : post (landed cwd out batch base u.applet page).1
      { u with page := (landed cwd out batch base u.applet page).2.or u.page }) :
    Safe ⟨cwd, source⟩ out base (writePage (outputPath batch.outDir u.applet) page) u post := by
  obtain ⟨dir, hdir, hsame, hcheck⟩ := exists_directoryOf?_outputPath happlet batch.outDir
    hgrounds.outDir
  have hbase : base.directoryAt cwd dir = .ok out := hsame.trans hgrounds.out
  rw [writePage_eq hdir]
  refine Safe.of_still rfl (Except.ok ()) (fun w hsees => ?_) ?_
  · have hmade : w.files.makeDirectories cwd dir = (.ok (), w.files) :=
      makeDirectories_of_isDirectory
        (isDirectory_iff.mpr ⟨hcheck, out, hsees.alike.directoryAt hbase⟩)
    simp only [perform, World.withFiles, hmade]
    exact ⟨rfl, trivial⟩
  refine Safe.of_stage hcheck hbase hu fun l _ => ?_
  refine safe_publishing (u := { u with staged := some (l, .file 0o600 []) }) hgrounds happlet rfl
    ?_
  rw [hu] at hpost
  exact hpost

/-! ## 4. The work on an applet -/

theorem safe_filing (hgrounds : Grounds cwd out batch base) (happlet : Applet.IsNormal u.applet)
    {source : HelpSource} {page : Text} {counts : PageCounts} (hu : u.staged = none)
    {post : Except Failure PageCounts → Held → Prop}
    (hpost : post ((landed cwd out batch base u.applet page).1.map fun _ => counts)
      { u with page := (landed cwd out batch base u.applet page).2.or u.page }) :
    Safe ⟨cwd, source⟩ out base (filing batch u.applet page counts) u post := by
  refine Honors.bind (safe_writePage hgrounds happlet hu ?_)
  cases hresult : (landed cwd out batch base u.applet page).1 with
  | error failure =>
    rw [hresult] at hpost
    exact hpost
  | ok _ =>
    rw [hresult] at hpost
    exact Safe.of_still rfl _ (fun w _ => ⟨rfl, rfl⟩) hpost

/-- **Making a page comes to what the base tree settles.** -/
theorem safe_makePage (hgrounds : Grounds cwd out batch base) (happlet : Applet.IsNormal u.applet)
    (hu : u.staged = none) {post : Except Failure PageCounts → Held → Prop}
    (hpost : post (settled ⟨cwd, .ofFunction help⟩ out batch base u.applet).1
      { u with page := (settled ⟨cwd, .ofFunction help⟩ out batch base u.applet).2.or u.page }) :
    Safe ⟨cwd, .ofFunction help⟩ out base (makePage batch u.applet) u post := by
  rw [settled, rendered] at hpost
  refine Safe.of_still rfl _ (fun w _ => ⟨rfl, rfl⟩) ?_
  refine Safe.of_still rfl (help u.applet) (fun w _ => ⟨rfl, rfl⟩) ?_
  simp only [HelpSource.ofFunction] at hpost
  cases hhelp : help u.applet with
  | error failure =>
    rw [hhelp] at hpost
    exact hpost
  | ok text =>
    rw [hhelp] at hpost
    refine Honors.bind (safe_load hgrounds happlet ?_)
    cases hload : Fragments.inTree base cwd batch.includeDir u.applet with
    | error failure =>
      rw [hload] at hpost
      exact hpost
    | ok fragments =>
      rw [hload] at hpost
      simp only [bind, Except.bind] at hpost
      cases hpage : Page.generate batch.edition u.applet text fragments with
      | error m =>
        rw [hpage] at hpost
        simp only [hpage]
        exact hpost
      | ok made =>
        obtain ⟨page, counts⟩ := made
        rw [hpage] at hpost
        have hfiling : Safe ⟨cwd, .ofFunction help⟩ out base (filing batch u.applet page counts) u
            post := safe_filing hgrounds happlet hu hpost
        -- the report of the options, if there is one, changes no file
        by_cases hblock : (OptionEntry.block? text).isSome = true
        · simp only [hpage, hblock, if_true]
          exact Safe.of_still rfl _ (fun w _ => ⟨rfl, rfl⟩) hfiling
        · simp only [hpage, hblock]
          exact hfiling

/-- **The work on an applet comes to what the base tree settles.** -/
theorem safe_work (hgrounds : Grounds cwd out batch base) (happlet : Applet.IsNormal u.applet)
    (hu : u.staged = none) {post : Outcome → Held → Prop}
    (hpost : post ⟨u.applet, outputPath batch.outDir u.applet,
        (settled ⟨cwd, .ofFunction help⟩ out batch base u.applet).1⟩
      { u with page := (settled ⟨cwd, .ofFunction help⟩ out batch base u.applet).2.or u.page }) :
    Safe ⟨cwd, .ofFunction help⟩ out base (work batch u.applet) u post := by
  refine Honors.bind (safe_makePage hgrounds happlet hu ?_)
  cases hresult : (settled ⟨cwd, .ofFunction help⟩ out batch base u.applet).1 with
  | error failure =>
    rw [hresult] at hpost
    exact Safe.of_still rfl _ (fun w _ => ⟨rfl, rfl⟩) hpost
  | ok counts =>
    rw [hresult] at hpost
    exact hpost

end Safety

end Manpage.Batch
