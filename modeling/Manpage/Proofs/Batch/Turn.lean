/-
# The turn of one applet

What the work on one applet comes to when nothing happens between its steps.  The page depends on
the files as they are when the turn begins (`rendered`), and all that the turn does to the files
is said in `Turn`: it adds directories that were missing on the way to the output directory, and if it
succeeds it puts the page in its place (`turn_work`).

A failure leaves no trace beyond such directories, at whatever step it comes: the steps before the
staging change no file, and a staged file that cannot be renamed is removed again.
-/
import Manpage.Proofs.Batch.PagePath
import Manpage.Proofs.Files.Staging

namespace Manpage

open Files

/-! ## 1. Steps that reply nothing -/

namespace Program

variable {β : Type} (site : Site) (next : Program β) (w : World)

theorem run_announce (line : Text) :
    run site (do ask (.announce line); next) w
      = run site next { w with printed := w.printed ++ [line] } := rfl

theorem run_report (event : Event) :
    run site (do ask (.report event); next) w
      = run site next { w with events := w.events ++ [event] } := rfl

theorem run_write (l : Location) (content : Bytes) :
    run site (do ask (.write l content); next) w
      = run site next (w.withFiles (w.files.write l content)) := rfl

theorem run_setMode (l : Location) (mode : Nat) :
    run site (do ask (.setMode l mode); next) w
      = run site next (w.withFiles (w.files.setMode l mode)) := rfl

end Program

/-! ## 2. The fragments that a tree holds -/

namespace Fragments

/-- The further sections at the given paths. -/
def readAll (files : Files) (cwd : Location) : List Text → Except Failure (List Text)
  | [] => .ok []
  | path :: rest =>
    match files.readText cwd path with
    | .error fault => .error (.unreadable path fault)
    | .ok text =>
      match readAll files cwd rest with
      | .error failure => .error failure
      | .ok includes => .ok (ofInclude text :: includes)

/-- The fragments of an applet in a tree of files. -/
def inTree (files : Files) (cwd : Location) (dir applet : Text) : Except Failure Fragments :=
  match descriptionOf (files.readText cwd (descriptionPath dir applet)) with
  | .error fault => .error (.unreadable (descriptionPath dir applet) fault)
  | .ok description =>
    match readAll files cwd (includePaths files cwd dir applet) with
    | .error failure => .error failure
    | .ok includes => .ok ⟨description, includes⟩

variable (site : Site)

theorem run_readIncludes (applet : Text) (paths : List Text) (w : World) :
    ((readIncludes applet paths).run site w).1 = readAll w.files site.cwd paths ∧
      ((readIncludes applet paths).run site w).2.files = w.files := by
  induction paths generalizing w with
  | nil => exact ⟨rfl, rfl⟩
  | cons path rest ih =>
    rw [readIncludes, readAll, Program.run_bind, Program.run_ask, perform]
    cases w.files.readText site.cwd path with
    | error fault => exact ⟨rfl, rfl⟩
    | ok text =>
      obtain ⟨hresult, hfiles⟩ := ih { w with events := w.events ++ [.includeRead applet path] }
      simp only [Program.run_report, Program.run_bind, hresult]
      cases readAll w.files site.cwd rest with
      | error failure => exact ⟨rfl, hfiles⟩
      | ok includes => exact ⟨rfl, hfiles⟩

/-- **Loading gives what the tree holds** and changes no file. -/
theorem run_load (dir applet : Text) (w : World) :
    ((load dir applet).run site w).1 = inTree w.files site.cwd dir applet ∧
      ((load dir applet).run site w).2.files = w.files := by
  rw [load, inTree, Program.run_bind, Program.run_ask, perform]
  cases descriptionOf (w.files.readText site.cwd (descriptionPath dir applet)) with
  | error fault => exact ⟨rfl, rfl⟩
  | ok description =>
    obtain ⟨hresult, hfiles⟩ :=
      run_readIncludes site applet (includePaths w.files site.cwd dir applet) w
    simp only [Program.run_bind, Program.run_ask, perform, hresult]
    cases readAll w.files site.cwd (includePaths w.files site.cwd dir applet) with
    | error failure => exact ⟨rfl, hfiles⟩
    | ok includes => exact ⟨rfl, hfiles⟩

end Fragments

/-- A help source that leaves the files as they are. -/
def HelpSource.Quiet (source : HelpSource) : Prop :=
  ∀ applet files, (source applet files).files = files

theorem HelpSource.quiet_ofFunction (help : Text → Except Failure Text) :
    (ofFunction help).Quiet := fun _ _ => rfl

namespace Batch

/-! ## 3. The page of an applet -/

/-- The page that an applet gets from a tree of files, with its counts, or why it gets none. -/
def rendered (site : Site) (batch : Batch) (files : Files) (applet : Text) :
    Except Failure (Text × PageCounts) := do
  let help ← (site.source applet files).text
  let fragments ← Fragments.inTree files site.cwd batch.includeDir applet
  (Page.generate batch.edition applet help fragments).mapError .malformed

theorem rendered_eq_ok {site : Site} {batch : Batch} {files : Files} {applet page : Text}
    {counts : PageCounts} (h : rendered site batch files applet = .ok (page, counts)) :
    ∃ help fragments, (site.source applet files).text = .ok help ∧
      Fragments.inTree files site.cwd batch.includeDir applet = .ok fragments ∧
      Page.generate batch.edition applet help fragments = .ok (page, counts) := by
  rw [rendered] at h
  cases hhelp : (site.source applet files).text with
  | error failure =>
    rw [hhelp] at h
    cases h
  | ok help =>
    cases hload : Fragments.inTree files site.cwd batch.includeDir applet with
    | error failure =>
      rw [hhelp, hload] at h
      cases h
    | ok fragments =>
      rw [hhelp, hload] at h
      refine ⟨help, fragments, rfl, rfl, ?_⟩
      cases hpage : Page.generate batch.edition applet help fragments with
      | error m => simp [bind, Except.bind, hpage, Except.mapError] at h
      | ok made =>
        simp only [bind, Except.bind, hpage, Except.mapError] at h
        cases h
        rfl

/-- A file of the page's mode and content stands at the path of an applet's page, in place of
whatever file was there, and nothing else has changed. -/
structure Placed (cwd : Location) (outDir applet page : Text) (d : Location) (before after : Files) :
    Prop where
  directory : before.directoryAt cwd outDir = .ok d
  path : checkPath (outputPath outDir applet) = .ok ()
  short : ¬nameLimit < (Utf8.encode (pageName applet)).length
  free : before.get? (d ++ [pageName applet]) ≠ some .directory
  put : after = before.put (d ++ [pageName applet]) (.file pageMode (Utf8.encode page))

variable {site : Site} {applet : Text}

/-- A staged page that is renamed to its path is in its place. -/
theorem placed_of_rename (h : Applet.IsNormal applet) {files files' : Files} {cwd d l : Location}
    {outDir page : Text} (hd : files.directoryAt cwd outDir = .ok d) (hl : l ≠ [])
    (hnone : files.get? l = none)
    (hrename : (files.put l (.file pageMode (Utf8.encode page))).rename l cwd
      (outputPath outDir applet) = (.ok (), files')) :
    Placed cwd outDir applet page d files files' := by
  have hkeep : KeepsDirectories files (files.put l (.file pageMode (Utf8.encode page))) :=
    keepsDirectories_put (by rw [hnone]; nofun)
  obtain ⟨d', name, hplace, hfree, rfl⟩ := rename_eq_ok (get?_put_self files hl _) hrename
  obtain ⟨d'', hd'', hcheck, hshort, hentry⟩ := (place_outputPath_eq_ok_iff h _ _ _).mp hplace
  rw [directoryAt_of_keepsDirectories hkeep hd] at hd''
  cases hd''
  cases hentry
  refine ⟨hd, hcheck, hshort, ?_, by rw [erase_put hnone]⟩
  by_cases heq : l = d ++ [pageName applet]
  · rw [← heq, hnone]
    nofun
  · rw [get?_put_of_ne files heq] at hfree
    exact hfree

/-- What is done with a staged file: the page is written to it, and it is renamed or removed. -/
def publishing (path page : Text) (staged : Location) : Program (Except Failure Unit) := do
  Program.ask (.write staged (Utf8.encode page))
  Program.ask (.setMode staged pageMode)
  match ← Program.ask (.publish staged path) with
  | .ok () => return .ok ()
  | .error fault =>
    Program.ask (.discard staged)
    return .error (.notPublished path fault)

theorem run_publishing (path page : Text) {l : Location} (hl : l ≠ []) {files : Files} {mode : Nat}
    {content : Bytes} {w : World} (hw : w.files = files.put l (.file mode content)) :
    (publishing path page l).run site w =
      match (files.put l (.file pageMode (Utf8.encode page))).rename l site.cwd path with
      | (.ok (), files') => (.ok (), w.withFiles files')
      | (.error fault, files') => (.error (.notPublished path fault), w.withFiles (files'.erase l))
      := by
  simp only [publishing, Program.run_write, Program.run_setMode, Program.run_bind, Program.run_ask,
    perform, World.withFiles, hw, write_put hl, setMode_put hl]
  cases (files.put l (.file pageMode (Utf8.encode page))).rename l site.cwd path with
  | mk result files' => cases result <;> rfl

theorem writePage_eq {path dir : Text} (h : directoryOf? path = some dir) (text : Text) :
    writePage path text = (do
      match ← Program.ask (.makeDirectories dir) with
      | .error fault => return .error (.noDirectory dir fault)
      | .ok () =>
        match ← Program.ask (.stage dir ((Path.fileName? path).getD [])) with
        | .error fault => return .error (.notStaged dir fault)
        | .ok staged => publishing path text staged) := by
  rw [writePage, h]
  rfl

/-- **Writing a page puts it in its place or leaves no trace**, missing directories apart. -/
theorem run_writePage (site : Site) (h : Applet.IsNormal applet) (outDir page : Text) (w : World) :
    ∃ grown, Grown (OnTheWay site.cwd outDir) w.files grown ∧
      match (writePage (outputPath outDir applet) page).run site w with
      | (.error _, w') => w'.files = grown
      | (.ok (), w') => ∃ d, Placed site.cwd outDir applet page d grown w'.files := by
  obtain ⟨dir, hdir, habsolute, hnames, -⟩ := directoryOf?_outputPath h outDir
  have hway : OnTheWay site.cwd dir = OnTheWay site.cwd outDir := by
    funext l
    rw [OnTheWay, OnTheWay, target, target, origin, origin, habsolute, hnames]
  have hgrown := grown_makeDirectories w.files site.cwd dir
  rw [hway] at hgrown
  rw [writePage_eq hdir]
  simp only [Program.run_bind, Program.run_ask, perform]
  cases hmade : w.files.makeDirectories site.cwd dir with
  | mk result grown =>
    rw [hmade] at hgrown
    refine ⟨grown, hgrown, ?_⟩
    cases result with
    | error fault => rfl
    | ok u =>
      simp only [Program.run_bind, Program.run_ask, perform, World.withFiles]
      rcases stage_cases grown site.cwd dir ((Path.fileName? (outputPath outDir applet)).getD [])
        with ⟨fault, hstage⟩ | ⟨d, l, hd, hstage, hl, hnone⟩
      · rw [hstage]
        rfl
      · rw [directoryAt_congr habsolute hnames] at hd
        simp only [hstage]
        rw [run_publishing _ _ hl rfl]
        cases hrename : (grown.put l (.file pageMode (Utf8.encode page))).rename l site.cwd
            (outputPath outDir applet) with
        | mk result files' =>
          cases result with
          | ok u => exact ⟨d, placed_of_rename h hd hl hnone hrename⟩
          | error fault =>
            rw [rename_eq_error hrename]
            exact erase_put hnone _

/-! ## 4. The work on an applet -/

/-- What the work on an applet comes to, from one world to another. -/
structure Turn (site : Site) (batch : Batch) (applet : Text) (w : World) (outcome : Outcome)
    (w' : World) : Prop where
  about : outcome.applet = applet
  output : outcome.output = outputPath batch.outDir applet
  files : ∃ grown, Grown (OnTheWay site.cwd batch.outDir) w.files grown ∧
    match outcome.result with
    | .error _ => w'.files = grown
    | .ok counts => ∃ page d, rendered site batch w.files applet = .ok (page, counts) ∧
        Placed site.cwd batch.outDir applet page d grown w'.files

/-- What is done with the page once it is put together. -/
def filing (batch : Batch) (applet page : Text) (counts : PageCounts) :
    Program (Except Failure PageCounts) := do
  match ← writePage (outputPath batch.outDir applet) page with
  | .error failure => return .error failure
  | .ok () =>
    Program.ask (.report (.written (outputPath batch.outDir applet) applet counts))
    return .ok counts

theorem run_filing (site : Site) (h : Applet.IsNormal applet) (batch : Batch) (page : Text)
    (counts : PageCounts) (w : World) :
    ∃ grown, Grown (OnTheWay site.cwd batch.outDir) w.files grown ∧
      match (filing batch applet page counts).run site w with
      | (.error _, w') => w'.files = grown
      | (.ok counts', w') => counts' = counts ∧
          ∃ d, Placed site.cwd batch.outDir applet page d grown w'.files := by
  obtain ⟨grown, hgrown, hwritten⟩ := run_writePage site h batch.outDir page w
  refine ⟨grown, hgrown, ?_⟩
  rw [filing, Program.run_bind]
  cases hrun : (writePage (outputPath batch.outDir applet) page).run site w with
  | mk result w' =>
    rw [hrun] at hwritten
    cases result with
    | error failure => exact hwritten
    | ok u => exact ⟨rfl, hwritten⟩

/-- What making a page comes to. -/
theorem run_makePage (hquiet : site.source.Quiet) (h : Applet.IsNormal applet) (batch : Batch)
    (w : World) :
    ∃ grown, Grown (OnTheWay site.cwd batch.outDir) w.files grown ∧
      match (makePage batch applet).run site w with
      | (.error _, w') => w'.files = grown
      | (.ok counts, w') => ∃ page d, rendered site batch w.files applet = .ok (page, counts) ∧
          Placed site.cwd batch.outDir applet page d grown w'.files := by
  have hstill := Grown.refl (OnTheWay site.cwd batch.outDir) w.files
  simp only [makePage, Program.run_announce, Program.run_bind, Program.run_ask, perform,
    hquiet applet w.files, rendered]
  cases (site.source applet w.files).text with
  | error failure => exact ⟨w.files, hstill, rfl⟩
  | ok help =>
    obtain ⟨hload, hfiles⟩ := Fragments.run_load site batch.includeDir applet
      { w with
        files := w.files
        printed := w.printed ++ [announcement applet (outputPath batch.outDir applet)]
        events := w.events ++ (site.source applet w.files).events }
    simp only [Program.run_bind, hload]
    generalize ((Fragments.load batch.includeDir applet).run site _).2 = loaded at hfiles ⊢
    cases Fragments.inTree w.files site.cwd batch.includeDir applet with
    | error failure => exact ⟨w.files, hstill, hfiles⟩
    | ok fragments =>
      simp only [bind, Except.bind]
      cases Page.generate batch.edition applet help fragments with
      | error m => exact ⟨w.files, hstill, hfiles⟩
      | ok made =>
        obtain ⟨page, counts⟩ := made
        -- the report of the options, if there is one, changes no file
        have hfiled : ∀ w₁ : World, w₁.files = w.files → ∃ grown,
            Grown (OnTheWay site.cwd batch.outDir) w.files grown ∧
              match (filing batch applet page counts).run site w₁ with
              | (.error _, w') => w'.files = grown
              | (.ok counts', w') => ∃ page' d,
                  (Except.ok (page, counts) : Except Failure _) = .ok (page', counts') ∧
                    Placed site.cwd batch.outDir applet page' d grown w'.files := by
          intro w₁ hw₁
          obtain ⟨grown, hgrown, hfiled⟩ := run_filing site h batch page counts w₁
          rw [hw₁] at hgrown
          refine ⟨grown, hgrown, ?_⟩
          split at hfiled
          · exact hfiled
          · obtain ⟨rfl, d, hplaced⟩ := hfiled
            exact ⟨page, d, rfl, hplaced⟩
        by_cases hblock : (OptionEntry.block? help).isSome = true
        · simp only [hblock, if_true]
          exact hfiled _ hfiles
        · simp only [hblock]
          exact hfiled loaded hfiles

/-- **The work on an applet** puts its page in its place or leaves no trace. -/
theorem turn_work (hquiet : site.source.Quiet) (h : Applet.IsNormal applet) (batch : Batch)
    (w : World) :
    Turn site batch applet w ((work batch applet).run site w).1 ((work batch applet).run site w).2
    := by
  obtain ⟨grown, hgrown, hmade⟩ := run_makePage hquiet h batch w
  simp only [work, Program.run_bind]
  cases hrun : (makePage batch applet).run site w with
  | mk result w' =>
    rw [hrun] at hmade
    cases result with
    | error failure => exact ⟨rfl, rfl, grown, hgrown, hmade⟩
    | ok counts => exact ⟨rfl, rfl, grown, hgrown, hmade⟩

end Batch

end Manpage
