/-
# A batch in any order

However the steps of the work on the applets are mixed, and however many workers there are, the
outcomes and the files are those of the turns one after another (`interleaved_run`).  For what becomes
of each applet is settled in the tree that the batch finds (`made_of_interleaved`).

A batch that is run again finds what it found before, and leaves each page as it is (`Made.again`).
-/
import Manpage.Proofs.Batch.Settled
import Manpage.Proofs.Program.Pool

namespace Manpage.Batch

open Files Held

/-! ## 1. What a batch makes -/

/-- What a batch has made: the outcomes are settled in the base tree, the pages that there are have
been put in their places, and nothing else has changed. -/
structure Made (site : Site) (out : Location) (batch : Batch) (base : Files) (w : World)
    (outcomes : List Outcome) (w' : World) : Prop where
  outcomes : outcomes = batch.applets.map fun applet =>
    ⟨applet, outputPath batch.outDir applet, (settled site out batch base applet).1⟩
  pages : ∀ applet ∈ batch.applets, w'.files.get? (out ++ [pageName applet])
    = (settled site out batch base applet).2.or (w.files.get? (out ++ [pageName applet]))
  elsewhere : ∀ l, (∀ applet ∈ batch.applets, l ≠ out ++ [pageName applet]) →
    w'.files.get? l = w.files.get? l
  alike : Alike out w.files w'.files

namespace Made

variable {site : Site} {out : Location} {batch : Batch} {base : Files} {w w₁ w₂ : World}
  {outcomes outcomes' : List Outcome}

/-- What a batch makes is determined by the tree that it finds. -/
theorem unique (h₁ : Made site out batch base w outcomes w₁)
    (h₂ : Made site out batch base w outcomes' w₂) :
    outcomes' = outcomes ∧ w₂.files = w₁.files := by
  refine ⟨h₂.outcomes.trans h₁.outcomes.symm, ext_get? fun l => ?_⟩
  by_cases hl : ∃ applet ∈ batch.applets, l = out ++ [pageName applet]
  · obtain ⟨applet, happlet, rfl⟩ := hl
    rw [h₁.pages applet happlet, h₂.pages applet happlet]
  · have hl : ∀ applet ∈ batch.applets, l ≠ out ++ [pageName applet] :=
      fun applet happlet heq => hl ⟨applet, happlet, heq⟩
    rw [h₁.elsewhere l hl, h₂.elsewhere l hl]

/-- What has been made stays when the batch is run again. -/
theorem again (h₁ : Made site out batch base w outcomes w₁)
    (h₂ : Made site out batch base w₁ outcomes' w₂) :
    outcomes' = outcomes ∧ w₂.files = w₁.files := by
  refine ⟨h₂.outcomes.trans h₁.outcomes.symm, ext_get? fun l => ?_⟩
  by_cases hl : ∃ applet ∈ batch.applets, l = out ++ [pageName applet]
  · obtain ⟨applet, happlet, rfl⟩ := hl
    -- the page that is put there is there already
    rw [h₂.pages applet happlet, h₁.pages applet happlet, ← Option.or_assoc, Option.or_self]
  · exact h₂.elsewhere l fun applet happlet heq => hl ⟨applet, happlet, heq⟩

end Made

/-- What the work on an applet holds before its first step. -/
def begun (out : Location) (files : Files) (applet : Text) : Held :=
  ⟨applet, files.get? (out ++ [pageName applet]), none⟩

theorem apart_begun (out : Location) (files : Files) {applets : List Text}
    (hdistinct : applets.Nodup) : Apart out files (applets.map (begun out files)) files where
  disjoint := List.pairwise_map.mpr (hdistinct.imp fun hne => ⟨hne, nofun⟩)
  page u hu := by
    obtain ⟨applet, -, rfl⟩ := List.mem_map.mp hu
    rfl
  staged u hu l e hl := by
    obtain ⟨applet, -, rfl⟩ := List.mem_map.mp hu
    cases hl
  directories _ := Iff.rfl
  elsewhere _ _ := rfl

/-! ## 2. Any order -/

section Run

variable {cwd out : Location} {batch : Batch} {base : Files} {help : Text → Except Failure Text}

/-- **Every order makes what the base tree settles.** -/
theorem made_of_interleaved (hgrounds : Grounds cwd out batch base)
    (hdistinct : batch.applets.Nodup)
    (hnormal : ∀ applet ∈ batch.applets, Applet.IsNormal applet) {w w' : World}
    (hbase : Alike out base w.files) {outcomes : List Outcome}
    (h : Interleaved ⟨cwd, .ofFunction help⟩ (batch.applets.map (work batch)) w outcomes w') :
    Made ⟨cwd, .ofFunction help⟩ out batch base w outcomes w' := by
  let site : Site := ⟨cwd, .ofFunction help⟩
  obtain ⟨ended, hresults, happlets, hapart, hended⟩ := h.apart hbase
    (fun outcome u =>
      outcome = ⟨u.applet, outputPath batch.outDir u.applet,
          (settled site out batch base u.applet).1⟩ ∧
        u.page = (settled site out batch base u.applet).2.or (w.files.get? (u.pageAt out)) ∧
        u.staged = none)
    (batch.applets.map fun applet => (begun out w.files applet, work batch applet))
    (by rw [List.map_map]; rfl)
    (by rw [List.map_map]; exact apart_begun out w.files hdistinct)
    (fun x hx => by
      obtain ⟨applet, happlet, rfl⟩ := List.mem_map.mp hx
      exact safe_work (u := begun out w.files applet) hgrounds (hnormal applet happlet) rfl
        ⟨rfl, rfl, rfl⟩)
  rw [List.map_map] at happlets
  have happlets : ended.map (fun x => x.1.applet) = batch.applets :=
    happlets.trans (List.map_id' batch.applets)
  have hmem : ∀ x ∈ ended, x.1.applet ∈ batch.applets := fun x hx =>
    happlets ▸ List.mem_map.mpr ⟨x, hx, rfl⟩
  refine ⟨?_, ?_, ?_, hapart.alike⟩
  · rw [← hresults, ← happlets, List.map_map]
    exact List.map_congr_left fun x hx => (hended x hx).1
  · intro applet happlet
    obtain ⟨x, hx, rfl⟩ := List.mem_map.mp (happlets ▸ happlet)
    exact (hapart.page x.1 (List.mem_map.mpr ⟨x, hx, rfl⟩)).trans (hended x hx).2.1
  · intro l hl
    refine hapart.elsewhere l fun u hu => ?_
    obtain ⟨x, hx, rfl⟩ := List.mem_map.mp hu
    exact ⟨hl x.1.applet (hmem x hx), by rw [(hended x hx).2.2]; nofun⟩

end Run

/-! ## 3. Turns, workers, and a second run -/

/-- The pool makes the pages one after another when no schedule says otherwise. -/
theorem runAll_work (site : Site) (batch : Batch) (applets : List Text) (w : World) :
    Pool.runAll site (applets.map (work batch)) w = workThrough site batch applets w := by
  induction applets generalizing w with
  | nil => rfl
  | cons applet rest ih =>
    rw [List.map_cons, Pool.runAll, workThrough]
    simp only [ih]

theorem countP_pieces (batch : Batch) (applets : List Text) :
    (pieces batch applets).countP Piece.isUnderway = 0 := by
  rw [pieces, List.countP_map]
  exact List.countP_eq_zero.mpr fun _ _ => Bool.false_ne_true

/-- **Without a schedule the pages are made in the order of the list**, however many workers there
are. -/
theorem runPooled_nil (site : Site) (batch : Batch) (workers : Nat) (w : World) :
    runPooled site batch workers [] w = run site batch w := by
  rw [runPooled, Pool.run_nil (countP_pieces batch _), map_program_pieces]
  exact runAll_work site batch batch.applets w

/-- So one worker may take one turn after another, and so may more of them. -/
theorem worked_run (site : Site) (batch : Batch) {workers : Nat} (hworkers : 0 < workers)
    (w : World) :
    Worked site workers (pieces batch batch.applets) w (run site batch w).1 (run site batch w).2 := by
  rw [← runPooled_nil site batch workers w]
  exact Pool.worked_run hworkers [] _ w

/-- What is true of a batch whatever the order of its steps. -/
structure OrderFree (site : Site) (batch : Batch) (w : World) : Prop where
  /-- One turn after another is one of the orders, whatever the number of workers. -/
  turns : ∀ workers, 0 < workers → Worked site workers (pieces batch batch.applets) w
    (run site batch w).1 (run site batch w).2
  /-- Every order has the outcomes of the turns one after another, and leaves their files, -/
  same : ∀ outcomes w', Interleaved site (batch.applets.map (work batch)) w outcomes w' →
    outcomes = (run site batch w).1 ∧ w'.files = (run site batch w).2.files
  /-- and so does every number of workers. -/
  workers : ∀ workers outcomes w', Worked site workers (pieces batch batch.applets) w outcomes w' →
    outcomes = (run site batch w).1 ∧ w'.files = (run site batch w).2.files
  /-- A second run has the same outcomes and leaves the files as they are, -/
  again : ∀ w₁, w₁.files = (run site batch w).2.files →
    (run site batch w₁).1 = (run site batch w).1 ∧ (run site batch w₁).2.files = w₁.files
  /-- whatever its order. -/
  againSame : ∀ w₁, w₁.files = (run site batch w).2.files → ∀ outcomes w',
    Interleaved site (batch.applets.map (work batch)) w₁ outcomes w' →
      outcomes = (run site batch w).1 ∧ w'.files = w₁.files

/-- **A batch comes to the same in any order**, and again when it is run again. -/
theorem interleaved_run (cwd : Location) (help : Text → Except Failure Text) (batch : Batch)
    (w : World) (hnames : w.files.PlainlyNamed)
    (hincludeDir : w.files.isDirectory cwd batch.includeDir = true)
    (houtDir : w.files.isDirectory cwd batch.outDir = true)
    (hdistinct : batch.applets.Nodup)
    (hnormal : ∀ applet ∈ batch.applets, Applet.IsNormal applet) :
    OrderFree ⟨cwd, .ofFunction help⟩ batch w := by
  let site : Site := ⟨cwd, .ofFunction help⟩
  obtain ⟨-, out, hout⟩ := isDirectory_iff.mp houtDir
  have hgrounds : Grounds cwd out batch w.files := ⟨hnames, hincludeDir, houtDir, hout⟩
  have hturns (w : World) : Interleaved site (batch.applets.map (work batch)) w
      (run site batch w).1 (run site batch w).2 :=
    map_program_pieces batch _ ▸
      (worked_run site batch Nat.one_pos w).interleaved
  have hrun : Made site out batch w.files w (run site batch w).1 (run site batch w).2 :=
    made_of_interleaved hgrounds hdistinct hnormal (.refl out w.files) (hturns w)
  have hagain : ∀ w₁, w₁.files = (run site batch w).2.files → ∀ outcomes w',
      Interleaved site (batch.applets.map (work batch)) w₁ outcomes w' →
        outcomes = (run site batch w).1 ∧ w'.files = w₁.files := by
    intro w₁ hw₁ outcomes w' h
    have hmade := made_of_interleaved hgrounds hdistinct hnormal (hw₁ ▸ hrun.alike) h
    have hrun₁ : Made site out batch w.files w (run site batch w).1 w₁ := by
      obtain ⟨houtcomes, hpages, helsewhere, halike⟩ := hrun
      rw [← hw₁] at hpages halike
      exact ⟨houtcomes, hpages, hw₁ ▸ helsewhere, halike⟩
    exact hrun₁.again hmade
  have hsame : ∀ outcomes w', Interleaved site (batch.applets.map (work batch)) w outcomes w' →
      outcomes = (run site batch w).1 ∧ w'.files = (run site batch w).2.files := fun outcomes w' h =>
    hrun.unique (made_of_interleaved hgrounds hdistinct hnormal (.refl out w.files) h)
  exact
    { turns := fun workers hworkers => worked_run site batch hworkers w
      same := hsame
      workers := fun workers outcomes w' h =>
        hsame outcomes w' (map_program_pieces batch _ ▸ h.interleaved)
      again := fun w₁ hw₁ => hagain w₁ hw₁ _ _ (hturns w₁)
      againSame := hagain }

/-- Two applets whose fragments lie where their pages go. -/
def shared : Batch where
  applets := ["qa".toList, "qb".toList]
  includeDir := "man".toList
  outDir := "man".toList
  date := "May".toList

def sharedHelp (applet : Text) : Except Failure Text :=
  .ok ("Usage: ".toList ++ applet ++ " <file> : ask\n\nOptions: -[h]\n -h * help\n".toList)

/-- A tree with a description of the first, and a directory where the page of the second goes. -/
def sharedWorld : World where
  files := ((Files.empty.put ["man".toList] .directory).put
    ["man".toList, "qa.desc".toList] (.file 0o644 (Utf8.encode "Asks.".toList))).put
    ["man".toList, "qb.1".toList] .directory
  printed := []
  events := []

/-- The first page is made and the second is not, in any order. -/
theorem interleaved_run_shared :
    sharedWorld.files.PlainlyNamed ∧ sharedWorld.files.isDirectory [] shared.includeDir = true ∧
      sharedWorld.files.isDirectory [] shared.outDir = true ∧ shared.applets.Nodup ∧
      (∀ applet ∈ shared.applets, Applet.IsNormal applet) ∧
      (run ⟨[], .ofFunction sharedHelp⟩ shared sharedWorld).1.map Outcome.isSuccess
        = [true, false] ∧
      OrderFree ⟨[], .ofFunction sharedHelp⟩ shared sharedWorld := by
  have hnames : sharedWorld.files.PlainlyNamed := by decide +kernel
  have hincludeDir : sharedWorld.files.isDirectory [] shared.includeDir = true := by
    decide +kernel
  have houtDir : sharedWorld.files.isDirectory [] shared.outDir = true := by decide +kernel
  have hdistinct : shared.applets.Nodup := by decide
  have hnormal : ∀ applet ∈ shared.applets, Applet.IsNormal applet := by decide
  have hresults : (run ⟨[], .ofFunction sharedHelp⟩ shared sharedWorld).1.map Outcome.isSuccess
      = [true, false] := by decide +kernel
  exact ⟨hnames, hincludeDir, houtDir, hdistinct, hnormal, hresults,
    interleaved_run [] sharedHelp shared sharedWorld hnames hincludeDir houtDir hdistinct hnormal⟩

end Manpage.Batch
