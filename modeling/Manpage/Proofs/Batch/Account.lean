/-
# What a batch can be held to

The works on the applets of a batch may disturb each other when the output directory comes into
being under way or when a page appears among the fragments.  What the outcomes say is true
nonetheless: there is one for each applet, an applet that has succeeded has a page in its place in
the end, and this page is made of what its work has found in the trees that the batch has passed
through (`Account`).

A work alone makes its page last (`honors_work`), and so do all of them in whatever order their steps
are taken (`account_of_traced`).
-/
import Manpage.Proofs.Batch.Lasting
import Manpage.Proofs.Text.Decoding

namespace Manpage

open Files Held

namespace Fragments

/-- A further section as it has been read in a tree of `met`. -/
def FoundAt (cwd : Location) (met : Files → Prop) (path section_ : Text) : Prop :=
  ∃ files text, met files ∧ files.readText cwd path = .ok text ∧ section_ = ofInclude text

/-- Fragments of an applet as they have been read in trees of `met`, each in its own. -/
structure Found (cwd : Location) (met : Files → Prop) (dir applet : Text) (fragments : Fragments) :
    Prop where
  description : ∃ files, met files ∧
    descriptionOf (files.readText cwd (descriptionPath dir applet)) = .ok fragments.description
  includes : ∃ files, met files ∧
    List.Forall₂ (FoundAt cwd met) (includePaths files cwd dir applet) fragments.includes

end Fragments

namespace Batch

/-- A page is what is made of the help text and the fragments that have been found in trees of
`met`. -/
def Composed (site : Site) (edition : Edition) (includeDir : Text) (met : Files → Prop)
    (applet page : Text) (counts : PageCounts) : Prop :=
  ∃ help fragments, (∃ files, met files ∧ (site.source applet files).text = .ok help) ∧
    Fragments.Found site.cwd met includeDir applet fragments ∧
    Page.generate edition applet help fragments = .ok (page, counts)

section Works

variable {site : Site} {batch : Batch} {met : Files → Prop} {α : Type} {u : Progress}

/-! ## 1. Reading -/

/-- An action that changes no file. -/
theorem honors_still {a : Action} (ha : a.isStage = false)
    (hfiles : ∀ w, (perform site a w).2.files = w.files) {f : a.Reply → Program α}
    {post : α → Progress → Prop}
    (h : ∀ w, met w.files → Honors site (lasting site.cwd batch met) (f (perform site a w).1) u post) :
    Honors site (lasting site.cwd batch met) (Program.ask a >>= f) u post :=
  Honors.ask ha fun w hfinds => ⟨u, (hfiles w).symm ▸ advances_still hfinds.2, h w hfinds.1⟩

theorem honors_readIncludes {applet : Text} {paths : List Text}
    {post : Except Failure (List Text) → Progress → Prop}
    (hfailed : ∀ failure, post (.error failure) u)
    (hread : ∀ includes, List.Forall₂ (Fragments.FoundAt site.cwd met) paths includes →
      post (.ok includes) u) :
    Honors site (lasting site.cwd batch met) (Fragments.readIncludes applet paths) u post := by
  induction paths generalizing post with
  | nil => exact hread [] .nil
  | cons path rest ih =>
    refine honors_still rfl (fun _ => rfl) fun w hmet => ?_
    dsimp only [perform]
    cases htext : w.files.readText site.cwd path with
    | error fault => exact hfailed _
    | ok text =>
      refine honors_still rfl (fun _ => rfl) fun _ _ => Honors.bind (ih (fun _ => hfailed _) ?_)
      intro includes hincludes
      exact hread _ (.cons ⟨w.files, text, hmet, htext, rfl⟩ hincludes)

theorem honors_load {dir applet : Text} {post : Except Failure Fragments → Progress → Prop}
    (hfailed : ∀ failure, post (.error failure) u)
    (hloaded : ∀ fragments, Fragments.Found site.cwd met dir applet fragments →
      post (.ok fragments) u) :
    Honors site (lasting site.cwd batch met) (Fragments.load dir applet) u post := by
  refine honors_still rfl (fun _ => rfl) fun w hmet => ?_
  dsimp only [perform]
  cases hdescription : Fragments.descriptionOf
      (w.files.readText site.cwd (Fragments.descriptionPath dir applet)) with
  | error fault => exact hfailed _
  | ok description =>
    refine honors_still rfl (fun _ => rfl) fun w' hmet' => Honors.bind ?_
    refine honors_readIncludes (fun _ => hfailed _) fun includes hincludes => ?_
    exact hloaded ⟨description, includes⟩ ⟨⟨w.files, hmet, hdescription⟩, w'.files, hmet', hincludes⟩

/-! ## 2. Writing -/

/-- Staging a file is refused, or it makes one where there was nothing. -/
theorem performs_stage_cases {dir tag : Text} {w w' : World} {reply : Except SystemFault Location}
    (h : Performs site (.stage dir tag) w reply w') :
    (∃ fault, reply = .error fault ∧ w' = w) ∨
      ∃ d l, IsStage d l ∧ w.files.get? l = none ∧ reply = .ok l ∧
        w' = w.withFiles (w.files.put l (.file 0o600 [])) := by
  cases h with
  | plain =>
    rw [perform]
    cases hstage : w.files.stage site.cwd dir tag with
    | mk result files' =>
      rw [stage_eq] at hstage
      split at hstage
      · cases hstage
        exact Or.inl ⟨_, rfl, rfl⟩
      · next d _ =>
        cases hstage
        exact Or.inr ⟨d, _, ⟨_, isTemporary_stagedName _ tag, rfl⟩, get?_freeNumber w.files d tag,
          rfl, rfl⟩
  | @stage _ _ middle _ d located _ free =>
    exact Or.inr ⟨d, _, ⟨_, ⟨middle, rfl⟩, rfl⟩, free, rfl, rfl⟩

/-- The staged page is put in its place or removed. -/
theorem honors_publishing (h : Applet.IsNormal u.applet) {page : Text} {l : Location} {mode : Nat}
    {content : Bytes} (hu : u.staged = some (l, .file mode content))
    {post : Except Failure Unit → Progress → Prop}
    (hfailed : ∀ failure, post (.error failure) { u with staged := none })
    (hwritten : post (.ok ()) { u with staged := none, page := some page }) :
    Honors site (lasting site.cwd batch met) (publishing (outputPath batch.outDir u.applet) page l) u
      post := by
  -- the staged file is written and opened for everyone
  refine Honors.ask rfl fun w hfinds =>
    ⟨{ u with staged := some (l, .file mode (Utf8.encode page)) }, ?_, ?_⟩
  · simp only [perform, World.withFiles, write, (hfinds.2 l _ hu).1]
    exact advances_of_rewrite hfinds.2 hu (file_ne_directory _ _)
  refine Honors.ask rfl fun w hfinds =>
    ⟨{ u with staged := some (l, .file pageMode (Utf8.encode page)) }, ?_, ?_⟩
  · simp only [perform, World.withFiles, setMode, (hfinds.2 l _ rfl).1]
    exact advances_of_rewrite hfinds.2 rfl (file_ne_directory _ _)
  -- and renamed
  refine Honors.ask rfl fun w hfinds => ?_
  dsimp only [perform]
  cases hrename : w.files.rename l site.cwd (outputPath batch.outDir u.applet) with
  | mk result files' =>
    cases result with
    | ok _ => exact ⟨_, advances_of_publish hfinds.2 rfl h rfl hrename, hwritten⟩
    | error fault =>
      obtain rfl := rename_eq_error hrename
      refine ⟨_, advances_still hfinds.2, Honors.ask rfl fun w hfinds => ?_⟩
      exact ⟨_, advances_of_discard hfinds.2 rfl, hfailed _⟩

/-- Writing a page puts it in its place or fails. -/
theorem honors_writePage (h : Applet.IsNormal u.applet) (hu : u.staged = none) {page : Text}
    {post : Except Failure Unit → Progress → Prop} (hfailed : ∀ failure, post (.error failure) u)
    (hwritten : post (.ok ()) { u with page := some page }) :
    Honors site (lasting site.cwd batch met) (writePage (outputPath batch.outDir u.applet) page) u
      post := by
  obtain ⟨dir, hdir, -⟩ := directoryOf?_outputPath h batch.outDir
  rw [writePage_eq hdir]
  refine Honors.ask rfl fun w hfinds => ⟨u, ?_, ?_⟩
  · exact advances_of_grown (grown_makeDirectories w.files site.cwd dir) hfinds.2
  dsimp only [perform]
  cases (w.files.makeDirectories site.cwd dir).1 with
  | error fault => exact hfailed _
  | ok _ =>
    intro w reply w' hfinds hperforms
    obtain ⟨fault, rfl, rfl⟩ | ⟨d, l, hl, hnone, rfl, rfl⟩ := performs_stage_cases hperforms
    · exact ⟨u, advances_still hfinds.2, hfailed _⟩
    · refine ⟨_, advances_of_stage hu hl hnone (file_ne_directory _ _), ?_⟩
      refine honors_publishing (u := { u with staged := some (l, .file 0o600 []) }) h rfl ?_ ?_
      · rw [← hu]
        exact hfailed
      · rw [← hu]
        exact hwritten

/-! ## 3. The work on an applet -/

theorem honors_filing (h : Applet.IsNormal u.applet) (hu : u.staged = none) {page : Text}
    {counts : PageCounts} {post : Except Failure PageCounts → Progress → Prop}
    (hfailed : ∀ failure, post (.error failure) u)
    (hwritten : post (.ok counts) { u with page := some page }) :
    Honors site (lasting site.cwd batch met) (filing batch u.applet page counts) u post :=
  Honors.bind (honors_writePage h hu (fun _ => hfailed _)
    (honors_still rfl (fun _ => rfl) fun _ _ => hwritten))

/-- **Making a page fails, or puts one in its place that is made of what has been found.** -/
theorem honors_makePage (hquiet : site.source.Quiet) (h : Applet.IsNormal u.applet)
    (hu : u.staged = none) {post : Except Failure PageCounts → Progress → Prop}
    (hfailed : ∀ failure, post (.error failure) u)
    (hwritten : ∀ page counts,
      Composed site batch.edition batch.includeDir met u.applet page counts →
        post (.ok counts) { u with page := some page }) :
    Honors site (lasting site.cwd batch met) (makePage batch u.applet) u post := by
  refine honors_still rfl (fun _ => rfl) fun _ _ => ?_
  refine honors_still (a := .askHelp u.applet) rfl (fun w => hquiet u.applet w.files) fun w hmet => ?_
  dsimp only [perform]
  cases hhelp : (site.source u.applet w.files).text with
  | error failure => exact hfailed _
  | ok help =>
    refine Honors.bind (honors_load (fun _ => hfailed _) fun fragments hfound => ?_)
    dsimp only
    cases hpage : Page.generate batch.edition u.applet help fragments with
    | error m => exact hfailed _
    | ok made =>
      obtain ⟨page, counts⟩ := made
      have hfiling : Honors site (lasting site.cwd batch met) (filing batch u.applet page counts) u
          post := honors_filing h hu hfailed
        (hwritten page counts ⟨help, fragments, ⟨w.files, hmet, hhelp⟩, hfound, hpage⟩)
      -- the report of the options, if there is one, changes no file
      by_cases hblock : (OptionEntry.block? help).isSome = true
      · simp only [hblock, if_true]
        exact honors_still rfl (fun _ => rfl) fun _ _ => hfiling
      · simp only [hblock]
        exact hfiling

/-- What an outcome says of the work on its applet. -/
structure Ended (site : Site) (batch : Batch) (met : Files → Prop) (outcome : Outcome)
    (u : Progress) : Prop where
  applet : outcome.applet = u.applet
  output : outcome.output = outputPath batch.outDir u.applet
  failed : ∀ failure, outcome.result = .error failure → u.page = none
  written : ∀ counts, outcome.result = .ok counts → ∃ page, u.page = some page ∧
    Composed site batch.edition batch.includeDir met u.applet page counts

/-- **The work on an applet honours its contract**, and its outcome says how it has ended. -/
theorem honors_work (hquiet : site.source.Quiet) {applet : Text} (h : Applet.IsNormal applet) :
    Honors site (lasting site.cwd batch met) (work batch applet) (.begun applet)
      (Ended site batch met) := by
  refine Honors.bind (honors_makePage (u := .begun applet) hquiet h rfl (fun failure => ?_)
    fun page counts hcomposed => ?_)
  · refine honors_still rfl (fun _ => rfl) fun _ _ => ⟨rfl, rfl, fun _ _ => rfl, nofun⟩
  · refine ⟨rfl, rfl, nofun, fun counts' heq => ?_⟩
    cases heq
    exact ⟨page, rfl, hcomposed⟩

end Works

/-! ## 4. Any order -/

/-- What the outcomes of a batch say of the pages in the end. -/
structure Account (site : Site) (batch : Batch) (met : Files → Prop) (outcomes : List Outcome)
    (files : Files) : Prop where
  /-- There is one outcome for each applet, in order. -/
  applets : outcomes.map Outcome.applet = batch.applets
  output : ∀ o ∈ outcomes, o.output = outputPath batch.outDir o.applet
  /-- When an applet has succeeded, its page stands, or another page if it has succeeded twice. -/
  stands : ∀ o ∈ outcomes, o.isSuccess = true → ∃ o' ∈ outcomes, o'.applet = o.applet ∧
    ∃ counts page, o'.result = .ok counts ∧
      Composed site batch.edition batch.includeDir met o.applet page counts ∧
      Stands site.cwd batch files o.applet page

variable {site : Site} {batch : Batch} {w w' : World} {outcomes : List Outcome}

theorem coherent_begun (cwd : Location) (batch : Batch) (applets : List Text) (files : Files) :
    Coherent cwd batch (applets.map Progress.begun) files where
  disjoint := List.pairwise_map.mpr (List.pairwise_of_forall fun _ _ => nofun)
  holds u hu := by
    obtain ⟨applet, -, rfl⟩ := List.mem_map.mp hu
    nofun
  stands u hu hpage := by
    obtain ⟨applet, -, rfl⟩ := List.mem_map.mp hu
    exact absurd rfl hpage

/-- When every work has ended, the pages are those that the outcomes tell of. -/
theorem account_of_ended {met : Files → Prop} {files : Files} {ended : List (Progress × Outcome)}
    (hcoherent : Coherent site.cwd batch (ended.map Prod.fst) files)
    (happlets : (ended.map Prod.fst).map Progress.applet = batch.applets)
    (hended : ∀ x ∈ ended, Ended site batch met x.2 x.1) :
    Account site batch met (ended.map Prod.snd) files := by
  refine ⟨?_, fun o ho => ?_, fun o ho hok => ?_⟩
  · rw [← happlets, List.map_map, List.map_map]
    exact List.map_congr_left fun x hx => (hended x hx).applet
  · obtain ⟨x, hx, rfl⟩ := List.mem_map.mp ho
    rw [(hended x hx).output, (hended x hx).applet]
  · obtain ⟨x, hx, rfl⟩ := List.mem_map.mp ho
    obtain ⟨counts, hcounts⟩ := Outcome.isSuccess_iff.mp hok
    obtain ⟨written, hwritten, -⟩ := (hended x hx).written counts hcounts
    have hput : x.1.page ≠ none := hwritten ▸ Option.some_ne_none written
    -- the page that stands may be that of another work on the same applet
    obtain ⟨v, hv, hsame, page, hpage, hstands⟩ :=
      hcoherent.stands x.1 (List.mem_map_of_mem hx) hput
    obtain ⟨y, hy, rfl⟩ := List.mem_map.mp hv
    rw [(hended x hx).applet]
    refine ⟨y.2, List.mem_map_of_mem hy, (hended y hy).applet.trans hsame, ?_⟩
    cases hresult : y.2.result with
    | error failure =>
      rw [(hended y hy).failed failure hresult] at hpage
      cases hpage
    | ok counts =>
      obtain ⟨page', hpage', hcomposed⟩ := (hended y hy).written counts hresult
      obtain rfl := Option.some.inj (hpage.symm.trans hpage')
      exact ⟨counts, page, rfl, hsame ▸ hcomposed, hstands⟩

/-- **The outcomes of a batch are to be trusted in any order of its steps.** -/
theorem account_of_traced (hquiet : site.source.Quiet) (batch : Batch)
    (hnormal : ∀ applet ∈ batch.applets, Applet.IsNormal applet) {trees : List Files}
    (h : Traced site (batch.applets.map (work batch)) w trees outcomes w') :
    Account site batch (· ∈ trees) outcomes w'.files := by
  obtain ⟨ended, rfl, ⟨hcoherent, happlets⟩, hended⟩ :=
    h.honors (upholds_coherent site.cwd batch (· ∈ trees) batch.applets) (fun _ hmem => hmem)
      (Ended site batch (· ∈ trees))
      (batch.applets.map fun applet => (.begun applet, work batch applet))
      (by rw [List.map_map]; rfl)
      (by
        rw [List.map_map]
        refine ⟨coherent_begun site.cwd batch batch.applets w.files, ?_⟩
        rw [List.map_map]
        exact List.map_id' batch.applets)
      (fun x hx => by
        obtain ⟨applet, happlet, rfl⟩ := List.mem_map.mp hx
        exact honors_work hquiet (hnormal applet happlet))
  exact account_of_ended hcoherent happlets hended

/-- The path of an applet has one page. -/
theorem Stands.eq {cwd : Location} {files : Files} {applet page page' : Text}
    (h : Stands cwd batch files applet page) (h' : Stands cwd batch files applet page') :
    page = page' := by
  obtain ⟨d, hd, hget⟩ := h.found
  obtain ⟨d', hd', hget'⟩ := h'.found
  obtain rfl := Except.ok.inj (hd.symm.trans hd')
  have hsame := Option.some.inj (hget.symm.trans hget')
  exact Utf8.encode_injective (Entry.file.inj hsame).2

/-- Where no applet is given twice, the page that stands is the one that the outcome tells of. -/
theorem Account.exists_page {met : Files → Prop} {files : Files}
    (h : Account site batch met outcomes files) (hdistinct : batch.applets.Nodup) {o : Outcome}
    (ho : o ∈ outcomes) {counts : PageCounts} (hok : o.result = .ok counts) :
    ∃ page, Stands site.cwd batch files o.applet page ∧
      Composed site batch.edition batch.includeDir met o.applet page counts := by
  obtain ⟨o', ho', hsame, counts', page, hok', hcomposed, hstands⟩ :=
    h.stands o ho (Outcome.isSuccess_iff.mpr ⟨counts, hok⟩)
  obtain rfl := List.inj_on_of_nodup_map (h.applets ▸ hdistinct) ho' ho hsame
  obtain rfl := Except.ok.inj (hok'.symm.trans hok)
  exact ⟨page, hstands, hcomposed⟩

end Batch

end Manpage
