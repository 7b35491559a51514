/-
# The references among the pages of a batch

A page that has been written refers to every other applet of the batch, whether that one's page
succeeds or not, and in a batch where all succeed no reference leads nowhere
(`crossReferenced_run`).

The output directory may be any path here, it need not be there yet, and an applet may be given more
than once.  So what a work reads may depend on the order of the steps, and a page may be written again;
but whatever the order, a page of each applet that has succeeded stands in the end (`Account`), and
the references depend on the applets of the batch alone.
-/
import Manpage.Proofs.Batch.Account
import Manpage.Proofs.Page.References
import Manpage.Proofs.Program.Pool

namespace Manpage.Batch

variable {site : Site} {batch : Batch}

/-- How the pages of a batch refer to each other. -/
structure CrossReferenced (cwd : Location) (batch : Batch) (outcomes : List Outcome)
    (files : Files) : Prop where
  /-- Below its last heading, a page has one reference to each other applet of the batch, in the
  order of their bytes. -/
  others : ∀ o ∈ outcomes, o.isSuccess = true → ∃ (page : Text) (names : List Text),
    files.stat cwd o.output = .ok (.file 0o644 (Utf8.encode page)) ∧
    (names.Pairwise fun a b => Utf8.before (Utf8.encode a) (Utf8.encode b) = true) ∧
    (∀ name, name ∈ names ↔ name ∈ batch.applets ∧ name ≠ o.applet) ∧
    Text.belowLast ".SH \"SEE ALSO\"".toList page
      = some (Text.join [',', '\n']
          (names.map fun name => ".BR ".toList ++ name ++ " (1)".toList) ++ ['\n'])
  /-- When all pages have been written, there is one for each applet that is referred to. -/
  complete : succeeded outcomes = true → ∀ name ∈ batch.applets, ∃ content,
    files.stat cwd (Path.join batch.outDir (name ++ ".1".toList)) = .ok (.file 0o644 content)

/-- The pages that the outcomes of a batch account for refer to each other. -/
theorem Account.crossReferenced {met : Files → Prop} {outcomes : List Outcome} {files : Files}
    (h : Account site batch met outcomes files)
    (hnormal : ∀ a ∈ batch.applets, Applet.IsNormal a) (hbreak : ∀ a ∈ batch.applets, '\n' ∉ a) :
    CrossReferenced site.cwd batch outcomes files := by
  have hmem : ∀ o ∈ outcomes, o.applet ∈ batch.applets := fun o ho =>
    h.applets ▸ List.mem_map.mpr ⟨o, ho, rfl⟩
  refine ⟨fun o ho hok => ?_, fun hall name hname => ?_⟩
  · obtain ⟨-, -, -, counts, page, -, hcomposed, hstands⟩ := h.stands o ho hok
    obtain ⟨help, fragments, -, -, hpage⟩ := hcomposed
    refine ⟨page, SeeAlso.others o.applet batch.applets, ?_, SeeAlso.pairwise_others _ _,
      fun name => SeeAlso.mem_others_iff, Page.belowLast_generate hbreak hpage⟩
    rw [h.output o ho]
    exact hstands.stat (hnormal _ (hmem o ho))
  · rw [← h.applets] at hname
    obtain ⟨o, ho, rfl⟩ := List.mem_map.mp hname
    have hok : o.isSuccess = true := List.all_eq_true.mp hall o ho
    obtain ⟨-, -, -, -, page, -, -, hstands⟩ := h.stands o ho hok
    exact ⟨_, hstands.stat (hnormal _ (hmem o ho))⟩

/-- **The references of a batch are complete**, in whatever order its steps are taken and however
many workers there are.  They never lead from a page to itself, and they show neither in which order
nor how often the applets were given. -/
theorem crossReferenced_run (hquiet : site.source.Quiet) (batch : Batch) (w : World)
    (hnormal : ∀ a ∈ batch.applets, Applet.IsNormal a)
    (hbreak : ∀ a ∈ batch.applets, '\n' ∉ a) :
    (∀ outcomes w', Interleaved site (batch.applets.map (work batch)) w outcomes w' →
        CrossReferenced site.cwd batch outcomes w'.files) ∧
      (∀ workers outcomes w', Worked site workers (pieces batch batch.applets) w outcomes w' →
        CrossReferenced site.cwd batch outcomes w'.files) ∧
      ∀ applets : List Text, (∀ a, a ∈ applets ↔ a ∈ batch.applets) →
        ∀ applet help fragments, Page.generate ⟨batch.date, applets⟩ applet help fragments
          = Page.generate ⟨batch.date, batch.applets⟩ applet help fragments := by
  have hany : ∀ outcomes w', Interleaved site (batch.applets.map (work batch)) w outcomes w' →
      CrossReferenced site.cwd batch outcomes w'.files := by
    intro outcomes w' h
    obtain ⟨trees, htraced⟩ := interleaved_iff_exists_traced.mp h
    exact (account_of_traced hquiet batch hnormal htraced).crossReferenced hnormal hbreak
  refine ⟨hany, fun workers outcomes w' h => ?_, fun applets hsame applet help fragments => ?_⟩
  · exact hany outcomes w' (map_program_pieces batch _ ▸ h.interleaved)
  · exact Page.generate_congr_known hsame batch.date applet help fragments

/-- Two applets, one of them given twice, with an output directory beside the way to it. -/
def repeated : Batch where
  applets := ["qb".toList, "qa".toList, "qb".toList]
  includeDir := "inc".toList
  outDir := "new/../man".toList
  date := "May".toList

def repeatedSite : Site where
  cwd := []
  source := .ofFunction fun applet =>
    .ok ("Usage: ".toList ++ applet ++ " <file> : ask\n\nOptions: -[h]\n -h * help\n".toList)

/-- Two workers take turns at the two pages of one applet. -/
def repeatedTicks : List Tick := (List.replicate 16 [⟨2, none⟩, ⟨0, none⟩]).flatten

/-- All three works succeed, and the pages are those of the two applets in order. -/
theorem crossReferenced_run_repeated :
    repeatedSite.source.Quiet ∧ (∀ a ∈ repeated.applets, Applet.IsNormal a) ∧
      (∀ a ∈ repeated.applets, '\n' ∉ a) ∧
      (∀ a, a ∈ ["qa".toList, "qb".toList] ↔ a ∈ repeated.applets) ∧
      succeeded (runPooled repeatedSite repeated 2 repeatedTicks ⟨.empty, [], []⟩).1 = true ∧
      CrossReferenced [] repeated
        (runPooled repeatedSite repeated 2 repeatedTicks ⟨.empty, [], []⟩).1
        (runPooled repeatedSite repeated 2 repeatedTicks ⟨.empty, [], []⟩).2.files ∧
      ∀ help fragments,
        Page.generate ⟨"May".toList, ["qa".toList, "qb".toList]⟩ "qa".toList help fragments
          = Page.generate ⟨"May".toList, repeated.applets⟩ "qa".toList help fragments := by
  have hquiet : repeatedSite.source.Quiet := HelpSource.quiet_ofFunction _
  have hnormal : ∀ a ∈ repeated.applets, Applet.IsNormal a := by decide
  have hbreak : ∀ a ∈ repeated.applets, '\n' ∉ a := by decide
  have hsame : ∀ a, a ∈ ["qa".toList, "qb".toList] ↔ a ∈ repeated.applets := by
    intro a
    simp only [repeated, List.mem_cons, List.not_mem_nil, or_false]
    tauto
  have hall : succeeded (runPooled repeatedSite repeated 2 repeatedTicks ⟨.empty, [], []⟩).1
      = true := by decide +kernel
  obtain ⟨-, hpages, hblind⟩ := crossReferenced_run hquiet repeated ⟨.empty, [], []⟩ hnormal hbreak
  exact ⟨hquiet, hnormal, hbreak, hsame, hall,
    hpages 2 _ _ (Pool.worked_run Nat.two_pos repeatedTicks _ _), fun help fragments =>
      hblind _ hsame "qa".toList help fragments⟩

end Manpage.Batch
