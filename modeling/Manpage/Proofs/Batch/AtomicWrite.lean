/-
# Writing a page is atomic

Five steps lead to a page, and each of them may be refused: the directories above it are made, a
file is staged beside it, written, opened for everyone, and renamed.  Whatever happens, the tree is
one of two (`run_writePage_cases`): the tree with the directories that were missing above the page,
or that tree with the page in its place.

Which one it is can be told beforehand.  `writePage_atomic` proves that only a file above the page,
or a directory in its place, keeps a page from being written, for every path of ordinary names,
every text, and every tree in which the working directory is there.
-/
import Mathlib.Data.List.Infix
import Manpage.Proofs.Batch.Turn
import Manpage.Proofs.Files.Making

namespace Manpage

open Files

/-! ## 1. The path of a file -/

/-- A path of ordinary names that ends in one. -/
structure FilePath (path : Text) : Prop extends Ordinary path where
  ends : Path.EndsInName path

instance (path : Text) : Decidable (FilePath path) :=
  decidable_of_iff (Ordinary path ∧ Path.EndsInName path)
    ⟨fun h => ⟨h.1, h.2⟩, fun h => ⟨h.toOrdinary, h.ends⟩⟩

/-- A location above another. -/
def Above (l m : Location) : Prop := l <+: m ∧ l ≠ m

theorem above_concat_iff {l d : Location} {name : Text} : Above l (d ++ [name]) ↔ l <+: d := by
  rw [Above, List.prefix_concat_iff]
  constructor
  · rintro ⟨rfl | hl, hne⟩
    · exact absurd rfl hne
    · exact hl
  · intro hl
    refine ⟨Or.inr hl, ?_⟩
    rintro rfl
    exact absurd hl.length_le (by simp)

theorem nul_not_mem_of_checkPath {path : Text} (h : checkPath path = .ok ()) : '\x00' ∉ path := by
  intro hmem
  rw [checkPath, if_pos hmem] at h
  cases h

/-- A file path is a name below a directory; `above` is the directory as it is asked for. -/
theorem FilePath.exists_above {path : Text} (h : FilePath path) :
    ∃ dir name above, path = Path.join dir name ∧ '/' ∉ name ∧ Path.isIdle name = false ∧
      directoryOf? path = some above ∧ Ordinary above ∧
      (Path.EndsInName above ∨ Path.names above = []) ∧
      Path.isAbsolute above = Path.isAbsolute dir ∧ Path.names above = Path.names dir := by
  obtain ⟨dir, name, rfl, hname, hstep⟩ := h.ends.exists_join
  obtain ⟨above, habove, habsolute, hnames, hbegins, hhere, hends⟩ :=
    Batch.directoryOf?_join hname hstep dir
  have hsub : Path.names dir ⊆ Path.names (Path.join dir name) := by
    rw [Path.names_join hname hstep]
    exact List.subset_append_left _ _
  refine ⟨dir, name, above, rfl, hname, hstep, habove, ⟨?_, ?_, ?_⟩, hends, habsolute, hnames⟩
  · by_cases hnil : dir = []
    · rw [hhere hnil]
      rfl
    · exact checkPath_of_isPrefix h.check ((hbegins hnil).trans (Path.isPrefix_join hname dir))
        (Batch.directoryOf?_ne_nil habove)
  · exact fun hmem => h.back (hsub (hnames ▸ hmem))
  · exact fun n hn => h.short n (hsub (hnames ▸ hn))

/-! ## 2. The five steps -/

section Run

variable {site : Site} {w : World} {path : Text}

/-- The page is written to a staged file in the directory above, which is then renamed. -/
theorem run_publishing_cases {dir name : Text} (h : FilePath (Path.join dir name))
    (hname : '/' ∉ name) (hstep : Path.isIdle name = false) {files : Files}
    (hdir : files.directoryAt site.cwd dir = .ok (target site.cwd dir)) (text : Text)
    {staged : Location} (hstaged : staged ≠ []) (hnone : files.get? staged = none) {mode : Nat}
    {content : Bytes} (hw : w.files = files.put staged (.file mode content)) :
    (Batch.publishing (Path.join dir name) text staged).run site w =
      if files.get? (target site.cwd (Path.join dir name)) = some .directory then
        (.error (.notPublished (Path.join dir name) .isDirectory), w.withFiles files)
      else
        (.ok (), w.withFiles (files.put (target site.cwd (Path.join dir name))
          (.file pageMode (Utf8.encode text)))) := by
  obtain ⟨hback, hlong⟩ := name_of_ordinary_join hname hstep h.toOrdinary
  have hkeep : KeepsDirectories files (files.put staged (.file pageMode (Utf8.encode text))) :=
    keepsDirectories_put (by rw [hnone]; nofun)
  have hplace : (files.put staged (.file pageMode (Utf8.encode text))).place site.cwd
      (Path.join dir name) = .ok (.entry (target site.cwd dir) name false) := by
    rw [place_join hname hstep hback, h.check, directoryAt_of_keepsDirectories hkeep hdir]
    simp only [bind, Except.bind, if_neg hlong]
  have hget : (files.put staged (.file pageMode (Utf8.encode text))).get?
      (target site.cwd (Path.join dir name)) = some .directory ↔
        files.get? (target site.cwd (Path.join dir name)) = some .directory := by
    by_cases heq : staged = target site.cwd (Path.join dir name)
    · rw [← heq, hnone, get?_put_self files hstaged]
      exact iff_of_false nofun nofun
    · rw [get?_put_of_ne files heq]
  rw [Batch.run_publishing _ _ hstaged hw, rename_of_place (nul_not_mem_of_checkPath h.check) hplace
    (get?_put_self files hstaged _), ← target_join hname hstep]
  simp only [hget, erase_put hnone]
  split
  · next hrename =>
    split at hrename
    · cases hrename
    · next hfree =>
      rw [if_neg hfree]
      cases hrename
      rfl
  · next hrename =>
    split at hrename
    · next hdirectory =>
      rw [if_pos hdirectory]
      cases hrename
      rw [erase_put hnone]
    · cases hrename

/-- **Writing a page ends in one of two trees**: some directories are made above the page, and it is
put in its place, or it is not. -/
theorem run_writePage_cases (h : FilePath path)
    (hcwd : ∀ l, l <+: site.cwd → w.files.get? l = some .directory) (text : Text) :
    ∃ grown, Grown (Above · (target site.cwd path)) w.files grown ∧
      ((∃ failure, (writePage path text).run site w = (.error failure, w.withFiles grown) ∧
          ((∃ l, Above l (target site.cwd path) ∧ w.files.HasFile l) ∨
            grown.get? (target site.cwd path) = some .directory)) ∨
        (writePage path text).run site w = (.ok (), w.withFiles
            (grown.put (target site.cwd path) (.file pageMode (Utf8.encode text)))) ∧
          grown.get? (target site.cwd path) ≠ some .directory ∧
          ∀ l, Above l (target site.cwd path) → grown.get? l = some .directory) := by
  obtain ⟨dir, name, above, rfl, hname, hstep, habove, hordinary, hends, habsolute, hnames⟩ :=
    h.exists_above
  have htarget : target site.cwd above = target site.cwd dir := by
    rw [target, target, origin, origin, habsolute, hnames]
  have hbelow : target site.cwd (Path.join dir name) = target site.cwd above ++ [name] := by
    rw [htarget, target_join hname hstep]
  have horigin : w.files.get? (origin site.cwd above) = some .directory := by
    rw [origin]
    split
    · exact get?_root w.files
    · exact hcwd site.cwd List.prefix_rfl
  have hmade := madeOrBlocked_makeDirectories hordinary horigin hends
  have hgrown : Grown (Above · (target site.cwd (Path.join dir name))) w.files
      (w.files.makeDirectories site.cwd above).2 := by
    refine (grown_makeDirectories w.files site.cwd above).mono fun l hl => ?_
    rw [hbelow, above_concat_iff]
    exact hl.resolve_left hordinary.back
  rw [Batch.writePage_eq habove]
  simp only [Program.run_bind, Program.run_ask, perform]
  cases hrun : w.files.makeDirectories site.cwd above with
  | mk result grown =>
    rw [hrun] at hmade hgrown
    refine ⟨grown, hgrown, ?_⟩
    cases result with
    | error fault =>
      obtain ⟨l, hl, hfile⟩ := hmade
      exact Or.inl ⟨_, rfl, Or.inl ⟨l, hbelow ▸ above_concat_iff.mpr hl, hfile⟩⟩
    | ok u =>
      have hfound : grown.directoryAt site.cwd above = .ok (target site.cwd above) := hmade
      obtain ⟨staged, hstage, hstaged, hnone⟩ := exists_stage hordinary.check hfound
        ((Path.fileName? (Path.join dir name)).getD [])
      have hdir : grown.directoryAt site.cwd dir = .ok (target site.cwd dir) := by
        rw [← directoryAt_congr habsolute hnames, ← htarget, hfound]
      simp only [Program.run_bind, Program.run_ask, perform, World.withFiles, hstage]
      rw [run_publishing_cases h hname hstep hdir text hstaged hnone rfl]
      split
      · next hdirectory => exact Or.inl ⟨_, rfl, Or.inr hdirectory⟩
      · next hfree =>
        refine Or.inr ⟨rfl, hfree, fun l hl => ?_⟩
        rw [hbelow, above_concat_iff] at hl
        exact get?_of_isPrefix_target hordinary.back
          (fun m hm => (hgrown m).get?_of_some (hcwd m hm)) hfound hl

end Run

/-! ## 3. All or nothing -/

/-- What writing a text to a path comes to, from one world to another.  `target` is where the path
leads to. -/
structure AtomicWrite (target : Location) (text : Text) (w : World) (result : Except Failure Unit)
    (w' : World) : Prop where
  /-- It is refused for a file above, or for a directory in its place, and for nothing else. -/
  refused_iff : (∃ failure, result = .error failure) ↔
    (∃ l, Above l target ∧ w.files.HasFile l) ∨ w.files.get? target = some .directory
  /-- If it is refused, there are at most further directories above: everything that was there is
  as it was, and no staged file is left. -/
  refused : ∀ failure, result = .error failure → Grown (Above · target) w.files w'.files
  /-- Otherwise the text is there for everyone to read, whatever was there before. -/
  written : result = .ok () → w'.files.get? target = some (.file 0o644 (Utf8.encode text))
  above : result = .ok () → ∀ l, Above l target → w'.files.get? l = some .directory
  /-- Everything beside it is as it was, and no staged file is left. -/
  beside : result = .ok () → ∀ l, l ≠ target → GrownAt (Above · target) w.files w'.files l
  silent : w'.printed = w.printed ∧ w'.events = w.events

/-- **Writing a page is atomic**: what could keep it from being written is told by the tree before,
and the tree after has the whole page and nothing else that is new, or no page at all, directories
above apart. -/
theorem writePage_atomic (site : Site) (w : World) {path : Text} (h : FilePath path)
    (hcwd : ∀ l, l <+: site.cwd → w.files.get? l = some .directory) (text : Text) :
    AtomicWrite (target site.cwd path) text w ((writePage path text).run site w).1
      ((writePage path text).run site w).2 := by
  have hroot : target site.cwd path ≠ [] := by
    obtain ⟨dir, name, rfl, hname, hstep⟩ := h.ends.exists_join
    rw [target_join hname hstep]
    simp
  obtain ⟨grown, hgrown, ⟨failure, hrun, hcause⟩ | ⟨hrun, hfree, habove⟩⟩ :=
    run_writePage_cases h hcwd text
  · rw [hrun]
    refine ⟨iff_of_true ⟨failure, rfl⟩ (hcause.imp_right fun hdirectory => ?_), fun _ _ => hgrown,
      nofun, nofun, nofun, rfl, rfl⟩
    -- nothing was made in the place of the page
    exact ((hgrown _).resolve_right fun hnew => hnew.1.2 rfl).symm.trans hdirectory
  · rw [hrun]
    refine ⟨iff_of_false nofun ?_, nofun, fun _ => get?_put_self grown hroot _, fun _ l hl => ?_,
      fun _ l hl => ?_, rfl, rfl⟩
    · rintro (⟨l, hl, mode, content, hfile⟩ | hdirectory)
      · have hkept := (hgrown l).get?_of_some hfile
        rw [habove l hl] at hkept
        cases hkept
      · exact hfree ((hgrown _).get?_of_some hdirectory)
    · exact (get?_put_of_ne grown (Ne.symm hl.2) _).trans (habove l hl)
    · have hsame := get?_put_of_ne grown (Ne.symm hl) (.file pageMode (Utf8.encode text))
      exact (hgrown l).imp hsame.trans fun ⟨hway, hnone, hnew⟩ => ⟨hway, hnone, hsame.trans hnew⟩

/-- A page in a working directory that holds another file too. -/
def shelf : World where
  files := ((Files.empty.put ["srv".toList] .directory).put ["srv".toList, "old".toList]
    (.file 0o600 [65])).put ["srv".toList, "q.1".toList] (.file 0o600 [66])
  printed := []
  events := []

def shelfSite : Site where
  cwd := ["srv".toList]
  source := .ofFunction fun _ => .error (.reported "no help".toList)

/-- The path of the page, one with directories that are missing, and one that leads through the
file. -/
def shelfPaths : List Text := ["q.1".toList, "new//./man/q.1".toList, "old/q.1".toList]

/-- The page is replaced, the missing directories are made, and the last write is refused. -/
theorem writePage_atomic_shelf :
    (∀ path ∈ shelfPaths, FilePath path) ∧
      (∀ l, l <+: shelfSite.cwd → shelf.files.get? l = some .directory) ∧
      (∀ path ∈ shelfPaths, AtomicWrite (target shelfSite.cwd path) "new".toList shelf
        ((writePage path "new".toList).run shelfSite shelf).1
        ((writePage path "new".toList).run shelfSite shelf).2) ∧
      shelfPaths.map (fun path => ((writePage path "new".toList).run shelfSite shelf).1.isOk)
        = [true, true, false] := by
  have hpaths : ∀ path ∈ shelfPaths, FilePath path := by decide +kernel
  have hcwd : ∀ l, l <+: shelfSite.cwd → shelf.files.get? l = some .directory := by
    have hall : ∀ l ∈ shelfSite.cwd.inits, shelf.files.get? l = some .directory := by decide +kernel
    exact fun l hl => hall l ((List.mem_inits _ _).mpr hl)
  exact ⟨hpaths, hcwd, fun path hpath => writePage_atomic shelfSite shelf (hpaths path hpath) hcwd _,
    by decide +kernel⟩

end Manpage
