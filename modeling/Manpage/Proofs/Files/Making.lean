/-
# Where a directory can be made

A path of ordinary names can always be made a directory, unless a file stands in the way
(`madeOrBlocked_makeDirectories`).  The system makes one directory at a time and starts with the
last: only when it is told that something above is missing does it go up, name by name, and then
comes down again.  The proof follows it: the induction is on the bound of the steps up, which the
length of the path keeps, for the parent of a path is shorter than the path.
-/
import Manpage.Proofs.Files.Growth

namespace Manpage.Files

/-! ## 1. Ordinary paths -/

/-- A path of ordinary names: it can be asked for, no name steps back, and none is too long. -/
structure Ordinary (path : Text) : Prop where
  check : checkPath path = .ok ()
  back : ['.', '.'] ∉ Path.names path
  short : ∀ name ∈ Path.names path, (Utf8.encode name).length ≤ nameLimit

instance (path : Text) : Decidable (Ordinary path) :=
  decidable_of_iff (checkPath path = .ok () ∧ (∀ name ∈ Path.names path, name ≠ ['.', '.']) ∧
      ∀ name ∈ Path.names path, (Utf8.encode name).length ≤ nameLimit)
    ⟨fun h => ⟨h.1, fun hmem => h.2.1 _ hmem rfl, h.2.2⟩,
      fun h => ⟨h.check, fun _ hname heq => h.back (heq ▸ hname), h.short⟩⟩

/-- A file stands at a location. -/
def HasFile (files : Files) (l : Location) : Prop :=
  ∃ mode content, files.get? l = some (.file mode content)

/-- A file stands at a location or on the way there. -/
def Blocked (files : Files) (l : Location) : Prop := ∃ m, m <+: l ∧ files.HasFile m

variable {files : Files} {cwd : Location}

theorem Blocked.mono {l m : Location} (h : files.Blocked l) (hlm : l <+: m) : files.Blocked m := by
  obtain ⟨k, hk, hfile⟩ := h
  exact ⟨k, hk.trans hlm, hfile⟩

/-- Further directories put no file in the way. -/
theorem Blocked.of_grown {way : Location → Prop} {files' : Files} (h : Grown way files files')
    {l : Location} (hl : files'.Blocked l) : files.Blocked l := by
  obtain ⟨m, hm, mode, content, hfile⟩ := hl
  refine ⟨m, hm, mode, content, ?_⟩
  rcases h m with hsame | ⟨-, -, hdirectory⟩
  · rw [← hsame, hfile]
  · rw [hdirectory] at hfile
    cases hfile

/-- Ordinary names lead to a directory unless one is missing or a file is in the way. -/
theorem walk_names {names : List Text} (hstep : ∀ name ∈ names, Path.isIdle name = false)
    (hback : ['.', '.'] ∉ names)
    (hshort : ∀ name ∈ names, (Utf8.encode name).length ≤ nameLimit) (l : Location) :
    files.walk l (names ++ [[]]) = .ok (l ++ names) ∨
      files.walk l (names ++ [[]]) = .error .notFound ∨
      files.walk l (names ++ [[]]) = .error .notDirectory ∧ files.Blocked (l ++ names) := by
  induction names generalizing l with
  | nil =>
    rw [List.nil_append, List.append_nil]
    cases hl : files.get? l with
    | none => exact Or.inr (Or.inl (by simp [walk, hl]))
    | some e =>
      cases e with
      | directory => exact Or.inl (walk_empty_eq_ok_iff.mpr ⟨rfl, hl⟩)
      | file mode content =>
        exact Or.inr (Or.inr ⟨by simp [walk, hl], l, List.prefix_rfl, mode, content, hl⟩)
  | cons name names ih =>
    cases hl : files.get? l with
    | none => exact Or.inr (Or.inl (by simp [walk, hl]))
    | some e =>
      cases e with
      | file mode content =>
        exact Or.inr (Or.inr ⟨by simp [walk, hl], l, List.prefix_append _ _, mode, content, hl⟩)
      | directory =>
        have hname : name ≠ ['.', '.'] := fun e => hback (e ▸ List.mem_cons_self)
        have hlong : ¬nameLimit < (Utf8.encode name).length :=
          Nat.not_lt.mpr (hshort name List.mem_cons_self)
        have hwalk : files.walk l (name :: names ++ [[]])
            = files.walk (l ++ [name]) (names ++ [[]]) := by
          simp [walk, hl, hstep name List.mem_cons_self, hname, hlong]
        have hrest := ih (fun n hn => hstep n (List.mem_cons_of_mem name hn))
          (fun hmem => hback (List.mem_cons_of_mem name hmem))
          (fun n hn => hshort n (List.mem_cons_of_mem name hn)) (l ++ [name])
        rw [List.append_assoc, List.singleton_append] at hrest
        rw [hwalk]
        exact hrest

theorem directoryAt_cases (files : Files) (cwd : Location) {path : Text}
    (hback : ['.', '.'] ∉ Path.names path)
    (hshort : ∀ name ∈ Path.names path, (Utf8.encode name).length ≤ nameLimit) :
    files.directoryAt cwd path = .ok (target cwd path) ∨
      files.directoryAt cwd path = .error .notFound ∨
      files.directoryAt cwd path = .error .notDirectory ∧ files.Blocked (target cwd path) :=
  walk_names (fun _ hname => (Path.mem_names_iff.mp hname).2) hback hshort _

/-- All that stands on the way to a directory is a directory, from the root on if the working
directory is there. -/
theorem get?_of_isPrefix_target {d : Location} {path : Text} (hback : ['.', '.'] ∉ Path.names path)
    (hcwd : ∀ l, l <+: cwd → files.get? l = some .directory)
    (hdir : files.directoryAt cwd path = .ok d) {l : Location} (hl : l <+: target cwd path) :
    files.get? l = some .directory := by
  rcases List.prefix_or_prefix_of_prefix hl (List.prefix_append _ _) with hbefore | ⟨way, rfl⟩
  · rw [origin] at hbefore
    split at hbefore
    · rw [List.prefix_nil.mp hbefore, get?_root]
    · exact hcwd l hbefore
  · -- the way is cut where the location is reached
    obtain ⟨rest, hnames⟩ := (List.prefix_append_right_inj _).mp hl
    rw [directoryAt, ← hnames, List.append_assoc, walk_append] at hdir
    cases hwalk : files.walk (origin cwd path) way with
    | error fault =>
      rw [hwalk] at hdir
      cases hdir
    | ok m =>
      rw [hwalk] at hdir
      have hway : ∀ name ∈ way, name ∈ Path.names path := fun name hmem =>
        hnames ▸ List.mem_append_left rest hmem
      have hm : m = origin cwd path ++ way := by
        rw [eq_append_of_walk (fun hmem => hback (hway _ hmem)) hwalk, List.filter_eq_self.mpr]
        intro name hmem
        simp [(Path.mem_names_iff.mp (hway name hmem)).2]
      obtain ⟨p, ps, hps⟩ := List.exists_cons_of_ne_nil (l := rest ++ [[]]) (by simp)
      rw [hps] at hdir
      rw [← hm]
      exact get?_of_walk_cons hdir

/-! ## 2. One directory -/

/-- What making a directory comes to: it is there in the end, or a file is in the way. -/
def MadeOrBlocked (files : Files) (cwd : Location) (path : Text) :
    Except SystemFault Unit × Files → Prop
  | (.ok (), files') => files'.directoryAt cwd path = .ok (target cwd path)
  | (.error _, _) => files.Blocked (target cwd path)

/-- Further directories made before make no difference. -/
theorem MadeOrBlocked.of_grown {way : Location → Prop} {files' : Files} {path : Text}
    {result : Except SystemFault Unit × Files} (h : MadeOrBlocked files' cwd path result)
    (hgrown : Grown way files files') : MadeOrBlocked files cwd path result := by
  obtain ⟨reply, after⟩ := result
  cases reply with
  | ok u => exact h
  | error fault => exact Blocked.of_grown hgrown h

theorem madeOrBlocked_of_isDirectory {path : Text} (h : Ordinary path)
    (hdirectory : files.isDirectory cwd path = true) :
    MadeOrBlocked files cwd path (.ok (), files) := by
  obtain ⟨-, d, hd⟩ := isDirectory_iff.mp hdirectory
  rw [MadeOrBlocked, hd, eq_of_directoryAt h.back hd]

section Join

variable {dir name : Text} (hname : '/' ∉ name) (hstep : Path.isIdle name = false)
  (h : Ordinary (Path.join dir name))

include hname hstep

theorem target_join : target cwd (Path.join dir name) = target cwd dir ++ [name] := by
  rw [target, target, origin_join hname, Path.names_join hname hstep, List.append_assoc]

include h

theorem name_of_ordinary_join :
    name ≠ ['.', '.'] ∧ ¬nameLimit < (Utf8.encode name).length := by
  have hmem : name ∈ Path.names (Path.join dir name) := by
    rw [Path.names_join hname hstep]
    exact List.mem_append_right _ List.mem_cons_self
  exact ⟨fun e => h.back (e ▸ hmem), Nat.not_lt.mpr (h.short name hmem)⟩

theorem makeDirectory_join :
    files.makeDirectory cwd (Path.join dir name) =
      files.directoryAt cwd dir >>= fun d =>
        match files.get? (d ++ [name]) with
        | some _ => .error .exists
        | none => .ok (files.put (d ++ [name]) .directory) := by
  obtain ⟨hback, hlong⟩ := name_of_ordinary_join hname hstep h
  rw [makeDirectory, place_join hname hstep hback, h.check]
  cases files.directoryAt cwd dir with
  | error fault => rfl
  | ok d =>
    simp only [bind, Except.bind, if_neg hlong]
    rfl

/-- The system goes up only if something above is missing. -/
theorem ensureAbove_join (hdir : files.directoryAt cwd dir ≠ .error .notFound) (fuel : Nat) :
    files.ensureAbove (fuel + 1) cwd (Path.join dir name)
      = files.ensureDirectory cwd (Path.join dir name) := by
  have hmake : files.makeDirectory cwd (Path.join dir name) ≠ .error .notFound := by
    rw [makeDirectory_join hname hstep h]
    cases hd : files.directoryAt cwd dir with
    | error fault => exact fun heq => hdir (hd ▸ congrArg Except.error (Except.error.inj heq))
    | ok d =>
      simp only [bind, Except.bind]
      split
      · nofun
      · nofun
  rw [ensureAbove, ensureDirectory]
  cases hmade : files.makeDirectory cwd (Path.join dir name) with
  | ok files' => rfl
  | error fault =>
    cases fault
    case notFound => exact absurd hmade hmake
    all_goals rfl

/-- A directory in a directory is found. -/
theorem directoryAt_join_eq_ok {d : Location} (hdir : files.directoryAt cwd dir = .ok d)
    (hget : files.get? (d ++ [name]) = some .directory) :
    files.directoryAt cwd (Path.join dir name) = .ok (d ++ [name]) := by
  obtain ⟨hback, hlong⟩ := name_of_ordinary_join hname hstep h
  rw [directoryAt_join hname, hdir]
  change files.walk d [name, []] = _
  have hidle : Path.isIdle [] = true := rfl
  simp [walk, get?_of_directoryAt hdir, hstep, hidle, hback, hlong, hget]

/-- A directory is made in a directory, or found there, unless there is a file of its name. -/
theorem madeOrBlocked_ensureDirectory {d : Location} (hdir : files.directoryAt cwd dir = .ok d) :
    MadeOrBlocked files cwd (Path.join dir name)
      (files.ensureDirectory cwd (Path.join dir name)) := by
  have hback : ['.', '.'] ∉ Path.names dir := by
    intro hmem
    refine h.back ?_
    rw [Path.names_join hname hstep]
    exact List.mem_append_left _ hmem
  have htarget : target cwd (Path.join dir name) = d ++ [name] := by
    rw [target_join hname hstep, eq_of_directoryAt hback hdir]
  rw [ensureDirectory, makeDirectory_join hname hstep h, hdir]
  simp only [bind, Except.bind]
  cases hget : files.get? (d ++ [name]) with
  | none =>
    have hgrown : Grown (fun _ => True) files (files.put (d ++ [name]) .directory) :=
      grown_put hget trivial
    have hmade : (files.put (d ++ [name]) .directory).get? (d ++ [name]) = some .directory := by
      rw [get?_put, if_pos ⟨rfl, by simp⟩]
    have hkept := directoryAt_of_keepsDirectories hgrown.keepsDirectories hdir
    change Files.directoryAt _ cwd _ = _
    rw [directoryAt_join_eq_ok hname hstep h hkept hmade, htarget]
  | some e =>
    cases e with
    | directory =>
      have hfound : files.isDirectory cwd (Path.join dir name) = true :=
        isDirectory_iff.mpr ⟨h.check, _, directoryAt_join_eq_ok hname hstep h hdir hget⟩
      simp only [hfound, if_true]
      exact madeOrBlocked_of_isDirectory h hfound
    | file mode content =>
      have hblocked : files.Blocked (target cwd (Path.join dir name)) :=
        ⟨d ++ [name], htarget ▸ List.prefix_rfl, mode, content, hget⟩
      have hnone : files.isDirectory cwd (Path.join dir name) = false := by
        rw [Bool.eq_false_iff, Ne, isDirectory_iff]
        rintro ⟨-, m, hm⟩
        have hm' : m = target cwd (Path.join dir name) := eq_of_directoryAt h.back hm
        have hdirectory := get?_of_directoryAt hm
        rw [hm', htarget, hget] at hdirectory
        cases hdirectory
      simp only [hnone]
      exact hblocked

/-- A directory is made nowhere below a file. -/
theorem blocked_ensureDirectory (hdir : files.directoryAt cwd dir = .error .notDirectory)
    (hblocked : files.Blocked (target cwd dir)) :
    MadeOrBlocked files cwd (Path.join dir name)
      (files.ensureDirectory cwd (Path.join dir name)) := by
  have hnone : files.isDirectory cwd (Path.join dir name) = false := by
    rw [Bool.eq_false_iff, Ne, isDirectory_iff, directoryAt_join hname, hdir]
    rintro ⟨-, m, hm⟩
    cases hm
  rw [ensureDirectory, makeDirectory_join hname hstep h, hdir]
  simp only [bind, Except.bind, hnone]
  refine hblocked.mono ?_
  rw [target_join hname hstep]
  exact List.prefix_append _ _

end Join

/-! ## 3. A directory and those above it -/

/-- A path without names leads to where it begins. -/
theorem isDirectory_of_names_eq_nil {path : Text} (h : Ordinary path)
    (horigin : files.get? (origin cwd path) = some .directory) (hnames : Path.names path = []) :
    files.isDirectory cwd path = true := by
  refine isDirectory_iff.mpr ⟨h.check, origin cwd path, ?_⟩
  rw [directoryAt, hnames]
  exact walk_empty_eq_ok_iff.mpr ⟨rfl, horigin⟩

/-- A path above an ordinary one is ordinary. -/
theorem Ordinary.above {path above : Text} (h : Ordinary path) (hbegins : above <+: path)
    (hne : above ≠ []) (hnames : Path.names above ⊆ Path.names path) : Ordinary above where
  check := checkPath_of_isPrefix h.check hbegins hne
  back := fun hmem => h.back (hnames hmem)
  short := fun name hname => h.short name (hnames hname)

theorem target_congr {p q : Text} (h : Path.Same p q) (cwd : Location) :
    target cwd p = target cwd q := by
  rw [target, target, origin, origin, h.absolute, h.names]

/-- **A directory is made with all those above it**, or a file is in the way. -/
theorem madeOrBlocked_ensureAbove {fuel : Nat} {files : Files} {path : Text} (h : Ordinary path)
    (horigin : files.get? (origin cwd path) = some .directory)
    (hends : Path.EndsInName path ∨ Path.names path = []) (hfuel : path.length ≤ fuel) :
    MadeOrBlocked files cwd path (files.ensureAbove fuel cwd path) := by
  induction fuel generalizing files path with
  | zero =>
    obtain rfl : path = [] := List.length_eq_zero_iff.mp (Nat.le_zero.mp hfuel)
    cases h.check
  | succ fuel ih =>
    by_cases hdirectory : files.isDirectory cwd path = true
    · rw [ensureAbove_of_isDirectory hdirectory]
      exact madeOrBlocked_of_isDirectory h hdirectory
    obtain ⟨dir, name, rfl, hname, hstep⟩ := (hends.resolve_right fun hnil =>
      hdirectory (isDirectory_of_names_eq_nil h horigin hnil)).exists_join
    have hsub : Path.names dir ⊆ Path.names (Path.join dir name) := by
      rw [Path.names_join hname hstep]
      exact List.subset_append_left _ _
    have hback : ['.', '.'] ∉ Path.names dir := fun hmem => h.back (hsub hmem)
    have hshort : ∀ n ∈ Path.names dir, (Utf8.encode n).length ≤ nameLimit := fun n hn =>
      h.short n (hsub hn)
    rcases directoryAt_cases files cwd hback hshort with hdir | hdir | ⟨hdir, hfile⟩
    · rw [ensureAbove_join hname hstep h (by simp [hdir])]
      exact madeOrBlocked_ensureDirectory hname hstep h hdir
    · -- something above is missing: the directory above is made first
      rw [origin_join hname] at horigin
      obtain ⟨above, hparent, hsame, hbegins, hempty⟩ := Path.parent?_join hname hstep dir
      have hne : above ≠ [] := by
        intro hnil
        have hhere : files.directoryAt cwd [] = .ok (origin cwd []) :=
          walk_empty_eq_ok_iff.mpr ⟨rfl, hempty.mp hnil ▸ horigin⟩
        rw [hempty.mp hnil, hhere] at hdir
        cases hdir
      have habove : Ordinary above :=
        h.above (hbegins.trans (Path.isPrefix_join hname dir)) hne (hsame.names ▸ hsub)
      have hlength : above.length ≤ fuel := by
        have hempty : name ≠ [] := by
          rintro rfl
          cases hstep
        have hshorter := Path.length_lt_join hname hempty dir
        have hle := hbegins.length_le
        omega
      have horigin' : files.get? (origin cwd above) = some .directory := by
        rwa [origin, hsame.absolute]
      have hmade := ih habove horigin' (Path.endsInName_or_of_parent?_join hname hstep hparent)
        hlength
      have hgrown := grown_ensureAbove fuel files cwd above
      rw [ensureAbove, makeDirectory_join hname hstep h, hdir, hparent]
      simp only [bind, Except.bind, if_neg hne]
      cases hup : files.ensureAbove fuel cwd above with
      | mk result files' =>
        rw [hup] at hmade hgrown
        cases result with
        | error fault =>
          refine Blocked.mono hmade ?_
          rw [target_congr hsame, target_join hname hstep]
          exact List.prefix_append _ _
        | ok u =>
          have hdir' : files'.directoryAt cwd dir = .ok (target cwd dir) := by
            rw [← directoryAt_congr hsame.absolute hsame.names, ← target_congr hsame]
            exact hmade
          have hlast := madeOrBlocked_ensureDirectory hname hstep h hdir'
          exact hlast.of_grown hgrown
    · rw [ensureAbove_join hname hstep h (by simp [hdir])]
      exact blocked_ensureDirectory hname hstep h hdir hfile

theorem madeOrBlocked_makeDirectories {path : Text} (h : Ordinary path)
    (horigin : files.get? (origin cwd path) = some .directory)
    (hends : Path.EndsInName path ∨ Path.names path = []) :
    MadeOrBlocked files cwd path (files.makeDirectories cwd path) :=
  madeOrBlocked_ensureAbove h horigin hends (Nat.le_refl _)

end Manpage.Files
