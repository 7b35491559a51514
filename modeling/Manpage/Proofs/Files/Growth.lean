/-
# Making directories

`makeDirectories` adds directories where there was nothing, and does nothing else; those that it
adds stand on the way to the one that was asked for (`grown_makeDirectories`).  This holds also when it
fails half-way.  Where the directory is there already, it does nothing at all
(`makeDirectories_of_isDirectory`).
-/
import Manpage.Proofs.Files.Walk

namespace Manpage

/-! ## 1. The parent of a path -/

namespace Path

/-- The parent of a path begins where the path does and leads through its names. -/
theorem names_parent_isPrefix {path above : Text} (h : parent? path = some above)
    (hne : above ≠ []) : isAbsolute above = isAbsolute path ∧ names above <+: names path := by
  obtain ⟨first, rest, hpieces⟩ := List.exists_cons_of_ne_nil (pieces_ne_nil path)
  rw [parent?, hpieces] at h
  dsimp only at h
  split at h
  · split at h <;> cases h
    exact absurd rfl hne
  · next name before hrest =>
    have hsplit : rest.rdropWhile isIdle = before.reverse ++ [name] := by
      rw [List.rdropWhile, hrest, List.reverse_cons]
    have hkept : (before.dropWhile isIdle).reverse = before.reverse.rdropWhile isIdle := by
      rw [List.rdropWhile, List.reverse_reverse]
    have hnames : names path
        = (first :: before.reverse).filter (fun piece => !isIdle piece)
          ++ [name].filter fun piece => !isIdle piece := by
      rw [names_eq_of_pieces hpieces, List.filter_cons, ← filter_rdropWhile_isIdle rest, hsplit,
        ← List.filter_append, List.cons_append, List.filter_cons]
    have habsolute : isAbsolute path = true ↔ first = [] := by
      rw [isAbsolute_iff, hpieces]
      constructor
      · rintro ⟨p, ps, hps⟩
        exact (List.cons.inj hps).1
      · rintro rfl
        obtain ⟨p, ps, hps⟩ := List.exists_cons_of_ne_nil (l := rest) (by rintro rfl; cases hrest)
        exact ⟨p, ps, by rw [hps]⟩
    have hslash : ∀ p ∈ first :: before.reverse, '/' ∉ p := by
      have hsub : before.reverse <+: rest :=
        (List.prefix_append _ [name]).trans (hsplit ▸ List.rdropWhile_prefix isIdle rest)
      intro p hp
      refine not_mem_of_mem_pieces (s := path) ?_
      rw [hpieces]
      exact ((List.prefix_cons_inj first).mpr hsub).subset hp
    rw [hkept] at h
    rw [hnames]
    split at h
    · next hroot =>
      cases h
      obtain ⟨rfl, -⟩ := hroot
      exact ⟨(habsolute.mpr rfl).symm, List.nil_prefix⟩
    · next hroot =>
      cases h
      obtain ⟨-, habove, hlead⟩ := pieces_join_kept hslash hroot
      rw [Bool.eq_iff_iff, habove, habsolute, hlead]
      exact ⟨Iff.rfl, List.prefix_append _ _⟩

end Path

namespace Files

/-! ## 2. Growth -/

/-- A location that the way to a path leads through.  Of a way that steps back nothing is said. -/
def OnTheWay (cwd : Location) (path : Text) (l : Location) : Prop :=
  ['.', '.'] ∈ Path.names path ∨ l <+: target cwd path

/-- What is at a location in the second tree is what was there in the first, or a new directory where
there was nothing and where `way` holds. -/
def GrownAt (way : Location → Prop) (a b : Files) (l : Location) : Prop :=
  b.get? l = a.get? l ∨ way l ∧ a.get? l = none ∧ b.get? l = some .directory

/-- The second tree is the first with further directories. -/
def Grown (way : Location → Prop) (a b : Files) : Prop := ∀ l, GrownAt way a b l

section Grown

variable {way : Location → Prop} {a b c : Files} {l : Location}

theorem GrownAt.trans (hab : GrownAt way a b l) (hbc : GrownAt way b c l) : GrownAt way a c l := by
  rcases hab with hab | ⟨hway, hnone, hdir⟩
  · rcases hbc with hbc | ⟨hway, hnone, hdir⟩
    · exact Or.inl (hbc.trans hab)
    · exact Or.inr ⟨hway, hab ▸ hnone, hdir⟩
  · rcases hbc with hbc | ⟨-, hnone', -⟩
    · exact Or.inr ⟨hway, hnone, hbc.trans hdir⟩
    · rw [hdir] at hnone'
      cases hnone'

theorem GrownAt.mono {way' : Location → Prop} (h : GrownAt way a b l) (hsub : way l → way' l) :
    GrownAt way' a b l :=
  h.imp_right fun hl => ⟨hsub hl.1, hl.2⟩

/-- What is there stays. -/
theorem GrownAt.get?_of_some (h : GrownAt way a b l) {e : Entry} (hl : a.get? l = some e) :
    b.get? l = some e := by
  rcases h with hsame | ⟨-, hnone, -⟩
  · rw [hsame, hl]
  · rw [hl] at hnone
    cases hnone

theorem Grown.refl (way : Location → Prop) (a : Files) : Grown way a a := fun _ => Or.inl rfl

theorem Grown.trans (hab : Grown way a b) (hbc : Grown way b c) : Grown way a c :=
  fun l => (hab l).trans (hbc l)

theorem Grown.mono {way' : Location → Prop} (h : Grown way a b) (hsub : ∀ l, way l → way' l) :
    Grown way' a b := fun l => (h l).mono (hsub l)

theorem Grown.keepsDirectories (h : Grown way a b) : KeepsDirectories a b :=
  fun l hl => (h l).get?_of_some hl

/-- A directory where there was nothing is growth. -/
theorem grown_put (hnone : a.get? l = none) (hway : way l) :
    Grown way a (a.put l .directory) := by
  intro m
  rw [GrownAt, get?_put]
  split
  · next hm =>
    obtain ⟨rfl, -⟩ := hm
    exact Or.inr ⟨hway, hnone, rfl⟩
  · exact Or.inl rfl

end Grown

/-! ## 3. One directory -/

theorem splitTrailing_append (pieces : List Text) :
    (splitTrailing pieces).1 ++ pieces.rtakeWhile (· == []) = pieces :=
  List.rdropWhile_append_rtakeWhile

/-- The pieces of a path without empty ones at its end give the same names. -/
theorem names_eq_filter_splitTrailing (path : Text) :
    Path.names path
      = (splitTrailing (Path.pieces path)).1.filter fun piece => !Path.isIdle piece := by
  have hidle : ((Path.pieces path).rtakeWhile (· == [])).filter
      (fun piece => !Path.isIdle piece) = [] := by
    rw [List.filter_eq_nil_iff]
    intro piece hpiece
    have hempty : piece = [] := by simpa using List.mem_rtakeWhile_imp hpiece
    rw [hempty]
    decide
  rw [Path.names]
  conv_lhs => rw [← splitTrailing_append (Path.pieces path), List.filter_append, hidle, List.append_nil]

/-- The last piece that is left is not empty. -/
theorem getLast?_splitTrailing {pieces : List Text} {name : Text}
    (h : (splitTrailing pieces).1.getLast? = some name) : name ≠ [] := by
  rintro rfl
  obtain ⟨init, hinit⟩ := List.getLast?_eq_some_iff.mp h
  have hempty : ∀ hne : (splitTrailing pieces).1 ≠ [], ¬((splitTrailing pieces).1.getLast hne == []) :=
    List.rdropWhile_last_not (· == []) pieces
  simp [hinit] at hempty

/-- The place of a new entry is a name in a directory; it is where the names of the path lead to,
if none of them steps back. -/
theorem of_place_eq_ok {files : Files} {cwd d : Location} {path name : Text} {slashes : Bool}
    (h : files.place cwd path = .ok (.entry d name slashes)) :
    ['.', '.'] ∉ Path.names path → d ++ [name] = target cwd path := by
  intro hback
  rw [place] at h
  cases hcheck : checkPath path with
  | error fault =>
    rw [hcheck] at h
    cases h
  | ok u =>
    rw [hcheck] at h
    cases hlast : (splitTrailing (Path.pieces path)).1.getLast? with
    | none =>
      simp only [bind, Except.bind, hlast] at h
      cases h
    | some last =>
      obtain ⟨init, hinit⟩ := List.getLast?_eq_some_iff.mp hlast
      cases hwalk : files.walk (origin cwd path) (init ++ [[]]) with
      | error fault => simp [bind, Except.bind, hinit, hwalk] at h
      | ok m =>
        simp only [bind, Except.bind, pure, Except.pure, hinit, List.getLast?_concat,
          List.dropLast_concat, hwalk] at h
        split_ifs at h with hdots hlong
        · cases h
        · simp only [Except.ok.injEq, Place.entry.injEq] at h
          obtain ⟨rfl, rfl, -⟩ := h
          obtain ⟨hdot, -⟩ := not_or.mp hdots
          have hstep : Path.isIdle last = false := by
            simp [Path.isIdle, getLast?_splitTrailing hlast, hdot]
          have hnames : Path.names path
              = init.filter (fun piece => !Path.isIdle piece) ++ [last] := by
            rw [names_eq_filter_splitTrailing, hinit, List.filter_append]
            simp [hstep]
          have hinitBack : ['.', '.'] ∉ init ++ [[]] := by
            intro hmem
            refine hback ?_
            rw [hnames]
            refine List.mem_append_left _ (List.mem_filter.mpr ⟨?_, by decide⟩)
            simpa using hmem
          rw [target, eq_append_of_walk hinitBack hwalk, hnames, List.filter_append]
          simp [Path.isIdle]

/-- One directory is made where there was nothing, at the end of its path. -/
theorem grown_makeDirectory {a b : Files} {cwd : Location} {path : Text}
    (h : a.makeDirectory cwd path = .ok b) : Grown (OnTheWay cwd path) a b := by
  rw [makeDirectory] at h
  cases hplace : a.place cwd path with
  | error fault =>
    rw [hplace] at h
    cases h
  | ok place =>
    rw [hplace] at h
    cases place with
    | noName => cases h
    | entry dir name slashes =>
      simp only [bind, Except.bind] at h
      split at h
      · cases h
      · next hnone =>
        cases h
        refine grown_put hnone (or_iff_not_imp_left.mpr fun hback => ?_)
        exact of_place_eq_ok hplace hback ▸ List.prefix_rfl

theorem grown_ensureDirectory (files : Files) (cwd : Location) (path : Text) :
    Grown (OnTheWay cwd path) files (files.ensureDirectory cwd path).2 := by
  rw [ensureDirectory]
  split
  · next hmade => exact grown_makeDirectory hmade
  · exact Grown.refl _ files

/-! ## 4. A directory and those above it -/

/-- The way to the parent of a path is part of the way to the path. -/
theorem onTheWay_of_parent? {cwd l : Location} {path above : Text}
    (h : Path.parent? path = some above) (hne : above ≠ []) (hl : OnTheWay cwd above l) :
    OnTheWay cwd path l := by
  obtain ⟨habsolute, hnames⟩ := Path.names_parent_isPrefix h hne
  have horigin : origin cwd above = origin cwd path := by rw [origin, origin, habsolute]
  rcases hl with hback | hl
  · exact Or.inl (hnames.subset hback)
  · rw [target, horigin] at hl
    exact Or.inr (hl.trans ((List.prefix_append_right_inj _).mpr hnames))

theorem grown_ensureAbove (fuel : Nat) (files : Files) (cwd : Location) (path : Text) :
    Grown (OnTheWay cwd path) files (files.ensureAbove fuel cwd path).2 := by
  induction fuel generalizing files path with
  | zero => exact grown_ensureDirectory files cwd path
  | succ fuel ih =>
    rw [ensureAbove]
    split
    · next hmade => exact grown_makeDirectory hmade
    · split
      · exact Grown.refl _ files
      · next above hparent =>
        split
        · exact grown_ensureDirectory files cwd path
        · next hne =>
          -- what is made above stays, whether the last step succeeds or not
          have habove := (ih files above).mono fun l hl => onTheWay_of_parent? hparent hne hl
          split
          · next files' hok =>
            rw [hok] at habove
            exact habove.trans (grown_ensureDirectory files' cwd path)
          · next fault files' herror =>
            rw [herror] at habove
            exact habove
    · exact Grown.refl _ files

/-- **Making a directory with all those above it only adds directories**, on the way to it and where
there was nothing, even if it fails in the end. -/
theorem grown_makeDirectories (files : Files) (cwd : Location) (path : Text) :
    Grown (OnTheWay cwd path) files (files.makeDirectories cwd path).2 :=
  grown_ensureAbove path.length files cwd path

/-- A directory cannot be made where there is one already. -/
theorem makeDirectory_of_isDirectory {files : Files} {cwd : Location} {path : Text}
    (h : files.isDirectory cwd path = true) :
    ∃ fault, files.makeDirectory cwd path = .error fault ∧ fault ≠ .notFound := by
  obtain ⟨hcheck, d, hd⟩ := isDirectory_iff.mp h
  rw [directoryAt_eq_walk_pieces, ← splitTrailing_append (Path.pieces path), List.append_assoc]
    at hd
  rw [makeDirectory, place, hcheck]
  cases hlast : (splitTrailing (Path.pieces path)).1.getLast? with
  | none => exact ⟨.exists, by simp [bind, Except.bind, pure, Except.pure, hlast], by decide⟩
  | some name =>
    obtain ⟨init, hinit⟩ := List.getLast?_eq_some_iff.mp hlast
    -- the last name of the path is looked up in a directory and is found there
    rw [hinit, List.append_assoc, walk_append] at hd
    cases hm : files.walk (origin cwd path) init with
    | error fault =>
      rw [hm] at hd
      cases hd
    | ok m =>
      rw [hm] at hd
      change files.walk m (name :: _) = .ok d at hd
      have hdirectory : files.get? m = some .directory := get?_of_walk_cons hd
      have hwalk : files.walk (origin cwd path) (init ++ [[]]) = .ok m := by
        rw [walk_append, hm]
        exact walk_empty_eq_ok_iff.mpr ⟨rfl, hdirectory⟩
      simp only [bind, Except.bind, pure, Except.pure, hinit, List.getLast?_concat,
        List.dropLast_concat, hwalk]
      by_cases hdots : name = ['.'] ∨ name = ['.', '.']
      · exact ⟨.exists, by simp [hdots], by decide⟩
      by_cases hlong : nameLimit < (Utf8.encode name).length
      · exact ⟨.nameTooLong, by simp [hdots, hlong], by decide⟩
      obtain ⟨hdot, hdotdot⟩ := not_or.mp hdots
      have hstep : Path.isIdle name = false := by
        simp [Path.isIdle, getLast?_splitTrailing hlast, hdot]
      rw [walk, hdirectory] at hd
      simp only [hstep, hdotdot, hlong, if_false, Bool.false_eq_true] at hd
      obtain ⟨p, ps, hps⟩ := List.exists_cons_of_ne_nil (l :=
        (Path.pieces path).rtakeWhile (· == []) ++ [[]]) (by simp)
      rw [hps] at hd
      exact ⟨.exists, by simp [hdots, hlong, get?_of_walk_cons hd], by decide⟩

theorem ensureAbove_of_isDirectory {files : Files} {cwd : Location} {path : Text}
    (h : files.isDirectory cwd path = true) (fuel : Nat) :
    files.ensureAbove fuel cwd path = (.ok (), files) := by
  obtain ⟨fault, hfault, hne⟩ := makeDirectory_of_isDirectory h
  cases fuel with
  | zero => rw [ensureAbove, ensureDirectory, hfault]; simp [h]
  | succ fuel =>
    rw [ensureAbove, hfault]
    cases fault <;> first | exact absurd rfl hne | simp [h]

/-- **A directory that is there already is found, and nothing is made.** -/
theorem makeDirectories_of_isDirectory {files : Files} {cwd : Location} {path : Text}
    (h : files.isDirectory cwd path = true) :
    files.makeDirectories cwd path = (.ok (), files) :=
  ensureAbove_of_isDirectory h path.length

end Files

end Manpage
