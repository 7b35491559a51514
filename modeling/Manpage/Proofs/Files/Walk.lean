/-
# Where paths lead

A directory is found by the names on its path: empty pieces and dots only make sure that there is
a directory where they stand, which the next step does anyway (`walk_filter_isIdle`).  So the way to
a directory, `directoryAt`, is told by the names of a path and the place where it begins, and what
has a name in a directory lies one step further (`locate_join`, `place_join`).

The way does not change while the directories on it stay (`walk_of_keepsDirectories`), whatever
files come and go beside them.
-/
import Manpage.Files.Change
import Manpage.Proofs.Path.Joined

namespace Manpage.Files

/-! ## 1. Steps -/

variable {files : Files}

/-- Every step begins in a directory. -/
theorem get?_of_walk_cons {l m : Location} {p : Text} {ps : List Text}
    (h : files.walk l (p :: ps) = .ok m) : files.get? l = some .directory := by
  rw [walk] at h
  split at h
  · cases h
  · cases h
  · assumption

/-- The step that an empty piece asks for: to stay in a directory. -/
theorem walk_empty_eq_ok_iff {l m : Location} :
    files.walk l [[]] = .ok m ↔ m = l ∧ files.get? l = some .directory := by
  simp only [walk]
  split
  · next h => simp [h]
  · next h => simp [h]
  · next h => simp [h, Path.isIdle, eq_comm]

/-- An idle piece asks for a directory, as every piece does. -/
theorem walk_idle {p : Text} (hp : Path.isIdle p = true) (l : Location) {ps : List Text}
    (hps : ps ≠ []) : files.walk l (p :: ps) = files.walk l ps := by
  obtain ⟨q, ps, rfl⟩ := List.exists_cons_of_ne_nil hps
  rw [walk, if_pos hp]
  cases hl : files.get? l with
  | none => rw [walk, hl]
  | some e =>
    cases e with
    | directory => rfl
    | file mode content => rw [walk, hl]

/-- The step that a name asks for. -/
theorem walk_name {name : Text} (hstep : Path.isIdle name = false) (hback : name ≠ ['.', '.'])
    (l : Location) :
    files.walk l [name] = files.walk l [[]] >>= fun m =>
      if nameLimit < (Utf8.encode name).length then .error .nameTooLong else .ok (m ++ [name]) := by
  simp only [walk, hstep, hback, Bool.false_eq_true, if_false]
  split
  · rfl
  · rfl
  · rfl

/-- A step begins by making sure that there is a directory. -/
theorem walk_cons (l : Location) (p : Text) (ps : List Text) :
    files.walk l (p :: ps) = files.walk l [[]] >>= fun d => files.walk d (p :: ps) := by
  cases hl : files.get? l with
  | none => simp [walk, hl, bind, Except.bind]
  | some e =>
    cases e with
    | file mode content => simp [walk, hl, bind, Except.bind]
    | directory => rw [walk_empty_eq_ok_iff.mpr ⟨rfl, hl⟩]; rfl

/-- **Only the names on the way to a directory count.** -/
theorem walk_filter_isIdle (l : Location) (ps : List Text) :
    files.walk l (ps ++ [[]])
      = files.walk l (ps.filter (fun p => !Path.isIdle p) ++ [[]]) := by
  induction ps generalizing l with
  | nil => rfl
  | cons p ps ih =>
    cases hp : Path.isIdle p with
    | true =>
      rw [List.cons_append, walk_idle hp l (by simp), ih, List.filter_cons_of_neg (by simp [hp])]
    | false =>
      rw [List.filter_cons_of_pos (by simp [hp]), List.cons_append, List.cons_append, walk, walk]
      simp only [ih]

/-- Names that do not step back lead to where they are written. -/
theorem eq_append_of_walk {l m : Location} {ps : List Text} (hback : ['.', '.'] ∉ ps)
    (h : files.walk l ps = .ok m) : m = l ++ ps.filter fun p => !Path.isIdle p := by
  induction ps generalizing l with
  | nil =>
    cases h
    exact (List.append_nil _).symm
  | cons p ps ih =>
    have hp : p ≠ ['.', '.'] := fun e => hback (e ▸ List.mem_cons_self)
    have hps : ['.', '.'] ∉ ps := fun hmem => hback (List.mem_cons_of_mem p hmem)
    rw [walk] at h
    split at h
    · cases h
    · cases h
    · split at h
      · next hidle =>
        rw [ih hps h, List.filter_cons_of_neg (by simp [hidle])]
      · next hidle =>
        split at h
        · cases h
        · rw [ih hps h, List.filter_cons_of_pos (by simpa using hidle), List.append_assoc,
            List.singleton_append]

/-! ## 2. Directories -/

/-- The directory that a path leads to. -/
def directoryAt (files : Files) (cwd : Location) (path : Text) : Except SystemFault Location :=
  files.walk (origin cwd path) (Path.names path ++ [[]])

theorem directoryAt_eq_walk_pieces (files : Files) (cwd : Location) (path : Text) :
    files.directoryAt cwd path = files.walk (origin cwd path) (Path.pieces path ++ [[]]) := by
  rw [directoryAt, Path.names, ← walk_filter_isIdle]

theorem directoryAt_eq_ok_iff {cwd d : Location} {path : Text} :
    files.directoryAt cwd path = .ok d ↔
      files.walk (origin cwd path) (Path.pieces path) = .ok d ∧ files.get? d = some .directory := by
  rw [directoryAt_eq_walk_pieces, walk_append]
  cases files.walk (origin cwd path) (Path.pieces path) with
  | error fault => simp [bind, Except.bind]
  | ok m =>
    change files.walk m [[]] = .ok d ↔ _
    rw [walk_empty_eq_ok_iff, Except.ok.injEq]
    constructor
    · rintro ⟨rfl, hm⟩
      exact ⟨rfl, hm⟩
    · rintro ⟨rfl, hm⟩
      exact ⟨rfl, hm⟩

theorem get?_of_directoryAt {cwd d : Location} {path : Text}
    (h : files.directoryAt cwd path = .ok d) : files.get? d = some .directory :=
  (directoryAt_eq_ok_iff.mp h).2

/-- Where the names of a path lead to, if none of them steps back. -/
def target (cwd : Location) (path : Text) : Location := origin cwd path ++ Path.names path

theorem eq_of_directoryAt {cwd d : Location} {path : Text} (hback : ['.', '.'] ∉ Path.names path)
    (h : files.directoryAt cwd path = .ok d) : d = target cwd path := by
  have hpieces : ['.', '.'] ∉ Path.names path ++ [[]] := by simpa using hback
  rw [target, eq_append_of_walk hpieces h, List.filter_append, Path.names, List.filter_filter]
  simp [Path.isIdle]

/-- Two texts that are the same path lead to the same directory. -/
theorem directoryAt_congr {p q : Text} (habsolute : Path.isAbsolute p = Path.isAbsolute q)
    (hnames : Path.names p = Path.names q) (cwd : Location) :
    files.directoryAt cwd p = files.directoryAt cwd q := by
  rw [directoryAt, directoryAt, origin, origin, habsolute, hnames]

theorem locate_of_directoryAt {cwd d : Location} {path : Text}
    (h : files.directoryAt cwd path = .ok d) :
    files.locate cwd path = (do checkPath path; .ok d) := by
  rw [locate, (directoryAt_eq_ok_iff.mp h).1]

/-- Whether a path to a directory is one that can be asked for is told by its text alone. -/
theorem stat_of_directoryAt {cwd d : Location} {path : Text}
    (h : files.directoryAt cwd path = .ok d) :
    files.stat cwd path = (do checkPath path; .ok .directory) := by
  rw [stat, locate_of_directoryAt h]
  cases checkPath path with
  | error fault => rfl
  | ok u => simp [bind, Except.bind, get?_of_directoryAt h]

/-- What a path begins with can be asked for if the path can. -/
theorem checkPath_of_isPrefix {p q : Text} (h : checkPath q = .ok ()) (hbegins : p <+: q)
    (hne : p ≠ []) : checkPath p = .ok () := by
  have hlength : (Utf8.encode p).length ≤ (Utf8.encode q).length := by
    obtain ⟨rest, rfl⟩ := hbegins
    simp [Utf8.encode]
  rw [checkPath] at h ⊢
  split_ifs at h with hnul hempty hlong
  rw [if_neg fun hmem => hnul (hbegins.subset hmem), if_neg hne, if_neg (by omega)]

theorem isDirectory_iff {cwd : Location} {path : Text} :
    files.isDirectory cwd path = true ↔
      checkPath path = .ok () ∧ ∃ d, files.directoryAt cwd path = .ok d := by
  simp only [directoryAt_eq_ok_iff, isDirectory, stat, locate]
  cases checkPath path with
  | error fault => simp [bind, Except.bind]
  | ok u =>
    cases files.walk (origin cwd path) (Path.pieces path) with
    | error fault => simp [bind, Except.bind]
    | ok m =>
      cases hm : files.get? m with
      | none => simp [bind, Except.bind, hm]
      | some e => cases e <;> simp [bind, Except.bind, hm, Entry.isDirectory]

/-! ## 3. A name in a directory -/

section Join

variable {name : Text} (hname : '/' ∉ name) (hstep : Path.isIdle name = false)
  (hback : name ≠ ['.', '.'])

include hname

theorem origin_join (cwd : Location) (dir : Text) :
    origin cwd (Path.join dir name) = origin cwd dir := by
  rw [origin, origin, Path.isAbsolute_join hname]

theorem walk_piecesAbove (cwd : Location) (dir : Text) :
    files.walk (origin cwd (Path.join dir name)) (Path.piecesAbove dir ++ [[]])
      = files.directoryAt cwd dir := by
  rw [origin_join hname, directoryAt, Path.names_eq_filter_piecesAbove, walk_filter_isIdle]

/-- The directory that one more piece of a path leads to. -/
theorem directoryAt_join (cwd : Location) (dir : Text) :
    files.directoryAt cwd (Path.join dir name)
      = files.directoryAt cwd dir >>= fun d => files.walk d [name, []] := by
  rw [directoryAt_eq_walk_pieces, Path.pieces_join hname, ← walk_piecesAbove hname cwd dir,
    List.append_assoc, walk_append, walk_append]
  cases files.walk (origin cwd (Path.join dir name)) (Path.piecesAbove dir) with
  | error fault => rfl
  | ok m => exact walk_cons m name [[]]

include hstep hback

/-- **Where a name in a directory is found.** -/
theorem locate_join (cwd : Location) (dir : Text) :
    files.locate cwd (Path.join dir name) = (do
      checkPath (Path.join dir name)
      let d ← files.directoryAt cwd dir
      if nameLimit < (Utf8.encode name).length then .error .nameTooLong
      else .ok (d ++ [name])) := by
  rw [locate, Path.pieces_join hname, walk_append, ← walk_piecesAbove hname cwd dir, walk_append]
  cases checkPath (Path.join dir name) with
  | error fault => rfl
  | ok u =>
    cases files.walk (origin cwd (Path.join dir name)) (Path.piecesAbove dir) with
    | error fault => rfl
    | ok m => exact walk_name hstep hback m

/-- Where a new entry of a name in a directory would go. -/
theorem place_join (cwd : Location) (dir : Text) :
    files.place cwd (Path.join dir name) = (do
      checkPath (Path.join dir name)
      let d ← files.directoryAt cwd dir
      if nameLimit < (Utf8.encode name).length then .error .nameTooLong
      else .ok (.entry d name false)) := by
  have hne : name ≠ [] := by
    rintro rfl
    cases hstep
  have hdots : ¬(name = ['.'] ∨ name = ['.', '.']) := by
    rintro (rfl | rfl)
    · cases hstep
    · exact hback rfl
  have hsplit : splitTrailing (Path.piecesAbove dir ++ [name])
      = (Path.piecesAbove dir ++ [name], false) := by
    simp [splitTrailing, hne]
  rw [place, Path.pieces_join hname, hsplit]
  simp only [List.getLast?_concat, List.dropLast_concat, walk_piecesAbove hname, hdots, if_false]
  rfl

/-- What a name in a directory leads to, if it is there. -/
theorem stat_join_eq_ok {cwd d : Location} {dir : Text} {e : Entry}
    (hcheck : checkPath (Path.join dir name) = .ok ())
    (hlength : ¬nameLimit < (Utf8.encode name).length)
    (hdir : files.directoryAt cwd dir = .ok d) (he : files.get? (d ++ [name]) = some e) :
    files.stat cwd (Path.join dir name) = .ok e := by
  rw [stat, locate_join hname hstep hback, hcheck, hdir]
  simp [bind, Except.bind, hlength, he]

end Join

/-! ## 4. Staged files -/

/-- A file is staged in the directory that a path leads to, under a name that is free. -/
theorem stage_eq (cwd : Location) (dir tag : Text) :
    files.stage cwd dir tag =
      match (do checkPath dir; files.directoryAt cwd dir : Except SystemFault Location) with
      | .error fault => (.error fault, files)
      | .ok d =>
        (.ok (d ++ [stagedName (files.freeNumber d tag) tag]),
          files.put (d ++ [stagedName (files.freeNumber d tag) tag]) (.file 0o600 [])) := by
  rw [stage, locate, directoryAt_eq_walk_pieces, walk_append]
  cases checkPath dir with
  | error fault => rfl
  | ok u =>
    cases files.walk (origin cwd dir) (Path.pieces dir) with
    | error fault => rfl
    | ok m =>
      simp only [bind, Except.bind, walk]
      cases hm : files.get? m with
      | none => rfl
      | some e => cases e <;> simp [Path.isIdle]

/-! ## 5. The same way in another tree -/

/-- Every directory of a tree is a directory of another. -/
def KeepsDirectories (a b : Files) : Prop :=
  ∀ l, a.get? l = some .directory → b.get? l = some .directory

/-- A way that leads somewhere leads through directories alone, and so it leads there in every
tree that has these. -/
theorem walk_of_keepsDirectories {a b : Files} (h : KeepsDirectories a b) {l m : Location}
    {ps : List Text} (hwalk : a.walk l ps = .ok m) : b.walk l ps = .ok m := by
  induction ps generalizing l with
  | nil => exact hwalk
  | cons p ps ih =>
    rw [walk] at hwalk ⊢
    cases hl : a.get? l with
    | none =>
      rw [hl] at hwalk
      cases hwalk
    | some e =>
      cases e with
      | file mode content =>
        rw [hl] at hwalk
        cases hwalk
      | directory =>
        rw [hl] at hwalk
        rw [h l hl]
        simp only at hwalk ⊢
        split_ifs at hwalk ⊢ with hidle hback hlong
        · exact ih hwalk
        · exact ih hwalk
        · exact ih hwalk

theorem directoryAt_of_keepsDirectories {a b : Files} (h : KeepsDirectories a b)
    {cwd d : Location} {path : Text} (hdir : a.directoryAt cwd path = .ok d) :
    b.directoryAt cwd path = .ok d :=
  walk_of_keepsDirectories h hdir

end Manpage.Files
