/-
# The applet that a path names

An applet is named by the last piece of a path that leads somewhere, up to its first dot.  This says
it in three ways that are not the way in which it is computed: by the pieces between slashes, by the
components of the path, and by the text itself, where nothing but slashes and single dots stand
behind the name.

They agree although they treat dots differently: two dots are a component of another kind but a
piece like any other, and a piece like it names nothing only because nothing stands before its first
dot.  `nameOf?_stem_of_last` collects this.
-/
import Manpage.Proofs.Applet.Listed
import Manpage.Proofs.Path.Components

namespace Manpage.Applet

/-! ## 1. Stems -/

/-- The part of a file name before its first dot, or the whole of it if there is none. -/
def IsStem (stem file : Text) : Prop :=
  '.' ∉ stem ∧ (file = stem ∨ ∃ ending, file = stem ++ '.' :: ending)

theorem stem_eq_iff {file s : Text} : stem file = s ↔ IsStem s file := by
  constructor
  · rintro rfl
    refine ⟨fun hdot => by simpa using List.mem_takeWhile_imp hdot, ?_⟩
    have hsplit : stem file ++ file.dropWhile (· ≠ '.') = file := List.takeWhile_append_dropWhile
    cases hrest : file.dropWhile (· ≠ '.') with
    | nil => exact .inl (by rw [hrest, List.append_nil] at hsplit; exact hsplit.symm)
    | cons c rest =>
      have hhead := List.head?_dropWhile_not (fun c => decide (c ≠ '.')) file
      rw [hrest] at hhead
      have hdot : c = '.' := by simpa using hhead
      exact .inr ⟨rest, by rw [← hdot, ← hrest, hsplit]⟩
  · rintro ⟨hdot, rfl | ⟨ending, rfl⟩⟩
    · exact stem_eq_self hdot
    · exact stem_append hdot ending

/-- Nothing stands before the dot of a file name that begins with one. -/
theorem isStem_nil_of_head? {file : Text} (h : file.head? = some '.') : IsStem [] file := by
  obtain ⟨rest, rfl⟩ := List.head?_eq_some_iff.mp h
  exact ⟨List.not_mem_nil, .inr ⟨rest, rfl⟩⟩

/-! ## 2. Names -/

theorem nameOf?_eq_some_iff {arg name : Text} :
    nameOf? arg = some name ↔
      ∃ file, (Path.names arg).getLast? = some file ∧ IsStem name file ∧ name ≠ [] := by
  rw [nameOf?]
  cases (Path.names arg).getLast? with
  | none => simp
  | some file =>
    simp only [Option.some.injEq, exists_eq_left', ← stem_eq_iff]
    by_cases hstem : stem file = []
    · rw [if_pos hstem, hstem]
      refine iff_of_false (Option.some_ne_none _).symm ?_
      rintro ⟨rfl, hne⟩
      exact hne rfl
    · rw [if_neg hstem, Option.some.injEq]
      refine ⟨fun h => ⟨h, h ▸ hstem⟩, fun h => h.1⟩

theorem nameOf?_eq_none_iff {arg : Text} :
    nameOf? arg = none ↔ ∀ file, (Path.names arg).getLast? = some file → IsStem [] file := by
  rw [nameOf?]
  cases (Path.names arg).getLast? with
  | none => simp
  | some file => simp [← stem_eq_iff]

/-- A last component that is no name has no stem either. -/
theorem exists_name_iff_fileName? {arg name : Text} :
    (∃ file, (Path.names arg).getLast? = some file ∧ IsStem name file ∧ name ≠ []) ↔
      ∃ file, Path.fileName? arg = some file ∧ IsStem name file ∧ name ≠ [] := by
  rw [Path.fileName?]
  cases (Path.names arg).getLast? with
  | none => simp
  | some file =>
    by_cases hback : file = ['.', '.']
    · have hnone : IsStem name file → name = [] := fun h =>
        (stem_eq_iff.mpr h).symm.trans (stem_eq_iff.mpr (isStem_nil_of_head? (by rw [hback]; rfl)))
      simpa [hback] using hnone
    · simp [hback]

/-- The last piece between the slashes of a text that is neither empty nor a dot. -/
def lastPiece? (arg : Text) : Option Text :=
  ((arg.splitOn '/').filter fun piece => decide (piece ≠ [] ∧ piece ≠ ['.'])).getLast?

theorem lastPiece?_eq (arg : Text) : lastPiece? arg = (Path.names arg).getLast? := by
  have hfilter : (fun piece : Text => !Path.isIdle piece)
      = fun piece => decide (piece ≠ [] ∧ piece ≠ ['.']) := by
    funext piece
    rw [Bool.eq_iff_iff]
    simp [Path.isIdle]
  rw [lastPiece?, Path.names, Path.pieces_eq_splitOn, hfilter]

/-- A name with an ending, in a directory and with slashes and dots behind it. -/
theorem nameOf?_written {start name ending tail : Text} (hname : IsNormal name)
    (hending : '/' ∉ ending) (hstart : Path.Leading start) (htail : Path.Trailing tail) :
    nameOf? (start ++ (name ++ '.' :: ending) ++ tail) = some name := by
  have hstem : IsStem name (name ++ '.' :: ending) := ⟨hname.2.2, .inr ⟨ending, rfl⟩⟩
  refine nameOf?_eq_some_iff.mpr ⟨_, Path.getLast?_names_eq_some_iff.mpr ⟨?_, ?_, start, tail, rfl,
    hstart, htail⟩, hstem, hname.1⟩
  · exact Batch.isIdle_append hname _
  · exact Batch.slash_not_mem_append hname (by simpa using hending)

/-- **An applet is named by the last piece of a path that leads somewhere, up to its first dot.**
This is also the last component of the path, if it is a name.  Whatever directory is written before
it, whatever ending behind it, and however many slashes and dots behind that, the name is the
same. -/
theorem nameOf?_stem_of_last :
    (∀ arg name : Text, nameOf? arg = some name ↔
        ∃ piece, lastPiece? arg = some piece ∧ IsStem name piece ∧ name ≠ []) ∧
      (∀ arg : Text, nameOf? arg = none ↔
        ∀ piece, lastPiece? arg = some piece → IsStem [] piece) ∧
      (∀ arg name : Text, nameOf? arg = some name ↔
        ∃ file, (Path.components arg).getLast? = some (.name file) ∧ IsStem name file ∧
          name ≠ []) ∧
      ∀ dir name ending tail : Text, name ≠ [] → '/' ∉ name → '.' ∉ name → '/' ∉ ending →
        Path.Trailing tail → nameOf? (dir ++ '/' :: (name ++ '.' :: ending) ++ tail) = some name
    := by
  refine ⟨fun arg name => ?_, fun arg => ?_, fun arg name => ?_, ?_⟩
  · rw [lastPiece?_eq, nameOf?_eq_some_iff]
  · rw [lastPiece?_eq, nameOf?_eq_none_iff]
  · simp only [← Path.fileName?_eq_some_iff]
    rw [nameOf?_eq_some_iff, exists_name_iff_fileName?]
  · intro dir name ending tail hne hslash hdot hending htail
    have hwritten := nameOf?_written ⟨hne, hslash, hdot⟩ hending (.inr ⟨dir, rfl⟩) htail
    rw [List.append_assoc dir, List.singleton_append] at hwritten
    exact hwritten

/-- A page with two endings in a directory that steps back, with slashes and dots behind it. -/
theorem nameOf?_stem_of_last_gzipped :
    "./a/..//qfile.1.gz/.//./".toList
        = "./a/../".toList ++ '/' :: ("qfile".toList ++ '.' :: "1.gz".toList) ++ "/.//./".toList ∧
      Path.Trailing "/.//./".toList ∧
      nameOf? "./a/..//qfile.1.gz/.//./".toList = some "qfile".toList :=
  ⟨rfl, .dot (.slash (.dot (.slash .nil))),
    nameOf?_stem_of_last.2.2.2 "./a/../".toList "qfile".toList "1.gz".toList "/.//./".toList
      (by decide) (by decide) (by decide) (by decide) (.dot (.slash (.dot (.slash .nil))))⟩

end Manpage.Applet
