/-
# The path of a page

The page of an applet with a normal name is a plain file name in the output directory.  Its path
therefore leads to that name in the directory that the output directory leads to
(`locate_outputPath`, `place_outputPath`), whatever the output directory is called, and the
directory that the page is staged in is the output directory (`directoryOf?_outputPath`).
-/
import Manpage.Applet
import Manpage.Batch.Basic
import Manpage.Proofs.Files.Walk

namespace Manpage.Batch

open Applet (IsNormal)

/-! ## 1. File names -/

theorem pageName_injective : Function.Injective pageName := fun _ _ h => List.append_cancel_right h

/-- An applet with a normal name begins with a character that is neither a dot nor a slash. -/
theorem exists_cons_of_isNormal {applet : Text} (h : IsNormal applet) :
    ∃ c rest, applet = c :: rest ∧ c ≠ '.' ∧ c ≠ '/' := by
  obtain ⟨hne, hslash, hdot⟩ := h
  obtain ⟨c, rest, rfl⟩ := List.exists_cons_of_ne_nil hne
  exact ⟨c, rest, rfl, fun e => hdot (e ▸ List.mem_cons_self),
    fun e => hslash (e ▸ List.mem_cons_self)⟩

section FileName

variable {applet : Text} (h : IsNormal applet) {ending : Text}

include h

/-- A file name that begins with an applet does not begin with a dot. -/
theorem head?_ne_dot (ending : Text) : (applet ++ ending).head? ≠ some '.' := by
  obtain ⟨c, rest, rfl, hdot, -⟩ := exists_cons_of_isNormal h
  simpa using hdot

/-- So it is neither empty nor a dot. -/
theorem isIdle_append (ending : Text) : Path.isIdle (applet ++ ending) = false := by
  obtain ⟨c, rest, rfl, hdot, -⟩ := exists_cons_of_isNormal h
  simp [Path.isIdle, hdot]

/-- Nor does it step back. -/
theorem append_ne_back (ending : Text) : applet ++ ending ≠ ['.', '.'] := by
  intro heq
  refine head?_ne_dot h ending ?_
  rw [heq]
  rfl

theorem slash_not_mem_append (hending : '/' ∉ ending) : '/' ∉ applet ++ ending :=
  List.not_mem_append h.2.1 hending

theorem slash_not_mem_pageName : '/' ∉ pageName applet := slash_not_mem_append h (by decide)

theorem isIdle_pageName : Path.isIdle (pageName applet) = false := isIdle_append h _

theorem pageName_ne_back : pageName applet ≠ ['.', '.'] := append_ne_back h _

end FileName

/-! ## 2. Paths -/

theorem directoryOf?_ne_nil {path dir : Text} (h : directoryOf? path = some dir) : dir ≠ [] := by
  obtain ⟨parent, -, hparent⟩ := Option.map_eq_some_iff.mp h
  rintro rfl
  split at hparent
  · cases hparent
  · contradiction

/-- The directory of a name below a directory is that directory, perhaps written shorter; the empty
path is written as a dot. -/
theorem directoryOf?_join {name : Text} (hname : '/' ∉ name) (hstep : Path.isIdle name = false)
    (dir : Text) :
    ∃ above, directoryOf? (Path.join dir name) = some above ∧
      Path.isAbsolute above = Path.isAbsolute dir ∧ Path.names above = Path.names dir ∧
      (dir ≠ [] → above <+: dir) ∧ (dir = [] → above = ['.']) ∧
      (Path.EndsInName above ∨ Path.names above = []) := by
  obtain ⟨parent, hparent, hsame, hbegins, hempty⟩ := Path.parent?_join hname hstep dir
  rw [directoryOf?, hparent, Option.map_some]
  by_cases hnil : parent = []
  · obtain rfl := hempty.mp hnil
    rw [if_pos hnil]
    exact ⟨['.'], rfl, rfl, rfl, fun hne => absurd rfl hne, fun _ => rfl, Or.inr rfl⟩
  · rw [if_neg hnil]
    exact ⟨parent, rfl, hsame.absolute, hsame.names, fun _ => hbegins,
      fun hdir => absurd (hempty.mpr hdir) hnil,
      Path.endsInName_or_of_parent?_join hname hstep hparent⟩

section Path

variable {applet : Text} (h : IsNormal applet) (outDir : Text)

include h

theorem names_outputPath : Path.names (outputPath outDir applet)
    = Path.names outDir ++ [pageName applet] :=
  Path.names_join (slash_not_mem_pageName h) (isIdle_pageName h) outDir

theorem fileName?_outputPath :
    Path.fileName? (outputPath outDir applet) = some (pageName applet) :=
  Path.fileName?_join (slash_not_mem_pageName h) (isIdle_pageName h) (pageName_ne_back h) outDir

/-- The directory that a page is staged in is the output directory, perhaps written shorter; the
empty path is written as a dot. -/
theorem directoryOf?_outputPath :
    ∃ dir, directoryOf? (outputPath outDir applet) = some dir ∧
      Path.isAbsolute dir = Path.isAbsolute outDir ∧ Path.names dir = Path.names outDir ∧
      (outDir ≠ [] → dir <+: outDir) := by
  obtain ⟨dir, hdir, habsolute, hnames, hbegins, -, -⟩ :=
    directoryOf?_join (slash_not_mem_pageName h) (isIdle_pageName h) outDir
  exact ⟨dir, hdir, habsolute, hnames, hbegins⟩

/-- If the output directory is there, the directory that a page is staged in is. -/
theorem exists_directoryOf?_outputPath {files : Files} {cwd : Location}
    (hout : files.isDirectory cwd outDir = true) :
    ∃ dir, directoryOf? (outputPath outDir applet) = some dir ∧
      files.directoryAt cwd dir = files.directoryAt cwd outDir ∧
      Files.checkPath dir = .ok () := by
  obtain ⟨dir, hdir, habsolute, hnames, hbegins⟩ := directoryOf?_outputPath h outDir
  obtain ⟨hcheck, -⟩ := Files.isDirectory_iff.mp hout
  have houtDir : outDir ≠ [] := by
    rintro rfl
    cases hcheck
  exact ⟨dir, hdir, Files.directoryAt_congr habsolute hnames cwd,
    Files.checkPath_of_isPrefix hcheck (hbegins houtDir) (directoryOf?_ne_nil hdir)⟩

variable (files : Files) (cwd : Location)

theorem locate_outputPath :
    files.locate cwd (outputPath outDir applet) = (do
      Files.checkPath (outputPath outDir applet)
      let d ← files.directoryAt cwd outDir
      if Files.nameLimit < (Utf8.encode (pageName applet)).length then .error .nameTooLong
      else .ok (d ++ [pageName applet])) :=
  Files.locate_join (slash_not_mem_pageName h) (isIdle_pageName h) (pageName_ne_back h) cwd outDir

theorem place_outputPath :
    files.place cwd (outputPath outDir applet) = (do
      Files.checkPath (outputPath outDir applet)
      let d ← files.directoryAt cwd outDir
      if Files.nameLimit < (Utf8.encode (pageName applet)).length then .error .nameTooLong
      else .ok (.entry d (pageName applet) false)) :=
  Files.place_join (slash_not_mem_pageName h) (isIdle_pageName h) (pageName_ne_back h) cwd outDir

/-- If a page has a place at all, that is in the output directory. -/
theorem place_outputPath_eq_ok_iff {place : Files.Place} :
    files.place cwd (outputPath outDir applet) = .ok place ↔
      ∃ d, files.directoryAt cwd outDir = .ok d ∧
        Files.checkPath (outputPath outDir applet) = .ok () ∧
        ¬Files.nameLimit < (Utf8.encode (pageName applet)).length ∧
        place = .entry d (pageName applet) false := by
  rw [place_outputPath h]
  cases Files.checkPath (outputPath outDir applet) with
  | error fault => simp [bind, Except.bind]
  | ok u =>
    cases files.directoryAt cwd outDir with
    | error fault => simp [bind, Except.bind]
    | ok d =>
      simp only [bind, Except.bind]
      split_ifs with hlong
      · simp [hlong]
      · simp [hlong, eq_comm]

end Path

end Manpage.Batch
