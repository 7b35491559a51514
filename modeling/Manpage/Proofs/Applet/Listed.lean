/-
# The applets of a run and the paths of their pages

However the applets of a run are named, by arguments or by the output of a command, what comes out
is a list in strictly increasing byte order of names that are not empty and hold neither a slash
nor a dot.  This is all that is needed to know where their pages go: each into the output
directory itself, no two to the same path, and back from the path of a page to its applet.  So
naming the pages instead of the applets changes nothing.

`settled_pages` collects this.
-/
import Manpage.Proofs.Batch.PagePath
import Manpage.Proofs.Text.Order

namespace Manpage.Applet

/-! ## 1. Normal names -/

/-- What an argument names is a normal name. -/
theorem isNormal_of_nameOf? {arg name : Text} (h : nameOf? arg = some name) : IsNormal name := by
  rw [nameOf?] at h
  split at h
  · cases h
  · next piece hlast =>
    split at h
    · cases h
    · next hne =>
      cases h
      have hpiece : piece ∈ Path.pieces arg :=
        (Path.mem_names_iff.mp (List.mem_of_getLast? hlast)).1
      have hbegins : stem piece <+: piece := List.takeWhile_prefix _
      refine ⟨hne, fun hslash => ?_, fun hdot => ?_⟩
      · exact Path.not_mem_of_mem_pieces hpiece (hbegins.subset hslash)
      · have hnot := List.mem_takeWhile_imp hdot
        simp at hnot

theorem isNormal_of_mem_normalize {args : List Text} {name : Text} (h : name ∈ normalize args) :
    IsNormal name := by
  rw [normalize, Text.mem_ordered] at h
  obtain ⟨arg, -, harg⟩ := List.mem_filterMap.mp h
  exact isNormal_of_nameOf? harg

theorem pairwise_normalize (args : List Text) :
    (normalize args).Pairwise fun a b => Text.before a b = true :=
  Text.pairwise_ordered _

/-- Only which arguments there are counts, not their order and number. -/
theorem normalize_congr {args args' : List Text} (h : ∀ arg, arg ∈ args ↔ arg ∈ args') :
    normalize args = normalize args' := by
  refine Text.ordered_congr fun name => ?_
  rw [List.mem_filterMap, List.mem_filterMap]
  simp only [h]

section Stem

variable {name : Text} (h : '.' ∉ name)

include h

/-- What stands before the first dot of a file name. -/
theorem stem_append (ending : Text) : stem (name ++ '.' :: ending) = name := by
  have hname : ∀ c ∈ name, decide (c ≠ '.') = true := by
    intro c hc
    have hne : c ≠ '.' := fun e => h (e ▸ hc)
    simpa using hne
  rw [stem, List.takeWhile_append_of_pos hname]
  simp

theorem stem_eq_self : stem name = name :=
  List.takeWhile_eq_self_iff.mpr fun c hc => by
    have hne : c ≠ '.' := fun e => h (e ▸ hc)
    simpa using hne

end Stem

/-- A normal name names itself. -/
theorem nameOf?_eq_self {name : Text} (h : IsNormal name) : nameOf? name = some name := by
  have hidle : Path.isIdle name = false := by
    simpa using Batch.isIdle_append h []
  have hnames : Path.names name = [name] := by
    rw [Path.names_eq_of_pieces (Path.pieces_of_not_mem h.2.1)]
    simp [hidle]
  rw [nameOf?, hnames, List.getLast?_singleton]
  simp only [stem_eq_self h.2.2, h.1, if_false]

/-- The path of a page names its applet. -/
theorem nameOf?_outputPath {name : Text} (h : IsNormal name) (outDir : Text) :
    nameOf? (Batch.outputPath outDir name) = some name := by
  rw [nameOf?, Batch.names_outputPath h, List.getLast?_concat]
  have hstem : stem (Batch.pageName name) = name := stem_append h.2.2 ['1']
  simp only [hstem, h.1, if_false]

theorem filterMap_nameOf? {f : Text → Text} {names : List Text}
    (h : ∀ name ∈ names, nameOf? (f name) = some name) :
    (names.map f).filterMap nameOf? = names := by
  induction names with
  | nil => rfl
  | cons name names ih =>
    rw [List.map_cons, List.filterMap_cons_some (h name List.mem_cons_self),
      ih fun other ho => h other (List.mem_cons_of_mem name ho)]

/-! ## 2. The pages of a list of applets -/

/-- What holds of the paths of the pages of some applets, whatever the output directory. -/
structure PagesIn (outDir : Text) (applets : List Text) : Prop where
  /-- No two pages have the same path, however it is written. -/
  distinct : (applets.map (Batch.outputPath outDir)).Pairwise fun p q => ¬Path.Same p q
  file_name : ∀ applet ∈ applets,
    Path.fileName? (Batch.outputPath outDir applet) = some (applet ++ ".1".toList)
  /-- The parent of the path is the output directory. -/
  parent : ∀ applet ∈ applets, ∃ dir,
    Path.parent? (Batch.outputPath outDir applet) = some dir ∧ Path.Same dir outDir
  /-- In every tree of files, what the path leads to lies in what the output directory leads to. -/
  inside : ∀ applet ∈ applets, ∀ (files : Files) (cwd l : Location),
    files.locate cwd (Batch.outputPath outDir applet) = .ok l →
      ∃ dir, files.walk (Files.origin cwd outDir) (Path.pieces outDir) = .ok dir ∧
        l = dir ++ [applet ++ ".1".toList]
  /-- The path names its applet. -/
  names_back : ∀ applet ∈ applets, nameOf? (Batch.outputPath outDir applet) = some applet
  /-- Naming the pages names the same applets. -/
  again : normalize (applets.map (Batch.outputPath outDir)) = applets

theorem pagesIn {applets : List Text} (hnormal : ∀ applet ∈ applets, IsNormal applet)
    (horder : applets.Pairwise fun a b => Text.before a b = true) (outDir : Text) :
    PagesIn outDir applets where
  distinct := by
    rw [List.pairwise_map]
    refine (Text.strictOrder_before.nodup horder).imp_of_mem fun {a b} ha hb hne hsame => hne ?_
    have hnames := hsame.names
    rw [Batch.names_outputPath (hnormal a ha), Batch.names_outputPath (hnormal b hb)] at hnames
    exact Batch.pageName_injective (List.append_inj_right' hnames rfl |> List.singleton_inj.mp)
  file_name applet ha := Batch.fileName?_outputPath (hnormal applet ha) outDir
  parent applet ha := by
    obtain ⟨dir, hdir, hsame, -⟩ := Path.parent?_join
      (Batch.slash_not_mem_pageName (hnormal applet ha))
      (Batch.isIdle_pageName (hnormal applet ha)) outDir
    exact ⟨dir, hdir, hsame⟩
  inside applet ha files cwd l hl := by
    rw [Batch.locate_outputPath (hnormal applet ha)] at hl
    cases hcheck : Files.checkPath (Batch.outputPath outDir applet) with
    | error fault =>
      rw [hcheck] at hl
      cases hl
    | ok u =>
      cases hdir : files.directoryAt cwd outDir with
      | error fault =>
        rw [hcheck, hdir] at hl
        cases hl
      | ok d =>
        rw [hcheck, hdir] at hl
        simp only [bind, Except.bind] at hl
        split at hl
        · cases hl
        · cases hl
          exact ⟨d, (Files.directoryAt_eq_ok_iff.mp hdir).1, rfl⟩
  names_back applet ha := nameOf?_outputPath (hnormal applet ha) outDir
  again := by
    rw [normalize, filterMap_nameOf? fun applet ha => nameOf?_outputPath (hnormal applet ha) outDir]
    exact Text.ordered_eq_self horder

/-! ## 3. The applets of a run -/

/-- A list of applets as a run comes by it: from its arguments, or from what a command prints. -/
inductive Settled : List Text → Prop
  | named (args : List Text) : Settled (normalize args)
  | listed (output : Text) : Settled (ofListing output)

theorem Settled.exists_args {applets : List Text} (h : Settled applets) :
    ∃ args, applets = normalize args := by
  cases h with
  | named args => exact ⟨args, rfl⟩
  | listed output => exact ⟨_, rfl⟩

/-- **The applets of a run, and the paths of their pages.**  The names are normal and in strictly
increasing byte order; their pages lie in the output directory, apart from each other, and name
the same applets; to name the applets once more changes nothing; and the list depends on the set
of the arguments only. -/
theorem settled_pages {applets : List Text} (h : Settled applets) :
    (applets.Pairwise fun a b => Utf8.before (Utf8.encode a) (Utf8.encode b) = true) ∧
      (∀ applet ∈ applets, applet ≠ [] ∧ '/' ∉ applet ∧ '.' ∉ applet) ∧
      (∀ outDir, PagesIn outDir applets) ∧
      normalize applets = applets ∧
      ∀ args args' : List Text, (∀ arg, arg ∈ args ↔ arg ∈ args') →
        normalize args = normalize args' := by
  obtain ⟨args, rfl⟩ := h.exists_args
  have horder := pairwise_normalize args
  have hnormal : ∀ applet ∈ normalize args, IsNormal applet :=
    fun applet ha => isNormal_of_mem_normalize ha
  refine ⟨?_, hnormal, pagesIn hnormal horder, ?_, fun args args' => normalize_congr⟩
  · exact horder.imp fun {a b} hab => by rw [Utf8.before_encode, hab]
  · have hself := filterMap_nameOf? (f := id) fun applet ha => nameOf?_eq_self (hnormal applet ha)
    rw [List.map_id] at hself
    rw [normalize, hself]
    exact Text.ordered_eq_self horder

/-- Three arguments and the pages that they ask for, in a directory with steps back and slashes. -/
theorem settled_pages_bar_foo :
    normalize (["./man/foo.1", "bar.x.1/", "foo"].map String.toList)
        = ["bar".toList, "foo".toList] ∧
      Settled ["bar".toList, "foo".toList] ∧
      PagesIn "a/..//".toList ["bar".toList, "foo".toList] ∧
      normalize (["a/..//bar.1", "a/..//foo.1"].map String.toList)
        = ["bar".toList, "foo".toList] ∧
      (∀ arg, arg ∈ ["bar".toList, "foo".toList] ↔
        arg ∈ ["foo".toList, "bar".toList, "foo".toList]) ∧
      normalize ["foo".toList, "bar".toList, "foo".toList] = ["bar".toList, "foo".toList] := by
  have hlist : normalize (["./man/foo.1", "bar.x.1/", "foo"].map String.toList)
      = ["bar".toList, "foo".toList] := by decide
  have hsettled : Settled ["bar".toList, "foo".toList] := hlist ▸ Settled.named _
  have hmem : ∀ arg, arg ∈ ["bar".toList, "foo".toList] ↔
      arg ∈ ["foo".toList, "bar".toList, "foo".toList] := by
    intro arg
    simp only [List.mem_cons, List.not_mem_nil, or_false]
    tauto
  obtain ⟨-, -, hpages, hagain, hset⟩ := settled_pages hsettled
  exact ⟨hlist, hsettled, hpages _, (hpages "a/..//".toList).again, hmem,
    (hset _ _ hmem).symm.trans hagain⟩

end Manpage.Applet
