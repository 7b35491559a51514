/-
# The components of a path

A path is read as a list of components, from left to right: the root if it begins with a slash, a
dot if that is its first piece, and then each piece that leads somewhere, of which two dots are a
step back.  Empty pieces and dots behind the first slash are no components.

What a path names is its last component, if that is a name (`fileName?_eq_some_iff`).  Where this
name stands in the text is told by `getLast?_names_eq_some_iff`: behind the last slash that is
followed by anything but slashes and dots that stand alone (`Trailing`).
-/
import Manpage.Proofs.Path.Joined

namespace Manpage

/-! ## 1. Components -/

/-- A component of a path. -/
inductive Component
  | root
  /-- A dot at the very beginning. -/
  | here
  | back
  | name (name : Text)
deriving DecidableEq, Repr

namespace Path

/-- The component that a piece behind the first slash is, if it is one. -/
def component? (piece : Text) : Option Component :=
  if piece = [] ∨ piece = ['.'] then none
  else if piece = ['.', '.'] then some .back
  else some (.name piece)

/-- The components of a path. -/
def components (path : Text) : List Component :=
  match path.splitOn '/' with
  | [] :: next :: more => .root :: (next :: more).filterMap component?
  | ['.'] :: more => .here :: more.filterMap component?
  | pieces => pieces.filterMap component?

/-- The pieces of a path are what the slashes split it into. -/
theorem pieces_eq_splitOn (path : Text) : pieces path = path.splitOn '/' := by
  rw [pieces, List.splitOn_eq_splitOnP]
  induction path with
  | nil => rfl
  | cons c path ih =>
    obtain ⟨piece, more, hmore⟩ := List.exists_cons_of_ne_nil (Text.cutAt_ne_nil isSlash path)
    rw [Text.cutAt, List.splitOnP_cons_eq_if_modifyHead, ← ih, hmore]
    rfl

theorem component?_eq_none_iff {piece : Text} : component? piece = none ↔ isIdle piece = true := by
  rw [component?]
  split_ifs with hidle hback
  · simp [isIdle, hidle]
  · simp [isIdle, hback]
  · simpa [isIdle] using hidle

theorem component?_eq_name_iff {piece name : Text} (hstep : isIdle piece = false) :
    component? piece = some (.name name) ↔ piece = name ∧ piece ≠ ['.', '.'] := by
  have hidle : ¬(piece = [] ∨ piece = ['.']) := by
    rintro (rfl | rfl) <;> cases hstep
  rw [component?, if_neg hidle]
  split_ifs with hback
  · simp [hback]
  · simp [hback]

/-- Idle pieces give no component. -/
theorem filterMap_component? (ps : List Text) :
    ps.filterMap component? = (ps.filter fun piece => !isIdle piece).filterMap component? := by
  rw [List.filterMap_filter]
  refine List.filterMap_congr fun piece _ => ?_
  cases hidle : isIdle piece with
  | true => simpa using component?_eq_none_iff.mpr hidle
  | false => rfl

/-- The components of a path are those of its names, behind a root or a dot at most. -/
theorem exists_components_eq (path : Text) :
    ∃ opening, components path = opening ++ (names path).filterMap component? ∧
      ∀ c ∈ opening, c = .root ∨ c = .here := by
  rw [components, names, pieces_eq_splitOn]
  generalize path.splitOn '/' = pieces
  split
  · next next more =>
    refine ⟨[.root], ?_, by simp⟩
    rw [List.filter_cons_of_neg (by decide), ← filterMap_component?]
    rfl
  · next more =>
    refine ⟨[.here], ?_, by simp⟩
    rw [List.filter_cons_of_neg (by decide), ← filterMap_component?]
    rfl
  · exact ⟨[], filterMap_component? _, by simp⟩

/-- **What a path names is its last component**, if that is a name. -/
theorem fileName?_eq_some_iff {path file : Text} :
    fileName? path = some file ↔ (components path).getLast? = some (.name file) := by
  obtain ⟨opening, hcomponents, hopening⟩ := exists_components_eq path
  rw [fileName?, hcomponents]
  rcases List.eq_nil_or_concat' (names path) with hnone | ⟨before, last, hnames⟩
  · -- without a name the last component is the root, the dot, or none at all
    rw [hnone, List.filterMap_nil, List.append_nil]
    refine iff_of_false (Option.some_ne_none _).symm fun hlast => ?_
    rcases hopening _ (List.mem_of_getLast? hlast) with h | h <;> cases h
  · have hstep : isIdle last = false :=
      (mem_names_iff.mp (hnames ▸ List.mem_concat_self)).2
    obtain ⟨c, hc⟩ := Option.ne_none_iff_exists'.mp fun hnone =>
      Bool.false_ne_true (hstep.symm.trans (component?_eq_none_iff.mp hnone))
    have hlast : (opening ++ (names path).filterMap component?).getLast? = component? last := by
      rw [hnames, List.filterMap_append, List.filterMap_cons_some hc, List.filterMap_nil,
        ← List.append_assoc, List.getLast?_concat, hc]
    rw [hlast, component?_eq_name_iff hstep, hnames, List.getLast?_concat]
    by_cases hback : last = ['.', '.']
    · simp [hback]
    · simp [hback]

/-! ## 2. The last name in the text -/

/-- What may stand behind the last name of a path: slashes, and dots alone between them. -/
inductive Trailing : Text → Prop
  | nil : Trailing []
  | slash {tail : Text} : Trailing tail → Trailing ('/' :: tail)
  | dot {tail : Text} : Trailing tail → Trailing ('/' :: '.' :: tail)

/-- What may stand before a name: nothing, or a text that a slash ends. -/
def Leading (start : Text) : Prop := start = [] ∨ ∃ dir, start = dir ++ ['/']

/-- Idle pieces behind slashes. -/
theorem trailing_flatMap {ps : List Text} (h : ∀ p ∈ ps, isIdle p = true) :
    Trailing (ps.flatMap fun p => '/' :: p) := by
  induction ps with
  | nil => exact .nil
  | cons p ps ih =>
    obtain ⟨hp, hps⟩ := List.forall_mem_cons.mp h
    rw [List.flatMap_cons]
    have hidle : p = [] ∨ p = ['.'] := by simpa [isIdle] using hp
    rcases hidle with rfl | rfl
    · exact .slash (ih hps)
    · exact .dot (ih hps)

/-- What trails a name adds nothing but idle pieces to the pieces of the path. -/
theorem Trailing.exists_pieces_append {tail : Text} (h : Trailing tail) :
    ∃ idle : List Text, (∀ p ∈ idle, isIdle p = true) ∧
      ∀ path : Text, pieces (path ++ tail) = pieces path ++ idle := by
  induction h with
  | nil => exact ⟨[], by simp, fun path => by simp⟩
  | @slash tail _ ih =>
    obtain ⟨idle, hidle, hpieces⟩ := ih
    refine ⟨[] :: idle, List.forall_mem_cons.mpr ⟨rfl, hidle⟩, fun path => ?_⟩
    rw [pieces_append_slash, ← List.nil_append tail, hpieces []]
    rfl
  | @dot tail _ ih =>
    obtain ⟨idle, hidle, hpieces⟩ := ih
    refine ⟨['.'] :: idle, List.forall_mem_cons.mpr ⟨rfl, hidle⟩, fun path => ?_⟩
    rw [pieces_append_slash, ← List.singleton_append, hpieces ['.']]
    rfl

/-- What leads to a name is cut off behind its last slash. -/
theorem Leading.exists_pieces_append {start : Text} (h : Leading start) :
    ∃ before : List Text, ∀ path : Text, pieces (start ++ path) = before ++ pieces path := by
  rcases h with rfl | ⟨dir, rfl⟩
  · exact ⟨[], fun path => rfl⟩
  · refine ⟨pieces dir, fun path => ?_⟩
    rw [List.append_assoc, List.singleton_append, pieces_append_slash]

theorem leading_flatMap (ps : List Text) : Leading (ps.flatMap fun p => p ++ ['/']) := by
  rcases List.eq_nil_or_concat' ps with rfl | ⟨before, last, rfl⟩
  · exact .inl rfl
  · refine .inr ⟨(before.flatMap fun p => p ++ ['/']) ++ last, ?_⟩
    rw [List.flatMap_append, List.flatMap_singleton, List.append_assoc]

/-- **Where the last name of a path stands.** -/
theorem getLast?_names_eq_some_iff {path file : Text} :
    (names path).getLast? = some file ↔
      isIdle file = false ∧ '/' ∉ file ∧
        ∃ start tail, path = start ++ file ++ tail ∧ Leading start ∧ Trailing tail := by
  constructor
  · intro h
    have hmem := mem_names_iff.mp (List.mem_of_getLast? h)
    refine ⟨hmem.2, not_mem_of_mem_pieces hmem.1, ?_⟩
    obtain ⟨front, hfront⟩ := List.getLast?_eq_some_iff.mp h
    rw [names, List.filter_eq_append_iff] at hfront
    obtain ⟨ps, rest, hpieces, -, hrest⟩ := hfront
    obtain ⟨skipped, idle, rfl, -, -, hidle⟩ := List.filter_eq_cons_iff.mp hrest
    have hall : ∀ p ∈ idle, isIdle p = true := by simpa using List.filter_eq_nil_iff.mp hidle
    refine ⟨(ps ++ skipped).flatMap fun p => p ++ ['/'], idle.flatMap fun p => '/' :: p, ?_,
      leading_flatMap _, trailing_flatMap hall⟩
    rw [← join_slash_pieces path, hpieces, ← List.append_assoc, Text.join_append_cons]
    rfl
  · rintro ⟨hstep, hslash, start, tail, rfl, hstart, htail⟩
    obtain ⟨before, hbefore⟩ := hstart.exists_pieces_append
    obtain ⟨idle, hidle, hafter⟩ := htail.exists_pieces_append
    have hnone : idle.filter (fun piece => !isIdle piece) = [] :=
      List.filter_eq_nil_iff.mpr fun p hp => by simp [hidle p hp]
    rw [names, hafter, hbefore, pieces_of_not_mem hslash, List.filter_append, hnone,
      List.append_nil, List.filter_append, List.filter_cons_of_pos (by simp [hstep]),
      List.filter_nil, List.getLast?_concat]

end Path

end Manpage
