/-
# A name joined to a directory

A path that is made by joining one name to a directory is taken apart again: its pieces are those
of the directory and the name (`pieces_join`), and its parent is the directory (`parent?_join`).

The parent need not be the same text, for the slashes and dots before the last step are not kept.
`Same` says when two texts are one path; the parent is the same path as the directory, and a
beginning of its text.

Every path that ends in a name is made in this way (`EndsInName.exists_join`), and so is its parent,
unless it has no names.
-/
import Mathlib.Data.List.DropRight
import Manpage.Path
import Manpage.Proofs.Text.Cut

namespace Manpage.Path

/-! ## 1. Pieces -/

theorem isSlash_eq_false_of_mem {s : Text} (h : '/' ∉ s) : ∀ c ∈ s, isSlash c = false := by
  intro c hc
  have hne : c ≠ '/' := fun e => h (e ▸ hc)
  simpa [isSlash] using hne

theorem pieces_of_not_mem {s : Text} (h : '/' ∉ s) : pieces s = [s] :=
  Text.cutAt_eq_singleton (isSlash_eq_false_of_mem h)

theorem pieces_append_slash (s t : Text) : pieces (s ++ '/' :: t) = pieces s ++ pieces t :=
  Text.cutAt_append_cons rfl s t

theorem pieces_ne_nil (s : Text) : pieces s ≠ [] := Text.cutAt_ne_nil isSlash s

theorem not_mem_of_mem_pieces {s piece : Text} (h : piece ∈ pieces s) : '/' ∉ piece := by
  intro hmem
  have hslash := Text.not_mem_of_mem_cutAt h '/' hmem
  cases hslash

/-- Pieces that are joined by slashes are the pieces of the path. -/
theorem pieces_join_slash {ps : List Text} (hne : ps ≠ []) (h : ∀ p ∈ ps, '/' ∉ p) :
    pieces (Text.join ['/'] ps) = ps := by
  induction ps with
  | nil => exact absurd rfl hne
  | cons p ps ih =>
    have hp : '/' ∉ p := h p List.mem_cons_self
    cases ps with
    | nil => rw [Text.join_singleton, pieces_of_not_mem hp]
    | cons q ps =>
      have hrest := ih (List.cons_ne_nil q ps) fun r hr => h r (List.mem_cons_of_mem p hr)
      rw [Text.join_cons_cons, List.append_assoc, List.singleton_append, pieces_append_slash,
        pieces_of_not_mem hp, hrest, List.singleton_append]

/-- A path is its pieces, joined by slashes. -/
theorem join_slash_pieces (s : Text) : Text.join ['/'] (pieces s) = s :=
  Text.join_cutAt (fun c => by simp [isSlash]) s

/-- A path is absolute exactly when an empty piece stands before a slash at its beginning. -/
theorem isAbsolute_iff {s : Text} :
    isAbsolute s = true ↔ ∃ p ps, pieces s = [] :: p :: ps := by
  cases s with
  | nil => simp [isAbsolute, pieces, Text.cutAt]
  | cons c s =>
    obtain ⟨p, ps, hps⟩ := List.exists_cons_of_ne_nil (pieces_ne_nil s)
    rw [pieces] at hps
    rw [pieces, Text.cutAt, hps]
    by_cases hc : isSlash c = true
    · have hslash : c = '/' := by simpa [isSlash] using hc
      simp [isAbsolute, hslash, isSlash]
    · have hslash : c ≠ '/' := by simpa [isSlash] using hc
      simp [isAbsolute, hslash, isSlash, Text.consFirst]

theorem isAbsolute_of_not_mem {s : Text} (h : '/' ∉ s) : isAbsolute s = false := by
  cases s with
  | nil => rfl
  | cons c s =>
    have hne : c ≠ '/' := fun e => h (e ▸ List.mem_cons_self)
    simpa [isAbsolute] using hne

/-! ## 2. Names -/

/-- The pieces of a path that lead somewhere are those among its pieces. -/
theorem names_eq_of_pieces {s : Text} {ps : List Text} (h : pieces s = ps) :
    names s = ps.filter fun piece => !isIdle piece := by
  rw [names, h]

theorem mem_names_iff {s name : Text} :
    name ∈ names s ↔ name ∈ pieces s ∧ isIdle name = false := by
  rw [names, List.mem_filter, Bool.not_eq_true']

/-- Idle pieces at the end give no name. -/
theorem filter_rdropWhile_isIdle (ps : List Text) :
    (ps.rdropWhile isIdle).filter (fun piece => !isIdle piece)
      = ps.filter fun piece => !isIdle piece := by
  have hidle : (ps.rtakeWhile isIdle).filter (fun piece => !isIdle piece) = [] := by
    rw [List.filter_eq_nil_iff]
    intro piece hpiece
    rw [List.mem_rtakeWhile_imp hpiece]
    exact Bool.false_ne_true
  have hsplit : ps.rdropWhile isIdle ++ ps.rtakeWhile isIdle = ps :=
    List.rdropWhile_append_rtakeWhile
  conv_rhs => rw [← hsplit, List.filter_append, hidle, List.append_nil]

/-- The names of a path lead from the same place, and the paths begin alike: two texts are the
same path, however many slashes and dots are written between the names. -/
structure Same (p q : Text) : Prop where
  absolute : isAbsolute p = isAbsolute q
  /-- A dot at the very beginning is a step of its own. -/
  dot : (pieces p).head? = some ['.'] ↔ (pieces q).head? = some ['.']
  names : names p = names q

/-! ## 3. A name below a directory -/

/-- The pieces of a directory as they stand before a name below it: without the empty piece behind
a slash at the end. -/
def piecesAbove (dir : Text) : List Text :=
  if dir = [] ∨ dir.getLast? = some '/' then (pieces dir).dropLast else pieces dir

/-- **The pieces of a name below a directory.** -/
theorem pieces_join {name : Text} (hname : '/' ∉ name) (dir : Text) :
    pieces (join dir name) = piecesAbove dir ++ [name] := by
  have hrelative : isAbsolute name = false := isAbsolute_of_not_mem hname
  rw [join, piecesAbove, hrelative, if_neg Bool.false_ne_true]
  split
  · next hend =>
    rcases hend with rfl | hend
    · rw [List.nil_append, pieces_of_not_mem hname]
      rfl
    · obtain ⟨start, rfl⟩ := List.getLast?_eq_some_iff.mp hend
      have hslash : pieces (start ++ ['/']) = pieces start ++ [[]] := pieces_append_slash start []
      rw [hslash, List.dropLast_concat, List.append_assoc, List.singleton_append,
        pieces_append_slash, pieces_of_not_mem hname]
  · rw [pieces_append_slash, pieces_of_not_mem hname]

/-- Only an empty piece at the end is left out. -/
theorem pieces_eq_piecesAbove (dir : Text) :
    pieces dir = piecesAbove dir ∨ pieces dir = piecesAbove dir ++ [[]] := by
  rw [piecesAbove]
  split
  · next hend =>
    refine Or.inr ?_
    rcases hend with rfl | hend
    · rfl
    · obtain ⟨start, rfl⟩ := List.getLast?_eq_some_iff.mp hend
      have hslash : pieces (start ++ ['/']) = pieces start ++ [[]] := pieces_append_slash start []
      rw [hslash, List.dropLast_concat]
  · exact Or.inl rfl

theorem piecesAbove_isPrefix (dir : Text) : piecesAbove dir <+: pieces dir := by
  rcases pieces_eq_piecesAbove dir with h | h
  · exact h ▸ List.prefix_rfl
  · exact h ▸ List.prefix_append _ _

theorem names_eq_filter_piecesAbove (dir : Text) :
    names dir = (piecesAbove dir).filter fun piece => !isIdle piece := by
  rcases pieces_eq_piecesAbove dir with h | h
  · exact names_eq_of_pieces h
  · rw [names_eq_of_pieces h, List.filter_append]
    exact List.append_nil _

theorem piecesAbove_eq_nil_iff {dir : Text} : piecesAbove dir = [] ↔ dir = [] := by
  constructor
  · intro h
    have hjoin := join_slash_pieces dir
    rcases pieces_eq_piecesAbove dir with hp | hp
    · rw [hp, h] at hjoin
      exact hjoin.symm
    · rw [hp, h] at hjoin
      exact hjoin.symm
  · rintro rfl
    rfl

theorem isAbsolute_join {name : Text} (hname : '/' ∉ name) (dir : Text) :
    isAbsolute (join dir name) = isAbsolute dir := by
  have hrelative : isAbsolute name = false := isAbsolute_of_not_mem hname
  rw [join, hrelative, if_neg Bool.false_ne_true]
  cases dir with
  | nil => exact hrelative
  | cons c dir => split <;> rfl

theorem isPrefix_join {name : Text} (hname : '/' ∉ name) (dir : Text) : dir <+: join dir name := by
  rw [join, isAbsolute_of_not_mem hname, if_neg Bool.false_ne_true]
  split
  · exact List.prefix_append _ _
  · exact List.prefix_append _ _

theorem length_lt_join {name : Text} (hname : '/' ∉ name) (hne : name ≠ []) (dir : Text) :
    dir.length < (join dir name).length := by
  have hpos : 0 < name.length := List.length_pos_iff.mpr hne
  rw [join, isAbsolute_of_not_mem hname, if_neg Bool.false_ne_true]
  split
  · simp [hpos]
  · simp

/-- A directory with a name below it is absolute exactly when its first piece is empty. -/
theorem isAbsolute_of_piecesAbove {dir first : Text} {more : List Text}
    (h : piecesAbove dir = first :: more) : isAbsolute dir = true ↔ first = [] := by
  -- joining any name to it shows the first piece before a slash
  have hname : '/' ∉ ['x'] := by decide
  rw [← isAbsolute_join hname, isAbsolute_iff, pieces_join hname, h]
  constructor
  · rintro ⟨p, ps, hps⟩
    exact (List.cons.inj hps).1
  · rintro rfl
    cases more with
    | nil => exact ⟨['x'], [], rfl⟩
    | cons p ps => exact ⟨p, ps ++ [['x']], rfl⟩

/-- The names of a path below a directory: those of the directory, and one more. -/
theorem names_join {name : Text} (hname : '/' ∉ name) (hstep : isIdle name = false) (dir : Text) :
    names (join dir name) = names dir ++ [name] := by
  rw [names_eq_of_pieces (pieces_join hname dir), List.filter_append,
    ← names_eq_filter_piecesAbove]
  simp [hstep]

/-! ## 4. The parent -/

/-- The parent of a name below a directory, from the pieces of the directory. -/
theorem parent?_join_eq {name : Text} (hname : '/' ∉ name) (hstep : isIdle name = false)
    {dir first : Text} {more : List Text} (hdir : piecesAbove dir = first :: more) :
    parent? (join dir name) =
      if first = [] ∧ more.rdropWhile isIdle = [] then some ['/']
      else some (Text.join ['/'] (first :: more.rdropWhile isIdle)) := by
  rw [parent?, pieces_join hname, hdir, List.cons_append]
  simp only [List.reverse_append, List.reverse_singleton, List.singleton_append,
    List.dropWhile_cons, hstep, Bool.false_eq_true, if_false]
  rfl

/-- What begins the pieces of a path, joined again, begins the path. -/
theorem join_slash_isPrefix {ps qs : List Text} (hne : ps ≠ []) (h : ps <+: qs) :
    Text.join ['/'] ps <+: Text.join ['/'] qs := by
  induction ps generalizing qs with
  | nil => exact absurd rfl hne
  | cons p ps ih =>
    obtain ⟨rest, rfl⟩ := h
    cases ps with
    | nil =>
      cases rest with
      | nil => exact List.prefix_rfl
      | cons q rest =>
        rw [Text.join_singleton, List.singleton_append, Text.join_cons_cons, List.append_assoc]
        exact List.prefix_append _ _
    | cons q ps =>
      have hrest := ih (List.cons_ne_nil q ps) (List.prefix_append (q :: ps) rest)
      rw [List.cons_append, List.cons_append, Text.join_cons_cons, Text.join_cons_cons]
      exact (List.prefix_append_right_inj _).mpr hrest

theorem head?_pieces {dir first : Text} {more : List Text}
    (hdir : piecesAbove dir = first :: more) : (pieces dir).head? = some first := by
  rcases pieces_eq_piecesAbove dir with h | h
  · rw [h, hdir]
    rfl
  · rw [h, hdir]
    rfl

/-- A directory with nothing but idle pieces behind its first slash is the root. -/
theorem same_root {dir : Text} {more : List Text} (hdir : piecesAbove dir = [] :: more)
    (hidle : more.rdropWhile isIdle = []) : Same ['/'] dir ∧ ['/'] <+: dir := by
  have hslash : isAbsolute dir = true := (isAbsolute_of_piecesAbove hdir).mpr rfl
  refine ⟨⟨hslash.symm, ?_, ?_⟩, ?_⟩
  · rw [head?_pieces hdir]
    decide
  · have hmore := filter_rdropWhile_isIdle more
    rw [hidle] at hmore
    rw [names_eq_filter_piecesAbove dir, hdir, List.filter_cons_of_neg (by decide), ← hmore]
    rfl
  · cases dir with
    | nil => cases hslash
    | cons c dir =>
      have hc : c = '/' := by simpa [isAbsolute] using hslash
      rw [hc]
      exact ⟨dir, rfl⟩

/-- Pieces without the idle ones at their end, joined again, are a path that begins as they do and
leads through their names. -/
theorem pieces_join_kept {first : Text} {more : List Text} (hslash : ∀ p ∈ first :: more, '/' ∉ p)
    (hroot : ¬(first = [] ∧ more.rdropWhile isIdle = [])) :
    pieces (Text.join ['/'] (first :: more.rdropWhile isIdle)) = first :: more.rdropWhile isIdle ∧
      (isAbsolute (Text.join ['/'] (first :: more.rdropWhile isIdle)) = true ↔ first = []) ∧
      names (Text.join ['/'] (first :: more.rdropWhile isIdle))
        = (first :: more).filter fun piece => !isIdle piece := by
  have hkept : pieces (Text.join ['/'] (first :: more.rdropWhile isIdle))
      = first :: more.rdropWhile isIdle := by
    refine pieces_join_slash (List.cons_ne_nil _ _) fun p hp => hslash p ?_
    exact ((List.prefix_cons_inj first).mpr (List.rdropWhile_prefix isIdle more)).subset hp
  refine ⟨hkept, ?_, ?_⟩
  · rw [isAbsolute_iff, hkept]
    constructor
    · rintro ⟨p, ps, hps⟩
      exact (List.cons.inj hps).1
    · rintro rfl
      obtain ⟨p, ps, hps⟩ := List.exists_cons_of_ne_nil fun hnil => hroot ⟨rfl, hnil⟩
      exact ⟨p, ps, by rw [hps]⟩
  · rw [names_eq_of_pieces hkept, List.filter_cons, filter_rdropWhile_isIdle, List.filter_cons]

/-- A directory without the idle pieces at its end is the same path, if it is not the root. -/
theorem same_kept {dir first : Text} {more : List Text} (hdir : piecesAbove dir = first :: more)
    (hroot : ¬(first = [] ∧ more.rdropWhile isIdle = [])) :
    Same (Text.join ['/'] (first :: more.rdropWhile isIdle)) dir ∧
      Text.join ['/'] (first :: more.rdropWhile isIdle) <+: dir ∧
      Text.join ['/'] (first :: more.rdropWhile isIdle) ≠ [] := by
  have hpieces : first :: more <+: pieces dir := hdir ▸ piecesAbove_isPrefix dir
  obtain ⟨hkept, habsolute, hnames⟩ :=
    pieces_join_kept (fun p hp => not_mem_of_mem_pieces (hpieces.subset hp)) hroot
  refine ⟨⟨?_, ?_, ?_⟩, ?_, ?_⟩
  · rw [Bool.eq_iff_iff, isAbsolute_of_piecesAbove hdir, habsolute]
  · rw [hkept, head?_pieces hdir]
    rfl
  · rw [hnames, names_eq_filter_piecesAbove dir, hdir]
  · have hbegins : first :: more.rdropWhile isIdle <+: pieces dir :=
      ((List.prefix_cons_inj first).mpr (List.rdropWhile_prefix isIdle more)).trans hpieces
    have hjoin := join_slash_isPrefix (List.cons_ne_nil _ _) hbegins
    rw [join_slash_pieces] at hjoin
    exact hjoin
  · intro hnil
    rw [hnil] at hkept
    obtain ⟨hfirst, hmore⟩ := List.cons.inj hkept
    exact hroot ⟨hfirst.symm, hmore.symm⟩

/-- **The parent of a name below a directory is the directory**, and its text begins that of the
directory.  It is empty only for the empty directory. -/
theorem parent?_join {name : Text} (hname : '/' ∉ name) (hstep : isIdle name = false)
    (dir : Text) :
    ∃ parent, parent? (join dir name) = some parent ∧ Same parent dir ∧ parent <+: dir ∧
      (parent = [] ↔ dir = []) := by
  cases hdir : piecesAbove dir with
  | nil =>
    obtain rfl := piecesAbove_eq_nil_iff.mp hdir
    refine ⟨[], ?_, ⟨rfl, Iff.rfl, rfl⟩, List.prefix_rfl, Iff.rfl⟩
    have hne : name ≠ [] := by
      rintro rfl
      cases hstep
    rw [parent?, pieces_join hname, hdir]
    simp [hne]
  | cons first more =>
    have hne : dir ≠ [] := by
      rintro rfl
      cases hdir
    rw [parent?_join_eq hname hstep hdir]
    split
    · next hroot =>
      obtain ⟨rfl, hidle⟩ := hroot
      obtain ⟨hsame, hbegins⟩ := same_root hdir hidle
      exact ⟨['/'], rfl, hsame, hbegins, iff_of_false (List.cons_ne_nil _ _) hne⟩
    · next hroot =>
      obtain ⟨hsame, hbegins, hkept⟩ := same_kept hdir hroot
      exact ⟨_, rfl, hsame, hbegins, iff_of_false hkept hne⟩

theorem fileName?_join {name : Text} (hname : '/' ∉ name) (hstep : isIdle name = false)
    (hback : name ≠ ['.', '.']) (dir : Text) : fileName? (join dir name) = some name := by
  rw [fileName?, names_join hname hstep, List.getLast?_concat]
  simp [hback]

/-! ## 5. Paths that end in a name -/

/-- The last piece of a path leads somewhere: no slash or dot stands behind the last name. -/
def EndsInName (path : Text) : Prop :=
  ∀ piece, (pieces path).getLast? = some piece → isIdle piece = false

instance (path : Text) : Decidable (EndsInName path) :=
  decidable_of_iff ((pieces path).getLast?.all (fun piece => !isIdle piece) = true) <| by
    simp [EndsInName, Option.all_eq_true]

/-- A path that ends in a name is that name below a directory. -/
theorem EndsInName.exists_join {path : Text} (h : EndsInName path) :
    ∃ dir name, path = join dir name ∧ '/' ∉ name ∧ isIdle name = false := by
  by_cases hslash : '/' ∈ path
  · -- the last slash is the first from behind
    obtain ⟨front, back, hpath, hfront⟩ :=
      List.eq_append_cons_of_mem (List.mem_reverse.mpr hslash)
    have hname : '/' ∉ front.reverse := fun hm => hfront (List.mem_reverse.mp hm)
    have hsplit : path = back.reverse ++ '/' :: front.reverse := by
      rw [← List.reverse_reverse path, hpath]
      simp
    refine ⟨back.reverse ++ ['/'], front.reverse, ?_, hname, h _ ?_⟩
    · rw [join, isAbsolute_of_not_mem hname, if_neg Bool.false_ne_true,
        if_pos (Or.inr List.getLast?_concat), hsplit, List.append_assoc, List.singleton_append]
    · rw [hsplit, pieces_append_slash, pieces_of_not_mem hname, List.getLast?_concat]
  · refine ⟨[], path, ?_, hslash, h _ ?_⟩
    · rw [join, isAbsolute_of_not_mem hslash, if_neg Bool.false_ne_true, if_pos (Or.inl rfl),
        List.nil_append]
    · rw [pieces_of_not_mem hslash, List.getLast?_singleton]

/-- The parent of a name below a directory ends in a name as well, or has none. -/
theorem endsInName_or_of_parent?_join {name : Text} (hname : '/' ∉ name)
    (hstep : isIdle name = false) {dir parent : Text}
    (h : parent? (join dir name) = some parent) : EndsInName parent ∨ names parent = [] := by
  cases hdir : piecesAbove dir with
  | nil =>
    obtain ⟨parent', hparent, -, -, hempty⟩ := parent?_join hname hstep dir
    rw [hparent] at h
    cases h
    rw [hempty.mpr (piecesAbove_eq_nil_iff.mp hdir)]
    exact Or.inr rfl
  | cons first more =>
    rw [parent?_join_eq hname hstep hdir] at h
    split at h
    · cases h
      exact Or.inr rfl
    · next hroot =>
      cases h
      have hslash : ∀ p ∈ first :: more, '/' ∉ p := fun p hp =>
        not_mem_of_mem_pieces ((piecesAbove_isPrefix dir).subset (hdir ▸ hp))
      obtain ⟨hpieces, -, -⟩ := pieces_join_kept hslash hroot
      by_cases hlast : isIdle ((first :: more.rdropWhile isIdle).getLast (List.cons_ne_nil _ _))
      · -- an idle piece is left only if it is the first
        refine Or.inr ?_
        have hmore : more.rdropWhile isIdle = [] := by
          by_contra hne
          rw [List.getLast_cons hne] at hlast
          exact List.rdropWhile_last_not isIdle more hne hlast
        rw [names_eq_of_pieces hpieces]
        simp only [hmore, List.getLast_singleton] at hlast ⊢
        rw [List.filter_cons_of_neg (by simp [hlast]), List.filter_nil]
      · refine Or.inl fun piece hpiece => ?_
        rw [hpieces, List.getLast?_eq_some_getLast (List.cons_ne_nil _ _)] at hpiece
        rw [← Option.some.inj hpiece]
        simpa using hlast

end Manpage.Path
