/-
# What the work on an applet reads

While pages are made, only two kinds of locations change: the pages themselves and the staged files,
both in the output directory (`Contested`).  What the work on an applet reads is of neither kind: it
follows the way to the fragments through directories, looks for names of further sections, and reads
files with such names.  So it reads the same in trees that agree elsewhere (`Alike`), even if the
fragments lie in the output directory or the way to them leads through it.
-/
import Manpage.Proofs.Batch.Turn
import Manpage.Proofs.Files.Listing
import Manpage.Proofs.Program.Interleaved

namespace Manpage

open Files

/-- No name in a tree holds a slash. -/
def Files.PlainlyNamed (files : Files) : Prop :=
  ∀ l, files.get? l ≠ none → ∀ name ∈ l, '/' ∉ name

theorem Files.plainlyNamed_iff {files : Files} :
    files.PlainlyNamed ↔ ∀ x ∈ files.entries, ∀ name ∈ x.1, '/' ∉ name := by
  constructor
  · rintro h ⟨l, e⟩ hx
    refine h l ?_
    rw [get?, if_neg (files.noRoot _ hx), entryAt_eq_some_of_mem files.sorted hx]
    exact Option.some_ne_none e
  · intro h l hl name hname
    have hmem := mem_entries_of_get? (List.ne_nil_of_mem hname) hl
    obtain ⟨x, hx, rfl⟩ := List.mem_map.mp hmem
    exact h x hx name hname

instance (files : Files) : Decidable files.PlainlyNamed :=
  decidable_of_iff' _ Files.plainlyNamed_iff

/-! ## 1. Trees that differ in pages alone -/

/-- A name that a staged file may have. -/
def IsTemporary (name : Text) : Prop := ∃ middle, name = temporaryName middle

theorem isTemporary_stagedName (number : Nat) (tag : Text) :
    IsTemporary (stagedName number tag) :=
  ⟨Text.ofNat number ++ '-' :: tag,
    congrArg (· ++ ".tmp".toList) (List.append_assoc _ (Text.ofNat number) ('-' :: tag))⟩

/-- A location of a page or of a staged file in the output directory. -/
def Contested (out l : Location) : Prop :=
  ∃ name, l = out ++ [name] ∧ (IsTemporary name ∨ ∃ stem, name = Batch.pageName stem)

theorem head?_of_isTemporary {name : Text} (h : IsTemporary name) : name.head? = some '.' := by
  obtain ⟨middle, rfl⟩ := h
  rfl

theorem getLast?_of_isTemporary {name : Text} (h : IsTemporary name) :
    name.getLast? = some 'p' := by
  obtain ⟨middle, rfl⟩ := h
  exact Text.getLast?_append_of_eq_some rfl _

theorem getLast?_pageName (stem : Text) : (Batch.pageName stem).getLast? = some '1' :=
  Text.getLast?_append_of_eq_some rfl stem

/-- A name with neither the beginning of a staged file nor the ending of a page is not contested. -/
theorem not_contested {out d : Location} {name : Text} (hhead : name.head? ≠ some '.')
    (hlast : name.getLast? ≠ some '1') : ¬Contested out (d ++ [name]) := by
  rintro ⟨other, heq, hkind⟩
  obtain rfl : name = other := List.singleton_inj.mp (List.append_inj_right' heq rfl)
  rcases hkind with htemporary | ⟨stem, hpage⟩
  · exact hhead (head?_of_isTemporary htemporary)
  · exact hlast (hpage ▸ getLast?_pageName stem)

/-- Two trees with the same directories that agree wherever nothing is contested. -/
structure Alike (out : Location) (a b : Files) : Prop where
  directories : ∀ l, b.get? l = some .directory ↔ a.get? l = some .directory
  elsewhere : ∀ l, ¬Contested out l → b.get? l = a.get? l

namespace Alike

variable {out : Location} {a b c : Files}

theorem refl (out : Location) (a : Files) : Alike out a a := ⟨fun _ => Iff.rfl, fun _ _ => rfl⟩

theorem trans (hab : Alike out a b) (hbc : Alike out b c) : Alike out a c where
  directories l := (hbc.directories l).trans (hab.directories l)
  elsewhere l hl := (hbc.elsewhere l hl).trans (hab.elsewhere l hl)

theorem directoryAt (h : Alike out a b) {cwd d : Location} {path : Text}
    (hd : a.directoryAt cwd path = .ok d) : b.directoryAt cwd path = .ok d :=
  directoryAt_of_keepsDirectories (fun l => (h.directories l).mpr) hd

/-- A file that is not contested reads the same. -/
theorem readText_join (h : Alike out a b) {name : Text} (hname : '/' ∉ name)
    (hhead : name.head? ≠ some '.') (hne : name ≠ []) (hlast : name.getLast? ≠ some '1')
    {cwd d : Location} {dir : Text} (hd : a.directoryAt cwd dir = .ok d) :
    b.readText cwd (Path.join dir name) = a.readText cwd (Path.join dir name) := by
  have hstep : Path.isIdle name = false := by
    have hdot : name ≠ ['.'] := fun heq => hhead (heq ▸ rfl)
    simp [Path.isIdle, hne, hdot]
  have hback : name ≠ ['.', '.'] := fun heq => hhead (heq ▸ rfl)
  have hget : b.get? (d ++ [name]) = a.get? (d ++ [name]) :=
    h.elsewhere _ (not_contested hhead hlast)
  rw [readText, readText, readBytes, readBytes, stat, stat, locate_join hname hstep hback,
    locate_join hname hstep hback, hd, h.directoryAt hd]
  cases checkPath (Path.join dir name) with
  | error fault => rfl
  | ok u =>
    simp only [bind, Except.bind]
    by_cases hlong : nameLimit < (Utf8.encode name).length
    · rw [if_pos hlong]
    · rw [if_neg hlong]
      dsimp only
      rw [hget]

end Alike

/-! ## 2. The way to the fragments -/

namespace Fragments

variable {out cwd : Location} {a b : Files}

/-- What has a name on the way is what has the name in a directory, for the way may also begin
with nothing. -/
theorem exists_below_eq_join (way : Text) :
    ∃ dir, (∀ name, below way name = Path.join dir name) ∧
      ∀ (files : Files) (cwd : Location), files.directoryAt cwd dir = files.directoryAt cwd way := by
  by_cases h : way = ['.']
  · subst h
    refine ⟨[], fun name => ?_, fun files cwd => directoryAt_congr rfl rfl cwd⟩
    rw [below, if_pos rfl, Path.join]
    split <;> rfl
  · exact ⟨way, fun name => if_neg h, fun _ _ => rfl⟩

theorem directoryAt_below {piece : Text} (hpiece : '/' ∉ piece) (files : Files) (cwd : Location)
    (way : Text) :
    files.directoryAt cwd (below way piece)
      = files.directoryAt cwd way >>= fun d => files.walk d [piece, []] := by
  obtain ⟨dir, hbelow, hdir⟩ := exists_below_eq_join way
  rw [hbelow, directoryAt_join hpiece, hdir]

/-- Along directories, one step comes to the same in both trees. -/
theorem follow_alike (h : Alike out a b) {way piece : Text} {d d' : Location}
    (hpiece : '/' ∉ piece) (hway : a.directoryAt cwd way = .ok d)
    (hstep : a.walk d [piece, []] = .ok d') :
    follow b cwd way piece = follow a cwd way piece ∧
      a.directoryAt cwd (below way piece) = .ok d' := by
  have hbelow : a.directoryAt cwd (below way piece) = .ok d' := by
    rw [directoryAt_below hpiece, hway]
    exact hstep
  refine ⟨?_, hbelow⟩
  rw [follow, follow, isDirectory, isDirectory, exists?, exists?, stat_of_directoryAt hway,
    stat_of_directoryAt hbelow, stat_of_directoryAt (h.directoryAt hway),
    stat_of_directoryAt (h.directoryAt hbelow)]

/-- **Along directories, the whole way comes to the same**, and it ends in the directory. -/
theorem foldlM_follow_alike (h : Alike out a b) {ps : List Text} (hps : ∀ p ∈ ps, '/' ∉ p)
    {way : Text} {d d' : Location} (hway : a.directoryAt cwd way = .ok d)
    (hwalk : a.walk d (ps ++ [[]]) = .ok d') :
    ps.foldlM (follow b cwd) way = ps.foldlM (follow a cwd) way ∧
      ∀ last, ps.foldlM (follow a cwd) way = some last → a.directoryAt cwd last = .ok d' := by
  induction ps generalizing way d with
  | nil =>
    obtain ⟨rfl, -⟩ := walk_empty_eq_ok_iff.mp hwalk
    refine ⟨rfl, fun last hlast => ?_⟩
    cases hlast
    exact hway
  | cons p ps ih =>
    obtain ⟨hp, hps⟩ := List.forall_mem_cons.mp hps
    rw [List.cons_append, ← List.singleton_append, walk_append] at hwalk
    cases hfirst : a.walk d [p] with
    | error fault =>
      rw [hfirst] at hwalk
      cases hwalk
    | ok d₁ =>
      rw [hfirst] at hwalk
      change a.walk d₁ (ps ++ [[]]) = .ok d' at hwalk
      obtain ⟨q, qs, hqs⟩ := List.exists_cons_of_ne_nil (l := ps ++ [[]]) (by simp)
      have hd₁ : a.get? d₁ = some .directory := get?_of_walk_cons (hqs ▸ hwalk)
      have hstep : a.walk d [p, []] = .ok d₁ := by
        rw [← List.singleton_append, walk_append, hfirst]
        exact walk_empty_eq_ok_iff.mpr ⟨rfl, hd₁⟩
      obtain ⟨hfollow, hnext⟩ := follow_alike h hp hway hstep
      rw [List.foldlM_cons, List.foldlM_cons, hfollow]
      cases hone : follow a cwd way p with
      | none => exact ⟨rfl, fun last hlast => by cases hlast⟩
      | some next =>
        obtain rfl : next = below way p := by
          rw [follow] at hone
          split_ifs at hone <;> exact (Option.some.inj hone).symm
        exact ih hps hnext hwalk

/-- The way to look for further sections along is that to the directory, from the root or from the
working directory. -/
theorem search_eq {dir applet : Text} (hdir : dir ≠ []) (hslash : '/' ∉ applet) :
    search dir applet =
      if Path.isAbsolute dir then (['/'], Path.pieces dir.tail, applet)
      else (['.'], Path.pieces dir, applet) := by
  obtain ⟨c, rest, rfl⟩ := List.exists_cons_of_ne_nil hdir
  have hsplit (s : Text) : Path.pieces (s ++ '/' :: applet) = Path.pieces s ++ [applet] := by
    rw [Path.pieces_append_slash, Path.pieces_of_not_mem hslash]
  have hwhole : Path.isAbsolute ((c :: rest) ++ '/' :: applet) = Path.isAbsolute (c :: rest) := rfl
  rw [search, hwhole]
  cases Path.isAbsolute (c :: rest) with
  | false =>
    simp only [Bool.false_eq_true, if_false, hsplit, List.dropLast_concat, List.getLast?_concat,
      Option.getD_some]
  | true =>
    simp only [if_true, List.cons_append, List.tail_cons, hsplit, List.dropLast_concat,
      List.getLast?_concat, Option.getD_some]

/-- The way to look for further sections along begins in a directory and leads to the one given. -/
theorem search_of_directoryAt {dir applet : Text} {d : Location} (hdir : dir ≠ [])
    (hslash : '/' ∉ applet) (hd : a.directoryAt cwd dir = .ok d) :
    ∃ start ps d₀, search dir applet = (start, ps, applet) ∧ (∀ p ∈ ps, '/' ∉ p) ∧
      a.directoryAt cwd start = .ok d₀ ∧ a.walk d₀ (ps ++ [[]]) = .ok d := by
  rw [directoryAt_eq_walk_pieces, origin] at hd
  rw [search_eq hdir hslash]
  cases habsolute : Path.isAbsolute dir with
  | false =>
    rw [habsolute] at hd
    refine ⟨['.'], Path.pieces dir, cwd, rfl, fun p hp => Path.not_mem_of_mem_pieces hp, ?_, hd⟩
    obtain ⟨p, ps, hps⟩ := List.exists_cons_of_ne_nil (l := Path.pieces dir ++ [[]]) (by simp)
    exact walk_empty_eq_ok_iff.mpr ⟨rfl, get?_of_walk_cons (hps ▸ hd)⟩
  | true =>
    obtain ⟨rest, rfl⟩ : ∃ rest, dir = '/' :: rest :=
      List.head?_eq_some_iff.mp (by simpa [Path.isAbsolute] using habsolute)
    rw [habsolute] at hd
    have hpieces : Path.pieces ('/' :: rest) = [] :: Path.pieces rest :=
      Path.pieces_append_slash [] rest
    rw [hpieces, List.cons_append, if_pos rfl, walk_idle rfl _ (by simp)] at hd
    exact ⟨['/'], Path.pieces rest, [], rfl, fun p hp => Path.not_mem_of_mem_pieces hp,
      walk_empty_eq_ok_iff.mpr ⟨rfl, get?_root a⟩, hd⟩

/-! ## 3. The fragments -/

/-- The name of a further section of an applet. -/
def includeName (applet middle : Text) : Text := applet ++ '-' :: (middle ++ ".include".toList)

theorem isInclude_iff {applet name : Text} :
    isInclude applet name = true ↔ ∃ middle, name = includeName applet middle := by
  rw [isInclude]
  constructor
  · intro h
    split at h
    · next rest hrest =>
      obtain rfl := Text.isPrefixOf?_eq_some_iff.mp hrest
      obtain ⟨middle, rfl⟩ := List.isSuffixOf_iff_suffix.mp h
      exact ⟨middle, by rw [includeName, List.append_assoc]; rfl⟩
    · cases h
  · rintro ⟨middle, rfl⟩
    have hrest : (applet ++ ['-']).isPrefixOf? (includeName applet middle)
        = some (middle ++ includeEnding) :=
      Text.isPrefixOf?_eq_some_iff.mpr (by rw [includeName, List.append_assoc]; rfl)
    rw [hrest]
    exact List.isSuffixOf_iff_suffix.mpr ⟨middle, rfl⟩

/-- The name of a further section is not contested. -/
theorem of_isInclude {applet name : Text} (h : Applet.IsNormal applet)
    (hname : isInclude applet name = true) :
    name ≠ [] ∧ name.head? ≠ some '.' ∧ name.getLast? ≠ some '1' := by
  obtain ⟨middle, rfl⟩ := isInclude_iff.mp hname
  refine ⟨by simp [includeName], Batch.head?_ne_dot h _, ?_⟩
  have hlast : (includeName applet middle).getLast? = some 'e' := by
    rw [includeName, List.append_cons, ← List.append_assoc]
    exact Text.getLast?_append_of_eq_some rfl _
  rw [hlast]
  decide

/-- The directory in which further sections are looked for lists the same of them. -/
theorem listing_alike (h : Alike out a b) {applet way : Text} (happlet : Applet.IsNormal applet)
    {d : Location} (hd : a.directoryAt cwd way = .ok d) :
    (b.listing cwd way).filter (isInclude applet) = (a.listing cwd way).filter (isInclude applet)
    := by
  rw [listing, listing, locate_of_directoryAt hd, locate_of_directoryAt (h.directoryAt hd)]
  cases checkPath way with
  | error fault => rfl
  | ok u =>
    simp only [bind, Except.bind, get?_of_directoryAt hd, get?_of_directoryAt (h.directoryAt hd),
      if_true]
    refine filter_namesIn_congr fun name hname => ?_
    obtain ⟨-, hhead, hlast⟩ := of_isInclude happlet hname
    exact h.elsewhere _ (not_contested hhead hlast)

section Load

variable {dir applet : Text} (happlet : Applet.IsNormal applet)
  (hdir : a.isDirectory cwd dir = true)

include happlet hdir

/-- The way to the fragments leads nowhere in all such trees, or to one directory. -/
theorem includePaths_cases (out : Location) :
    (∀ c, Alike out a c → includePaths c cwd dir applet = []) ∨
      ∃ way d, a.directoryAt cwd way = .ok d ∧ ∀ c, Alike out a c →
        includePaths c cwd dir applet
          = ((c.listing cwd way).filter (isInclude applet)).map (below way) := by
  obtain ⟨hcheck, d, hd⟩ := isDirectory_iff.mp hdir
  have hne : dir ≠ [] := by
    rintro rfl
    cases hcheck
  obtain ⟨start, ps, d₀, hsearch, hps, hstart, hwalk⟩ := search_of_directoryAt hne happlet.2.1 hd
  cases hway : ps.foldlM (follow a cwd) start with
  | none =>
    refine Or.inl fun c hc => ?_
    rw [includePaths, hsearch]
    dsimp only
    rw [(foldlM_follow_alike hc hps hstart hwalk).1, hway]
  | some way =>
    refine Or.inr ⟨way, d, (foldlM_follow_alike (.refl out a) hps hstart hwalk).2 way hway,
      fun c hc => ?_⟩
    rw [includePaths, hsearch]
    dsimp only
    rw [(foldlM_follow_alike hc hps hstart hwalk).1, hway]

variable (h : Alike out a b)

include h

/-- **The same further sections are found.** -/
theorem includePaths_alike : includePaths b cwd dir applet = includePaths a cwd dir applet := by
  rcases includePaths_cases happlet hdir out with hnone | ⟨way, d, hd, hpaths⟩
  · rw [hnone b h, hnone a (.refl out a)]
  · rw [hpaths b h, hpaths a (.refl out a), listing_alike h happlet hd]

/-- **A further section reads the same.** -/
theorem readText_include_alike (hnames : a.PlainlyNamed) {path : Text}
    (hpath : path ∈ includePaths a cwd dir applet) : b.readText cwd path = a.readText cwd path := by
  rcases includePaths_cases happlet hdir out with hnone | ⟨way, d, hd, hpaths⟩
  · rw [hnone a (.refl out a)] at hpath
    cases hpath
  · rw [hpaths a (.refl out a)] at hpath
    obtain ⟨name, hmem, rfl⟩ := List.mem_map.mp hpath
    obtain ⟨hlisted, hinclude⟩ := List.mem_filter.mp hmem
    obtain ⟨hne, hhead, hend⟩ := of_isInclude happlet hinclude
    obtain ⟨base, hbelow, hbase⟩ := exists_below_eq_join way
    rw [hbelow]
    refine h.readText_join ?_ hhead hne hend ((hbase a cwd).trans hd)
    -- the name is that of an entry
    rw [listing, locate_of_directoryAt hd] at hlisted
    cases hcheck : checkPath way with
    | error fault =>
      rw [hcheck] at hlisted
      cases hlisted
    | ok u =>
      simp only [hcheck, bind, Except.bind, get?_of_directoryAt hd, if_true] at hlisted
      exact hnames _ (mem_namesIn_iff.mp hlisted) name (by simp)

/-- **The description reads the same.** -/
theorem readText_description_alike :
    b.readText cwd (descriptionPath dir applet) = a.readText cwd (descriptionPath dir applet) := by
  obtain ⟨-, d, hd⟩ := isDirectory_iff.mp hdir
  refine h.readText_join (Batch.slash_not_mem_append happlet (by decide))
    (Batch.head?_ne_dot happlet _) (by simp) ?_ hd
  have hending : ".desc".toList.getLast? = some 'c' := rfl
  rw [Text.getLast?_append_of_eq_some hending]
  decide

end Load

end Fragments

end Manpage
