/-
# Which fragments an applet gets

An applet gets its description and every further section that lies in the directory under its name,
in the order of the file names, and nothing else (`load_selects`).  The names of the directory and
of the applet are taken as they are, so neither can make a section of another applet match; only an
applet whose name continues with a hyphen shares sections with it.

A directory that is written as names is one that the search along the way finds (`includePaths_eq`).
The way itself never fails there, but asking for a file may: a path or a name may be too long or
hold a NUL (`Askable`).  A description with such a name is not missing, it is a fault, although no
file has the name.
-/
import Manpage.Proofs.Batch.Reading
import Manpage.Proofs.Results

namespace Manpage

open Files

/-! ## 1. Files by name -/

namespace Files

/-- A name that leads a step further down. -/
structure IsStep (name : Text) : Prop where
  no_slash : '/' ∉ name
  forward : name ≠ [] ∧ name ≠ ['.'] ∧ name ≠ ['.', '.']

instance (name : Text) : Decidable (IsStep name) :=
  decidable_of_iff ('/' ∉ name ∧ name ≠ [] ∧ name ≠ ['.'] ∧ name ≠ ['.', '.'])
    ⟨fun h => ⟨h.1, h.2⟩, fun h => ⟨h.no_slash, h.forward⟩⟩

theorem IsStep.isIdle {name : Text} (h : IsStep name) : Path.isIdle name = false := by
  simp [Path.isIdle, h.forward.1, h.forward.2.1]

theorem IsStep.join_ne_nil {name : Text} (h : IsStep name) (dir : Text) :
    Path.join dir name ≠ [] := by
  have hlength := Path.length_lt_join h.no_slash h.forward.1 dir
  exact List.ne_nil_of_length_pos (by omega)

/-- A name in a directory that can be asked for. -/
structure Askable (dir name : Text) : Prop where
  no_nul : '\x00' ∉ Path.join dir name
  short_path : (Utf8.encode (Path.join dir name)).length ≤ pathLimit
  short_name : (Utf8.encode name).length ≤ nameLimit

theorem Askable.checkPath_join {dir name : Text} (h : Askable dir name) (hname : IsStep name) :
    checkPath (Path.join dir name) = .ok () := by
  rw [checkPath, if_neg h.no_nul, if_neg (hname.join_ne_nil dir),
    if_neg (Nat.not_lt_of_le h.short_path)]

/-- A regular file with a text in it. -/
def HoldsText (files : Files) (l : Location) (text : Text) : Prop :=
  ∃ mode content, files.get? l = some (.file mode content) ∧ Utf8.decode? content = some text

section Read

variable {files : Files} {cwd d : Location} {dir name : Text} (hname : IsStep name)
  (hd : files.directoryAt cwd dir = .ok d)

include hname hd

/-- **What reading a name in a directory comes to.** -/
theorem readText_join :
    (¬Askable dir name ∧ (files.readText cwd (Path.join dir name) = .error .nulInPath ∨
        files.readText cwd (Path.join dir name) = .error .nameTooLong)) ∨
      Askable dir name ∧ files.readText cwd (Path.join dir name) =
        match files.get? (d ++ [name]) with
        | none => .error .notFound
        | some .directory => .error .isDirectory
        | some (.file _ content) =>
          match Utf8.decode? content with
          | some text => .ok text
          | none => .error .notText := by
  rw [readText, readBytes, stat, locate_join hname.no_slash hname.isIdle hname.forward.2.2, hd,
    checkPath, if_neg (hname.join_ne_nil dir)]
  by_cases hnul : '\x00' ∈ Path.join dir name
  · exact .inl ⟨fun h => h.no_nul hnul, .inl (by rw [if_pos hnul]; rfl)⟩
  · rw [if_neg hnul]
    by_cases hlong : pathLimit < (Utf8.encode (Path.join dir name)).length
    · exact .inl ⟨fun h => absurd h.short_path (by omega), .inr (by rw [if_pos hlong]; rfl)⟩
    · rw [if_neg hlong]
      by_cases hwide : nameLimit < (Utf8.encode name).length
      · refine .inl ⟨fun h => absurd h.short_name (by omega), .inr ?_⟩
        simp only [bind, Except.bind, if_pos hwide]
      · refine .inr ⟨⟨hnul, by omega, by omega⟩, ?_⟩
        simp only [bind, Except.bind, if_neg hwide]
        cases files.get? (d ++ [name]) with
        | none => rfl
        | some e => cases e <;> rfl

theorem readText_join_eq_ok_iff {text : Text} :
    files.readText cwd (Path.join dir name) = .ok text ↔
      Askable dir name ∧ files.HoldsText (d ++ [name]) text := by
  rcases readText_join hname hd with ⟨hnot, hread | hread⟩ | ⟨hask, hread⟩
  · simp [hread, hnot]
  · simp [hread, hnot]
  · rw [hread, HoldsText]
    cases files.get? (d ++ [name]) with
    | none => simp
    | some e =>
      cases e with
      | directory => simp
      | file mode content =>
        cases hdecode : Utf8.decode? content with
        | none => simp [hdecode]
        | some read => simp [hask, hdecode]

theorem readText_join_eq_notFound_iff :
    files.readText cwd (Path.join dir name) = .error .notFound ↔
      Askable dir name ∧ files.get? (d ++ [name]) = none := by
  rcases readText_join hname hd with ⟨hnot, hread | hread⟩ | ⟨hask, hread⟩
  · simp [hread, hnot]
  · simp [hread, hnot]
  · rw [hread]
    cases files.get? (d ++ [name]) with
    | none => simp [hask]
    | some e =>
      cases e with
      | directory => simp
      | file mode content => cases hdecode : Utf8.decode? content <;> simp [hdecode]

end Read

end Files

namespace Fragments

/-! ## 2. Shared names -/

/-- **Two applets share the name of a section only if one continues the other with a hyphen.** -/
theorem continues_of_includeName_eq {a b m m' : Text} (hne : b ≠ a)
    (h : includeName a m = includeName b m') :
    (∃ rest, a = b ++ '-' :: rest) ∨ ∃ rest, b = a ++ '-' :: rest := by
  rcases List.append_eq_append_iff.mp h with ⟨t, hb, ht⟩ | ⟨t, ha, ht⟩
  · cases t with
    | nil => exact absurd (by rw [hb, List.append_nil]) hne
    | cons c t =>
      obtain ⟨rfl, -⟩ := List.cons.inj ht
      exact .inr ⟨t, hb⟩
  · cases t with
    | nil => exact absurd (by rw [ha, List.append_nil]) hne
    | cons c t =>
      obtain ⟨rfl, -⟩ := List.cons.inj ht
      exact .inl ⟨t, ha⟩

/-! ## 3. The way to a directory that is written as names -/

/-- A directory written as names with slashes between them, from the root or from the working
directory. -/
structure WrittenAs (dir : Text) (names : List Text) : Prop where
  any : names ≠ []
  steps : ∀ name ∈ names, IsStep name
  written : dir = Text.join ['/'] names ∨ dir = '/' :: Text.join ['/'] names

/-- What a way is written as after further steps. -/
theorem foldl_below_ne_nil {start : Text} (hstart : start ≠ []) {ps : List Text}
    (hps : ∀ p ∈ ps, IsStep p) : ps.foldl below start ≠ [] := by
  rcases List.eq_nil_or_concat' ps with rfl | ⟨ps, p, rfl⟩
  · exact hstart
  · have hp : IsStep p := hps p (by simp)
    rw [List.foldl_append, List.foldl_cons, List.foldl_nil, below]
    split
    · exact hp.forward.1
    · exact hp.join_ne_nil _

section Way

variable {files : Files} {cwd : Location}

theorem follow_step {way piece : Text} (hpiece : IsStep piece) {d : Location}
    (hd : files.directoryAt cwd (below way piece) = .ok d)
    (hcheck : checkPath (below way piece) = .ok ()) :
    follow files cwd way piece = some (below way piece) := by
  obtain ⟨-, hdot, hback⟩ := hpiece.forward
  rw [follow, if_neg (by simp [hdot, hback]), exists?, stat_of_directoryAt hd, hcheck]
  rfl

/-- **Steps down to a directory are all found**, if its path can be asked for. -/
theorem foldlM_follow {start : Text} (hstart : start ≠ []) {ps : List Text}
    (hps : ∀ p ∈ ps, IsStep p) {d : Location}
    (hd : files.directoryAt cwd (ps.foldl below start) = .ok d)
    (hcheck : checkPath (ps.foldl below start) = .ok ()) :
    ps.foldlM (follow files cwd) start = some (ps.foldl below start) := by
  induction ps using List.reverseRecOn generalizing d with
  | nil => rfl
  | append_singleton ps p ih =>
    have hp : IsStep p := hps p (by simp)
    have hbefore : ∀ q ∈ ps, IsStep q := fun q hq => hps q (List.mem_append_left _ hq)
    rw [List.foldl_append, List.foldl_cons, List.foldl_nil] at hd hcheck ⊢
    have hcheckWay : checkPath (ps.foldl below start) = .ok () := by
      by_cases hdot : ps.foldl below start = ['.']
      · rw [hdot]
        rfl
      · rw [below, if_neg hdot] at hcheck
        exact checkPath_of_isPrefix hcheck (Path.isPrefix_join hp.no_slash _)
          (foldl_below_ne_nil hstart hbefore)
    obtain ⟨d', hd'⟩ : ∃ d', files.directoryAt cwd (ps.foldl below start) = .ok d' := by
      rw [directoryAt_below hp.no_slash] at hd
      cases hway : files.directoryAt cwd (ps.foldl below start) with
      | ok d' => exact ⟨d', rfl⟩
      | error fault =>
        rw [hway] at hd
        cases hd
    rw [List.foldlM_append, ih hbefore hd' hcheckWay]
    simp only [List.foldlM_cons, List.foldlM_nil, Option.bind_eq_bind, Option.bind_some,
      follow_step hp hd hcheck, pure]

end Way

theorem endsInName_append_step (way : Text) {piece : Text} (h : IsStep piece) :
    Path.EndsInName (way ++ '/' :: piece) := by
  intro last hlast
  rw [Path.pieces_append_slash, Path.pieces_of_not_mem h.no_slash, List.getLast?_concat] at hlast
  exact Option.some.inj hlast ▸ h.isIdle

theorem endsInName_of_step {piece : Text} (h : IsStep piece) : Path.EndsInName piece := by
  intro last hlast
  rw [Path.pieces_of_not_mem h.no_slash, List.getLast?_singleton] at hlast
  exact Option.some.inj hlast ▸ h.isIdle

theorem ne_of_endsInName {way : Text} (h : Path.EndsInName way) : way ≠ [] ∧ way ≠ ['.'] := by
  constructor
  · rintro rfl
    cases h [] rfl
  · rintro rfl
    cases h ['.'] rfl

/-- What a step below a way that ends in a name is written as. -/
theorem below_eq_append {way piece : Text} (hway : Path.EndsInName way) (hpiece : IsStep piece) :
    below way piece = way ++ '/' :: piece := by
  obtain ⟨hempty, hdot⟩ := ne_of_endsInName hway
  have hslash : way.getLast? ≠ some '/' := by
    intro hlast
    obtain ⟨start, rfl⟩ := List.getLast?_eq_some_iff.mp hlast
    cases hway [] (by rw [Path.pieces_append_slash]; exact List.getLast?_concat)
  rw [below, if_neg hdot, Path.join, Path.isAbsolute_of_not_mem hpiece.no_slash,
    if_neg Bool.false_ne_true, if_neg (by simp [hempty, hslash])]

/-- Steps below a way are written behind it, with slashes between them. -/
theorem foldl_below_eq_join {way : Text} (hway : Path.EndsInName way) {ps : List Text}
    (hps : ∀ p ∈ ps, IsStep p) : ps.foldl below way = Text.join ['/'] (way :: ps) := by
  induction ps generalizing way with
  | nil => exact (Text.join_singleton _ _).symm
  | cons p ps ih =>
    obtain ⟨hp, hps⟩ := List.forall_mem_cons.mp hps
    rw [List.foldl_cons, below_eq_append hway hp, ih (endsInName_append_step way hp) hps]
    cases ps with
    | nil => simp
    | cons q ps => simp

/-- **The search along a directory that is written as names ends where it is written.** -/
theorem WrittenAs.search {dir applet : Text} {names : List Text} (h : WrittenAs dir names)
    (hslash : '/' ∉ applet) :
    ∃ start ≠ [], search dir applet = (start, names, applet) ∧ names.foldl below start = dir := by
  obtain ⟨first, rest, rfl⟩ := List.exists_cons_of_ne_nil h.any
  obtain ⟨hfirst, hrest⟩ := List.forall_mem_cons.mp h.steps
  obtain ⟨c, word, rfl⟩ := List.exists_cons_of_ne_nil hfirst.forward.1
  have hc : c ≠ '/' := fun e => hfirst.no_slash (e ▸ List.mem_cons_self)
  have hpieces : Path.pieces (Text.join ['/'] ((c :: word) :: rest)) = (c :: word) :: rest :=
    Path.pieces_join_slash h.any fun p hp => (h.steps p hp).no_slash
  have hjoin : Text.join ['/'] ((c :: word) :: rest) = c :: (word ++ rest.flatMap ('/' :: ·)) :=
    Text.join_append_cons ['/'] [] (c :: word) rest
  rcases h.written with rfl | rfl
  · refine ⟨['.'], by simp, ?_, ?_⟩
    · rw [search_eq (by rw [hjoin]; simp) hslash, hpieces, hjoin]
      simp [Path.isAbsolute, hc]
    · rw [List.foldl_cons, below, if_pos rfl, foldl_below_eq_join (endsInName_of_step hfirst) hrest]
  · refine ⟨['/'], by simp, ?_, ?_⟩
    · rw [search_eq (by simp) hslash, List.tail_cons, hpieces]
      simp [Path.isAbsolute]
    · have hbelow : below ['/'] (c :: word) = [] ++ '/' :: c :: word := by
        rw [below, if_neg (by decide), Path.join, Path.isAbsolute_of_not_mem hfirst.no_slash]
        rfl
      rw [List.foldl_cons, hbelow, foldl_below_eq_join (endsInName_append_step [] hfirst) hrest]
      cases rest <;> simp

theorem WrittenAs.endsInName {dir : Text} {names : List Text} (h : WrittenAs dir names) :
    Path.EndsInName dir := by
  have hjoin := Path.pieces_join_slash h.any fun p hp => (h.steps p hp).no_slash
  have hlast : (Path.pieces dir).getLast? = names.getLast? := by
    rcases h.written with rfl | rfl
    · rw [hjoin]
    · have hroot := Path.pieces_append_slash [] (Text.join ['/'] names)
      rw [List.nil_append] at hroot
      rw [hroot, hjoin, List.getLast?_append_of_ne_nil _ h.any]
  intro piece hpiece
  exact (h.steps piece (List.mem_of_getLast? (hlast ▸ hpiece))).isIdle

/-- The names of the further sections in a directory, in their order. -/
def sectionsIn (files : Files) (d : Location) (applet : Text) : List Text :=
  (files.namesIn d).filter (isInclude applet)

theorem mem_sectionsIn_iff {files : Files} {d : Location} {applet name : Text} :
    name ∈ sectionsIn files d applet ↔
      files.get? (d ++ [name]) ≠ none ∧ ∃ middle, name = includeName applet middle := by
  rw [sectionsIn, List.mem_filter, mem_namesIn_iff, isInclude_iff]

/-- **The further sections are those in the directory.** -/
theorem includePaths_eq {files : Files} {cwd d : Location} {dir applet : Text} {names : List Text}
    (h : WrittenAs dir names) (hslash : '/' ∉ applet) (hd : files.directoryAt cwd dir = .ok d)
    (hcheck : checkPath dir = .ok ()) :
    includePaths files cwd dir applet = (sectionsIn files d applet).map (Path.join dir) := by
  obtain ⟨start, hstart, hsearch, hway⟩ := h.search hslash
  have hfound : names.foldlM (follow files cwd) start = some dir := by
    have hfollow := foldlM_follow hstart h.steps (hway ▸ hd) (hway ▸ hcheck)
    rwa [hway] at hfollow
  have hbelow : below dir = Path.join dir :=
    funext fun name => if_neg (ne_of_endsInName h.endsInName).2
  rw [includePaths, hsearch]
  dsimp only
  rw [hfound]
  dsimp only
  rw [hbelow, listing, locate_of_directoryAt hd, hcheck]
  simp only [bind, Except.bind, get?_of_directoryAt hd, if_true, sectionsIn]

/-! ## 4. Reading -/

/-- A description is the text of its file, or empty where there is none. -/
theorem descriptionOf_eq_ok_iff {read : Except SystemFault Text} {description : Text} :
    descriptionOf read = .ok description ↔
      read = .error .notFound ∧ description = [] ∨
        ∃ text, read = .ok text ∧ description = Text.trimEnd text := by
  cases read with
  | ok text => simp [descriptionOf, ofDescription, eq_comm]
  | error fault => cases fault <;> simp [descriptionOf, eq_comm]

theorem inTree_eq_ok_iff {files : Files} {cwd : Location} {dir applet : Text} {f : Fragments} :
    inTree files cwd dir applet = .ok f ↔
      descriptionOf (files.readText cwd (descriptionPath dir applet)) = .ok f.description ∧
        readAll files cwd (includePaths files cwd dir applet) = .ok f.includes := by
  obtain ⟨description, includes⟩ := f
  rw [inTree]
  cases descriptionOf (files.readText cwd (descriptionPath dir applet)) with
  | error fault => simp
  | ok found =>
    cases readAll files cwd (includePaths files cwd dir applet) with
    | error failure => simp
    | ok contents => simp

/-- The file of a name in a directory can be asked for and gives a section of a page. -/
def Gives (files : Files) (d : Location) (dir name content : Text) : Prop :=
  Askable dir name ∧ ∃ text, files.HoldsText (d ++ [name]) text ∧
    content = Text.unlines ((Text.lines text).map Text.trimEnd)

theorem readAll_join_eq_ok_iff {files : Files} {cwd d : Location} {dir : Text}
    (hd : files.directoryAt cwd dir = .ok d) {names : List Text} (hnames : ∀ n ∈ names, IsStep n)
    {contents : List Text} :
    readAll files cwd (names.map (Path.join dir)) = .ok contents ↔
      List.Forall₂ (Gives files d dir) names contents := by
  induction names generalizing contents with
  | nil => simp [readAll, eq_comm]
  | cons name names ih =>
    obtain ⟨hname, hnames⟩ := List.forall_mem_cons.mp hnames
    rw [List.map_cons, readAll, List.forall₂_cons_left_iff]
    simp only [← ih hnames, Gives, ← exists_and_left, ← and_assoc,
      ← readText_join_eq_ok_iff hname hd]
    cases files.readText cwd (Path.join dir name) with
    | error fault => simp
    | ok text =>
      cases readAll files cwd (names.map (Path.join dir)) with
      | error failure => simp
      | ok rest => simp [ofInclude, eq_comm]

/-- The name of an applet's description. -/
def descriptionName (applet : Text) : Text := applet ++ ".desc".toList

/-- What the description of an applet is, by the file of its name. -/
def Described (files : Files) (d : Location) (applet description : Text) : Prop :=
  files.get? (d ++ [descriptionName applet]) = none ∧ description = [] ∨
    ∃ text, files.HoldsText (d ++ [descriptionName applet]) text ∧
      description = Text.trimEnd text

section Load

variable {files : Files} {cwd d : Location} {dir applet : Text} {names : List Text}
  (hdir : WrittenAs dir names) (hd : files.directoryAt cwd dir = .ok d)
  (hplain : files.PlainlyNamed) (ha : Applet.IsNormal applet)

include ha

theorem isStep_append {ending : Text} (hslash : '/' ∉ applet ++ ending) :
    IsStep (applet ++ ending) where
  no_slash := hslash
  forward := by
    have hidle := Batch.isIdle_append ha ending
    simp only [Path.isIdle, Bool.or_eq_false_iff, beq_eq_false_iff_ne] at hidle
    exact ⟨hidle.1, hidle.2, Batch.append_ne_back ha ending⟩

theorem isStep_descriptionName : IsStep (descriptionName applet) :=
  isStep_append ha (Batch.slash_not_mem_append ha (by decide))

include hplain in
theorem isStep_of_mem_sectionsIn {name : Text} (h : name ∈ sectionsIn files d applet) :
    IsStep name := by
  obtain ⟨hentry, middle, rfl⟩ := mem_sectionsIn_iff.mp h
  exact isStep_append ha (hplain _ hentry _ (List.mem_append_right d (List.mem_singleton_self _)))

include hd

theorem description_eq_ok_iff {description : Text} :
    descriptionOf (files.readText cwd (descriptionPath dir applet)) = .ok description ↔
      Askable dir (descriptionName applet) ∧ Described files d applet description := by
  have hstep := isStep_descriptionName ha
  rw [descriptionOf_eq_ok_iff, Described, and_or_left, ← and_assoc, descriptionPath,
    ← descriptionName, readText_join_eq_notFound_iff hstep hd]
  simp only [readText_join_eq_ok_iff hstep hd, and_assoc, exists_and_left]

include hplain hdir

/-- **What loading comes to**, by the files of the names that belong to the applet. -/
theorem inTree_eq_ok_iff_gives {f : Fragments} :
    inTree files cwd dir applet = .ok f ↔
      Askable dir (descriptionName applet) ∧ Described files d applet f.description ∧
        List.Forall₂ (Gives files d dir) (sectionsIn files d applet) f.includes := by
  rw [inTree_eq_ok_iff, description_eq_ok_iff hd ha, and_assoc]
  refine and_congr_right fun hask => and_congr_right fun _ => ?_
  have hname := isStep_descriptionName ha
  have hcheck : checkPath dir = .ok () := checkPath_of_isPrefix (hask.checkPath_join hname)
    (Path.isPrefix_join hname.no_slash dir) (ne_of_endsInName hdir.endsInName).1
  rw [includePaths_eq hdir ha.2.1 hd hcheck,
    readAll_join_eq_ok_iff hd fun name hname => isStep_of_mem_sectionsIn hplain ha hname]

theorem exists_inTree_eq_ok_iff :
    (∃ f, inTree files cwd dir applet = .ok f) ↔
      (Askable dir (descriptionName applet) ∧ ∃ description, Described files d applet description) ∧
        ∀ name ∈ sectionsIn files d applet, ∃ content, Gives files d dir name content := by
  simp only [inTree_eq_ok_iff_gives hdir hd hplain ha, ← exists_forall₂_iff]
  constructor
  · rintro ⟨f, hask, hdescribed, hgives⟩
    exact ⟨⟨hask, _, hdescribed⟩, _, hgives⟩
  · rintro ⟨⟨hask, description, hdescribed⟩, includes, hgives⟩
    exact ⟨⟨description, includes⟩, hask, hdescribed, hgives⟩

end Load

/-- **An applet gets exactly its own fragments, in order.**  Loading succeeds when the description
is missing or a text, and every further section is a text, and all of them can be asked for.  Then
the description is the text without the white space at its end, and there is one section for each
file of a name that belongs to the applet, in the byte order of the names, with the white space at
the end of each line taken off.  A name belongs to two applets only if one continues the other with
a hyphen. -/
theorem load_selects {site : Site} {w : World} {dir applet : Text} {names : List Text}
    {d : Location} (hdir : WrittenAs dir names) (hd : w.files.directoryAt site.cwd dir = .ok d)
    (hplain : w.files.PlainlyNamed) (ha : Applet.IsNormal applet) :
    ((∃ f, ((load dir applet).run site w).1 = .ok f) ↔
        (Askable dir (descriptionName applet) ∧
          (w.files.get? (d ++ [descriptionName applet]) = none ∨
            ∃ text, w.files.HoldsText (d ++ [descriptionName applet]) text)) ∧
        ∀ middle, w.files.get? (d ++ [includeName applet middle]) ≠ none →
          Askable dir (includeName applet middle) ∧
            ∃ text, w.files.HoldsText (d ++ [includeName applet middle]) text) ∧
      (∀ f, ((load dir applet).run site w).1 = .ok f →
        Described w.files d applet f.description ∧
        ∃ sections : List Text,
          sections.Pairwise (fun m n => Utf8.before (Utf8.encode m) (Utf8.encode n) = true) ∧
          (∀ name, name ∈ sections ↔
            w.files.get? (d ++ [name]) ≠ none ∧ ∃ middle, name = includeName applet middle) ∧
          List.Forall₂ (fun name content => ∃ text, w.files.HoldsText (d ++ [name]) text ∧
            content = Text.unlines ((Text.lines text).map Text.trimEnd)) sections f.includes) ∧
      ((load dir applet).run site w).2.files = w.files ∧
      ∀ other, other ≠ applet → ∀ m m', includeName applet m = includeName other m' →
        (∃ rest, applet = other ++ '-' :: rest) ∨ ∃ rest, other = applet ++ '-' :: rest := by
  obtain ⟨hresult, hfiles⟩ := run_load site dir applet w
  rw [hresult]
  refine ⟨?_, fun f hf => ?_, hfiles, fun other hne m m' => continues_of_includeName_eq hne⟩
  · rw [exists_inTree_eq_ok_iff hdir hd hplain ha]
    refine and_congr (and_congr_right fun _ => ?_) ?_
    · simp [Described, exists_or]
    · simp only [mem_sectionsIn_iff, Gives]
      constructor
      · intro h middle hentry
        obtain ⟨-, hask, text, htext, -⟩ := h _ ⟨hentry, middle, rfl⟩
        exact ⟨hask, text, htext⟩
      · rintro h _ ⟨hentry, middle, rfl⟩
        obtain ⟨hask, text, htext⟩ := h middle hentry
        exact ⟨_, hask, text, htext, rfl⟩
  · obtain ⟨-, hdescribed, hgives⟩ := (inTree_eq_ok_iff_gives hdir hd hplain ha).mp hf
    refine ⟨hdescribed, sectionsIn w.files d applet, ?_, fun name => mem_sectionsIn_iff,
      hgives.imp fun _ _ h => h.2⟩
    refine ((pairwise_namesIn w.files d).filter _).imp fun {m n} hmn => ?_
    rw [Utf8.before_encode, hmn]

/-- A directory with fragments of an applet whose name holds a star, and others beside them. -/
def starred : Files :=
  [("q*.desc", "all of it \n\n"), ("q*-b.include", ".SH B \nb\n"), ("q*--.include", ".SH A"),
    ("qx-1.include", ".SH X"), ("q*.include", ".SH Q")].foldl
    (fun files (name, text) => files.put ["i[n]*".toList, name.toList]
      (.file 0o644 (Utf8.encode text.toList)))
    (Files.empty.put ["i[n]*".toList] .directory)

/-- The root, with a help source that is not asked. -/
def atRoot : Site := ⟨[], HelpSource.ofFunction fun _ => .ok []⟩

/-- Of the sections beside the description of `q*` two are its own, and one of these is a section of
`q*-` too. -/
theorem load_selects_starred :
    ((load "i[n]*".toList "q*".toList).run atRoot ⟨starred, [], []⟩).1
        = .ok ⟨"all of it".toList, [".SH A".toList, ".SH B\nb".toList]⟩ ∧
      Described starred ["i[n]*".toList] "q*".toList "all of it".toList ∧
      includeName "q*".toList "-".toList = includeName "q*-".toList [] ∧
      ((∃ rest, "q*".toList = "q*-".toList ++ '-' :: rest) ∨
        ∃ rest, "q*-".toList = "q*".toList ++ '-' :: rest) := by
  have hdir : WrittenAs "i[n]*".toList ["i[n]*".toList] := ⟨by decide, by decide, .inl rfl⟩
  have hrun : ((load "i[n]*".toList "q*".toList).run atRoot ⟨starred, [], []⟩).1
      = .ok ⟨"all of it".toList, [".SH A".toList, ".SH B\nb".toList]⟩ := by decide +kernel
  have hd : starred.directoryAt atRoot.cwd "i[n]*".toList = .ok ["i[n]*".toList] := by
    decide +kernel
  have hplain : starred.PlainlyNamed := by decide +kernel
  have ha : Applet.IsNormal "q*".toList := by decide
  obtain ⟨-, hloaded, -, hshared⟩ := load_selects (w := ⟨starred, [], []⟩) hdir hd hplain ha
  exact ⟨hrun, (hloaded _ hrun).1, by decide, hshared "q*-".toList (by decide) ['-'] [] (by decide)⟩

/-! ## 5. Names that are too long -/

/-- A name that is as long as a name may be but for four letters. -/
def longName : Text := List.replicate 251 'a'

/-- A directory with nothing in it. -/
def bare : Files := Files.empty.put ["inc".toList] .directory

theorem get?_bare (name : Text) : bare.get? (["inc".toList] ++ [name]) = none := by
  rw [bare, get?_put, if_neg (by simp)]
  rfl

/-- **A description that no directory can hold is not missing.**  There is no file at all, and still
nothing is loaded, as the name of the description is too long to be asked for. -/
theorem not_load_longName :
    WrittenAs "inc".toList ["inc".toList] ∧
      bare.directoryAt atRoot.cwd "inc".toList = .ok ["inc".toList] ∧ bare.PlainlyNamed ∧
      Applet.IsNormal longName ∧
      ¬((∃ f, ((load "inc".toList longName).run atRoot ⟨bare, [], []⟩).1 = .ok f) ↔
        (bare.get? (["inc".toList] ++ [descriptionName longName]) = none ∨
          ∃ text, bare.HoldsText (["inc".toList] ++ [descriptionName longName]) text) ∧
        ∀ middle, bare.get? (["inc".toList] ++ [includeName longName middle]) ≠ none →
          ∃ text, bare.HoldsText (["inc".toList] ++ [includeName longName middle]) text) := by
  have hdir : WrittenAs "inc".toList ["inc".toList] := ⟨by decide, by decide, .inl rfl⟩
  have hd : bare.directoryAt atRoot.cwd "inc".toList = .ok ["inc".toList] := by decide +kernel
  have hplain : bare.PlainlyNamed := by decide +kernel
  have ha : Applet.IsNormal longName := by decide +kernel
  refine ⟨hdir, hd, hplain, ha, fun hiff => ?_⟩
  obtain ⟨f, hf⟩ := hiff.mpr ⟨.inl (get?_bare _), fun middle hentry => absurd (get?_bare _) hentry⟩
  rw [(run_load atRoot "inc".toList longName ⟨bare, [], []⟩).1] at hf
  obtain ⟨hask, -⟩ := (inTree_eq_ok_iff_gives hdir hd hplain ha).mp hf
  have hlong : ¬(Utf8.encode (descriptionName longName)).length ≤ nameLimit := by decide +kernel
  exact hlong hask.short_name

end Fragments

end Manpage
