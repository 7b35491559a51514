/-
# The usage line as a search pattern

A usage line is what the pattern `^Usage: <applet> (.*) : (.*)$` matches, where `^` and `$` ask for
the ends of a line, the applet's name stands for itself, and `.` is any character but a line feed.
A pattern is searched for from left to right, and at the first place where it matches, the way to
match is the one that comes first when each group takes as much as it can and gives back one
character at a time (`SearchPattern.ways`).

Nothing of this search is left in the library: it goes from line to line and cuts each at its last
separator.  `find?_eq_search` proves that it finds the same, whatever the applet's name holds; and
for a name without line feeds `ofHelp_firstUsageLine` says what is found in terms of the lines
alone.
-/
import Manpage.Proofs.Help.Parsed

namespace Manpage

/-! ## 1. Search patterns -/

/-- A step of a search pattern. -/
inductive PatternStep
  /-- The place is at the start of a line. -/
  | lineStart
  /-- A text that stands for itself. -/
  | literal (s : Text)
  /-- Any number of characters, none of them a line feed; what is taken is remembered. -/
  | group
  /-- The place is at the end of a line. -/
  | lineEnd

/-- A search pattern: steps that follow each other. -/
abbrev SearchPattern := List PatternStep

namespace SearchPattern

open Text (isBreak restOfLine)

/-- What a group can take from the front of a text, and what it leaves: the longest first. -/
def runs : Text → List (Text × Text)
  | [] => [([], [])]
  | c :: s =>
    if isBreak c then [([], c :: s)]
    else (runs s).map (fun cut => (c :: cut.1, cut.2)) ++ [([], c :: s)]

/-- Whether a line starts behind a character; nothing stands before the first. -/
def startsLine (previous : Option Char) : Bool := previous.all isBreak

/-- The ways to match a pattern from a place on, in the order in which they are tried: what the
groups take in each.  `previous` is the character before the place. -/
def ways : SearchPattern → (previous : Option Char) → Text → List (List Text)
  | [], _, _ => [[]]
  | .lineStart :: p, previous, s => if startsLine previous then ways p previous s else []
  | .literal t :: p, previous, s =>
    match t.isPrefixOf? s with
    | none => []
    | some rest => ways p (t.getLast?.or previous) rest
  | .group :: p, previous, s =>
    (runs s).flatMap fun cut =>
      (ways p (cut.1.getLast?.or previous) cut.2).map (cut.1 :: ·)
  | .lineEnd :: p, previous, s => if s.head?.all isBreak then ways p previous s else []

section Ways

variable (p : SearchPattern) (previous : Option Char) (s : Text)

theorem ways_lineStart :
    ways (.lineStart :: p) previous s = if startsLine previous then ways p previous s else [] := rfl

theorem ways_literal (t : Text) :
    ways (.literal t :: p) previous s
      = (t.isPrefixOf? s).elim [] fun rest => ways p (t.getLast?.or previous) rest := by
  rw [ways]
  cases t.isPrefixOf? s <;> rfl

theorem ways_group :
    ways (.group :: p) previous s =
      (runs s).flatMap fun cut =>
        (ways p (cut.1.getLast?.or previous) cut.2).map (cut.1 :: ·) := rfl

@[simp] theorem ways_lineEnd :
    ways (.lineEnd :: p) previous s = if s.head?.all isBreak then ways p previous s else [] := rfl

@[simp] theorem ways_nil : ways [] previous s = [[]] := rfl

end Ways

/-- The groups of the first way to match at the first place where there is one. -/
def search (p : SearchPattern) : (previous : Option Char) → Text → Option (List Text)
  | previous, [] => (ways p previous []).head?
  | previous, c :: s => (ways p previous (c :: s)).head?.or (search p (some c) s)

/-! ## 2. Groups -/

/-- A group takes the next character first and nothing last. -/
theorem ways_group_cons {c : Char} (hc : isBreak c = false) (p : SearchPattern)
    (previous : Option Char) (s : Text) :
    ways (.group :: p) previous (c :: s)
      = (ways (.group :: p) (some c) s).map (Text.consFirst c)
        ++ (ways p previous (c :: s)).map ([] :: ·) := by
  have hlast : ∀ taken : Text,
      (c :: taken).getLast?.or previous = taken.getLast?.or (some c) := by
    intro taken
    cases taken with
    | nil => rfl
    | cons d taken =>
      rw [List.getLast?_cons_cons, List.getLast?_cons, Option.some_or, Option.some_or]
  rw [ways_group, ways_group, runs, hc]
  simp only [Bool.false_eq_true, if_false, List.flatMap_append, List.flatMap_map, hlast,
    List.map_flatMap, List.map_map, List.flatMap_cons, List.flatMap_nil, List.append_nil,
    List.getLast?_nil, Option.none_or]
  rfl

/-- At the end of a line a group takes nothing. -/
theorem ways_group_of_lineEnd {s : Text} (hs : s.head?.all isBreak = true) (p : SearchPattern)
    (previous : Option Char) :
    ways (.group :: p) previous s = (ways p previous s).map ([] :: ·) := by
  have hruns : runs s = [([], s)] := by
    cases s with
    | nil => rfl
    | cons c s => rw [runs, if_pos (by simpa using hs)]
  rw [ways_group, hruns]
  simp

/-- A group before the end of a line takes the rest of the line. -/
theorem ways_lastGroup (previous : Option Char) (s : Text) :
    ways [.group, .lineEnd] previous s = [[restOfLine s]] := by
  induction s generalizing previous with
  | nil => rfl
  | cons c s ih =>
    cases hc : isBreak c with
    | true =>
      rw [ways_group_of_lineEnd (by simpa using hc)]
      simp [hc, restOfLine]
    | false =>
      rw [ways_group_cons hc, ih]
      simp [hc, restOfLine, Text.consFirst]

/-- **A group before a separator takes what stands before the last one on the line**: the separator is
tried farther to the right first. -/
theorem head?_ways_separated {sep : Text} (hsep : '\n' ∉ sep) (hne : sep ≠ [])
    (previous : Option Char) (s : Text) :
    (ways [.group, .literal sep, .group, .lineEnd] previous s).head?
      = (Text.cutAtLast sep (restOfLine s)).map fun cut => [cut.1, cut.2] := by
  -- the ways in which the first group takes nothing
  have hliteral : ∀ (previous : Option Char) (s : Text),
      ways [.literal sep, .group, .lineEnd] previous s
        = ((sep.isPrefixOf? (restOfLine s)).map fun rest => [rest]).toList := by
    intro previous s
    rw [ways_literal, Text.isPrefixOf?_restOfLine hsep]
    cases sep.isPrefixOf? s with
    | none => rfl
    | some rest => exact ways_lastGroup _ rest
  induction s generalizing previous with
  | nil =>
    rw [ways_group_of_lineEnd rfl, hliteral]
    cases sep with
    | nil => exact absurd rfl hne
    | cons a sep => rfl
  | cons c s ih =>
    cases hc : isBreak c with
    | true =>
      rw [ways_group_of_lineEnd (by simpa using hc), hliteral]
      have hnothing : restOfLine (c :: s) = [] := by simp [restOfLine, hc]
      rw [hnothing]
      cases sep with
      | nil => exact absurd rfl hne
      | cons a sep => rfl
    | false =>
      have hmore : restOfLine (c :: s) = c :: restOfLine s := by simp [restOfLine, hc]
      rw [ways_group_cons hc, List.head?_append, List.head?_map, ih, hliteral, hmore,
        Text.cutAtLast]
      cases Text.cutAtLast sep (restOfLine s) with
      | some cut => rfl
      | none => cases sep.isPrefixOf? (c :: restOfLine s) <;> rfl

/-! ## 3. The place of the match -/

/-- A pattern that asks for the start of a line is searched for at the starts of the lines. -/
theorem search_eq_findSome? {p : SearchPattern} {f : Text → Option (List Text)}
    (hp : ∀ previous s, (ways p previous s).head? = if startsLine previous then f s else none)
    (previous : Option Char) (s : Text) :
    search p previous s
      = (if startsLine previous then Text.lineStarts s else Text.afterBreaks s).findSome? f := by
  induction s generalizing previous with
  | nil =>
    rw [search, hp]
    cases startsLine previous <;> simp [Text.lineStarts, Text.afterBreaks]
  | cons c s ih =>
    have hafter : (if startsLine (some c) then Text.lineStarts s else Text.afterBreaks s)
        = Text.afterBreaks (c :: s) := rfl
    rw [search, hp, ih, hafter]
    cases startsLine previous with
    | false => rfl
    | true =>
      simp only [if_true, Text.lineStarts, List.findSome?_cons]
      cases f (c :: s) <;> rfl

end SearchPattern

namespace Usage

open SearchPattern

/-! ## 4. The usage line -/

/-- The pattern of the usage line of an applet. -/
def pattern (applet : Text) : SearchPattern :=
  [.lineStart, .literal (opening applet), .group, .literal separator, .group, .lineEnd]

/-- The usage that the groups of a match give. -/
def ofGroups (groups : List Text) : Usage :=
  ⟨groups[0]?.getD [], Text.trimEnd (groups[1]?.getD [])⟩

theorem head?_ways_pattern (applet : Text) (previous : Option Char) (s : Text) :
    (ways (pattern applet) previous s).head? =
      if startsLine previous then
        ((opening applet).isPrefixOf? s).bind fun rest =>
          (Text.cutAtLast separator (Text.restOfLine rest)).map fun cut => [cut.1, cut.2]
      else none := by
  rw [pattern, ways_lineStart, ways_literal]
  cases startsLine previous with
  | false => rfl
  | true =>
    simp only [if_true]
    cases (opening applet).isPrefixOf? s with
    | none => rfl
    | some rest => exact head?_ways_separated (by decide) separator_ne_nil _ rest

/-- **Reading line by line finds what a search for the pattern finds.** -/
theorem find?_eq_search (applet help : Text) :
    find? applet help = (search (pattern applet) none help).map ofGroups := by
  have hstart : startsLine none = true := rfl
  rw [search_eq_findSome? (head?_ways_pattern applet), if_pos hstart, List.map_findSome?, find?]
  congr 1
  funext text
  rw [atLineStart?_eq_bind, Function.comp_apply]
  cases (opening applet).isPrefixOf? text with
  | none => rfl
  | some rest =>
    rw [Option.bind_some, Option.bind_some, Option.map_map, ofRest?]
    rfl

/-- A line that gives the usage of an applet: its opening, and a separator somewhere behind it. -/
def IsUsageLine (applet line : Text) : Prop :=
  ∃ before after, line = opening applet ++ (before ++ separator ++ after)

/-- The usage that a line gives: what stands before the last separator as it is, those that overlap
another included, and what stands behind it without the white space at its end. -/
structure Gives (applet line : Text) (usage : Usage) : Prop where
  divided : ∃ gap, line = opening applet ++ (usage.synopsis ++ separator ++ (usage.summary ++ gap)) ∧
    Text.blank gap = true ∧
    ∀ before after, usage.synopsis ++ separator ++ (usage.summary ++ gap)
      = before ++ separator ++ after → before.length ≤ usage.synopsis.length
  trimmed : ∀ c, usage.summary.getLast? = some c → Text.isBlank c = false

theorem atLineStart?_eq_some_iff {applet line : Text} (hl : '\n' ∉ line) {usage : Usage} :
    atLineStart? applet line = some usage ↔ Gives applet line usage := by
  have hrest : ∀ {rest : Text}, line = opening applet ++ rest → Text.restOfLine rest = rest :=
    fun h => Text.restOfLine_of_not_mem fun m => hl (h ▸ List.mem_append_right _ m)
  rw [atLineStart?_eq_bind, Option.bind_eq_some_iff]
  constructor
  · rintro ⟨rest, hopening, hdivided⟩
    have hline : line = opening applet ++ rest := Text.isPrefixOf?_eq_some_iff.mp hopening
    rw [hrest hline] at hdivided
    obtain ⟨summary, hcut, hsummary⟩ := ofRest?_eq_some_iff.mp hdivided
    obtain ⟨hparts, hmax⟩ := (Text.cutAtLast_eq_some_iff separator_ne_nil).mp hcut
    obtain ⟨⟨gap, rfl, hgap⟩, htrimmed⟩ := Text.dropEndWhile_eq_iff.mp hsummary.symm
    exact ⟨⟨gap, by rw [hline, hparts], List.all_eq_true.mpr hgap, hparts ▸ hmax⟩, htrimmed⟩
  · rintro ⟨⟨gap, hline, hgap, hmax⟩, htrimmed⟩
    refine ⟨_, Text.isPrefixOf?_eq_some_iff.mpr hline, ?_⟩
    rw [hrest hline, ofRest?_eq_some_iff]
    refine ⟨_, (Text.cutAtLast_eq_some_iff separator_ne_nil).mpr ⟨rfl, hmax⟩, ?_⟩
    exact (Text.dropEndWhile_eq_iff.mpr
      ⟨⟨gap, rfl, List.all_eq_true.mp hgap⟩, htrimmed⟩).symm

theorem atLineStart?_eq_none_iff {applet line : Text} (hl : '\n' ∉ line) :
    atLineStart? applet line = none ↔ ¬IsUsageLine applet line := by
  rw [atLineStart?_eq_bind]
  cases hopening : (opening applet).isPrefixOf? line with
  | none =>
    rw [Option.bind_none, eq_self_iff_true, true_iff]
    rintro ⟨before, after, hline⟩
    exact Text.isPrefixOf?_eq_none_iff.mp hopening _ hline
  | some rest =>
    have hline : line = opening applet ++ rest := Text.isPrefixOf?_eq_some_iff.mp hopening
    have hrest : '\n' ∉ rest := fun m => hl (hline ▸ List.mem_append_right _ m)
    rw [Option.bind_some, Text.restOfLine_of_not_mem hrest, ofRest?, Option.map_eq_none_iff,
      Text.cutAtLast_eq_none_iff separator_ne_nil, IsUsageLine, hline]
    simp only [List.append_cancel_left_eq, not_exists]

/-! ## 5. What is found -/

/-- What a search for the pattern makes of a help text; without a match its first line is quoted. -/
def ofSearch (applet help : Text) : Except Malformed Usage :=
  match search (pattern applet) none help with
  | some groups => .ok (ofGroups groups)
  | none => .error ⟨applet, Text.firstLine help, .noUsageLine⟩

theorem ofHelp_eq_ofSearch (applet help : Text) : ofHelp applet help = ofSearch applet help := by
  rw [ofHelp, find?_eq_search, ofSearch]
  cases search (pattern applet) none help with
  | none => rfl
  | some groups => rfl

theorem ofHelp_eq_error_iff {applet help : Text} {m : Malformed} :
    ofHelp applet help = .error m ↔
      find? applet help = none ∧ m = ⟨applet, Text.firstLine help, .noUsageLine⟩ := by
  rw [ofHelp]
  cases find? applet help with
  | some usage => simp
  | none => simp [eq_comm]

/-- **The usage of an applet is that of its first usage line**, as a search for the pattern finds it.
Lines end at line feeds alone here, and earlier lines that begin in the same way but have no
separator are passed over.  Without a usage line the help text is refused, and its first line is
quoted without a carriage return before the line feed. -/
theorem ofHelp_firstUsageLine {applet : Text} (ha : '\n' ∉ applet) (help : Text) :
    ofHelp applet help = ofSearch applet help ∧
      (∀ usage, ofHelp applet help = .ok usage ↔
        ∃ before line after, Text.cutAt Text.isBreak help = before ++ line :: after ∧
          (∀ l ∈ before, ¬IsUsageLine applet l) ∧ Gives applet line usage) ∧
      (∀ m, ofHelp applet help = .error m ↔
        (∀ l ∈ Text.cutAt Text.isBreak help, ¬IsUsageLine applet l) ∧
          m = ⟨applet, (Text.lines help).head?.getD [], .noUsageLine⟩) ∧
      Departure.noUsageLine.wording = "no usage line".toList := by
  have hlines : ∀ l ∈ Text.cutAt Text.isBreak help, '\n' ∉ l := by
    intro l hl hmem
    exact absurd (Text.not_mem_of_mem_cutAt hl '\n' hmem) (by decide)
  refine ⟨ofHelp_eq_ofSearch applet help, fun usage => ?_, fun m => ?_, rfl⟩
  · rw [ofHelp_eq_ok_iff, find?_eq_findSome? ha, List.findSome?_eq_some_iff]
    constructor
    · rintro ⟨before, line, after, hcut, hline, hbefore⟩
      rw [hcut] at hlines
      refine ⟨before, line, after, hcut, fun l hl => ?_, ?_⟩
      · exact (atLineStart?_eq_none_iff (hlines l (List.mem_append_left _ hl))).mp (hbefore l hl)
      · exact (atLineStart?_eq_some_iff (hlines line (by simp))).mp hline
    · rintro ⟨before, line, after, hcut, hbefore, hgives⟩
      rw [hcut] at hlines
      refine ⟨before, line, after, hcut, ?_, fun l hl => ?_⟩
      · exact (atLineStart?_eq_some_iff (hlines line (by simp))).mpr hgives
      · exact (atLineStart?_eq_none_iff (hlines l (List.mem_append_left _ hl))).mpr (hbefore l hl)
  · have hnone : find? applet help = none ↔
        ∀ l ∈ Text.cutAt Text.isBreak help, ¬IsUsageLine applet l := by
      rw [find?_eq_findSome? ha, List.findSome?_eq_none_iff]
      exact forall₂_congr fun l hl => atLineStart?_eq_none_iff (hlines l hl)
    rw [ofHelp_eq_error_iff, hnone, Text.firstLine, List.headD_eq_head?_getD]

/-- A name that is no pattern, below it lines that come close to a usage line, and one with separators
that overlap. -/
def overlapping : Text :=
  "q.(x\nUsage: q.(x none\nUsage: qa(x no : no\nUsage: q.(x a : : b : : c \t\r\nUsage: q.(x d : e".toList

/-- A text without a usage line, the first line of which ends in a carriage return. -/
def unseparated : Text := "Usage: q.(x a\r\nUsage: q.(x: b : c".toList

/-- The last of the separators divides, and what comes before the usage line is passed over. -/
theorem ofHelp_firstUsageLine_overlapping :
    '\n' ∉ "q.(x".toList ∧
      ofSearch "q.(x".toList overlapping = .ok ⟨"a : : b :".toList, "c".toList⟩ ∧
      (∃ before line after, Text.cutAt Text.isBreak overlapping = before ++ line :: after ∧
        (∀ l ∈ before, ¬IsUsageLine "q.(x".toList l) ∧
        Gives "q.(x".toList line ⟨"a : : b :".toList, "c".toList⟩) ∧
      ofSearch "q.(x".toList unseparated
        = .error ⟨"q.(x".toList, "Usage: q.(x a".toList, .noUsageLine⟩ ∧
      ∀ l ∈ Text.cutAt Text.isBreak unseparated, ¬IsUsageLine "q.(x".toList l := by
  have hname : '\n' ∉ "q.(x".toList := by decide
  have hfound : ofHelp "q.(x".toList overlapping = .ok ⟨"a : : b :".toList, "c".toList⟩ := by
    decide
  have hrefused : ofHelp "q.(x".toList unseparated
      = .error ⟨"q.(x".toList, "Usage: q.(x a".toList, .noUsageLine⟩ := by decide
  obtain ⟨hsearch, hok, -, -⟩ := ofHelp_firstUsageLine hname overlapping
  obtain ⟨hsearch', -, herror, -⟩ := ofHelp_firstUsageLine hname unseparated
  exact ⟨hname, hsearch ▸ hfound, (hok _).mp hfound, hsearch' ▸ hrefused,
    ((herror _).mp hrefused).1⟩

end Usage

end Manpage
