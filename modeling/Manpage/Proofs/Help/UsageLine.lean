/-
# The usage line among the lines of a help text

A usage line is recognised from the start of a line on, and the search for it works on the rest of
the whole text.  For an applet whose name holds no line feed this is a search through the pieces
between line feeds (`find?_eq_findSome?`).  A piece gives a usage if it begins with `opening` and
has a separator after that (`atLineStart?_eq_bind`, `ofRest?_eq_some_iff`).
-/
import Manpage.Help.Usage
import Manpage.Proofs.Text.Lines

namespace Manpage.Usage

variable {applet : Text}

/-! ## 1. One line -/

theorem separator_ne_nil : separator ≠ [] := by decide

/-- What a usage line of the applet begins with. -/
def opening (applet : Text) : Text := marker ++ applet ++ [' ']

theorem not_mem_opening {c : Char} (ha : c ∉ applet) (hmarker : c ∉ marker) (hspace : c ≠ ' ') :
    c ∉ opening applet := by
  simp [opening, ha, hmarker, hspace]

/-- The usage that the rest of a usage line gives, if there is a separator in it. -/
def ofRest? (rest : Text) : Option Usage :=
  (Text.cutAtLast separator rest).map fun cut => ⟨cut.1, Text.trimEnd cut.2⟩

/-- A usage line is its opening and a rest that gives the usage. -/
theorem atLineStart?_eq_bind (text : Text) :
    atLineStart? applet text =
      ((opening applet).isPrefixOf? text).bind fun rest => ofRest? (Text.restOfLine rest) := by
  unfold atLineStart? opening
  cases (marker ++ applet ++ [' ']).isPrefixOf? text with
  | none => rfl
  | some rest => rfl

/-- The line after the opening is cut at its last separator. -/
theorem ofRest?_eq_some_iff {rest : Text} {usage : Usage} :
    ofRest? rest = some usage ↔
      ∃ summary, Text.cutAtLast separator rest = some (usage.synopsis, summary) ∧
        usage.summary = Text.trimEnd summary := by
  unfold ofRest?
  constructor
  · intro h
    obtain ⟨⟨synopsis, summary⟩, hcut, rfl⟩ := Option.map_eq_some_iff.mp h
    exact ⟨summary, hcut, rfl⟩
  · rintro ⟨summary, hcut, hsummary⟩
    rw [hcut, Option.map_some, ← hsummary]

/-- Neither part of a usage that stands on one line holds a line feed. -/
theorem not_mem_of_ofRest? {rest : Text} {usage : Usage} (h : ofRest? rest = some usage)
    (hrest : '\n' ∉ rest) : '\n' ∉ usage.synopsis ∧ '\n' ∉ usage.summary := by
  obtain ⟨summary, hcut, hsummary⟩ := ofRest?_eq_some_iff.mp h
  have hparts := Text.eq_append_of_cutAtLast hcut
  constructor
  · intro hm
    exact hrest (hparts ▸ List.mem_append_left _ (List.mem_append_left _ hm))
  · intro hm
    have hm' : '\n' ∈ summary := (Text.dropEndWhile_isPrefix _ summary).subset (hsummary ▸ hm)
    exact hrest (hparts ▸ List.mem_append_right _ hm')

/-- Whether a line gives a usage does not depend on the lines below it. -/
theorem atLineStart?_append_break (ha : '\n' ∉ applet) {l : Text} (hl : '\n' ∉ l) (rest : Text) :
    atLineStart? applet (l ++ '\n' :: rest) = atLineStart? applet l := by
  have hopening : '\n' ∉ opening applet := not_mem_opening ha (by decide) (by decide)
  rw [atLineStart?_eq_bind, atLineStart?_eq_bind]
  cases h : (opening applet).isPrefixOf? l with
  | some tail =>
    have hline : l = opening applet ++ tail := Text.isPrefixOf?_eq_some_iff.mp h
    have htail : '\n' ∉ tail := fun m => hl (hline ▸ List.mem_append_right _ m)
    have hlonger : (opening applet).isPrefixOf? (l ++ '\n' :: rest) = some (tail ++ '\n' :: rest) :=
      Text.isPrefixOf?_eq_some_iff.mpr (by rw [hline, List.append_assoc])
    rw [hlonger, Option.bind_some, Option.bind_some, Text.restOfLine_append_break htail,
      Text.restOfLine_of_not_mem htail]
  | none =>
    have hlonger : (opening applet).isPrefixOf? (l ++ '\n' :: rest) = none := by
      rw [Text.isPrefixOf?_eq_none_iff] at h ⊢
      intro tail htail
      obtain ⟨u, hu⟩ := Text.prefix_of_prefix_append_break hopening ⟨tail, htail.symm⟩
      exact h u hu.symm
    rw [hlonger]

/-- A line that does not begin like a usage line gives no usage. -/
theorem atLineStart?_eq_none {l : Text} (hl : ¬ marker <+: l) : atLineStart? applet l = none := by
  have hopening : (opening applet).isPrefixOf? l = none := by
    rw [Text.isPrefixOf?_eq_none_iff]
    rintro rest rfl
    exact hl ⟨applet ++ ' ' :: rest, by simp [opening]⟩
  rw [atLineStart?_eq_bind, hopening]
  rfl

/-- A carriage return at the end of a line does not change the usage that the line gives. -/
theorem atLineStart?_concat_return (ha : '\r' ∉ applet) {l : Text} (hl : '\n' ∉ l) :
    atLineStart? applet (l ++ ['\r']) = atLineStart? applet l := by
  have hopening : '\r' ∉ opening applet := not_mem_opening ha (by decide) (by decide)
  rw [atLineStart?_eq_bind, atLineStart?_eq_bind, Text.isPrefixOf?_concat hopening]
  cases h : (opening applet).isPrefixOf? l with
  | none => rfl
  | some tail =>
    have hline : l = opening applet ++ tail := Text.isPrefixOf?_eq_some_iff.mp h
    have htail : '\n' ∉ tail := fun m => hl (hline ▸ List.mem_append_right _ m)
    have hended : '\n' ∉ tail ++ ['\r'] := by simpa using htail
    rw [Option.map_some, Option.bind_some, Option.bind_some, Text.restOfLine_of_not_mem hended,
      Text.restOfLine_of_not_mem htail, ofRest?, ofRest?,
      Text.cutAtLast_concat separator_ne_nil (by decide)]
    cases Text.cutAtLast separator tail with
    | none => rfl
    | some cut =>
      have htrim := Text.trimEnd_concat_of_isBlank cut.2 (c := '\r') (by decide)
      simp only [Option.map_some, htrim]

/-! ## 2. All lines -/

/-- The usage of an applet is sought line by line. -/
theorem find?_eq_findSome? (ha : '\n' ∉ applet) (help : Text) :
    find? applet help = (Text.cutAt Text.isBreak help).findSome? (atLineStart? applet) :=
  Text.findSome?_lineStarts (fun _ rest hl => atLineStart?_append_break ha hl rest) help

theorem find?_append_break (ha : '\n' ∉ applet) {l : Text} (hl : '\n' ∉ l) (rest : Text) :
    find? applet (l ++ '\n' :: rest) = (atLineStart? applet l).or (find? applet rest) := by
  rw [find?_eq_findSome? ha, find?_eq_findSome? ha, Text.cutAt_append_cons rfl,
    Text.cutAt_isBreak_of_not_mem hl, List.singleton_append, List.findSome?_cons]
  cases atLineStart? applet l with
  | none => rfl
  | some usage => rfl

/-- Carriage returns before the line feeds do not change the usage that is found. -/
theorem find?_withReturns (ha : '\n' ∉ applet) (hr : '\r' ∉ applet) (help : Text) :
    find? applet (Text.withReturns help) = find? applet help := by
  induction help using Text.lineInduction with
  | last l hl => rw [Text.withReturns_of_not_mem hl]
  | more l rest hl ih =>
    have hended : '\n' ∉ l ++ ['\r'] := by simpa using hl
    rw [Text.withReturns_append_break hl, find?_append_break ha hended,
      atLineStart?_concat_return hr hl, find?_append_break ha hl, ih]

/-- Whatever the applet's name holds, the parts of its usage stand on one line. -/
theorem not_mem_of_find? {help : Text} {usage : Usage} (h : find? applet help = some usage) :
    '\n' ∉ usage.synopsis ∧ '\n' ∉ usage.summary := by
  obtain ⟨text, -, htext⟩ := List.exists_of_findSome?_eq_some h
  rw [atLineStart?_eq_bind, Option.bind_eq_some_iff] at htext
  obtain ⟨rest, -, hrest⟩ := htext
  refine not_mem_of_ofRest? hrest fun hm => ?_
  have hline := List.mem_takeWhile_imp hm
  simp [Text.isBreak] at hline

end Manpage.Usage
