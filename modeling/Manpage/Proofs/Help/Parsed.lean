/-
# What a parsed help holds

`Help.parse` reads the usage, the options and the listing apart from each other, each from the
whole text (`parse_eq_ok_iff`).  What it returns is not any record: no part spans more than one
line, an option has one or two flags, and there is no white space in a flag.  `Help.Shaped`
collects this, and `shaped_of_parse` proves it of every text that is accepted.  It is all that the
layout of a page needs to know about help texts.
-/
import Manpage.Help.Basic
import Manpage.Proofs.Help.OptionLine
import Manpage.Proofs.Help.UsageLine

namespace Manpage

/-! ## 1. The parts of a help text -/

theorem Usage.ofHelp_eq_ok_iff {applet text : Text} {usage : Usage} :
    ofHelp applet text = .ok usage ↔ find? applet text = some usage := by
  unfold ofHelp
  cases find? applet text with
  | none => simp
  | some found => simp

theorem Help.parse_eq_ok_iff {applet text : Text} {help : Help} :
    parse applet text = .ok help ↔
      Usage.find? applet text = some help.usage ∧
        OptionEntry.listOfHelp applet text = .ok help.options ∧
        SubApplets.listing? text = help.subApplets := by
  rw [← Usage.ofHelp_eq_ok_iff]
  obtain ⟨usage, options, subApplets⟩ := help
  unfold parse
  cases Usage.ofHelp applet text with
  | error m => simp [bind, Except.bind]
  | ok found =>
    cases OptionEntry.listOfHelp applet text with
    | error m => simp [bind, Except.bind]
    | ok entries => simp [bind, Except.bind, pure, Except.pure]

/-! ## 2. The shape of an option -/

/-- An option as an option line gives it: one or two flags without white space in them, and a
description on one line. -/
structure OptionEntry.Shaped (entry : OptionEntry) : Prop where
  one_or_two : ∃ (first : Text) (second : Option Text), entry.flags = first :: second.toList
  solid : ∀ flag ∈ entry.flags, ∀ c ∈ flag, Text.isBlank c = false
  single_line : '\n' ∉ entry.description

namespace OptionWords

theorem mem_toList_of_mem_flags {w : OptionWords} {flag : Text} (h : flag ∈ w.flags) :
    flag ∈ w.toList := by
  rw [toList, List.append_assoc]
  exact List.mem_append_left _ h

theorem mem_toList_of_mem_description {w : OptionWords} {word : Text} (h : word ∈ w.description) :
    word ∈ w.toList :=
  List.mem_append_right _ (List.mem_cons_of_mem _ h)

/-- Words without white space describe a shaped option. -/
theorem shaped_entry {w : OptionWords} (h : ∀ word ∈ w.toList, Text.IsWord word) :
    w.entry.Shaped where
  one_or_two := by
    refine ⟨OptionEntry.flagOfWord w.first, w.second.map OptionEntry.flagOfWord, ?_⟩
    cases hw : w.second with
    | none => simp [entry, flags, hw]
    | some second => simp [entry, flags, hw]
  solid := by
    intro flag hflag c hc
    obtain ⟨word, hword, rfl⟩ := List.mem_map.mp hflag
    have hmem : c ∈ word := (Text.dropEndWhile_isPrefix _ word).subset hc
    exact (h word (mem_toList_of_mem_flags hword)).2 c hmem
  single_line := by
    refine Text.not_mem_join (by decide) fun word hword hm => ?_
    have hblank := (h word (mem_toList_of_mem_description hword)).2 '\n' hm
    exact absurd hblank (by decide)

end OptionWords

theorem OptionEntry.shaped_of_mem_listOfHelp {applet text : Text} {entries : List OptionEntry}
    (h : listOfHelp applet text = .ok entries) {entry : OptionEntry} (he : entry ∈ entries) :
    entry.Shaped := by
  have hmem : some entry ∈ entries.map some := List.mem_map_of_mem he
  rw [← listOfHelp_eq_ok_iff.mp h] at hmem
  obtain ⟨line, -, hline⟩ := List.mem_map.mp hmem
  obtain ⟨w, hw, rfl⟩ := ofWords?_eq_some_iff.mp hline
  exact OptionWords.shaped_entry fun word hword => Text.isWord_of_mem_words (hw ▸ hword)

/-! ## 3. The shape of a parsed help -/

/-- A help as it is read from a text: nothing in it spans more than one line. -/
structure Help.Shaped (help : Help) : Prop where
  synopsis : '\n' ∉ help.usage.synopsis
  summary : '\n' ∉ help.usage.summary
  options : ∀ entry ∈ help.options, entry.Shaped
  listing : ∀ listing, help.subApplets = some listing → ∀ line ∈ listing, '\n' ∉ line

/-- **What is read from a help text is shaped**, whatever the applet's name holds. -/
theorem Help.shaped_of_parse {applet text : Text} {help : Help}
    (h : parse applet text = .ok help) : help.Shaped := by
  obtain ⟨husage, hoptions, hlisting⟩ := parse_eq_ok_iff.mp h
  obtain ⟨hsynopsis, hsummary⟩ := Usage.not_mem_of_find? husage
  refine ⟨hsynopsis, hsummary, ?_, ?_⟩
  · intro entry hentry
    exact OptionEntry.shaped_of_mem_listOfHelp hoptions hentry
  · intro listing hsome line hline
    exact Text.not_mem_of_mem_lines (Text.mem_lines_of_mem_blockBelow (hlisting.trans hsome) hline)

end Manpage
