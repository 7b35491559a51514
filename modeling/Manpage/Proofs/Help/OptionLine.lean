/-
# Option lines by their words

The words of an option line are read from left to right: a second flag and the argument word are
taken if they are there.  `OptionWords` says what such a line is made of without saying how it is
read, and `ofWords?_eq_some_iff` proves that the reader accepts these lines and no others, and
returns what they are made of.

`listOfHelp_eq_ok_iff` carries this over to the whole block: the options are read exactly when
every line of the block describes one.
-/
import Manpage.Help.OptionEntry
import Manpage.Proofs.Results
import Manpage.Proofs.Text.Cut

namespace Manpage

/-! ## 1. What an option line is made of -/

/-- The words of an option line, told apart by what they are for. -/
structure OptionWords where
  /-- The first flag, with the commas that follow it. -/
  first : Text
  /-- The second flag, which begins with a hyphen. -/
  second : Option Text
  takesArgument : Bool
  description : List Text
  second_hyphen : ∀ word, second = some word → word.head? = some '-'

namespace OptionWords

/-- The flags in order, with the commas that follow them. -/
def flags (w : OptionWords) : List Text := w.first :: w.second.toList

/-- The argument word, if the option takes an argument. -/
def argument (w : OptionWords) : List Text :=
  if w.takesArgument then [OptionEntry.argumentWord] else []

/-- All words in the order of the line. -/
def toList (w : OptionWords) : List Text :=
  w.flags ++ w.argument ++ OptionEntry.descriptionMark :: w.description

/-- The option that the words describe. -/
def entry (w : OptionWords) : OptionEntry where
  flags := w.flags.map OptionEntry.flagOfWord
  takesArgument := w.takesArgument
  description := Text.join [' '] w.description

end OptionWords

namespace OptionEntry

/-! ## 2. One line -/

theorem takeAlias_of_head {word : Text} (h : word.head? = some '-') (rest : List Text) :
    takeAlias (word :: rest) = ([word], rest) := by
  rw [takeAlias, if_pos h]

theorem takeAlias_of_not_head {word : Text} (h : word.head? ≠ some '-') (rest : List Text) :
    takeAlias (word :: rest) = ([], word :: rest) := by
  rw [takeAlias, if_neg h]

/-- What `takeAlias` takes off is a second flag or nothing. -/
theorem takeAlias_spec (words : List Text) :
    ∃ second : Option Text, (∀ word, second = some word → word.head? = some '-') ∧
      (takeAlias words).1 = second.toList ∧ words = second.toList ++ (takeAlias words).2 := by
  cases words with
  | nil => exact ⟨none, by simp, rfl, rfl⟩
  | cons word rest =>
    by_cases h : word.head? = some '-'
    · refine ⟨some word, ?_, ?_, ?_⟩
      · intro other hother
        rw [← Option.some.inj hother]
        exact h
      · rw [takeAlias_of_head h]
        rfl
      · rw [takeAlias_of_head h]
        rfl
    · refine ⟨none, by simp, ?_, ?_⟩
      · rw [takeAlias_of_not_head h]
        rfl
      · rw [takeAlias_of_not_head h]
        rfl

/-- What `takeArgument` takes off is the argument word or nothing. -/
theorem takeArgument_spec (words : List Text) :
    words = (if (takeArgument words).1 then [argumentWord] else []) ++ (takeArgument words).2 := by
  cases words with
  | nil => rfl
  | cons word rest =>
    by_cases h : word = argumentWord
    · rw [takeArgument, if_pos h, h]
      rfl
    · rw [takeArgument, if_neg h]
      rfl

/-- Neither the argument word nor the mark is taken for a second flag. -/
theorem takeAlias_toList (w : OptionWords) :
    takeAlias (w.second.toList ++ w.argument ++ descriptionMark :: w.description)
      = (w.second.toList, w.argument ++ descriptionMark :: w.description) := by
  have hmark : descriptionMark.head? ≠ some '-' := by decide
  have hargument : argumentWord.head? ≠ some '-' := by decide
  cases hsecond : w.second with
  | some word => exact takeAlias_of_head (w.second_hyphen word hsecond) _
  | none =>
    cases htakes : w.takesArgument with
    | false => simpa [OptionWords.argument, htakes] using takeAlias_of_not_head hmark _
    | true => simpa [OptionWords.argument, htakes] using takeAlias_of_not_head hargument _

/-- The mark is not taken for the argument word. -/
theorem takeArgument_toList (w : OptionWords) :
    takeArgument (w.argument ++ descriptionMark :: w.description)
      = (w.takesArgument, descriptionMark :: w.description) := by
  have hne : descriptionMark ≠ argumentWord := by decide
  cases htakes : w.takesArgument with
  | false => simp [OptionWords.argument, htakes, takeArgument, hne]
  | true => simp [OptionWords.argument, htakes, takeArgument]

/-- The words of an option line are read as what they are. -/
theorem ofWords?_toList (w : OptionWords) : ofWords? w.toList = some w.entry := by
  rw [OptionWords.toList, OptionWords.flags, List.cons_append, List.cons_append, ofWords?,
    takeAlias_toList]
  simp only [takeArgument_toList, if_true]
  rfl

/-- **The reader of option lines accepts what an option line is made of, and nothing else.** -/
theorem ofWords?_eq_some_iff {words : List Text} {entry : OptionEntry} :
    ofWords? words = some entry ↔ ∃ w : OptionWords, w.toList = words ∧ w.entry = entry := by
  constructor
  · intro h
    cases words with
    | nil => cases h
    | cons first rest =>
      obtain ⟨second, hsecond, halias, hrest⟩ := takeAlias_spec rest
      have hargument := takeArgument_spec (takeAlias rest).2
      simp only [ofWords?, halias] at h
      -- only the two results matter from here on, not the words that they were taken from
      generalize takeArgument (takeAlias rest).2 = taken at h hargument
      obtain ⟨takes, left⟩ := taken
      rw [hargument] at hrest
      cases left with
      | nil => cases h
      | cons mark description =>
        simp only at h
        by_cases hmark : mark = descriptionMark
        · refine ⟨⟨first, second, takes, description, hsecond⟩, ?_, ?_⟩
          · rw [hrest, hmark]
            simp [OptionWords.toList, OptionWords.flags, OptionWords.argument]
          · rw [if_pos hmark] at h
            exact Option.some.inj h
        · rw [if_neg hmark] at h
          cases h
  · rintro ⟨w, rfl, rfl⟩
    exact ofWords?_toList w

/-! ## 3. All lines of the block -/

theorem ofLine_eq_ok_iff {applet line : Text} {entry : OptionEntry} :
    ofLine applet line = .ok entry ↔ ofWords? (Text.words line) = some entry := by
  unfold ofLine
  split
  · next hwords => simp [hwords, ofWords?]
  · cases ofWords? (Text.words line) with
    | none => simp
    | some found => simp

/-- A line that is not blank is refused for want of the mark alone. -/
theorem ofLine_eq_error_iff {applet line : Text} (hline : Text.blank line = false)
    {m : Malformed} :
    ofLine applet line = .error m ↔
      ofWords? (Text.words line) = none ∧ m = ⟨applet, line, .noDescriptionMark⟩ := by
  unfold ofLine
  split
  · next hwords =>
    rw [Text.words_eq_nil_iff, hline] at hwords
    cases hwords
  · cases ofWords? (Text.words line) with
    | none => simp [eq_comm]
    | some found => simp

/-- Lines are read exactly when each of them describes an option. -/
theorem mapM_ofLine_eq_ok_iff {applet : Text} {ls : List Text} {entries : List OptionEntry} :
    ls.mapM (ofLine applet) = .ok entries ↔
      ls.map (fun line => ofWords? (Text.words line)) = entries.map some := by
  rw [mapM_eq_ok_iff, ← List.forall₂_eq_eq_eq, List.forall₂_map_left_iff,
    List.forall₂_map_right_iff]
  simp only [ofLine_eq_ok_iff]

/-- The options of a help text are read exactly when each line of the block describes one. -/
theorem listOfHelp_eq_ok_iff {applet help : Text} {entries : List OptionEntry} :
    listOfHelp applet help = .ok entries ↔
      ((block? help).getD []).map (fun line => ofWords? (Text.words line)) = entries.map some :=
  mapM_ofLine_eq_ok_iff

end OptionEntry

end Manpage
