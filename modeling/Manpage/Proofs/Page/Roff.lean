/-
# Flag lines and paragraphs can be read back

The flag line of an option is written in two steps: each flag is put in bold, with the argument
after it, and then every hyphen becomes a minus sign.  Both steps can be undone.  A minus sign is
the only place where a backslash stands before a hyphen, so `minus` is injective; and as no flag
holds white space, the spaces of the line part it into its flags and arguments
(`flagLine_inj`).

A list of paragraphs can be read back too (`flatMap_paragraph_append_inj`): each is three lines
long and begins with the request `.TP`, so the end of the list is where that request is missing.
-/
import Manpage.Page.Roff
import Manpage.Proofs.Help.Parsed

namespace Manpage.Roff

/-! ## 1. Minus signs -/

theorem minus_cons (c : Char) (s : Text) :
    minus (c :: s) = (if c = '-' then ['\\', '-'] else [c]) ++ minus s := by
  simp [minus]

theorem minus_cons_hyphen (s : Text) : minus ('-' :: s) = '\\' :: '-' :: minus s := by
  simp [minus]

theorem minus_cons_of_ne {c : Char} (hc : c ≠ '-') (s : Text) : minus (c :: s) = c :: minus s := by
  simp [minus, hc]

/-- A hyphen comes only after a backslash, so none comes first. -/
theorem minus_ne_hyphen_cons (s t : Text) : minus s ≠ '-' :: t := by
  cases s with
  | nil => simp [minus]
  | cons c s =>
    intro h
    by_cases hc : c = '-'
    · rw [hc, minus_cons_hyphen] at h
      exact absurd (List.cons.inj h).1 (by decide)
    · rw [minus_cons_of_ne hc] at h
      exact hc (List.cons.inj h).1

/-- **Minus signs can be read back as hyphens.** -/
theorem minus_injective {s t : Text} (h : minus s = minus t) : s = t := by
  induction s generalizing t with
  | nil =>
    cases t with
    | nil => rfl
    | cons b t =>
      rw [minus_cons] at h
      split at h <;> cases h
  | cons a s ih =>
    cases t with
    | nil =>
      rw [minus_cons] at h
      split at h <;> cases h
    | cons b t =>
      by_cases ha : a = '-'
      · by_cases hb : b = '-'
        · rw [ha, hb, minus_cons_hyphen, minus_cons_hyphen] at h
          rw [ha, hb, ih (List.cons.inj (List.cons.inj h).2).2]
        · rw [ha, minus_cons_hyphen, minus_cons_of_ne hb] at h
          exact absurd (List.cons.inj h).2.symm (minus_ne_hyphen_cons t (minus s))
      · by_cases hb : b = '-'
        · rw [hb, minus_cons_hyphen, minus_cons_of_ne ha] at h
          exact absurd (List.cons.inj h).2 (minus_ne_hyphen_cons s (minus t))
        · rw [minus_cons_of_ne ha, minus_cons_of_ne hb] at h
          obtain ⟨hab, hst⟩ := List.cons.inj h
          rw [hab, ih hst]

/-- Minus signs bring in backslashes and nothing else. -/
theorem mem_of_mem_minus {c : Char} {s : Text} (h : c ∈ minus s) : c = '\\' ∨ c ∈ s := by
  obtain ⟨a, ha, hc⟩ := List.mem_flatMap.mp h
  split at hc
  · next hhyphen =>
    simp only [List.mem_cons, List.not_mem_nil, or_false] at hc
    rcases hc with rfl | rfl
    · exact Or.inl rfl
    · exact Or.inr (hhyphen ▸ ha)
  · rw [List.mem_singleton.mp hc]
    exact Or.inr ha

/-! ## 2. Flag lines -/

/-- A flag in bold, with the argument after it if there is one. -/
def tag (takesArgument : Bool) (flag : Text) : Text :=
  if takesArgument then bold flag ++ argument else bold flag

/-- The flags of an option before their hyphens become minus signs. -/
def tags (option : OptionEntry) : Text :=
  Text.join [',', ' '] (option.flags.map (tag option.takesArgument))

theorem flagLine_eq (option : OptionEntry) : flagLine option = minus (tags option) := rfl

/-- The name of an argument without the space before it. -/
def slanted : Text := "\\fI<arg>\\fR".toList

/-- What the spaces part the tags of one or two flags into. -/
def tagPieces (takesArgument : Bool) (first : Text) : Option Text → List Text
  | none => if takesArgument then [bold first, slanted] else [bold first]
  | some second =>
    if takesArgument then [bold first, slanted ++ [','], bold second, slanted]
    else [bold first ++ [','], bold second]

theorem bold_injective {s t : Text} (h : bold s = bold t) : s = t := by
  unfold bold at h
  exact List.append_cancel_left (List.append_cancel_right h)

/-- Bold text is not the name of an argument: the fonts differ. -/
theorem bold_ne_slanted (s : Text) : bold s ≠ slanted := by
  intro h
  have hfont : (bold s)[2]? = some 'B' := rfl
  rw [h] at hfont
  exact absurd hfont (by decide)

/-- The pieces tell the flags, and whether they take an argument. -/
theorem tagPieces_inj {takes takes' : Bool} {first first' : Text} {second second' : Option Text}
    (h : tagPieces takes first second = tagPieces takes' first' second') :
    takes = takes' ∧ first = first' ∧ second = second' := by
  -- `simp` sees where the pieces differ in number; where both are two, the fonts tell
  cases second with
  | none =>
    cases second' with
    | none =>
      cases takes <;> cases takes' <;> simp [tagPieces] at h
      · exact ⟨rfl, bold_injective h, rfl⟩
      · exact ⟨rfl, bold_injective h, rfl⟩
    | some second' =>
      cases takes <;> cases takes' <;> simp [tagPieces] at h
      exact absurd h.2.symm (bold_ne_slanted second')
  | some second =>
    cases second' with
    | none =>
      cases takes <;> cases takes' <;> simp [tagPieces] at h
      exact absurd h.2 (bold_ne_slanted second)
    | some second' =>
      cases takes <;> cases takes' <;> simp [tagPieces] at h
      · exact ⟨rfl, bold_injective h.1, congrArg some (bold_injective h.2)⟩
      · exact ⟨rfl, bold_injective h.1, congrArg some (bold_injective h.2)⟩

/-- A space, the only character that tags are parted at. -/
def isSpace (c : Char) : Bool := c == ' '

theorem cutAt_isSpace_of_not_mem {s : Text} (hs : ' ' ∉ s) : Text.cutAt isSpace s = [s] := by
  refine Text.cutAt_eq_singleton fun c hc => ?_
  have hne : c ≠ ' ' := fun e => hs (e ▸ hc)
  simpa [isSpace] using hne

theorem cutAt_isSpace_append {s : Text} (hs : ' ' ∉ s) (t : Text) :
    Text.cutAt isSpace (s ++ ' ' :: t) = s :: Text.cutAt isSpace t := by
  rw [Text.cutAt_append_cons rfl, cutAt_isSpace_of_not_mem hs, List.singleton_append]

/-- Bold text holds the characters of the text and those of the two font changes. -/
theorem not_mem_bold {c : Char} (hc : c ∉ bold []) {s : Text} (hs : c ∉ s) : c ∉ bold s := by
  intro hm
  rw [bold, List.mem_append, List.mem_append] at hm
  rcases hm with (hm | hm) | hm
  · exact hc (List.mem_append_left _ (List.mem_append_left _ hm))
  · exact hs hm
  · exact hc (List.mem_append_right _ hm)

/-- The spaces part the tags of flags without white space into the pieces that tell them. -/
theorem cutAt_tags {option : OptionEntry} {first : Text} {second : Option Text}
    (hflags : option.flags = first :: second.toList) (hsolid : ∀ flag ∈ option.flags, ' ' ∉ flag) :
    Text.cutAt isSpace (tags option) = tagPieces option.takesArgument first second := by
  obtain ⟨flags, takes, description⟩ := option
  simp only at hflags hsolid
  subst hflags
  have hfirst : ' ' ∉ bold first := not_mem_bold (by decide) (hsolid first List.mem_cons_self)
  have hslanted : ' ' ∉ slanted := by decide
  have hslanted' : ' ' ∉ slanted ++ [','] := by decide
  have hargument : argument = ' ' :: slanted := rfl
  cases second with
  | none =>
    cases takes with
    | false =>
      have htags : tags ⟨first :: none.toList, false, description⟩ = bold first := by
        simp [tags, tag]
      rw [htags, cutAt_isSpace_of_not_mem hfirst]
      rfl
    | true =>
      have htags : tags ⟨first :: none.toList, true, description⟩ = bold first ++ ' ' :: slanted := by
        simp [tags, tag, hargument]
      rw [htags, cutAt_isSpace_append hfirst, cutAt_isSpace_of_not_mem hslanted]
      rfl
  | some second =>
    have hsecond : ' ' ∉ bold second :=
      not_mem_bold (by decide) (hsolid second (List.mem_cons_of_mem _ (by simp)))
    cases takes with
    | false =>
      have hfirst' : ' ' ∉ bold first ++ [','] := by simpa using hfirst
      have htags : tags ⟨first :: (some second).toList, false, description⟩
          = (bold first ++ [',']) ++ ' ' :: bold second := by
        simp [tags, tag]
      rw [htags, cutAt_isSpace_append hfirst', cutAt_isSpace_of_not_mem hsecond]
      rfl
    | true =>
      have htags : tags ⟨first :: (some second).toList, true, description⟩
          = bold first ++ ' ' :: ((slanted ++ [',']) ++ ' ' :: (bold second ++ ' ' :: slanted)) := by
        simp [tags, tag, hargument]
      rw [htags, cutAt_isSpace_append hfirst, cutAt_isSpace_append hslanted',
        cutAt_isSpace_append hsecond, cutAt_isSpace_of_not_mem hslanted]
      rfl

/-- No flag of a shaped option holds a given character of white space. -/
theorem not_mem_flag {option : OptionEntry} (h : option.Shaped) {c : Char}
    (hc : Text.isBlank c = true) : ∀ flag ∈ option.flags, c ∉ flag := by
  intro flag hflag hm
  rw [h.solid flag hflag c hm] at hc
  cases hc

/-- **The flag line of a shaped option tells its flags and whether they take an argument.** -/
theorem flagLine_inj {option option' : OptionEntry} (h : option.Shaped) (h' : option'.Shaped)
    (heq : flagLine option = flagLine option') :
    option.flags = option'.flags ∧ option.takesArgument = option'.takesArgument := by
  obtain ⟨first, second, hflags⟩ := h.one_or_two
  obtain ⟨first', second', hflags'⟩ := h'.one_or_two
  have htags : tags option = tags option' := minus_injective heq
  have hpieces : tagPieces option.takesArgument first second
      = tagPieces option'.takesArgument first' second' := by
    rw [← cutAt_tags hflags (not_mem_flag h (by decide)),
      ← cutAt_tags hflags' (not_mem_flag h' (by decide)), htags]
  obtain ⟨htakes, hfirst, hsecond⟩ := tagPieces_inj hpieces
  exact ⟨by rw [hflags, hflags', hfirst, hsecond], htakes⟩

/-! ## 3. Paragraphs -/

/-- The request that begins a paragraph. -/
def paragraphRequest : Text := ".TP".toList

theorem paragraph_inj {option option' : OptionEntry} (h : option.Shaped) (h' : option'.Shaped)
    {rest rest' : List Text} (heq : paragraph option ++ rest = paragraph option' ++ rest') :
    option = option' ∧ rest = rest' := by
  obtain ⟨hline, htail⟩ := List.cons.inj (List.cons.inj heq).2
  obtain ⟨hdescription, hrest⟩ := List.cons.inj htail
  obtain ⟨hflags, htakes⟩ := flagLine_inj h h' hline
  obtain ⟨flags, takes, description⟩ := option
  obtain ⟨flags', takes', description'⟩ := option'
  simp only at hflags htakes hdescription
  exact ⟨by rw [hflags, htakes, hdescription], hrest⟩

/-- Paragraphs are read up to where no paragraph begins. -/
theorem flatMap_paragraph_append_inj {options options' : List OptionEntry} {rest rest' : List Text}
    (h : ∀ option ∈ options, option.Shaped) (h' : ∀ option ∈ options', option.Shaped)
    (hrest : rest.head? ≠ some paragraphRequest) (hrest' : rest'.head? ≠ some paragraphRequest)
    (heq : options.flatMap paragraph ++ rest = options'.flatMap paragraph ++ rest') :
    options = options' ∧ rest = rest' := by
  induction options generalizing options' with
  | nil =>
    cases options' with
    | nil => exact ⟨rfl, heq⟩
    | cons option' options' =>
      rw [List.flatMap_nil, List.nil_append] at heq
      exact absurd (heq ▸ rfl) hrest
  | cons option options ih =>
    cases options' with
    | nil =>
      rw [List.flatMap_nil, List.nil_append] at heq
      exact absurd (heq.symm ▸ rfl) hrest'
    | cons option' options' =>
      rw [List.flatMap_cons, List.flatMap_cons, List.append_assoc, List.append_assoc] at heq
      obtain ⟨hoption, htail⟩ :=
        paragraph_inj (h option List.mem_cons_self) (h' option' List.mem_cons_self) heq
      obtain ⟨hoptions, hends⟩ := ih (fun o ho => h o (List.mem_cons_of_mem _ ho))
        (fun o ho => h' o (List.mem_cons_of_mem _ ho)) htail
      exact ⟨by rw [hoption, hoptions], hends⟩

/-! ## 4. Lines

No part of a paragraph spans more than one line, so a page has three lines for each option. -/

theorem not_mem_flagLine {option : OptionEntry} (h : option.Shaped) : '\n' ∉ flagLine option := by
  have htag : ∀ flag ∈ option.flags, '\n' ∉ tag option.takesArgument flag := by
    intro flag hflag
    have hbold : '\n' ∉ bold flag := not_mem_bold (by decide) (not_mem_flag h (by decide) flag hflag)
    unfold tag
    split
    · intro hm
      rcases List.mem_append.mp hm with hm | hm
      · exact hbold hm
      · exact absurd hm (by decide)
    · exact hbold
  have htags : '\n' ∉ tags option := by
    refine Text.not_mem_join (by decide) fun part hpart => ?_
    obtain ⟨flag, hflag, rfl⟩ := List.mem_map.mp hpart
    exact htag flag hflag
  intro hm
  rcases mem_of_mem_minus hm with hslash | hmem
  · exact absurd hslash (by decide)
  · exact htags hmem

/-- A flag line begins with a change of font. -/
theorem head?_flagLine {option : OptionEntry} (h : option.Shaped) :
    (flagLine option).head? = some '\\' := by
  obtain ⟨first, second, hflags⟩ := h.one_or_two
  have htag : ∃ rest, tag option.takesArgument first = '\\' :: rest := by
    cases option.takesArgument
    · exact ⟨_, rfl⟩
    · exact ⟨_, rfl⟩
  obtain ⟨rest, hrest⟩ := htag
  have htags : ∃ more, tags option = '\\' :: more := by
    rw [tags, hflags]
    cases second with
    | none => exact ⟨rest, by simp [hrest]⟩
    | some second =>
      exact ⟨rest ++ ',' :: ' ' :: tag option.takesArgument second, by simp [hrest]⟩
  obtain ⟨more, hmore⟩ := htags
  rw [flagLine_eq, hmore, minus_cons_of_ne (by decide)]
  rfl

theorem not_mem_of_mem_paragraphs {options : List OptionEntry}
    (h : ∀ option ∈ options, option.Shaped) :
    ∀ line ∈ options.flatMap paragraph, '\n' ∉ line := by
  intro line hline
  obtain ⟨option, hoption, hmem⟩ := List.mem_flatMap.mp hline
  simp only [paragraph, List.mem_cons, List.not_mem_nil, or_false] at hmem
  rcases hmem with rfl | rfl | rfl
  · decide
  · exact not_mem_flagLine (h option hoption)
  · exact (h option hoption).single_line

end Manpage.Roff
