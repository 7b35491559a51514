/-
# The references of a page

The last section of a page refers to every known applet but its own.  It is what stands below the
last line that announces it (`belowLast_generate`), whatever the fragments hold above: further
lines of that kind may stand there, but none stands below, because a reference is not such a line.

The references depend on the set of the known applets alone, and so does the page
(`generate_congr_known`).
-/
import Manpage.Proofs.Page.Requests
import Manpage.Proofs.Text.Order

namespace Manpage

/-! ## 1. Below the last line of a kind -/

namespace Text

/-- The pieces below the last piece that is `line`. -/
def lastBelow (line : Text) : List Text → Option (List Text)
  | [] => none
  | piece :: rest =>
    match lastBelow line rest with
    | some below => some below
    | none => if piece = line then some rest else none

/-- The text below its last line that is `line`; `none` if there is no such line. -/
def belowLast (line s : Text) : Option Text := (lastBelow line (cutAt isBreak s)).map unlines

variable {line : Text}

theorem lastBelow_eq_none {pieces : List Text} (h : line ∉ pieces) :
    lastBelow line pieces = none := by
  induction pieces with
  | nil => rfl
  | cons piece rest ih =>
    obtain ⟨hpiece, hrest⟩ := List.ne_and_not_mem_of_not_mem_cons h
    rw [lastBelow, ih hrest, if_neg (Ne.symm hpiece)]

theorem lastBelow_append {below : List Text} (h : line ∉ below) (above : List Text) :
    lastBelow line (above ++ line :: below) = some below := by
  induction above with
  | nil => rw [List.nil_append, lastBelow, lastBelow_eq_none h, if_pos rfl]
  | cons piece above ih => rw [List.cons_append, lastBelow, ih]

/-- What stands below the last line of a kind is found, whatever stands above. -/
theorem belowLast_terminated {below : List Text} (hline : '\n' ∉ line) (hne : line ≠ [])
    (h : line ∉ below.flatMap (cutAt isBreak)) (above : List Text) :
    belowLast line (terminated (above ++ line :: below)) = some (terminated below) := by
  have hcut (ls : List Text) : cutAt isBreak (terminated ls) = ls.flatMap (cutAt isBreak) ++ [[]] := by
    have hls := cutAt_terminated [] ls
    rwa [List.append_nil] at hls
  have hbelow : line ∉ cutAt isBreak (terminated below) := by
    rw [hcut]
    exact List.not_mem_append h (by simpa using hne)
  have hsplit : cutAt isBreak (terminated (above ++ line :: below))
      = above.flatMap (cutAt isBreak) ++ line :: cutAt isBreak (terminated below) := by
    rw [hcut, hcut, List.flatMap_append, List.flatMap_cons, cutAt_isBreak_of_not_mem hline]
    simp
  rw [belowLast, hsplit, lastBelow_append hbelow, Option.map_some, unlines_cutAt]

end Text

/-! ## 2. The last section -/

/-- A line of references is a reference, perhaps with a comma. -/
theorem Roff.exists_of_mem_commaEnded {line : Text} :
    ∀ {ls : List Text}, line ∈ commaEnded ls → ∃ l ∈ ls, line = l ∨ line = l ++ [',']
  | [last], h => ⟨last, List.mem_cons_self, Or.inl (List.mem_singleton.mp h)⟩
  | l :: next :: rest, h => by
    rcases List.mem_cons.mp h with rfl | h
    · exact ⟨l, List.mem_cons_self, Or.inr rfl⟩
    · obtain ⟨m, hm, hline⟩ := exists_of_mem_commaEnded h
      exact ⟨m, List.mem_cons_of_mem l hm, hline⟩

namespace SeeAlso

/-- The line that announces the references. -/
def heading : Text := ".SH \"SEE ALSO\"".toList

theorem mem_others_iff {applet name : Text} {known : List Text} :
    name ∈ others applet known ↔ name ∈ known ∧ name ≠ applet := by
  rw [others, Text.mem_ordered, List.mem_filter, decide_eq_true_eq]

/-- The applets that a page refers to stand in the order of their bytes. -/
theorem pairwise_others (applet : Text) (known : List Text) :
    (others applet known).Pairwise fun a b =>
      Utf8.before (Utf8.encode a) (Utf8.encode b) = true :=
  (Text.pairwise_ordered _).imp fun {a b} hab => by rw [Utf8.before_encode, hab]

theorem others_congr {known known' : List Text} (h : ∀ name, name ∈ known ↔ name ∈ known')
    (applet : Text) : others applet known = others applet known' :=
  Text.ordered_congr fun name => by rw [List.mem_filter, List.mem_filter, h]

/-- No line of the references announces them again. -/
theorem heading_not_mem (applet : Text) {known : List Text} (h : ∀ name ∈ known, '\n' ∉ name) :
    heading ∉ Text.cutAt Text.isBreak (Text.join [',', '\n'] (references applet known)) := by
  intro hmem
  -- the heading is a request, and the requests among the references are these alone
  have hrequest : heading ∈ Roff.controlLines (Text.join [',', '\n'] (references applet known)) :=
    List.mem_filter.mpr ⟨hmem, by decide⟩
  rw [Roff.controlLines_references applet h, references] at hrequest
  obtain ⟨line, hline, hheading⟩ := Roff.exists_of_mem_commaEnded hrequest
  obtain ⟨name, -, rfl⟩ := List.mem_map.mp hline
  -- they differ in the second character
  have hheading' : heading[1]? = some 'S' := rfl
  rcases hheading with heq | heq
  · have hline : (reference name)[1]? = some 'B' := rfl
    rw [← heq, hheading'] at hline
    exact absurd hline (by decide)
  · have hline : (reference name ++ [','])[1]? = some 'B' := rfl
    rw [← heq, hheading'] at hline
    exact absurd hline (by decide)

end SeeAlso

namespace Page

/-- **The last section of a page holds its references**, and nothing else. -/
theorem belowLast_generate {edition : Edition} {applet helpText page : Text}
    {fragments : Fragments} {counted : PageCounts} (hknown : ∀ name ∈ edition.known, '\n' ∉ name)
    (hpage : generate edition applet helpText fragments = .ok (page, counted)) :
    Text.belowLast SeeAlso.heading page
      = some (Text.join [',', '\n'] (SeeAlso.references applet edition.known) ++ ['\n']) := by
  obtain ⟨help, -, rfl, -⟩ := generate_eq_ok_iff.mp hpage
  have hbelow : SeeAlso.heading ∉ [Text.join [',', '\n'] (SeeAlso.references applet edition.known)
      ].flatMap (Text.cutAt Text.isBreak) := by
    rw [List.flatMap_singleton]
    exact SeeAlso.heading_not_mem applet hknown
  have hparts : ∃ above, (ofHelp edition applet fragments help).parts = above ++ SeeAlso.heading ::
      [Text.join [',', '\n'] (SeeAlso.references applet edition.known)] := ⟨_, rfl⟩
  obtain ⟨above, habove⟩ := hparts
  rw [render_eq_terminated, habove, Text.belowLast_terminated (by decide) (by decide) hbelow,
    Text.terminated_cons]
  rfl

/-- **A page depends on the set of the known applets alone**: neither their order nor how often
they are given shows. -/
theorem generate_congr_known {known known' : List Text} (h : ∀ name, name ∈ known ↔ name ∈ known')
    (date applet helpText : Text) (fragments : Fragments) :
    generate ⟨date, known⟩ applet helpText fragments
      = generate ⟨date, known'⟩ applet helpText fragments := by
  have hreferences : SeeAlso.references applet known = SeeAlso.references applet known' := by
    rw [SeeAlso.references, SeeAlso.references, SeeAlso.others_congr h]
  rw [generate, generate]
  simp only [ofHelp, counts, hreferences]

end Page

end Manpage
