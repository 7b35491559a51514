/-
# Applets named and applets listed

Arguments on the command line and the output of a command name the same applets when the output has
the arguments on its lines, in whatever way they are laid out: with white space around them, blank
lines between them, carriage returns before the line feeds, and the last line ended or not.

The layout is a relation in two steps, from the arguments to the lines (`ListedOn`) and from the
lines to the text (`Ended`).  Both are undone by what every line goes through on the way back: it is
trimmed, and dropped if nothing is left.  An empty argument is dropped too, but names nothing.
`ofListing_printed` collects this.
-/
import Manpage.Command.Discovery
import Manpage.Proofs.Applet.Listed
import Manpage.Proofs.Text.Decoding
import Manpage.Proofs.Text.Lines

namespace Manpage.Applet

/-! ## 1. Layouts -/

/-- White space that stays on its line. -/
def IsGap (gap : Text) : Prop := Text.blank gap = true ∧ '\n' ∉ gap

instance (gap : Text) : Decidable (IsGap gap) := by unfold IsGap; infer_instance

/-- The arguments stand on the lines, in order, one on each line that is not blank. -/
inductive ListedOn : List Text → List Text → Prop
  | nil : ListedOn [] []
  | blank {gap args lines} : IsGap gap → ListedOn args lines → ListedOn args (gap :: lines)
  | arg {args lines} (before arg after) : IsGap before → IsGap after → ListedOn args lines →
      ListedOn (arg :: args) ((before ++ arg ++ after) :: lines)

/-- The text has the lines, each ended by a line feed or by a carriage return and a line feed, where
the last may also end with the text. -/
inductive Ended : List Text → Text → Prop
  | nil : Ended [] []
  | last {line} : Ended [line] line
  | feed {line lines text} : Ended lines text → Ended (line :: lines) (line ++ '\n' :: text)
  | returnFeed {line lines text} : Ended lines text →
      Ended (line :: lines) (line ++ '\r' :: '\n' :: text)

/-- What is left of lines that are trimmed, without those of which nothing is left. -/
def kept (lines : List Text) : List Text := (lines.map Text.trim).filter (· ≠ [])

theorem kept_cons (line : Text) (lines : List Text) :
    kept (line :: lines) = kept [line] ++ kept lines :=
  List.filter_append (p := (· ≠ [])) [Text.trim line] (lines.map Text.trim)

theorem kept_congr {line line' : Text} (h : Text.trim line = Text.trim line') (lines : List Text) :
    kept (line :: lines) = kept (line' :: lines) := by
  simp only [kept, List.map_cons, h]

/-! ## 2. From the text back to the lines -/

theorem trim_dropReturn (line : Text) : Text.trim (Text.dropReturn line) = Text.trim line := by
  by_cases hlast : line.getLast? = some '\r'
  · obtain ⟨start, rfl⟩ := List.getLast?_eq_some_iff.mp hlast
    rw [Text.dropReturn_concat]
    exact (@Text.trim_around [] ['\r'] rfl rfl start).symm
  · rw [Text.dropReturn_eq_self hlast]

/-- How the lines are ended makes no difference to what is kept of them. -/
theorem Ended.kept_lines {lines : List Text} {text : Text} (h : Ended lines text)
    (hbreak : ∀ line ∈ lines, '\n' ∉ line) : kept (Text.lines text) = kept lines := by
  induction h with
  | nil => rfl
  | @last line =>
    rw [Text.lines_of_not_mem (hbreak line List.mem_cons_self)]
    split
    · next hnil =>
      rw [hnil]
      rfl
    · rfl
  | @feed line lines text _ ih =>
    obtain ⟨hline, hlines⟩ := List.forall_mem_cons.mp hbreak
    rw [Text.lines_append_break hline, kept_congr (trim_dropReturn line), kept_cons, ih hlines,
      ← kept_cons]
  | @returnFeed line lines text _ ih =>
    obtain ⟨hline, hlines⟩ := List.forall_mem_cons.mp hbreak
    have hend : '\n' ∉ line ++ ['\r'] := by simpa using hline
    rw [List.append_cons, Text.lines_append_break hend, Text.dropReturn_concat, kept_cons,
      ih hlines, ← kept_cons]

/-! ## 3. From the lines back to the arguments -/

theorem ListedOn.not_mem {args lines : List Text} (h : ListedOn args lines)
    (hargs : ∀ arg ∈ args, '\n' ∉ arg) : ∀ line ∈ lines, '\n' ∉ line := by
  induction h with
  | nil => simp
  | blank hgap _ ih => exact List.forall_mem_cons.mpr ⟨hgap.2, ih hargs⟩
  | arg before arg after hbefore hafter _ ih =>
    obtain ⟨harg, hrest⟩ := List.forall_mem_cons.mp hargs
    exact List.forall_mem_cons.mpr ⟨by simp [hbefore.2, harg, hafter.2], ih hrest⟩

/-- Where and between which gaps the arguments stand makes no difference to what is kept. -/
theorem ListedOn.kept_eq {args lines : List Text} (h : ListedOn args lines)
    (hargs : ∀ arg ∈ args, Text.trim arg = arg) : kept lines = args.filter (· ≠ []) := by
  induction h with
  | nil => rfl
  | @blank gap _ _ hgap _ ih =>
    have hnone : kept [gap] = [] := by
      have htrim := @Text.trim_around gap [] hgap.1 rfl []
      rw [List.append_nil, List.append_nil] at htrim
      rw [kept, List.map_singleton, htrim]
      rfl
    rw [kept_cons, hnone, List.nil_append, ih hargs]
  | arg before arg after hbefore hafter _ ih =>
    obtain ⟨harg, hrest⟩ := List.forall_mem_cons.mp hargs
    have htrim : Text.trim (before ++ arg ++ after) = arg := by
      rw [Text.trim_around hbefore.1 hafter.1, harg]
    rw [kept_cons, ih hrest, kept, List.map_singleton, htrim, ← List.filter_append,
      List.singleton_append]

/-! ## 4. The applets -/

/-- An empty argument names nothing. -/
theorem normalize_filter_ne_nil (args : List Text) :
    normalize (args.filter (· ≠ [])) = normalize args := by
  have hfilter : (args.filter (· ≠ [])).filterMap nameOf? = args.filterMap nameOf? := by
    rw [List.filterMap_filter]
    refine List.filterMap_congr fun arg _ => ?_
    by_cases hnil : arg = []
    · rw [hnil]
      rfl
    · simp [hnil]
  rw [normalize, hfilter, normalize]

theorem normalize_eq_nil_iff {args : List Text} :
    normalize args = [] ↔ ∀ arg ∈ args, nameOf? arg = none := by
  rw [← List.filterMap_eq_nil_iff, normalize, List.eq_nil_iff_forall_not_mem,
    List.eq_nil_iff_forall_not_mem]
  simp only [Text.mem_ordered]

theorem ofListing_eq {args lines : List Text} {text : Text}
    (hargs : ∀ arg ∈ args, '\n' ∉ arg ∧ Text.trim arg = arg) (hlisted : ListedOn args lines)
    (hended : Ended lines text) : ofListing text = normalize args := by
  have hlines := hended.kept_lines (hlisted.not_mem fun arg ha => (hargs arg ha).1)
  have hkept := hlisted.kept_eq fun arg ha => (hargs arg ha).2
  calc ofListing text = normalize (kept (Text.lines text)) := rfl
    _ = normalize (args.filter (· ≠ [])) := by rw [hlines, hkept]
    _ = normalize args := normalize_filter_ne_nil args

/-- What a command that ends with success makes of its output. -/
theorem discover_of_isSuccess {launcher : Launcher} {program : Text} {rest : List Text}
    {files files' : Files} {completed : Completed}
    (hrun : launcher files ⟨program, rest, []⟩ = (.ok completed, files'))
    (hsuccess : completed.status.isSuccess = true) :
    discover launcher (program :: rest) files =
      (if ofListing (Utf8.decodeLossy completed.output) = [] then
        .error ⟨program :: rest, .nothingListed⟩
      else .ok (ofListing (Utf8.decodeLossy completed.output)), files') := by
  simp only [discover, hrun, listedBy, hsuccess, if_true]
  cases ofListing (Utf8.decodeLossy completed.output) with
  | nil => rfl
  | cons applet applets => rfl

/-- **Applets listed by a command are those that the same arguments name.**  However the arguments
are laid out on the lines of the output, the list is the same; a command that prints them with
success finds it, and fails, as it lists nothing, exactly when none of the arguments names an
applet. -/
theorem ofListing_printed {args lines : List Text} {output : Text}
    (hargs : ∀ arg ∈ args, '\n' ∉ arg ∧ Text.trim arg = arg) (hlisted : ListedOn args lines)
    (hended : Ended lines output) :
    ofListing output = normalize args ∧
      ∀ (launcher : Launcher) (program : Text) (rest : List Text) (files files' : Files)
        (completed : Completed),
        launcher files ⟨program, rest, []⟩ = (.ok completed, files') →
        completed.status.isSuccess = true → completed.output = Utf8.encode output →
        discover launcher (program :: rest) files =
          (if ∀ arg ∈ args, nameOf? arg = none then .error ⟨program :: rest, .nothingListed⟩
          else .ok (normalize args), files') ∧
        DiscoveryFault.nothingListed.wording = "no applets listed".toList := by
  have hlist : ofListing output = normalize args := ofListing_eq hargs hlisted hended
  refine ⟨hlist, fun launcher program rest files files' completed hrun hsuccess hout => ⟨?_, rfl⟩⟩
  rw [discover_of_isSuccess hrun hsuccess, hout, Utf8.decodeLossy_encode, hlist]
  simp only [normalize_eq_nil_iff]

/-- Every command prints the same bytes and ends with success. -/
def printing (output : Bytes) : Launcher := fun files _ => (.ok ⟨.exited 0, output, []⟩, files)

/-- Four arguments, of which one names nothing and two the same applet, on lines that are indented,
blank, ended with a carriage return, and not ended. -/
theorem ofListing_printed_ls_cat :
    (∀ arg ∈ ["ls".toList, ".".toList, "man/cat.1".toList, "./ls.1".toList],
        '\n' ∉ arg ∧ Text.trim arg = arg) ∧
      ofListing " ls\r\n\n.\t\n\r\nman/cat.1\n ./ls.1\r".toList = ["cat".toList, "ls".toList] ∧
      discover (printing (Utf8.encode " ls\r\n\n.\t\n\r\nman/cat.1\n ./ls.1\r".toList))
          ["list".toList] .empty = (.ok ["cat".toList, "ls".toList], .empty) := by
  have hargs : ∀ arg ∈ ["ls".toList, ".".toList, "man/cat.1".toList, "./ls.1".toList],
      '\n' ∉ arg ∧ Text.trim arg = arg := by decide
  have hlisted : ListedOn ["ls".toList, ".".toList, "man/cat.1".toList, "./ls.1".toList]
      [" ls".toList, [], ".\t".toList, [], "man/cat.1".toList, " ./ls.1\r".toList] :=
    .arg [' '] _ [] (by decide) (by decide) <| .blank (by decide) <|
    .arg [] _ ['\t'] (by decide) (by decide) <| .blank (by decide) <|
    .arg [] _ [] (by decide) (by decide) <| .arg [' '] _ ['\r'] (by decide) (by decide) .nil
  have hended : Ended [" ls".toList, [], ".\t".toList, [], "man/cat.1".toList, " ./ls.1\r".toList]
      " ls\r\n\n.\t\n\r\nman/cat.1\n ./ls.1\r".toList :=
    .returnFeed <| .feed <| .feed <| .returnFeed <| .feed .last
  obtain ⟨hlist, hdiscover⟩ := ofListing_printed hargs hlisted hended
  have hnames : normalize ["ls".toList, ".".toList, "man/cat.1".toList, "./ls.1".toList]
      = ["cat".toList, "ls".toList] := by decide
  have hrun := hdiscover (printing _) "list".toList [] .empty .empty _ rfl rfl rfl
  exact ⟨hargs, hlist.trans hnames, hrun.1.trans (by rw [if_neg (by decide), hnames])⟩

end Manpage.Applet
