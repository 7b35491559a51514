/-
# Staged files

A file that is staged gets a name that no entry has (`get?_freeNumber`): of one number more than
there are entries, one is always free.  While it is written nothing else changes, so a file that is
staged and then discarded has never been there (`erase_put`), and one that is renamed has moved to
its place as it is (`rename_eq_ok`), unless a directory is in that place (`rename_of_place`).
-/
import Mathlib.Data.List.Nodup
import Mathlib.Data.List.Perm.Subperm
import Manpage.Proofs.Files.Growth

namespace Manpage

/-- Decimal digits are read back as the number that they were written for. -/
theorem Text.ofNat_injective : Function.Injective Text.ofNat := by
  intro m n h
  rw [← @Nat.ofDigitChars_ten_toDigits m, ← @Nat.ofDigitChars_ten_toDigits n]
  exact congrArg (Nat.ofDigitChars 10 · 0) h

namespace Files

/-! ## 1. A free name -/

theorem stagedName_injective (tag : Text) : Function.Injective (stagedName · tag) := by
  intro m n h
  exact Text.ofNat_injective
    (List.append_cancel_left (List.append_cancel_right (List.append_cancel_right h)))

theorem mem_entries_of_get? {files : Files} {l : Location} (hl : l ≠ [])
    (h : files.get? l ≠ none) : l ∈ files.entries.map Prod.fst := by
  obtain ⟨e, he⟩ := Option.ne_none_iff_exists'.mp h
  rw [get?, if_neg hl] at he
  exact List.mem_map.mpr ⟨(l, e), mem_of_entryAt_eq_some he, rfl⟩

/-- **The name of a staged file is free.** -/
theorem get?_freeNumber (files : Files) (d : Location) (tag : Text) :
    files.get? (d ++ [stagedName (files.freeNumber d tag) tag]) = none := by
  rw [freeNumber]
  cases hfind : (List.range (files.entries.length + 1)).find? fun n =>
      files.get? (d ++ [stagedName n tag]) = none with
  | some n => simpa using List.find?_some hfind
  | none =>
    -- otherwise every number would be that of an entry, and there are not so many
    have htaken : ∀ l ∈ (List.range (files.entries.length + 1)).map
        fun n => d ++ [stagedName n tag], l ∈ files.entries.map Prod.fst := by
      intro l hl
      obtain ⟨n, hn, rfl⟩ := List.mem_map.mp hl
      exact mem_entries_of_get? (by simp) (by simpa using List.find?_eq_none.mp hfind n hn)
    have hnodup : ((List.range (files.entries.length + 1)).map
        fun n => d ++ [stagedName n tag]).Nodup := by
      refine List.Nodup.map (fun m n h => stagedName_injective tag ?_) List.nodup_range
      simpa using h
    have hlength := (hnodup.subperm htaken).length_le
    rw [List.length_map, List.length_map, List.length_range] at hlength
    exact absurd hlength (Nat.not_succ_le_self _)

/-- In a directory that is there, a file is staged at a location where nothing was. -/
theorem exists_stage {files : Files} {cwd d : Location} {dir : Text}
    (hcheck : checkPath dir = .ok ()) (hdir : files.directoryAt cwd dir = .ok d) (tag : Text) :
    ∃ l, files.stage cwd dir tag = (.ok l, files.put l (.file 0o600 [])) ∧ l ≠ [] ∧
      files.get? l = none := by
  refine ⟨d ++ [stagedName (files.freeNumber d tag) tag], ?_, by simp, get?_freeNumber files d tag⟩
  rw [stage_eq, hcheck, hdir]
  rfl

/-- A file is staged in a directory, at a location where nothing was, or nothing is changed. -/
theorem stage_cases (files : Files) (cwd : Location) (dir tag : Text) :
    (∃ fault, files.stage cwd dir tag = (.error fault, files)) ∨
      ∃ d l, files.directoryAt cwd dir = .ok d ∧
        files.stage cwd dir tag = (.ok l, files.put l (.file 0o600 [])) ∧ l ≠ [] ∧
        files.get? l = none := by
  cases hcheck : checkPath dir with
  | error fault =>
    rw [stage_eq, hcheck]
    exact Or.inl ⟨fault, rfl⟩
  | ok u =>
    cases hdir : files.directoryAt cwd dir with
    | error fault =>
      rw [stage_eq, hcheck, hdir]
      exact Or.inl ⟨fault, rfl⟩
    | ok d =>
      obtain ⟨l, hstage⟩ := exists_stage hcheck hdir tag
      exact Or.inr ⟨d, l, rfl, hstage⟩

/-! ## 2. Changes to one file -/

section Staged

variable {files : Files} {l : Location} {mode : Nat} {content : Bytes}

theorem get?_put_self (files : Files) (hl : l ≠ []) (e : Entry) :
    (files.put l e).get? l = some e := by
  rw [get?_put, if_pos ⟨rfl, hl⟩]

theorem get?_put_of_ne (files : Files) {m : Location} (h : l ≠ m) (e : Entry) :
    (files.put l e).get? m = files.get? m := by
  rw [get?_put, if_neg fun hm => h hm.1]

theorem get?_erase_of_ne (files : Files) {m : Location} (h : l ≠ m) :
    (files.erase l).get? m = files.get? m := by
  by_cases hm : m = []
  · rw [hm, get?_root, get?_root]
  · rw [get?_erase _ _ _ hm, if_neg (Ne.symm h)]

theorem put_put (files : Files) (l : Location) (e e' : Entry) :
    (files.put l e).put l e' = files.put l e' := by
  refine ext_get? fun m => ?_
  simp only [get?_put]
  split <;> rfl

theorem write_put (hl : l ≠ []) (content' : Bytes) :
    (files.put l (.file mode content)).write l content' = files.put l (.file mode content') := by
  rw [write, get?_put_self files hl]
  exact put_put files l _ _

theorem setMode_put (hl : l ≠ []) (mode' : Nat) :
    (files.put l (.file mode content)).setMode l mode' = files.put l (.file mode' content) := by
  rw [setMode, get?_put_self files hl]
  exact put_put files l _ _

/-- What stood nowhere and is removed again has never been there. -/
theorem erase_put (hnone : files.get? l = none) (e : Entry) :
    (files.put l e).erase l = files := by
  refine ext_get? fun m => ?_
  by_cases heq : l = m
  · rw [← heq, hnone, get?_erase _ _ _ (by rintro rfl; cases hnone), if_pos rfl]
  · rw [get?_erase_of_ne _ heq, get?_put_of_ne files heq]

/-- An entry where there was none takes no directory away. -/
theorem keepsDirectories_put {e : Entry} (h : files.get? l ≠ some .directory) :
    KeepsDirectories files (files.put l e) := by
  intro m hm
  have hne : l ≠ m := by
    rintro rfl
    exact h hm
  rw [get?_put_of_ne files hne, hm]

end Staged

/-! ## 3. The rename -/

/-- A rename that succeeds moves the file to a place that is no directory. -/
theorem rename_eq_ok {files files' : Files} {source cwd : Location} {path : Text} {e : Entry}
    (hsource : files.get? source = some e)
    (h : files.rename source cwd path = (.ok (), files')) :
    ∃ d name, files.place cwd path = .ok (.entry d name false) ∧
      files.get? (d ++ [name]) ≠ some .directory ∧
      files' = (files.erase source).put (d ++ [name]) e := by
  rw [rename] at h
  split at h
  · cases h
  · split at h
    · cases h
    · cases h
    · next d name slashes hplace =>
      cases slashes with
      | true => cases h
      | false =>
        refine ⟨d, name, hplace, ?_⟩
        rw [hsource] at h
        cases htarget : files.get? (d ++ [name]) with
        | none =>
          rw [htarget] at h
          cases h
          exact ⟨nofun, rfl⟩
        | some target =>
          rw [htarget] at h
          cases target with
          | directory => cases h
          | file mode content =>
            cases h
            exact ⟨nofun, rfl⟩

/-- A file is renamed to a name in a directory unless that is a directory. -/
theorem rename_of_place {files : Files} {source cwd d : Location} {path name : Text} {e : Entry}
    (hnul : '\x00' ∉ path) (hplace : files.place cwd path = .ok (.entry d name false))
    (hsource : files.get? source = some e) :
    files.rename source cwd path =
      if files.get? (d ++ [name]) = some .directory then (.error .isDirectory, files)
      else (.ok (), (files.erase source).put (d ++ [name]) e) := by
  rw [rename, if_neg hnul, hplace]
  simp only [hsource, Bool.false_eq_true, if_false]
  cases files.get? (d ++ [name]) with
  | none => rfl
  | some target => cases target <;> rfl

/-- A rename that is refused changes nothing. -/
theorem rename_eq_error {files files' : Files} {source cwd : Location} {path : Text}
    {fault : SystemFault} (h : files.rename source cwd path = (.error fault, files')) :
    files' = files := by
  rw [rename] at h
  split_ifs at h
  · cases h
    rfl
  · split at h
    · cases h
      rfl
    · cases h
      rfl
    · split_ifs at h
      · cases h
        rfl
      · split at h
        · cases h
          rfl
        · cases h
          rfl
        · cases h

end Files

end Manpage
