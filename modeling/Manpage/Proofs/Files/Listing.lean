/-
# What a directory holds

The listing of a directory has the names of its entries (`mem_namesIn_iff`), each once and in
increasing order (`pairwise_namesIn`).  Two trees therefore list the same names of a kind as soon as
they have the same entries of that kind (`filter_namesIn_congr`).
-/
import Manpage.Files.Lookup
import Manpage.Proofs.Text.Order

namespace Manpage

namespace Files

variable {files : Files} {d : Location} {name : Text}

/-- The name of an entry in a directory, if it stands there. -/
def nameIn? (d : Location) (x : Location × Entry) : Option Text :=
  match x.1.getLast? with
  | some name => if x.1 = d ++ [name] then some name else none
  | none => none

theorem nameIn?_eq_some_iff {x : Location × Entry} :
    nameIn? d x = some name ↔ x.1 = d ++ [name] := by
  rw [nameIn?]
  constructor
  · intro h
    split at h
    · split_ifs at h with hx
      cases h
      exact hx
    · cases h
  · intro h
    simp [h]

theorem namesIn_eq_filterMap (files : Files) (d : Location) :
    files.namesIn d = files.entries.filterMap (nameIn? d) := rfl

/-- An entry is listed in the directory that its location names. -/
theorem mem_namesIn_iff_mem_entries :
    name ∈ files.namesIn d ↔ ∃ e, (d ++ [name], e) ∈ files.entries := by
  rw [namesIn_eq_filterMap, List.mem_filterMap]
  constructor
  · rintro ⟨⟨l, e⟩, hmem, hname⟩
    obtain rfl : l = d ++ [name] := nameIn?_eq_some_iff.mp hname
    exact ⟨e, hmem⟩
  · rintro ⟨e, hmem⟩
    exact ⟨_, hmem, nameIn?_eq_some_iff.mpr rfl⟩

/-- **A directory lists the names of its entries.** -/
theorem mem_namesIn_iff : name ∈ files.namesIn d ↔ files.get? (d ++ [name]) ≠ none := by
  have hroot : d ++ [name] ≠ [] := by simp
  rw [mem_namesIn_iff_mem_entries, get?, if_neg hroot]
  constructor
  · rintro ⟨e, hmem⟩
    rw [entryAt_eq_some_of_mem files.sorted hmem]
    exact Option.some_ne_none e
  · intro h
    obtain ⟨e, he⟩ := Option.ne_none_iff_exists'.mp h
    exact ⟨e, mem_of_entryAt_eq_some he⟩

/-- **The names stand in strictly increasing order.** -/
theorem pairwise_namesIn (files : Files) (d : Location) :
    (files.namesIn d).Pairwise fun m n => Text.before m n = true := by
  rw [namesIn_eq_filterMap]
  refine files.sorted.filterMap _ fun x y hxy m hm n hn => ?_
  rw [nameIn?_eq_some_iff.mp hm, nameIn?_eq_some_iff.mp hn, Location.before,
    lexBefore_append_left Text.strictOrder_before.irrefl] at hxy
  simpa [lexBefore] using hxy

/-- Two trees with the same entries of a kind list the same names of that kind. -/
theorem filter_namesIn_congr {a b : Files} {p : Text → Bool}
    (h : ∀ name, p name = true → b.get? (d ++ [name]) = a.get? (d ++ [name])) :
    (b.namesIn d).filter p = (a.namesIn d).filter p := by
  refine Text.strictOrder_before.eq_of_mem_iff ((pairwise_namesIn b d).filter p)
    ((pairwise_namesIn a d).filter p) fun name => ?_
  rw [List.mem_filter, List.mem_filter, mem_namesIn_iff, mem_namesIn_iff]
  constructor
  · rintro ⟨hname, hp⟩
    exact ⟨h name hp ▸ hname, hp⟩
  · rintro ⟨hname, hp⟩
    exact ⟨(h name hp).symm ▸ hname, hp⟩

end Files

end Manpage
