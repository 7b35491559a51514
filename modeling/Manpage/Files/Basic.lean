/-
# A tree of files

The directories and regular files that a run works on.  Everything has a location, the names that
lead to it from the root, and the tree is the finite map from locations to what is there.  The
entries stand in increasing order of their locations, so that a directory comes before what it
holds, names come in byte order, and two trees with the same entry at every location are equal
(`Files.ext_get?`).

Reading, writing and removing at a location is all this file knows; how a path leads to a location
is the business of `Files.Lookup`, and what may stand below what is kept by `Files.Change`.
-/
import Manpage.Text.Ordered
import Manpage.Text.Utf8

namespace Manpage

/-- The names that lead to a place from the root; the root itself has no name. -/
abbrev Location := List Text

/-- Whether a location comes before another: by the first names in which they differ, and a directory
before what it holds. -/
def Location.before (l m : Location) : Bool := lexBefore Text.before l m

theorem Location.strictOrder_before : StrictOrder Location.before := Text.strictOrder_before.lex

/-- What stands at a location: a directory, or a file with its permission bits and content. -/
inductive Entry
  | directory
  | file (mode : Nat) (content : Bytes)
deriving DecidableEq, Repr

/-- Whether an entry is a directory. -/
def Entry.isDirectory : Entry → Bool
  | .directory => true
  | .file .. => false

/-! ## 1. Entries in order -/

/-- The entry at a location in a list of entries. -/
def entryAt (l : Location) : List (Location × Entry) → Option Entry
  | [] => none
  | (k, e) :: rest => if k = l then some e else entryAt l rest

@[simp] theorem entryAt_nil (l : Location) : entryAt l [] = none := rfl

@[simp] theorem entryAt_cons (l k : Location) (e : Entry) (rest : List (Location × Entry)) :
    entryAt l ((k, e) :: rest) = if k = l then some e else entryAt l rest := rfl

/-- Puts an entry in its place, instead of one with the same location. -/
def putEntry (l : Location) (e : Entry) : List (Location × Entry) → List (Location × Entry)
  | [] => [(l, e)]
  | (k, x) :: rest =>
    if Location.before l k then (l, e) :: (k, x) :: rest
    else if k = l then (l, e) :: rest
    else (k, x) :: putEntry l e rest

@[simp] theorem putEntry_nil (l : Location) (e : Entry) : putEntry l e [] = [(l, e)] := rfl

theorem putEntry_cons (l k : Location) (e x : Entry) (rest : List (Location × Entry)) :
    putEntry l e ((k, x) :: rest) =
      if Location.before l k then (l, e) :: (k, x) :: rest
      else if k = l then (l, e) :: rest
      else (k, x) :: putEntry l e rest := rfl

theorem mem_putEntry {l : Location} {e : Entry} {x : Location × Entry} :
    ∀ {es : List (Location × Entry)}, x ∈ putEntry l e es → x = (l, e) ∨ x ∈ es
  | [], h => by simpa using h
  | (k, y) :: rest, h => by
    rw [putEntry_cons] at h
    split at h
    · simpa using h
    · split at h
      · rcases List.mem_cons.mp h with h | h
        · exact Or.inl h
        · exact Or.inr (List.mem_cons_of_mem _ h)
      · rcases List.mem_cons.mp h with h | h
        · exact Or.inr (h ▸ List.mem_cons_self)
        · rcases mem_putEntry h with h | h
          · exact Or.inl h
          · exact Or.inr (List.mem_cons_of_mem _ h)

theorem pairwise_putEntry {l : Location} {e : Entry} :
    ∀ {es : List (Location × Entry)}, es.Pairwise (fun a b => Location.before a.1 b.1 = true) →
      (putEntry l e es).Pairwise (fun a b => Location.before a.1 b.1 = true)
  | [], _ => by simp
  | (k, y) :: rest, h => by
    obtain ⟨hk, hrest⟩ := List.pairwise_cons.mp h
    rw [putEntry_cons]
    split
    · next hlt =>
      refine List.pairwise_cons.mpr ⟨fun x hx => ?_, h⟩
      rcases List.mem_cons.mp hx with rfl | hx
      · exact hlt
      · exact Location.strictOrder_before.trans _ _ _ hlt (hk x hx)
    · next hnlt =>
      split
      · next heq => subst heq; exact List.pairwise_cons.mpr ⟨hk, hrest⟩
      · next hne =>
        refine List.pairwise_cons.mpr ⟨fun x hx => ?_, pairwise_putEntry hrest⟩
        rcases mem_putEntry hx with rfl | hx
        · cases hkl : Location.before k l with
          | true => rfl
          | false =>
            exact absurd (Location.strictOrder_before.total k l hkl (by simpa using hnlt)) hne
        · exact hk x hx

theorem entryAt_putEntry (l m : Location) (e : Entry) :
    ∀ es : List (Location × Entry),
      entryAt m (putEntry l e es) = if l = m then some e else entryAt m es
  | [] => by simp
  | (k, x) :: rest => by
    rw [putEntry_cons]
    split
    · simp
    · split
      · next hkl =>
        subst hkl
        by_cases h : k = m <;> simp [h]
      · next hkl =>
        by_cases hm : l = m
        · subst hm
          simp [hkl, entryAt_putEntry l l e rest]
        · by_cases hk : k = m <;> simp [hk, hm, entryAt_putEntry l m e rest]

theorem entryAt_filter (p : Location → Bool) (m : Location) :
    ∀ es : List (Location × Entry),
      entryAt m (es.filter (fun x => p x.1)) = if p m then entryAt m es else none
  | [] => by simp
  | (k, x) :: rest => by
    by_cases hk : k = m
    · subst hk
      by_cases hp : p k
      · simp [hp]
      · simp [hp, entryAt_filter p k rest]
    · by_cases hp : p k
      · simp [hp, hk, entryAt_filter p m rest]
      · simp [hp, hk, entryAt_filter p m rest]

theorem entryAt_eq_some_of_mem {l : Location} {e : Entry} :
    ∀ {es : List (Location × Entry)}, es.Pairwise (fun a b => Location.before a.1 b.1 = true) → (l, e) ∈ es →
      entryAt l es = some e
  | (k, x) :: rest, h, hmem => by
    obtain ⟨hk, hrest⟩ := List.pairwise_cons.mp h
    rcases List.mem_cons.mp hmem with heq | hmem
    · cases heq
      simp
    · have hlt := hk _ hmem
      have hne : k ≠ l := fun h => by
        subst h
        simp [Location.strictOrder_before.irrefl] at hlt
      simp [hne, entryAt_eq_some_of_mem hrest hmem]

theorem mem_of_entryAt_eq_some {l : Location} {e : Entry} :
    ∀ {es : List (Location × Entry)}, entryAt l es = some e → (l, e) ∈ es
  | (k, x) :: rest, h => by
    rw [entryAt_cons] at h
    split at h
    · next hk =>
      cases h
      subst hk
      exact List.mem_cons_self
    · exact List.mem_cons_of_mem _ (mem_of_entryAt_eq_some h)

/-- Entries in order are determined by what stands at each location. -/
theorem eq_of_entryAt_eq :
    ∀ {es fs : List (Location × Entry)}, es.Pairwise (fun a b => Location.before a.1 b.1 = true) →
      fs.Pairwise (fun a b => Location.before a.1 b.1 = true) → (∀ l, entryAt l es = entryAt l fs) → es = fs
  | [], [], _, _, _ => rfl
  | [], (k, x) :: fs, _, _, h => by
    have := h k
    simp at this
  | (k, x) :: es, [], _, _, h => by
    have := h k
    simp at this
  | (k, x) :: es, (j, y) :: fs, hes, hfs, h => by
    have hkj : k = j := by
      have hmem1 : (k, x) ∈ (j, y) :: fs := mem_of_entryAt_eq_some (by rw [← h k]; simp)
      have hmem2 : (j, y) ∈ (k, x) :: es := mem_of_entryAt_eq_some (by rw [h j]; simp)
      rcases List.mem_cons.mp hmem1 with heq | hmem1
      · exact congrArg Prod.fst heq
      · rcases List.mem_cons.mp hmem2 with heq | hmem2
        · exact (congrArg Prod.fst heq).symm
        · have h1 := (List.pairwise_cons.mp hfs).1 _ hmem1
          have h2 := (List.pairwise_cons.mp hes).1 _ hmem2
          have h3 := Location.strictOrder_before.asymm h1
          exact absurd (h3.symm.trans h2) (by simp)
    subst hkj
    have hxy : x = y := by
      have := h k
      simpa using this
    subst hxy
    congr 1
    refine eq_of_entryAt_eq (List.pairwise_cons.mp hes).2 (List.pairwise_cons.mp hfs).2 fun l => ?_
    by_cases hl : k = l
    · subst hl
      have none_of {gs : List (Location × Entry)} (hg : ∀ a ∈ gs, Location.before k a.1 = true) : entryAt k gs = none := by
        cases he : entryAt k gs with
        | none => rfl
        | some e =>
          have h1 := hg _ (mem_of_entryAt_eq_some he)
          simp [Location.strictOrder_before.irrefl] at h1
      rw [none_of (List.pairwise_cons.mp hes).1, none_of (List.pairwise_cons.mp hfs).1]
    · have := h l
      simpa [hl] using this

/-! ## 2. The tree -/

/-- A tree of files: an entry for each location but the root, in increasing order. -/
structure Files where
  entries : List (Location × Entry)
  sorted : entries.Pairwise (fun a b => Location.before a.1 b.1 = true)
  noRoot : ∀ x ∈ entries, x.1 ≠ []

namespace Files

/-- The tree with nothing below the root. -/
def empty : Files := ⟨[], List.Pairwise.nil, by simp⟩

instance : Inhabited Files := ⟨empty⟩

/-- What stands at a location; the root is a directory. -/
def get? (files : Files) (l : Location) : Option Entry :=
  if l = [] then some .directory else entryAt l files.entries

/-- The tree with an entry at a location; the root stays a directory. -/
def put (files : Files) (l : Location) (e : Entry) : Files :=
  if h : l = [] then files
  else
    { entries := putEntry l e files.entries
      sorted := pairwise_putEntry files.sorted
      noRoot := fun x hx => by
        rcases mem_putEntry hx with rfl | hx
        · exact h
        · exact files.noRoot x hx }

/-- The tree with only those entries whose locations are in `p`. -/
def keep (files : Files) (p : Location → Bool) : Files where
  entries := files.entries.filter (fun x => p x.1)
  sorted := files.sorted.filter _
  noRoot := fun x hx => files.noRoot x (List.mem_filter.mp hx).1

/-- The tree without the entry at a location. -/
def erase (files : Files) (l : Location) : Files := files.keep (· != l)

/-- The tree without a location and everything below it. -/
def eraseBelow (files : Files) (l : Location) : Files := files.keep (fun m => !l.isPrefixOf m)

@[simp] theorem get?_root (files : Files) : files.get? [] = some .directory := rfl

theorem get?_put (files : Files) (l m : Location) (e : Entry) :
    (files.put l e).get? m = if l = m ∧ l ≠ [] then some e else files.get? m := by
  by_cases hl : l = []
  · simp [put, hl]
  · by_cases hm : m = []
    · subst hm
      simp [get?, hl]
    · simp [put, get?, hl, hm, entryAt_putEntry]

theorem get?_erase (files : Files) (l m : Location) (hm : m ≠ []) :
    (files.erase l).get? m = if m = l then none else files.get? m := by
  unfold erase keep get?
  simp only [hm, if_false]
  rw [entryAt_filter (fun x => x != l)]
  by_cases h : m = l <;> simp [h]

/-- Two trees with the same entry at every location are equal. -/
theorem ext_get? {a b : Files} (h : ∀ l, a.get? l = b.get? l) : a = b := by
  have hentry : ∀ l, entryAt l a.entries = entryAt l b.entries := by
    intro l
    by_cases hl : l = []
    · subst hl
      have none_of (f : Files) : entryAt [] f.entries = none := by
        cases he : entryAt [] f.entries with
        | none => rfl
        | some e => exact absurd rfl (f.noRoot _ (mem_of_entryAt_eq_some he))
      rw [none_of a, none_of b]
    · simpa [get?, hl] using h l
  cases a with
  | mk ae as ar =>
    cases b with
    | mk be bs br =>
      have : ae = be := eq_of_entryAt_eq as bs hentry
      subst this
      rfl

/-- The names of what a directory holds, in increasing order. -/
def namesIn (files : Files) (dir : Location) : List Text :=
  files.entries.filterMap fun x =>
    match x.1.getLast? with
    | some name => if x.1 = dir ++ [name] then some name else none
    | none => none

end Files

end Manpage
