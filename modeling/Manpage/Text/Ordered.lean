/-
# Texts in order

Texts compare by their characters' code points, first difference first, and a text comes before
its extensions; this is also the order of their UTF-8 bytes.  The same rule puts lists of texts in
order.  `ordered` turns a list of texts into the strictly increasing list with the same members.

The main facts: the rule gives a strict total order (`StrictOrder.lex`), and ordering keeps the
members (`mem_ordered`) and puts them in strictly increasing order (`pairwise_ordered`).
-/
import Manpage.Text.Basic

namespace Manpage

/-! ## 1. Lexicographic order -/

/-- What it takes to put things in a line: nothing comes before itself, what comes before something
comes before all that follow it, and of two different things one comes first. -/
structure StrictOrder {α : Type} (before : α → α → Bool) : Prop where
  irrefl : ∀ a, before a a = false
  trans : ∀ a b c, before a b = true → before b c = true → before a c = true
  total : ∀ a b, before a b = false → before b a = false → a = b

/-- Whether a list comes before another by the first members in which they differ. -/
def lexBefore {α : Type} [DecidableEq α] (before : α → α → Bool) : List α → List α → Bool
  | _, [] => false
  | [], _ :: _ => true
  | a :: s, b :: t => before a b || (decide (a = b) && lexBefore before s t)

theorem StrictOrder.lex {α : Type} [DecidableEq α] {before : α → α → Bool}
    (h : StrictOrder before) : StrictOrder (lexBefore before) where
  irrefl s := by
    induction s with
    | nil => rfl
    | cons a s ih => simp [lexBefore, h.irrefl, ih]
  trans s := by
    induction s with
    | nil =>
      intro t u hst htu
      cases t with
      | nil => simp [lexBefore] at hst
      | cons b t =>
        cases u with
        | nil => simp [lexBefore] at htu
        | cons c u => rfl
    | cons a s ih =>
      intro t u hst htu
      cases t with
      | nil => simp [lexBefore] at hst
      | cons b t =>
        cases u with
        | nil => simp [lexBefore] at htu
        | cons c u =>
          simp only [lexBefore, Bool.or_eq_true, Bool.and_eq_true, decide_eq_true_eq] at *
          rcases hst with hab | ⟨rfl, hst⟩
          · rcases htu with hbc | ⟨rfl, _⟩
            · exact Or.inl (h.trans _ _ _ hab hbc)
            · exact Or.inl hab
          · rcases htu with hbc | ⟨rfl, htu⟩
            · exact Or.inl hbc
            · exact Or.inr ⟨rfl, ih t u hst htu⟩
  total s := by
    induction s with
    | nil =>
      intro t h1 _
      cases t with
      | nil => rfl
      | cons b t => simp [lexBefore] at h1
    | cons a s ih =>
      intro t h1 h2
      cases t with
      | nil => simp [lexBefore] at h2
      | cons b t =>
        simp only [lexBefore, Bool.or_eq_false_iff, Bool.and_eq_false_iff,
          decide_eq_false_iff_not] at h1 h2
        have hab : a = b := h.total a b h1.1 h2.1
        subst hab
        have hst : s = t := by
          refine ih t ?_ ?_
          · rcases h1.2 with hne | hs
            · exact absurd rfl hne
            · exact hs
          · rcases h2.2 with hne | hs
            · exact absurd rfl hne
            · exact hs
        rw [hst]

/-- What comes before another thing does not come after it. -/
theorem StrictOrder.asymm {α : Type} {before : α → α → Bool} (h : StrictOrder before) {a b : α}
    (hab : before a b = true) : before b a = false := by
  cases hba : before b a with
  | false => rfl
  | true => rw [← h.irrefl a, h.trans a b a hab hba]

namespace Text

/-! ## 2. The order of texts -/

/-- Whether a character has the smaller code point. -/
def charBefore (a b : Char) : Bool := a.toNat < b.toNat

/-- Whether a text comes before another. -/
def before (s t : Text) : Bool := lexBefore charBefore s t

theorem strictOrder_charBefore : StrictOrder charBefore where
  irrefl a := by simp [charBefore]
  trans a b c h1 h2 := by
    simp only [charBefore, decide_eq_true_eq] at *
    omega
  total a b h1 h2 := by
    simp only [charBefore, decide_eq_false_iff_not] at h1 h2
    exact Char.toNat_inj.mp (by omega)

theorem strictOrder_before : StrictOrder before := strictOrder_charBefore.lex

/-! ## 3. The members of a list in order -/

/-- Puts a text at its place among texts in increasing order, unless it is there already. -/
def insertOrdered (t : Text) : List Text → List Text
  | [] => [t]
  | u :: rest =>
    if before t u then t :: u :: rest
    else if t = u then u :: rest
    else u :: insertOrdered t rest

/-- The members of a list, each once, in increasing order. -/
def ordered (ts : List Text) : List Text := ts.foldr insertOrdered []

theorem mem_insertOrdered {t x : Text} :
    ∀ ts : List Text, x ∈ insertOrdered t ts ↔ x = t ∨ x ∈ ts
  | [] => by simp [insertOrdered]
  | u :: rest => by
    unfold insertOrdered
    split
    · simp
    · split
      · next h => subst h; simp
      · simp only [List.mem_cons, mem_insertOrdered rest]
        constructor
        · rintro (h | h | h) <;> simp [h]
        · rintro (h | h | h) <;> simp [h]

/-- Ordering loses no member and adds none. -/
theorem mem_ordered {x : Text} : ∀ ts : List Text, x ∈ ordered ts ↔ x ∈ ts
  | [] => by simp [ordered]
  | t :: ts => by
    show x ∈ insertOrdered t (ordered ts) ↔ _
    rw [mem_insertOrdered, mem_ordered ts, List.mem_cons]

theorem pairwise_insertOrdered (t : Text) :
    ∀ {ts : List Text}, ts.Pairwise (fun a b => before a b = true) →
      (insertOrdered t ts).Pairwise (fun a b => before a b = true)
  | [], _ => by simp [insertOrdered]
  | u :: rest, h => by
    obtain ⟨hu, hrest⟩ := List.pairwise_cons.mp h
    unfold insertOrdered
    split
    · next htu =>
      refine List.pairwise_cons.mpr ⟨fun x hx => ?_, h⟩
      rcases List.mem_cons.mp hx with rfl | hx
      · exact htu
      · exact strictOrder_before.trans _ _ _ htu (hu x hx)
    · next htu =>
      split
      · exact h
      · next hne =>
        refine List.pairwise_cons.mpr ⟨fun x hx => ?_, pairwise_insertOrdered t hrest⟩
        rcases (mem_insertOrdered rest).mp hx with rfl | hx
        · cases hux : before u x with
          | true => rfl
          | false =>
            exact absurd (strictOrder_before.total x u (by simpa using htu) hux) hne
        · exact hu x hx

/-- The members stand in strictly increasing order. -/
theorem pairwise_ordered : ∀ ts : List Text, (ordered ts).Pairwise (fun a b => before a b = true)
  | [] => List.Pairwise.nil
  | t :: ts => pairwise_insertOrdered t (pairwise_ordered ts)

end Text

end Manpage
