/-
# Permission bits

Permission bits written as octal numbers or as changes by letter, and how they are shown.
-/
import Manpage.Utility.Decimal
import Manpage.Utility.Options

namespace Manpage.Utility

/-- The shifts of the classes of users that letters name. -/
def classShifts (letters : Text) : List Nat :=
  let all := letters.isEmpty || letters.contains 'a'
  (if all || letters.contains 'u' then [6] else [])
    ++ (if all || letters.contains 'g' then [3] else [])
    ++ (if all || letters.contains 'o' then [0] else [])

/-- The bits that permission letters ask for, for the classes given; a letter of a class copies its
bits. -/
def letterBits (mode : Nat) (isDirectory : Bool) (shifts : List Nat) (who : Text) (letters : Text) :
    Option Nat :=
  letters.foldlM (fun bits c =>
    let each (three : Nat) : Nat := shifts.foldl (fun b s => b ||| (three <<< s)) bits
    match c with
    | 'r' => some (each 4)
    | 'w' => some (each 2)
    | 'x' => some (each 1)
    | 'X' => some (if isDirectory || mode &&& 0o111 != 0 then each 1 else bits)
    | 's' =>
      let users := who.isEmpty || who.contains 'a'
      let bits := if users || who.contains 'u' then bits ||| 0o4000 else bits
      some (if users || who.contains 'g' then bits ||| 0o2000 else bits)
    | 't' => some (bits ||| 0o1000)
    | 'u' => some (each (mode >>> 6 &&& 7))
    | 'g' => some (each (mode >>> 3 &&& 7))
    | 'o' => some (each (mode &&& 7))
    | _ => none) 0

/-- Changes bits by one clause, the letters of classes and then operators with their letters. -/
def changeClause (umask : Nat) (isDirectory : Bool) (mode : Nat) (clause : Text) : Option Nat :=
  let who := clause.takeWhile fun c => "ugoa".toList.contains c
  let shifts := classShifts who
  let rec actions : (fuel : Nat) → Nat → Text → Option Nat
    | 0, mode, _ => some mode
    | _ + 1, mode, [] => some mode
    | fuel + 1, mode, op :: rest =>
      if op ≠ '+' ∧ op ≠ '-' ∧ op ≠ '=' then none
      else
        let letters := rest.takeWhile fun c => !"+-=".toList.contains c
        match letterBits mode isDirectory shifts who letters with
        | none => none
        | some bits =>
          let bits := if who.isEmpty then bits &&& (0o7777 ^^^ umask) else bits
          let mine := shifts.foldl (fun b s => b ||| (7 <<< s)) 0
          let mine := if isDirectory then mine else
            mine ||| (if shifts.contains 6 then 0o4000 else 0) ||| (if shifts.contains 3 then 0o2000 else 0)
          let mode := if op = '+' then mode ||| bits
            else if op = '-' then mode &&& (0o7777 ^^^ bits)
            else (mode &&& (0o7777 ^^^ mine)) ||| bits
          actions fuel mode (rest.drop letters.length)
  match clause.drop who.length with
  | [] => none
  | body => actions (body.length + 1) mode body

/-- Changes bits as a text says; `none` when the text is no change. -/
def changeMode (umask : Nat) (isDirectory : Bool) (mode : Nat) (change : Text) : Option Nat :=
  let octal (digits : Text) : Option Nat :=
    if digits ≠ [] ∧ digits.all (fun c => '0' ≤ c && c ≤ '7') ∧ ofDigits 8 digits < 0o10000 then
      some (ofDigits 8 digits)
    else none
  match change with
  | c :: _ =>
    if c.isDigit then octal change
    else (Text.cutAt (· == ',') change).foldlM (changeClause umask isDirectory) mode
  | [] => none

/-- The letters of a class of users, for its three bits and a special one. -/
def classLetters (bits : Nat) (special : Bool) (on off : Char) : Text :=
  [if bits &&& 4 != 0 then 'r' else '-', if bits &&& 2 != 0 then 'w' else '-',
   if special then (if bits &&& 1 != 0 then on else off) else if bits &&& 1 != 0 then 'x' else '-']

/-- Bits as letters. -/
def modeLetters (mode : Nat) : Text :=
  classLetters (mode >>> 6 &&& 7) (mode.testBit 11) 's' 'S'
    ++ classLetters (mode >>> 3 &&& 7) (mode.testBit 10) 's' 'S'
    ++ classLetters (mode &&& 7) (mode.testBit 9) 't' 'T'

/-- Bits in octal. -/
def octalMode (mode : Nat) : Text := Nat.toDigits 8 mode

/-! ## What the letters tell -/

/-- The letters of a class tell its bits and the special one. -/
theorem eq_of_classLetters_eq :
    ∀ m < 8, ∀ n < 8, ∀ special special' : Bool,
      (classLetters m special 's' 'S' = classLetters n special' 's' 'S' →
        m = n ∧ special = special') ∧
      (classLetters m special 't' 'T' = classLetters n special' 't' 'T' →
        m = n ∧ special = special') := by
  decide

/-- **The letters tell all twelve bits.** -/
theorem eq_of_modeLetters_eq {m n : Nat} (hm : m < 0o10000) (hn : n < 0o10000)
    (h : modeLetters m = modeLetters n) : m = n := by
  have hlt (k : Nat) : k &&& 7 < 8 := Nat.and_lt_two_pow k (by decide : 7 < 2 ^ 3)
  have hmod (k : Nat) : k &&& 7 = k % 8 := Nat.and_two_pow_sub_one_eq_mod k 3
  obtain ⟨hfirst, hothers⟩ := List.append_inj' h rfl
  obtain ⟨huser, hgroup⟩ := List.append_inj' hfirst rfl
  obtain ⟨huser, huserId⟩ := (eq_of_classLetters_eq _ (hlt _) _ (hlt _) _ _).1 huser
  obtain ⟨hgroup, hgroupId⟩ := (eq_of_classLetters_eq _ (hlt _) _ (hlt _) _ _).1 hgroup
  obtain ⟨hothers, hsticky⟩ := (eq_of_classLetters_eq _ (hlt _) _ (hlt _) _ _).2 hothers
  simp only [hmod, Nat.shiftRight_eq_div_pow, Nat.testBit_eq_decide_div_mod_eq,
    decide_eq_decide] at huser hgroup hothers huserId hgroupId hsticky
  omega

/-- What everyone may read and the owner may write. -/
example : modeLetters 0o644 = "rw-r--r--".toList := by decide

end Manpage.Utility
