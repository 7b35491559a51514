/-
# Decimal texts of fractions

Fractions written with a number of places, with an exponent, or as whichever of the two is shorter.
A fraction is rounded once, from its exact value, and a half goes to the even neighbour.  Numbers that
commands read are first rounded to the nearest binary number of a given precision.
-/
import Manpage.Text.Basic

namespace Manpage.Utility

/-- The fraction `num / den`; the denominator is not zero. -/
structure Fraction where
  num : Nat
  den : Nat
deriving DecidableEq, Repr

/-- A quotient rounded to the nearest natural number, a half to the even one. -/
def roundDiv (num den : Nat) : Nat :=
  let q := num / den
  let r := num % den
  if 2 * r < den then q
  else if den < 2 * r then q + 1
  else if q % 2 = 0 then q else q + 1

/-- **No natural number is nearer to the fraction**: they differ by a half at most. -/
theorem roundDiv_nearest {num den : Nat} (h : 0 < den) :
    2 * num ≤ 2 * (roundDiv num den * den) + den ∧
      2 * (roundDiv num den * den) ≤ 2 * num + den := by
  have hdiv := Nat.div_add_mod' num den
  have hmod := Nat.mod_lt num h
  have hup : (num / den + 1) * den = num / den * den + den := Nat.succ_mul _ _
  simp only [roundDiv]
  split
  · omega
  · split
    · rw [hup]
      omega
    · split
      · omega
      · rw [hup]
        omega

namespace Fraction

/-- A natural number as a fraction. -/
def ofNat (n : Nat) : Fraction := ⟨n, 1⟩

/-- `m * 2 ^ e` as a fraction. -/
def ofBinary (m : Nat) (e : Int) : Fraction := ⟨m * Nat.pow 2 e.toNat, Nat.pow 2 (-e).toNat⟩

/-- `m * 10 ^ e` as a fraction. -/
def ofDecimal (m : Nat) (e : Int) : Fraction := ⟨m * Nat.pow 10 e.toNat, Nat.pow 10 (-e).toNat⟩

/-- The nearest fraction with a mantissa of so many bits. -/
def toPrecision (bits : Nat) (f : Fraction) : Fraction :=
  if f.num = 0 then f
  else
    let size : Int := (Nat.log2 f.num : Int) - (Nat.log2 f.den : Int)
    -- one bit too many at first, so that the quotient has at least the bits that are kept
    let shift : Int := size - bits
    let scaled (shift : Int) : Nat × Nat := (f.num * Nat.pow 2 (-shift).toNat, f.den * Nat.pow 2 shift.toNat)
    let (n, d) := scaled shift
    let shift := if Nat.pow 2 bits ≤ n / d then shift + 1 else shift
    let (n, d) := scaled shift
    ofBinary (roundDiv n d) shift

/-- The exponent of the first decimal digit of a fraction that is not zero. -/
def leading (f : Fraction) : Int :=
  let whole := f.num / f.den
  if 0 < whole then (Nat.toDigits 10 whole).length - 1
  else
    -- the estimate by bits is at most one too small
    let guess := (Nat.log2 f.den - Nat.log2 f.num) * 3 / 10
    let rec go : (fuel : Nat) → Nat → Int
      | 0, k => -(k : Int)
      | fuel + 1, k => if f.den ≤ f.num * Nat.pow 10 k then -(k : Int) else go fuel (k + 1)
    let start := if guess = 0 then 1 else if f.den ≤ f.num * Nat.pow 10 (guess - 1) then 1 else guess
    go 5000 start

/-- Digits with zeros in front up to a length. -/
def padded (length n : Nat) : Text :=
  let digits := Text.ofNat n
  List.replicate (length - digits.length) '0' ++ digits

/-- With so many places after the point; `point` writes the point even before no place. -/
def fixed (f : Fraction) (places : Nat) (point : Bool) : Text :=
  let n := roundDiv (f.num * Nat.pow 10 places) f.den
  let digits := padded (places + 1) n
  let whole := digits.take (digits.length - places)
  if places = 0 then whole ++ (if point then ['.'] else [])
  else whole ++ '.' :: digits.drop (digits.length - places)

/-- The digits and the exponent of a fraction rounded to so many places after the first digit. -/
def rounded (f : Fraction) (places : Nat) : Text × Int :=
  if f.num = 0 then (List.replicate (places + 1) '0', 0)
  else
    let e := f.leading
    let shift : Int := places - e
    let n := roundDiv (f.num * Nat.pow 10 shift.toNat) (f.den * Nat.pow 10 (-shift).toNat)
    let digits := Text.ofNat n
    if digits.length = places + 2 then (digits.dropLast, e + 1) else (digits, e)

/-- An exponent with its sign and at least two digits. -/
def exponentText (letter : Char) (e : Int) : Text :=
  [letter, if e < 0 then '-' else '+'] ++ padded 2 e.natAbs

/-- A first digit, places, and an exponent. -/
def scientific (f : Fraction) (places : Nat) (letter : Char) (point : Bool) : Text :=
  let (digits, e) := f.rounded places
  digits.take 1 ++ (if places = 0 then (if point then ['.'] else []) else '.' :: digits.drop 1)
    ++ exponentText letter e

/-- Without the zeros at the end of the places, and without a point before none. -/
def withoutZeros (s : Text) : Text :=
  if s.contains '.' then Text.dropEndWhile (· == '.') (Text.dropEndWhile (· == '0') s) else s

/-- With so many digits at most: positional unless the exponent is small or large; `point` keeps
zeros at the end. -/
def general (f : Fraction) (precision : Nat) (letter : Char) (point : Bool) : Text :=
  let p := if precision = 0 then 1 else precision
  let (digits, e) := f.rounded (p - 1)
  if e < -4 ∨ (p : Int) ≤ e then
    let mantissa := digits.take 1 ++ (if p = 1 then (if point then ['.'] else [])
      else '.' :: digits.drop 1)
    (if point then mantissa else withoutZeros mantissa) ++ exponentText letter e
  else
    let text := f.fixed ((p : Int) - 1 - e).toNat point
    if point then text else withoutZeros text

end Fraction

/-! ## Numbers as they are written -/

/-- A number that has been read: a sign and a magnitude that may be no finite number. -/
inductive Magnitude
  | finite (f : Fraction)
  | infinite
  | notANumber
deriving DecidableEq, Repr

/-- A number with its sign. -/
structure Signed where
  negative : Bool
  magnitude : Magnitude
deriving DecidableEq, Repr

/-- The value of a hexadecimal digit. -/
def hexValue? (c : Char) : Option Nat :=
  if '0' ≤ c ∧ c ≤ '9' then some (c.toNat - 48)
  else if 'a' ≤ c ∧ c ≤ 'f' then some (c.toNat - 87)
  else if 'A' ≤ c ∧ c ≤ 'F' then some (c.toNat - 55)
  else none

/-- The value of digits in a base. -/
def ofDigits (base : Nat) (digits : Text) : Nat :=
  digits.foldl (fun n c => n * base + (hexValue? c).getD 0) 0

/-- Takes the exponent of a number after its letter, if it has digits. -/
def exponent? (letters : List Char) (s : Text) : Int × Text :=
  match s with
  | c :: rest =>
    if letters.contains c then
      let (negative, body) := match rest with
        | '-' :: r => (true, r)
        | '+' :: r => (false, r)
        | r => (false, r)
      let digits := body.takeWhile Char.isDigit
      if digits.isEmpty then (0, s)
      else
        let n : Int := min (ofDigits 10 digits) 20000
        (if negative then -n else n, body.drop digits.length)
    else (0, s)
  | [] => (0, s)

/-- Takes a magnitude: decimal digits with a point and an exponent, hexadecimal ones, or the names of
what is no finite number. -/
def takeMagnitude (s : Text) : Option (Magnitude × Text) :=
  let lower := s.map Char.toLower
  if ("infinity".toList).isPrefixOf lower then some (.infinite, s.drop 8)
  else if ("inf".toList).isPrefixOf lower then some (.infinite, s.drop 3)
  else if ("nan".toList).isPrefixOf lower then some (.notANumber, s.drop 3)
  else
    let hex := ("0x".toList).isPrefixOf lower &&
      (match s.drop 2 with
        | '.' :: c :: _ => (hexValue? c).isSome
        | c :: _ => (hexValue? c).isSome
        | [] => false)
    let isDigit (c : Char) : Bool := if hex then (hexValue? c).isSome else c.isDigit
    let body := if hex then s.drop 2 else s
    let whole := body.takeWhile isDigit
    let rest := body.drop whole.length
    let (places, rest) := match rest with
      | '.' :: r =>
        let places := r.takeWhile isDigit
        if whole.isEmpty && places.isEmpty then ([], rest) else (places, r.drop places.length)
      | r => ([], r)
    if whole.isEmpty && places.isEmpty then none
    else if hex then
      let (e, rest) := exponent? ['p', 'P'] rest
      let m := ofDigits 16 (whole ++ places)
      let f := Fraction.ofBinary m (e - 4 * (places.length : Int))
      some (.finite f, rest)
    else
      let (e, rest) := exponent? ['e', 'E'] rest
      let m := ofDigits 10 (whole ++ places)
      let f := if m = 0 then ⟨0, 1⟩ else Fraction.ofDecimal m (e - (places.length : Int))
      some (.finite f, rest)

/-- Takes a number after white space: its value and what follows it. -/
def takeNumber (s : Text) : Option (Signed × Text) :=
  let s := s.dropWhile fun c => c == ' ' || ('\t' ≤ c && c ≤ '\r')
  let (negative, body) := match s with
    | '-' :: r => (true, r)
    | '+' :: r => (false, r)
    | r => (false, r)
  (takeMagnitude body).map fun (m, rest) => (⟨negative, m⟩, rest)

/-- Takes a whole number after white space, in the base that its beginning tells. -/
def takeInteger (s : Text) : Option (Int × Text) :=
  let s := s.dropWhile fun c => c == ' ' || ('\t' ≤ c && c ≤ '\r')
  let (negative, body) := match s with
    | '-' :: r => (true, r)
    | '+' :: r => (false, r)
    | r => (false, r)
  let hex := match body with
    | '0' :: x :: c :: _ => (x == 'x' || x == 'X') && (hexValue? c).isSome
    | _ => false
  let (base, digits, rest) :=
    if hex then
      let ds := (body.drop 2).takeWhile fun c => (hexValue? c).isSome
      (16, ds, (body.drop 2).drop ds.length)
    else if body.head? = some '0' then
      let ds := body.takeWhile fun c => '0' ≤ c && c ≤ '7'
      (8, ds, body.drop ds.length)
    else
      let ds := body.takeWhile Char.isDigit
      (10, ds, body.drop ds.length)
  if digits.isEmpty then none
  else
    let n : Int := ofDigits base digits
    some (if negative then -n else n, rest)

end Manpage.Utility
