/-
# Numbers of reports

The numbers that `awk` reckons with are binary numbers with mantissas of 53 bits.  A sum, a product or a
quotient is worked out exactly and rounded once.  Roots, logarithms and the functions of angles are worked
out in whole multiples of a small unit, with many more bits than are kept.
-/
import Manpage.Utility.Decimal

namespace Manpage.Awk

open Manpage.Utility (Fraction Magnitude Signed roundDiv)

/-- A number. -/
abbrev Number := Signed

namespace Number

/-! ## 1. Rounding -/

/-- The bits of a mantissa. -/
def precision : Nat := 53

/-- A fraction as a number. -/
def ofFraction (negative : Bool) (f : Fraction) : Number :=
  if f.num = 0 then ⟨negative, .finite ⟨0, 1⟩⟩
  else if f.num % f.den = 0 ∧ f.num / f.den < Nat.pow 2 precision then
    ⟨negative, .finite ⟨f.num / f.den, 1⟩⟩
  else
    let g := f.toPrecision precision
    if g.den * Nat.pow 2 1024 ≤ g.num then ⟨negative, .infinite⟩ else ⟨negative, .finite g⟩

/-- A ratio as a number. -/
def ofRatio (num : Int) (den : Nat) : Number := ofFraction (num < 0) ⟨num.natAbs, den⟩

/-- A whole number. -/
def ofInt (n : Int) : Number := ofRatio n 1

/-- A natural number. -/
def ofNat (n : Nat) : Number := ofInt n

/-- What is no number. -/
def undefined : Number := ⟨true, .notANumber⟩

/-- A number that has been read, rounded. -/
def rounded (n : Number) : Number :=
  match n.magnitude with
  | .finite f => ofFraction n.negative f
  | _ => n

/-- Whether a number is zero. -/
def isZero (n : Number) : Bool :=
  match n.magnitude with
  | .finite f => f.num == 0
  | _ => false

/-- The numerator with its sign, and the denominator, of a finite number. -/
def ratio? (n : Number) : Option (Int × Nat) :=
  match n.magnitude with
  | .finite f => some (if n.negative then -(f.num : Int) else f.num, f.den)
  | _ => none

/-- The whole number next to a number on the side of zero. -/
def truncated? (n : Number) : Option Int :=
  (ratio? n).map fun (num, den) => num.tdiv den

/-- The whole number that a number is. -/
def whole? (n : Number) : Option Int :=
  match ratio? n with
  | some (num, den) => if num % den = 0 then some (num / den) else none
  | none => none

/-! ## 2. Reckoning -/

/-- The number with the other sign. -/
def neg (n : Number) : Number := ⟨!n.negative, n.magnitude⟩

/-- A sum. -/
def add (a b : Number) : Number :=
  match ratio? a, ratio? b with
  | some (n, d), some (m, e) => ofRatio (n * e + m * d) (d * e)
  | _, _ =>
    match a.magnitude, b.magnitude with
    | .notANumber, _ => a
    | _, .notANumber => b
    | .infinite, .infinite => if a.negative = b.negative then a else undefined
    | .infinite, _ => a
    | _, _ => b

/-- A difference. -/
def sub (a b : Number) : Number := add a (neg b)

/-- A product. -/
def mul (a b : Number) : Number :=
  let negative := a.negative != b.negative
  match a.magnitude, b.magnitude with
  | .finite f, .finite g => ofFraction negative ⟨f.num * g.num, f.den * g.den⟩
  | .notANumber, _ => a
  | _, .notANumber => b
  | _, _ => if isZero a || isZero b then undefined else ⟨negative, .infinite⟩

/-- A quotient. -/
def div (a b : Number) : Number :=
  let negative := a.negative != b.negative
  match a.magnitude, b.magnitude with
  | .finite f, .finite g =>
    if g.num = 0 then (if f.num = 0 then undefined else ⟨negative, .infinite⟩)
    else ofFraction negative ⟨f.num * g.den, f.den * g.num⟩
  | .notANumber, _ => a
  | _, .notANumber => b
  | .infinite, .infinite => undefined
  | .infinite, _ => ⟨negative, .infinite⟩
  | _, .infinite => ⟨negative, .finite ⟨0, 1⟩⟩

/-- What is left by a division, with the sign of what is divided. -/
def rem (a b : Number) : Number :=
  match a.magnitude, b.magnitude with
  | .finite f, .finite g =>
    if g.num = 0 then undefined
    else ofFraction a.negative ⟨(f.num * g.den) % (g.num * f.den), f.den * g.den⟩
  | .notANumber, _ => a
  | _, .notANumber => b
  | .infinite, _ => undefined
  | _, .infinite => a

/-- The order of two numbers; what is no number is like any other. -/
def order (a b : Number) : Ordering :=
  match ratio? a, ratio? b with
  | some (n, d), some (m, e) => compare (n * e) (m * d)
  | _, _ =>
    let rank (n : Number) : Int := match n.magnitude with
      | .infinite => if n.negative then -1 else 1
      | _ => 0
    match a.magnitude, b.magnitude with
    | .notANumber, _ | _, .notANumber => .eq
    | _, _ => compare (rank a) (rank b)

/-! ## 3. In multiples of a unit -/

/-- How many bits the unit has behind the point. -/
def unitBits : Nat := 256

/-- One, in units. -/
def unit : Int := Int.pow 2 unitBits

/-- A finite number in units; zero for others. -/
def toUnits (n : Number) : Int :=
  match ratio? n with
  | some (num, den) => (num * unit).tdiv den
  | none => 0

/-- A number from its units. -/
def ofUnits (x : Int) : Number := ofRatio x (Nat.pow 2 unitBits)

/-- A product in units. -/
def mulUnits (x y : Int) : Int := (x * y).tdiv unit

/-- The sum of a series: each term comes from the one before by a product and a quotient. -/
def series (factor : Int) (divisor : Nat → Nat) : (terms : Nat) → (k : Nat) → (term : Int) → Int
  | 0, _, _ => 0
  | terms + 1, k, term =>
    term + series factor divisor terms (k + 1) ((mulUnits term factor).tdiv (divisor k))

/-- The square root of a natural number, rounded down, from a guess that is not too small. -/
def rootFrom (n : Nat) : (fuel : Nat) → (guess : Nat) → Nat
  | 0, guess => guess
  | fuel + 1, guess =>
    let next := (guess + n / guess) / 2
    if next < guess then rootFrom n fuel next else guess

/-- The square root of a natural number, rounded down. -/
def root (n : Nat) : Nat :=
  if n = 0 then 0 else rootFrom n (2 * Nat.log2 n + 64) (Nat.pow 2 (Nat.log2 n / 2 + 1))

/-- The powers of a factor over odd numbers, added up with signs that stay or change. -/
def oddSeries (x : Int) (alternates : Bool) : Int :=
  let square := if alternates then -(mulUnits x x) else mulUnits x x
  let rec go : (terms : Nat) → (k : Nat) → (power : Int) → Int
    | 0, _, _ => 0
    | terms + 1, k, power => power.tdiv (2 * k + 1) + go terms (k + 1) (mulUnits power square)
  go 200 0 x

/-- The logarithm of two, in units. -/
def logTwo : Int := 2 * oddSeries (unit / 3) false

/-- The circumference of a circle over its diameter, in units. -/
def circle : Int := 4 * (4 * oddSeries (unit / 5) true - oddSeries (unit / 239) true)

/-- The square root. -/
def sqrt (n : Number) : Number :=
  match n.magnitude with
  | .finite f =>
    if f.num = 0 then n
    else if n.negative then undefined
    else ofUnits (root (f.num * Nat.pow 2 (2 * unitBits) / f.den))
  | .infinite => if n.negative then undefined else n
  | .notANumber => n

/-- The exponential. -/
def exp (n : Number) : Number :=
  match n.magnitude with
  | .notANumber => n
  | .infinite => if n.negative then ofInt 0 else n
  | .finite f =>
    if 800 * f.den < f.num then (if n.negative then ofInt 0 else ⟨false, .infinite⟩)
    else
      let small := (toUnits ⟨false, n.magnitude⟩).tdiv 1024
      let e := series small (· + 1) 80 0 unit
      let power := Nat.repeat (fun x => mulUnits x x) 10 e
      if n.negative then ofRatio unit power.natAbs else ofUnits power

/-- The natural logarithm. -/
def log (n : Number) : Number :=
  match n.magnitude with
  | .notANumber => n
  | .infinite => if n.negative then undefined else n
  | .finite f =>
    if f.num = 0 then ⟨true, .infinite⟩
    else if n.negative then undefined
    else
      let e : Int := (Nat.log2 f.num : Int) - Nat.log2 f.den
      let num : Int := f.num * Int.pow 2 (-e).toNat
      let den : Int := f.den * Int.pow 2 e.toNat
      ofUnits (e * logTwo + 2 * oddSeries (((num - den) * unit).tdiv (num + den)) false)

/-- The sine of an angle in units, of which whole turns are left out. -/
def sineUnits (x : Int) : Int :=
  let angle := x % (2 * circle)
  let square := -(mulUnits angle angle)
  series square (fun k => (2 * k + 2) * (2 * k + 3)) 100 0 angle

/-- The sine. -/
def sin (n : Number) : Number :=
  match n.magnitude with
  | .finite _ => ofUnits (sineUnits (toUnits n))
  | _ => undefined

/-- The cosine. -/
def cos (n : Number) : Number :=
  match n.magnitude with
  | .finite _ => ofUnits (sineUnits (toUnits n + circle / 2))
  | _ => undefined

/-- The angle whose tangent is a number of units that is at most one. -/
def angleUnits (x : Int) : Int :=
  let halved (z : Int) : Int :=
    let hypotenuse : Int := root ((unit * unit + z * z).natAbs)
    (z * unit).tdiv (unit + hypotenuse)
  8 * oddSeries (Nat.repeat halved 3 x) true

/-- The angle of a point. -/
def atan2 (y x : Number) : Number :=
  match ratio? y, ratio? x with
  | some (n, d), some (m, e) =>
    let a := n * e
    let b := m * d
    if b = 0 ∧ a = 0 then (if x.negative then ofUnits (if y.negative then -circle else circle) else y)
    else if a.natAbs ≤ b.natAbs then
      let base := angleUnits ((a * unit).tdiv b)
      ofUnits (if 0 < b then base else if y.negative then base - circle else base + circle)
    else
      let base := angleUnits ((b * unit).tdiv a)
      ofUnits ((if 0 < a then circle.tdiv 2 else -(circle.tdiv 2)) - base)
  | _, _ => undefined

/-- A power. -/
def pow (a b : Number) : Number :=
  match whole? b, a.magnitude with
  | some 0, _ => ofInt 1
  | some k, .finite f =>
    let negative := a.negative && k % 2 == 1
    if f.num = 0 then (if 0 < k then ⟨negative, a.magnitude⟩ else ⟨negative, .infinite⟩)
    else if f.num = f.den then ofFraction negative ⟨1, 1⟩
    else if 20000 < k.natAbs then
      if (f.den < f.num) = (0 < k) then ⟨negative, .infinite⟩ else ofInt 0
    else if 0 < k then ofFraction negative ⟨Nat.pow f.num k.toNat, Nat.pow f.den k.toNat⟩
    else ofFraction negative ⟨Nat.pow f.den k.natAbs, Nat.pow f.num k.natAbs⟩
  | _, _ => if a.negative && !isZero a then undefined else exp (mul b (log a))

end Number

end Manpage.Awk
