/-
# The shortest decimal of a floating-point number

A binary64 number stands for every real that rounds to it.  Its shortest decimal is the one with
the fewest digits among those reals, and of two with equally many the nearer one.  The search goes
through the grids of decimals with 1, 2, ... 17 digits and tries the two grid points next to the
number; all comparisons are between natural numbers.
-/
import Manpage.Text.Basic

namespace Manpage.Json

/-- The decimal `digits * 10 ^ exponent`. -/
structure Decimal where
  digits : Nat
  exponent : Int
deriving DecidableEq, Repr

namespace Decimal

/-- The powers of two and ten in `2 ^ q / 10 ^ e`, as numerator and denominator. -/
def scale (q e : Int) : Nat × Nat :=
  (Nat.pow 2 q.toNat * Nat.pow 10 (-e).toNat, Nat.pow 2 (-q).toNat * Nat.pow 10 e.toNat)

/-- The point of the grid of multiples of `10 ^ e` that is nearest to `mantissa * 2 ^ q` among
those that round to it.  `narrow` says that the next smaller number is only half as far away as
the next larger one. -/
def onGrid? (mantissa : Nat) (q : Int) (narrow : Bool) (e : Int) : Option Nat :=
  let (num, den) := scale (q - 2) e
  let centre := 4 * mantissa * num
  let low := (4 * mantissa - (if narrow then 1 else 2)) * num
  let high := (4 * mantissa + 2) * num
  let inside (d : Nat) : Bool :=
    if mantissa % 2 = 0 then low ≤ d * den && d * den ≤ high else low < d * den && d * den < high
  let below := centre / den
  let above := below + 1
  match inside below, inside above with
  | true, true => if centre - below * den ≤ above * den - centre then some below else some above
  | true, false => some below
  | false, true => some above
  | false, false => none

/-- The exponent of the first decimal digit of `mantissa * 2 ^ q`. -/
def leadingExponent (mantissa : Nat) (q : Int) : Int :=
  let (num, den) := scale q 0
  let whole := mantissa * num / den
  if 0 < whole then (Nat.toDigits 10 whole).length - 1
  else
    -- the first power of ten that lifts the number to one or more
    match (List.range 400).find? (fun k => den ≤ mantissa * num * Nat.pow 10 k) with
    | some k => -(k : Int)
    | none => -400

/-- Takes the zeros off the end of the digits. -/
def stripZeros : Nat → Decimal → Decimal
  | 0, d => d
  | fuel + 1, d =>
    if d.digits ≠ 0 ∧ d.digits % 10 = 0 then stripZeros fuel ⟨d.digits / 10, d.exponent + 1⟩ else d

/-- The shortest decimal of `mantissa * 2 ^ q`. -/
def shortest (mantissa : Nat) (q : Int) (narrow : Bool) : Decimal :=
  let lead := leadingExponent mantissa q
  let found := (List.range 18).findSome? fun (n : Nat) =>
    let e := lead - (n : Int)
    (onGrid? mantissa q narrow e).map fun d => stripZeros 20 ⟨d, e⟩
  found.getD ⟨0, 0⟩

end Decimal

/-- The shortest decimal of the magnitude of a finite number. -/
def shortestOfFloat (f : Float) : Decimal :=
  let bits : Nat := f.toBits.toNat
  let fraction : Nat := bits % Nat.pow 2 52
  let biased : Nat := bits / Nat.pow 2 52 % Nat.pow 2 11
  if biased = 0 then
    if fraction = 0 then ⟨0, 0⟩ else Decimal.shortest fraction (-1074) false
  else Decimal.shortest (fraction + Nat.pow 2 52) ((biased : Int) - 1075) (fraction == 0 && 1 < biased)

/-- A finite number in decimal: positional with at least one place after the point from
`10 ^ -5` to below `10 ^ 16`, with an exponent elsewhere, whose sign is always written. -/
def floatText (f : Float) : Text :=
  let d := shortestOfFloat f
  let digits := Text.ofNat d.digits
  let point : Int := digits.length + d.exponent
  let sign : Text := if f.toBits.toNat / Nat.pow 2 63 = 1 then ['-'] else []
  let body : Text :=
    if d.digits = 0 then ['0', '.', '0']
    else if 0 < point ∧ point ≤ 16 then
      if 0 ≤ d.exponent then digits ++ List.replicate d.exponent.toNat '0' ++ ['.', '0']
      else digits.take point.toNat ++ '.' :: digits.drop point.toNat
    else if -5 < point ∧ point ≤ 0 then
      ['0', '.'] ++ List.replicate (-point).toNat '0' ++ digits
    else
      let e := point - 1
      digits.take 1 ++ (if digits.length = 1 then [] else '.' :: digits.drop 1)
        ++ ['e', if e < 0 then '-' else '+'] ++ Text.ofNat e.natAbs
  sign ++ body

end Manpage.Json
