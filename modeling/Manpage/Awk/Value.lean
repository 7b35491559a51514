/-
# Values of reports

A value is nothing yet, a number, or a text.  A text that was read is compared as a number if it looks
like one.  Arrays keep values by text, in buckets that are gone through in their order.
-/
import Manpage.Awk.Number
import Manpage.Utility.Printf

namespace Manpage.Awk

open Manpage.Utility (takeNumber)
open Manpage.Utility.Printf (Directive)

/-- A value. -/
inductive Value
  | nothing
  | number (n : Number)
  | text (s : Text)
  /-- A text that was read, which may be a number. -/
  | input (s : Text)
deriving DecidableEq, Repr

/-! ## 1. Numbers as texts -/

namespace Number

/-- The whole number that is written for a number with a conversion. -/
def clamped (n : Number) : Int :=
  match truncated? n with
  | some k => if k < -Int.pow 2 63 then -(Int.pow 2 63 - 1) else if Int.pow 2 64 ≤ k then Int.pow 2 64 - 1 else k
  | none =>
    match n.magnitude with
    | .infinite => if n.negative then -Int.pow 2 63 else Int.pow 2 64 - 1
    | _ => -Int.pow 2 63

/-- The conversion of a format, with what stands before and behind it. -/
def directive? (format : Text) : Option (Text × Directive × Text) :=
  let before := format.takeWhile (· != '%')
  match format.drop before.length with
  | '%' :: rest =>
    let flags := rest.takeWhile fun c => "-+#0 ".toList.contains c
    let rest := rest.drop flags.length
    let width := rest.takeWhile Char.isDigit
    let rest := rest.drop width.length
    let (precision, rest) := match rest with
      | '.' :: r =>
        let ds := r.takeWhile Char.isDigit
        (some (Utility.ofDigits 10 ds), r.drop ds.length)
      | r => (none, r)
    match rest with
    | kind :: after => some (before, ⟨flags, Utility.ofDigits 10 width, precision, kind⟩, after)
    | [] => none
  | _ => none

/-- A number in a format; a whole number is written as it is. -/
def text (format : Text) (n : Number) : Text :=
  let inFormat : Text := match directive? format with
    | some (before, d, after) =>
      if "eEfFgG".toList.contains d.kind then before ++ d.floating n ++ after
      else if "diouxX".toList.contains d.kind then before ++ d.integer (clamped n) ++ after
      else format
    | none => format
  match n.magnitude with
  | .finite _ =>
    match whole? n with
    | some k =>
      if -Int.pow 2 63 ≤ k ∧ k ≤ Int.pow 2 64 then
        (if k < 0 then ['-'] else []) ++ Text.ofNat (min k.natAbs (Nat.pow 2 64 - 1))
      else inFormat
    | none => inFormat
  | .infinite => if n.negative then "-inf".toList else "inf".toList
  | .notANumber => if n.negative then "-nan".toList else "nan".toList

end Number

/-! ## 2. Values -/

namespace Value

/-- Whether a character is a blank around a number. -/
def isBlank (c : Char) : Bool := c == ' ' || ('\t' ≤ c && c ≤ '\r')

/-- The number that a text looks like. -/
def numberOf? (s : Text) : Option Number :=
  let bare := Text.dropEndWhile isBlank (s.dropWhile isBlank)
  let looks : Bool := match bare with
    | c :: _ => c.isDigit || c == '+' || c == '-' || c == '.'
    | [] => false
  if looks then
    match takeNumber bare with
    | some (n, []) => some (Number.rounded n)
    | _ => none
  else none

/-- The number that a text begins with, or zero. -/
def numberIn (s : Text) : Number :=
  match takeNumber s with
  | some (n, _) => Number.rounded n
  | none => Number.ofNat 0

/-- A value as a number. -/
def toNumber : Value → Number
  | .nothing => Number.ofNat 0
  | .number n => n
  | .text s | .input s => numberIn s

/-- A value as a text, with the format for numbers that are not whole. -/
def toText (format : Text) : Value → Text
  | .nothing => []
  | .number n => n.text format
  | .text s | .input s => s

/-- Whether a value counts as true. -/
def isTrue : Value → Bool
  | .nothing => false
  | .number n => !n.isZero
  | .text s => !s.isEmpty
  | .input s =>
    match numberOf? s with
    | some n => !n.isZero
    | none => !s.isEmpty

/-- The number that a value is compared as, if it is not compared as a text. -/
def compared? : Value → Option Number
  | .nothing => some (Number.ofNat 0)
  | .number n => some n
  | .text _ => none
  | .input s => numberOf? s

/-- The order of two texts, character by character. -/
def orderTexts : Text → Text → Ordering
  | [], [] => .eq
  | [], _ :: _ => .lt
  | _ :: _, [] => .gt
  | a :: s, b :: t => if a.toNat < b.toNat then .lt else if b.toNat < a.toNat then .gt else orderTexts s t

/-- The order of two values: of numbers if both are, else of texts. -/
def order (format : Text) (a b : Value) : Ordering :=
  match compared? a, compared? b with
  | some x, some y => Number.order x y
  | _, _ => orderTexts (a.toText format) (b.toText format)

/-- A truth as a value. -/
def ofBool (b : Bool) : Value := .number (Number.ofNat b.toNat)

/-- A natural number as a value. -/
def ofNat (n : Nat) : Value := .number (Number.ofNat n)

/-- A whole number as a value. -/
def ofInt (n : Int) : Value := .number (Number.ofInt n)

end Value

/-! ## 3. Arrays -/

/-- An array: its values by text, in buckets, and how many there are. -/
structure Table where
  buckets : Array (List (Text × Value))
  size : Nat
deriving Repr

namespace Table

/-- How many buckets an array begins with. -/
def startBuckets : Nat := 64

/-- How many values a bucket has at most, on average. -/
def load : Nat := 12

/-- An array without values. -/
def empty : Table := ⟨Array.replicate startBuckets [], 0⟩

/-- The number that tells the bucket of a text. -/
def hash (s : Text) : Nat :=
  s.foldl (fun h c => ((h ^^^ c.toNat) * 16777619) % Nat.pow 2 32) 2166136261

/-- The bucket of a text. -/
def bucket (t : Table) (key : Text) : Nat := hash key % t.buckets.size

/-- The value of a text. -/
def get? (t : Table) (key : Text) : Option Value :=
  ((t.buckets[t.bucket key]?).getD []).lookup key

/-- Gives a text a value; it is then the first of its bucket. -/
def put (t : Table) (key : Text) (v : Value) : Table :=
  let i := t.bucket key
  let old := (t.buckets[i]?).getD []
  let kept := old.filter (·.1 != key)
  let t : Table := ⟨t.buckets.setIfInBounds i ((key, v) :: kept), t.size + 1 + kept.length - old.length⟩
  if load * t.buckets.size < t.size then
    let n := t.buckets.size
    let part (odd : Bool) (xs : List (Text × Value)) : List (Text × Value) :=
      xs.filter fun x => decide (hash x.1 % (2 * n) < n) != odd
    ⟨t.buckets.map (part false) ++ t.buckets.map (part true), t.size⟩
  else t

/-- Takes a text out. -/
def erase (t : Table) (key : Text) : Table :=
  let i := t.bucket key
  let old := (t.buckets[i]?).getD []
  let kept := old.filter (·.1 != key)
  ⟨t.buckets.setIfInBounds i kept, t.size + kept.length - old.length⟩

/-- The texts that have values. -/
def keys (t : Table) : List Text := t.buckets.toList.flatMap fun b => b.map Prod.fst

end Table

/-! ## 4. Formats -/

/-- What goes wrong in a format. -/
inductive FormatFault
  | missing
  /-- A conversion that is not known, by number. -/
  | improper (n : Nat)
deriving DecidableEq, Repr

/-- A format that is gone through: what has been written, the last piece first, what is left, and how
many conversions there were. -/
structure Layout where
  pieces : List Text
  args : List Value
  done : Nat

namespace Layout

/-- Takes an argument. -/
def take (l : Layout) : Except FormatFault (Value × Layout) :=
  match l.args with
  | [] => .error .missing
  | v :: args => .ok (v, { l with args })

/-- Takes a number that is written in a format, or an argument for a star. -/
def size (l : Layout) (rest : Text) : Except FormatFault (Option Int × Text × Layout) :=
  match rest with
  | '*' :: rest => do
    let (v, l) ← l.take
    return (some (Number.clamped v.toNumber), rest, l)
  | rest =>
    let ds := rest.takeWhile Char.isDigit
    .ok (if ds.isEmpty then none else some (Utility.ofDigits 10 ds), rest.drop ds.length, l)

/-- What a conversion makes of a value. -/
def convert (format : Text) (d : Directive) (v : Value) : Text :=
  if d.kind = 's' then d.text (v.toText format)
  else if d.kind = 'c' then
    let octet (n : Number) : Char := Char.ofNat ((Number.clamped n) % 256).toNat
    let c := match v with
      | .number n => octet n
      | .nothing => Char.ofNat 0
      | .text s => s.headD (Char.ofNat 0)
      | .input s => match Value.numberOf? s with
        | some n => octet n
        | none => s.headD (Char.ofNat 0)
    d.fill [c]
  else if "diouxX".toList.contains d.kind then d.integer (Number.clamped v.toNumber)
  else d.floating v.toNumber

/-- Goes through a format; `convFormat` is the one for numbers as texts. -/
def run (convFormat : Text) : (fuel : Nat) → Layout → Text → Layout × Option FormatFault
  | 0, l, _ => (l, none)
  | _ + 1, l, [] => (l, none)
  | fuel + 1, l, '%' :: '%' :: rest => run convFormat fuel { l with pieces := ['%'] :: l.pieces } rest
  | fuel + 1, l, '%' :: rest =>
    let flags := rest.takeWhile fun c => "-+#0 ".toList.contains c
    let step : Except FormatFault (Layout × Text) := do
      let (width, rest, l) ← l.size (rest.drop flags.length)
      let (precision, rest, l) ← match rest with
        | '.' :: r => do
          let (n, r, l) ← l.size r
          pure (some (n.getD 0), r, l)
        | r => pure (none, r, l)
      let flags := match width with
        | some w => if w < 0 then '-' :: flags else flags
        | none => flags
      let rest := rest.dropWhile fun c => c == 'l' || c == 'h'
      match rest with
      | [] => do
        let (_, l) ← l.take
        throw (.improper (l.done + 1))
      | kind :: rest => do
        let known := "sdiouxXcfFeEgG".toList.contains kind
        let (v, l) ← l.take
        if !known then throw (.improper (l.done + 1))
        let d : Directive := ⟨flags, (width.getD 0).natAbs,
          precision.bind fun (n : Int) => if n < 0 then none else some n.toNat,
          if kind = 'i' then 'd' else kind⟩
        return ({ l with pieces := convert convFormat d v :: l.pieces, done := l.done + 1 }, rest)
    match step with
    | .ok (l, rest) => run convFormat fuel l rest
    | .error fault => (l, some fault)
  | fuel + 1, l, c :: rest => run convFormat fuel { l with pieces := [c] :: l.pieces } rest

end Layout

end Manpage.Awk
