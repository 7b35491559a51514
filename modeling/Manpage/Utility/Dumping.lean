/-
# Bytes as text

`od` shows the bytes of files as numbers or characters, and `base64` writes them with sixty-four
characters or reads them back.
-/
import Manpage.Utility.Decimal
import Manpage.Utility.Input

namespace Manpage.Utility

/-! ## 1. How bytes are shown -/

/-- What bytes are shown as. -/
inductive DumpKind
  | named | char | signed | unsigned | octal | hex
deriving DecidableEq, Repr

/-- How bytes are shown: as what, how many together, and whether the line ends with their characters. -/
structure DumpForm where
  kind : DumpKind
  size : Nat
  trailer : Bool
deriving DecidableEq, Repr

namespace DumpForm

/-- The names of control characters. -/
def names : List String :=
  ["nul", "soh", "stx", "etx", "eot", "enq", "ack", "bel", "bs", "ht", "nl", "vt", "ff", "cr", "so", "si",
   "dle", "dc1", "dc2", "dc3", "dc4", "nak", "syn", "etb", "can", "em", "sub", "esc", "fs", "gs", "rs", "us", "sp"]

/-- The width of a field, without the blank before it. -/
def width (f : DumpForm) : Nat :=
  match f.kind with
  | .named | .char => 3
  | .hex => 2 * f.size
  | .octal => ([0, 3, 6, 8, 11, 14, 16, 19, 22][f.size]?).getD 22
  | .unsigned => ([0, 3, 5, 8, 10, 13, 15, 17, 20][f.size]?).getD 20
  | .signed => ([1, 4, 6, 8, 11, 13, 16, 18, 20][f.size]?).getD 20

/-- A byte as a character. -/
def charText (c : Char) : Text :=
  match List.lookup c [('\x00', "\\0"), ('\x07', "\\a"), ('\x08', "\\b"), ('\x0c', "\\f"), ('\n', "\\n"),
      ('\r', "\\r"), ('\t', "\\t"), ('\x0b', "\\v")] with
  | some s => s.toList
  | none =>
    if prints c then [c]
    else
      let digits := Nat.toDigits 8 c.toNat
      List.replicate (3 - digits.length) '0' ++ digits

/-- Bytes as they are shown; the first of them counts least. -/
def fieldText (f : DumpForm) (bytes : Text) : Text :=
  let n := bytes.foldr (fun c n => n * 256 + c.toNat) 0
  let filled (digits : Text) : Text := List.replicate (f.width - digits.length) '0' ++ digits
  match f.kind with
  | .char => charText (bytes.headD '\x00')
  | .named =>
    let n := (bytes.headD '\x00').toNat % 128
    if n = 127 then "del".toList
    else match names[n]? with
      | some s => s.toList
      | none => [Char.ofNat n]
  | .hex => filled (Nat.toDigits 16 n)
  | .octal => filled (Nat.toDigits 8 n)
  | .unsigned => Text.ofNat n
  | .signed =>
    let most := Nat.pow 256 f.size
    if n < most / 2 then Text.ofNat n else '-' :: Text.ofNat (most - n)

/-- Reads the forms that an argument asks for. -/
def read (whole : Text) : (fuel : Nat) → Text → Except Text (List DumpForm)
  | 0, _ => .ok []
  | _ + 1, [] => .ok []
  | fuel + 1, c :: rest => do
    let kind? := List.lookup c [('a', DumpKind.named), ('c', .char), ('d', .signed), ('u', .unsigned),
      ('o', .octal), ('x', .hex)]
    match kind? with
    | none =>
      .error ("invalid character '".toList ++ [c] ++ "' in type string ".toList ++ quotedWord whole)
    | some kind =>
      let digits := rest.takeWhile Char.isDigit
      let (size, rest) : Nat × Text :=
        if kind = .named ∨ kind = .char then (1, rest)
        else if digits ≠ [] then (ofDigits 10 digits, rest.drop digits.length)
        else match rest with
          | 'C' :: rest => (1, rest)
          | 'S' :: rest => (2, rest)
          | 'I' :: rest => (4, rest)
          | 'L' :: rest => (8, rest)
          | rest => (4, rest)
      if !([1, 2, 4, 8].contains size) then
        .error ("invalid type string ".toList ++ quotedWord whole ++ ";\nthis system doesn't provide a ".toList
          ++ Text.ofNat size ++ "-byte integral type".toList)
      let (trailer, rest) : Bool × Text := match rest with
        | 'z' :: rest => (true, rest)
        | rest => (false, rest)
      return ⟨kind, size, trailer⟩ :: (← read whole fuel rest)

end DumpForm

/-! ## 2. Lines of bytes -/

/-- How lines of bytes are written. -/
structure DumpPlan where
  forms : List DumpForm
  /-- How many bytes stand on a line. -/
  length : Nat
  /-- How an offset is written, and how wide it is. -/
  address : Nat → Text
  addressWidth : Nat
  /-- Whether lines like the one before are written too. -/
  all : Bool

namespace DumpPlan

/-- The width of a line without its offset. -/
def lineWidth (plan : DumpPlan) : Nat :=
  (plan.forms.map fun f => (f.width + 1) * (plan.length / f.size)).foldl max 0

/-- The fields of a line in one form, with blanks that make all forms equally wide. -/
def fields (plan : DumpPlan) (f : DumpForm) (bytes : Text) : Text :=
  let count := plan.length / f.size
  let pad := plan.lineWidth - f.width * count
  let shown := (bytes.length + f.size - 1) / f.size
  let piece (i : Nat) : Text :=
    let own := (bytes.drop (i * f.size)).take f.size
    let own := own ++ List.replicate (f.size - own.length) '\x00'
    -- the blanks that are left are shared among the fields that are left
    let left := count - i
    let room := pad * left / count - pad * (left - 1) / count
    alignRight (f.width + room) (f.fieldText own)
  let text := (List.range shown).flatMap piece
  if f.trailer then
    let missing := (plan.length - bytes.length) / f.size
    text ++ List.replicate (missing * f.width + pad * missing / count) ' ' ++ "  >".toList
      ++ bytes.map (fun c => if prints c then c else '.') ++ ['<']
  else text

/-- The lines of bytes from an offset on; a star stands for lines like the one before. -/
def lines (plan : DumpPlan) : (fuel : Nat) → (offset : Nat) → (before : Option Text) → (starred : Bool) →
    Text → Text
  | 0, _, _, _, _ => []
  | _ + 1, offset, _, _, [] =>
    if plan.addressWidth = 0 then [] else plan.address offset ++ ['\n']
  | fuel + 1, offset, before, starred, bytes =>
    let own := bytes.take plan.length
    let rest := bytes.drop plan.length
    let next := offset + own.length
    if !plan.all ∧ before = some own ∧ own.length = plan.length then
      (if starred then [] else ['*', '\n']) ++ lines plan fuel next (some own) true rest
    else
      let rows := plan.forms.zipIdx.flatMap fun (f, i) =>
        (if i = 0 then plan.address offset else List.replicate plan.addressWidth ' ')
          ++ plan.fields f own ++ ['\n']
      rows ++ lines plan fuel next (some own) false rest

end DumpPlan

/-- `od`: shows bytes. -/
def od (args : List Text) : Work Nat := do
  let a ← arguments ("A:address-radix= j:skip-bytes= N:read-bytes= S:strings= t:format= v:output-duplicates"
    ++ " w:width? a b c d f i l o s x -:endian= -:traditional") args 1 false
  let radix := (a.value? "A").getD ['o']
  let numbered (base width : Nat) (n : Nat) : Text :=
    let digits := Nat.toDigits base n
    List.replicate (width - digits.length) '0' ++ digits
  let (address, addressWidth) ← match radix with
    | 'o' :: _ => pure (numbered 8 7, 7)
    | 'd' :: _ => pure (numbered 10 7, 7)
    | 'x' :: _ => pure (numbered 16 6, 6)
    | 'n' :: _ => pure ((fun _ => ([] : Text)), 0)
    | _ =>
      Work.fail 1 ("invalid output address radix '".toList ++ radix.take 1
        ++ "'; it must be one character from [doxn]".toList)
  let count (key : String) : Work (Option Nat) := do
    match a.value? key with
    | none => return none
    | some s =>
      match countOf? s with
      | some n => return some n
      | none => Work.fail 1 (("invalid -" ++ key ++ " argument ").toList ++ quotedWord s)
  let skip := (← count "j").getD 0
  let most ← count "N"
  let mut asked : List DumpForm := []
  for o in a.options do
    let word : Text := match String.ofList o.key with
      | "a" => ['a']
      | "b" => "o1".toList
      | "c" => ['c']
      | "d" => "u2".toList
      | "i" => "d4".toList
      | "l" => "d8".toList
      | "o" => "o2".toList
      | "s" => "d2".toList
      | "x" => "x2".toList
      | "t" => o.value.getD []
      | _ => []
    match DumpForm.read word (word.length + 1) word with
    | .ok more => asked := asked ++ more
    | .error message => Work.fail 1 message
  let forms := if asked.isEmpty then [⟨.octal, 2, false⟩] else asked
  let unit := (forms.map (·.size)).foldl max 1
  let wanted := if !a.has "w" then 16 else match a.value? "w" with
    | none => 32
    | some s => (countOf? s).getD 16
  let length ← if wanted ≠ 0 ∧ wanted % unit = 0 then pure wanted
    else do
      Work.complain ("warning: invalid width ".toList ++ Text.ofNat wanted ++ "; using ".toList
        ++ Text.ofNat unit ++ " instead".toList)
      pure unit
  let (found, fine) ← readAll a.operands faultText
  let text := found.flatMap Prod.snd
  if text.length < skip then Work.fail 1 "cannot skip past end of combined input".toList
  let text := text.drop skip
  let text := match most with
    | some n => text.take n
    | none => text
  let plan : DumpPlan := ⟨forms, length, address, addressWidth, a.has "v"⟩
  if !found.isEmpty then Work.out (plan.lines (text.length + 2) skip none false text)
  return statusOf fine

/-! ## 3. Sixty-four characters -/

/-- The characters that stand for six bits. -/
def sixBitChars : Text :=
  "ABCDEFGHIJKLMNOPQRSTUVWXYZabcdefghijklmnopqrstuvwxyz0123456789+/".toList

/-- Three bytes as four characters. -/
def encodeBytes : Text → Text
  | a :: b :: c :: rest =>
    let n := a.toNat * 65536 + b.toNat * 256 + c.toNat
    digit (n / 262144) :: digit (n / 4096) :: digit (n / 64) :: digit n :: encodeBytes rest
  | [a, b] =>
    let n := a.toNat * 1024 + b.toNat * 4
    [digit (n / 4096), digit (n / 64), digit n, '=']
  | [a] => [digit (a.toNat / 4), digit (a.toNat * 16), '=', '=']
  | [] => []
where
  /-- The character for six bits. -/
  digit (n : Nat) : Char := (sixBitChars[n % 64]?).getD 'A'

/-- The bytes of four characters at a time, and whether all of them make sense. -/
def decodeBytes : (fuel : Nat) → Text → Text × Bool
  | 0, _ => ([], true)
  | _ + 1, [] => ([], true)
  | fuel + 1, s =>
    let four := s.take 4
    let rest := s.drop 4
    let bits (c : Option Char) : Option Nat := c.bind fun c => sixBitChars.findIdx? (· == c)
    match bits four[0]?, bits four[1]? with
    | some a, some b =>
      let first := Char.ofNat (a * 4 + b / 16)
      match four[2]?, bits four[2]? with
      | some '=', _ =>
        if four[3]? = some '=' then
          let (more, fine) := decodeBytes fuel rest
          (first :: more, fine)
        else ([first], false)
      | _, none => ([first], false)
      | _, some c =>
        let second := Char.ofNat (b % 16 * 16 + c / 4)
        match four[3]?, bits four[3]? with
        | some '=', _ =>
          let (more, fine) := decodeBytes fuel rest
          (first :: second :: more, fine)
        | _, none => ([first, second], false)
        | _, some d =>
          let (more, fine) := decodeBytes fuel rest
          (first :: second :: Char.ofNat (c % 4 * 64 + d) :: more, fine)
    | _, _ => ([], false)

/-- A digit tells its six bits. -/
theorem findIdx?_digit (n : Nat) :
    sixBitChars.findIdx? (· == encodeBytes.digit n) = some (n % 64) := by
  have hall : ∀ i < 64, sixBitChars.findIdx? (· == encodeBytes.digit i) = some i := by decide
  have hdigit : encodeBytes.digit n = encodeBytes.digit (n % 64) := by
    rw [encodeBytes.digit, encodeBytes.digit, Nat.mod_mod]
  rw [hdigit]
  exact hall _ (Nat.mod_lt n (by decide))

theorem digit_ne_pad (n : Nat) : encodeBytes.digit n ≠ '=' := by
  intro h
  have hfound := findIdx?_digit n
  rw [h] at hfound
  have hnone : sixBitChars.findIdx? (· == '=') = none := by decide
  rw [hnone] at hfound
  cases hfound

theorem ofNat_eq_of_eq_toNat {n : Nat} {c : Char} (h : n = c.toNat) : Char.ofNat n = c := by
  rw [h, Char.ofNat_toNat]

/-- **What has been written with sixty-four characters is read back**, if the characters are bytes. -/
theorem decodeBytes_encodeBytes (s : Text) (hbytes : ∀ c ∈ s, c.toNat < 256) {fuel : Nat}
    (hfuel : s.length < fuel) : decodeBytes fuel (encodeBytes s) = (s, true) := by
  obtain ⟨fuel, rfl⟩ := Nat.exists_eq_add_one_of_ne_zero (Nat.ne_of_gt (Nat.zero_lt_of_lt hfuel))
  induction s using encodeBytes.induct generalizing fuel with
  | case1 a b c rest ih =>
    obtain ⟨ha, hb, hc, hrest⟩ :
        a.toNat < 256 ∧ b.toNat < 256 ∧ c.toNat < 256 ∧ ∀ x ∈ rest, x.toNat < 256 := by
      simpa using hbytes
    obtain ⟨fuel, rfl⟩ := Nat.exists_eq_add_one_of_ne_zero (n := fuel) (by simp at hfuel; omega)
    have hmore := ih hrest fuel (by simp at hfuel; omega)
    rw [encodeBytes, decodeBytes.eq_def]
    simp only [findIdx?_digit, List.take_succ_cons, List.take_zero, List.drop_succ_cons,
      List.drop_zero, List.getElem?_cons_zero, List.getElem?_cons_succ, Option.bind_some, hmore]
    split
    · next h => exact absurd (Option.some.inj h) (digit_ne_pad _)
    · next h _ => cases h
    · next h _ =>
      cases h
      split
      · next h => exact absurd (Option.some.inj h) (digit_ne_pad _)
      · next h _ => cases h
      · next h _ =>
        cases h
        rw [ofNat_eq_of_eq_toNat (c := a) (by omega), ofNat_eq_of_eq_toNat (c := b) (by omega),
          ofNat_eq_of_eq_toNat (c := c) (by omega)]
  | case2 a b =>
    obtain ⟨ha, hb⟩ : a.toNat < 256 ∧ b.toNat < 256 := by simpa using hbytes
    obtain ⟨fuel, rfl⟩ := Nat.exists_eq_add_one_of_ne_zero (n := fuel) (by simp at hfuel; omega)
    rw [encodeBytes, decodeBytes.eq_def]
    simp only [findIdx?_digit, List.take_succ_cons, List.take_zero, List.drop_succ_cons,
      List.drop_zero, List.getElem?_cons_zero, List.getElem?_cons_succ, Option.bind_some, decodeBytes]
    split
    · next h => exact absurd (Option.some.inj h) (digit_ne_pad _)
    · next h _ => cases h
    · next h _ =>
      cases h
      rw [ofNat_eq_of_eq_toNat (c := a) (by omega), ofNat_eq_of_eq_toNat (c := b) (by omega)]
  | case3 a =>
    have ha : a.toNat < 256 := by simpa using hbytes
    obtain ⟨fuel, rfl⟩ := Nat.exists_eq_add_one_of_ne_zero (n := fuel) (by simp at hfuel; omega)
    rw [encodeBytes, decodeBytes.eq_def]
    simp only [findIdx?_digit, List.take_succ_cons, List.take_zero, List.drop_succ_cons,
      List.drop_zero, List.getElem?_cons_zero, List.getElem?_cons_succ, Option.bind_some, decodeBytes,
      if_true]
    rw [ofNat_eq_of_eq_toNat (c := a) (by omega)]
  | case4 => rfl

example : encodeBytes "Man".toList = "TWFu".toList := by decide

/-- A text in lines of a length; without one it stays as it is. -/
def inLinesOf (length : Nat) : (fuel : Nat) → Text → Text
  | 0, s => s
  | fuel + 1, s =>
    if length = 0 ∨ s = [] then s
    else s.take length ++ '\n' :: inLinesOf length fuel (s.drop length)

/-- `base64`: writes bytes with sixty-four characters. -/
def base64 (args : List Text) : Work Nat := do
  let a ← arguments "d:decode D i:ignore-garbage w:wrap=" args 1 false
  let width ← match a.value? "w" with
    | none => pure 76
    | some s =>
      if s ≠ [] ∧ s.all Char.isDigit then pure (ofDigits 10 s)
      else Work.fail 1 ("invalid wrap size: ".toList ++ quotedWord s)
  let path ← match a.operands with
    | [] => pure ['-']
    | [path] => pure path
    | _ :: extra :: _ => misuse 1 ("extra operand ".toList ++ quotedWord extra)
  match ← Work.readFile path with
  | .error fault =>
    Work.fail 1 (if fault = .isDirectory then "read error: ".toList ++ fault.wording else faultText path fault)
  | .ok s =>
    if a.has "d" || a.has "D" then
      let kept := s.filter fun c =>
        c != '\n' && (!a.has "i" || c == '=' || sixBitChars.contains c)
      let (bytes, fine) := decodeBytes (kept.length + 1) kept
      Work.out bytes
      if !fine then Work.fail 1 "invalid input".toList
      return 0
    else
      let encoded := encodeBytes s
      Work.out (inLinesOf width (encoded.length + 1) encoded)
      return 0

end Manpage.Utility
