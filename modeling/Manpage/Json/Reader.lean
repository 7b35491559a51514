/-
# Reading JSON byte by byte

The reader that configuration files go through.  It keeps the line and the column it has come to,
so that a fault can say where it is: some faults point behind the byte that was read last, others
at the byte that comes next.  This file holds the faults with their wording, the position, and the
readers of strings and numbers.
-/
import Manpage.Json.Shortest
import Manpage.Text.Quoted
import Manpage.Text.Utf8

namespace Manpage.Json

/-! ## 1. Faults -/

/-- A number as JSON has it: a natural number below `2 ^ 64`, the negative of one up to `2 ^ 63`, or
a floating-point number. -/
inductive Number
  | natural (n : Nat)
  | negative (n : Nat)
  | floating (f : Float)

/-- A value of the wrong type. -/
inductive Found
  | null
  | boolean (b : Bool)
  | number (n : Number)
  | string (s : Text)
  | list
  | object

/-- How a message names a value of the wrong type. -/
def Found.wording : Found → Text
  | .null => "null".toList
  | .boolean true => "boolean \x60true\x60".toList
  | .boolean false => "boolean \x60false\x60".toList
  | .number (.natural n) => "integer \x60".toList ++ Text.ofNat n ++ "\x60".toList
  | .number (.negative n) => "integer \x60-".toList ++ Text.ofNat n ++ "\x60".toList
  | .number (.floating f) => "floating point \x60".toList ++ floatText f ++ "\x60".toList
  | .string s => "string ".toList ++ Text.quoted s
  | .list => "sequence".toList
  | .object => "map".toList

/-- What is wrong with a JSON text. -/
inductive Fault
  | endInList | endInObject | endInString | endInValue
  | noColon | noListComma | noObjectComma
  | badLiteral | noValue | badEscape | badNumber | numberTooLarge | badUtf8 | controlCharacter
  | keyNotString | loneSurrogate | cutSurrogate | trailingComma | trailingText
  /-- A value of the wrong type where another is expected. -/
  | wrongType (found : Found) (expected : Text)
  /-- A negative number where it cannot be. -/
  | wrongSign (n : Nat) (expected : Text)
  | unknownField (name : Text) (known : List Text)
  | repeatedField (name : Text)
  /-- A list with too few members. -/
  | wrongLength (n : Nat) (expected : Text)

/-- A text between backquotes. -/
def backquoted (s : Text) : Text := '\x60' :: s ++ ['\x60']

/-- The wording of a fault. -/
def Fault.wording : Fault → Text
  | .endInList => "EOF while parsing a list".toList
  | .endInObject => "EOF while parsing an object".toList
  | .endInString => "EOF while parsing a string".toList
  | .endInValue => "EOF while parsing a value".toList
  | .noColon => "expected \x60:\x60".toList
  | .noListComma => "expected \x60,\x60 or \x60]\x60".toList
  | .noObjectComma => "expected \x60,\x60 or \x60\x7d\x60".toList
  | .badLiteral => "expected ident".toList
  | .noValue => "expected value".toList
  | .badEscape => "invalid escape".toList
  | .badNumber => "invalid number".toList
  | .numberTooLarge => "number out of range".toList
  | .badUtf8 => "invalid unicode code point".toList
  | .controlCharacter =>
    "control character (\\u0000-\\u001F) found while parsing a string".toList
  | .keyNotString => "key must be a string".toList
  | .loneSurrogate => "lone leading surrogate in hex escape".toList
  | .cutSurrogate => "unexpected end of hex escape".toList
  | .trailingComma => "trailing comma".toList
  | .trailingText => "trailing characters".toList
  | .wrongType found expected =>
    "invalid type: ".toList ++ found.wording ++ ", expected ".toList ++ expected
  | .wrongSign n expected =>
    "invalid value: integer \x60-".toList ++ Text.ofNat n ++ "\x60, expected ".toList ++ expected
  | .unknownField name known =>
    "unknown field ".toList ++ backquoted name ++ ", expected one of ".toList
      ++ Text.join [',', ' '] (known.map backquoted)
  | .repeatedField name => "duplicate field ".toList ++ backquoted name
  | .wrongLength n expected =>
    "invalid length ".toList ++ Text.ofNat n ++ ", expected ".toList ++ expected

/-- A fault and where it is: the line, counted from one, and the bytes of it that lie before. -/
structure Misread where
  fault : Fault
  line : Nat
  column : Nat

/-- The message that reports a fault in a JSON text. -/
def Misread.message (m : Misread) : Text :=
  m.fault.wording ++ " at line ".toList ++ Text.ofNat m.line ++ " column ".toList
    ++ Text.ofNat m.column

/-! ## 2. The position -/

/-- What is left of the text, and the position of it. -/
structure Cursor where
  rest : Bytes
  line : Nat
  column : Nat

/-- Past one byte. -/
def Cursor.next (c : Cursor) : Cursor :=
  match c.rest with
  | [] => c
  | b :: rest => if b = 10 then ⟨rest, c.line + 1, 0⟩ else ⟨rest, c.line, c.column + 1⟩

/-- Past as many bytes as `n` says. -/
def Cursor.advance (c : Cursor) (n : Nat) : Cursor := Nat.repeat Cursor.next n c

/-- A reader takes a value off the text or reports a fault. -/
abbrev Reader := StateT Cursor (Except Misread)

/-- The byte of an ASCII character. -/
def byte (c : Char) : UInt8 := c.toNat.toUInt8

namespace Reader

/-- A fault behind what has been read. -/
def fail {α : Type} (fault : Fault) : Reader α := fun c => .error ⟨fault, c.line, c.column⟩

/-- A fault at the byte that comes next. -/
def failAtNext {α : Type} (fault : Fault) : Reader α := fun c =>
  let c := c.next
  .error ⟨fault, c.line, c.column⟩

/-- The byte that comes next. -/
def peek : Reader (Option UInt8) := fun c => .ok (c.rest.head?, c)

/-- Takes the next byte. -/
def skip : Reader Unit := fun c => .ok ((), c.next)

/-- Takes the next byte and gives it. -/
def next : Reader (Option UInt8) := fun c => .ok (c.rest.head?, c.next)

/-- The bytes of white space between values. -/
def isSpace (b : UInt8) : Bool := b == 32 || b == 10 || b == 9 || b == 13

/-- Takes white space, and gives the byte that comes next. -/
def skipSpace : Reader (Option UInt8) := fun c =>
  let c := c.advance (c.rest.takeWhile isSpace).length
  .ok (c.rest.head?, c)

/-- Takes the bytes of a literal after its first. -/
def literal : List Char → Reader Unit
  | [] => pure ()
  | expected :: rest => do
    match ← next with
    | none => fail .endInValue
    | some b => if b = byte expected then literal rest else fail .badLiteral

/-! ## 3. Strings -/

/-- The value of a hexadecimal digit. -/
def hexDigit? (b : UInt8) : Option Nat :=
  if 48 ≤ b ∧ b ≤ 57 then some (b.toNat - 48)
  else if 65 ≤ b ∧ b ≤ 70 then some (b.toNat - 55)
  else if 97 ≤ b ∧ b ≤ 102 then some (b.toNat - 87)
  else none

/-- Takes four hexadecimal digits. -/
def hexUnit : Reader Nat := fun c =>
  match c.rest with
  | d1 :: d2 :: d3 :: d4 :: _ =>
    match [d1, d2, d3, d4].mapM hexDigit? with
    | some ds => .ok (ds.foldl (fun n d => n * 16 + d) 0, c.advance 4)
    | none => fail .badEscape (c.advance 4)
  | _ => fail .endInString (c.advance 3)

/-- Takes the byte `b`, or fails behind whatever stands there. -/
def expectInSurrogate (b : UInt8) : Reader Unit := do
  match ← next with
  | none => fail .endInString
  | some found => if found = b then pure () else fail .cutSurrogate

/-- Takes the rest of an escape by number: a unit of UTF-16, and a second one if the first is the
leading half of a pair. -/
def numberEscape : Reader Bytes := do
  let first ← hexUnit
  if 0xDC00 ≤ first ∧ first ≤ 0xDFFF then fail .loneSurrogate
  else if first < 0xD800 ∨ 0xDBFF < first then return Utf8.encode [Char.ofNat first]
  else
    expectInSurrogate (byte '\\')
    expectInSurrogate (byte 'u')
    let second ← hexUnit
    if second < 0xDC00 ∨ 0xDFFF < second then fail .loneSurrogate
    else
      return Utf8.encode
        [Char.ofNat ((first - 0xD800) * 0x400 + (second - 0xDC00) + 0x10000)]

/-- The byte that a short escape stands for. -/
def shortEscape? (b : UInt8) : Option UInt8 :=
  if b = byte '"' ∨ b = byte '\\' ∨ b = byte '/' then some b
  else if b = byte 'b' then some 8
  else if b = byte 'f' then some 12
  else if b = byte 'n' then some 10
  else if b = byte 'r' then some 13
  else if b = byte 't' then some 9
  else none

/-- Takes what follows a backslash in a string. -/
def escape : Reader Bytes := do
  match ← next with
  | none => fail .endInString
  | some b =>
    match shortEscape? b with
    | some meant => return [meant]
    | none => if b = byte 'u' then numberEscape else fail .badEscape

/-- Takes the bytes of a string up to its closing quote.  `fuel` bounds the number of steps, each
of which takes a byte. -/
def stringBytes : (fuel : Nat) → Reader Bytes
  | 0 => fail .endInString
  | fuel + 1 => do
    match ← peek with
    | none => fail .endInString
    | some b =>
      skip
      if b = byte '"' then return []
      else if b = byte '\\' then
        let meant ← escape
        return meant ++ (← stringBytes fuel)
      else if b < 32 then fail .controlCharacter
      else return b :: (← stringBytes fuel)

/-- Takes a string after its opening quote.  Bytes that are not UTF-8 are a fault, found once the
string has been taken.  Its place is reckoned back from the closing quote by the bytes of the value,
in which an escape counts as what it stands for. -/
def string : Reader Text := do
  let start ← get
  let bytes ← stringBytes (start.rest.length + 1)
  match Utf8.decode? bytes with
  | some s => return s
  | none =>
    let c ← get
    throw ⟨.badUtf8, c.line, c.column + Utf8.validLength bytes - bytes.length⟩

/-! ## 4. Numbers -/

/-- The byte of a decimal digit. -/
def isDigit (b : UInt8) : Bool := 48 ≤ b && b ≤ 57

/-- Takes digits onto a number as long as it stays below `limit`: the number, how many digits it
took, and the digits left over. -/
def absorb (limit : Nat) : (n : Nat) → List UInt8 → Nat × Nat × List UInt8
  | n, [] => (n, 0, [])
  | n, d :: rest =>
    let grown := n * 10 + (d.toNat - 48)
    if grown < limit then
      let (n, taken, left) := absorb limit grown rest
      (n, taken + 1, left)
    else (n, 0, d :: rest)

/-- Takes all digits that come next. -/
def digits : Reader (List UInt8) := fun c =>
  let ds := c.rest.takeWhile isDigit
  .ok (ds, c.advance ds.length)

/-- `10 ^ n` as a floating-point number. -/
def tenPower (n : Nat) : Float := Float.ofScientific 1 false n

/-- `f * 10 ^ exponent`, by one multiplication or by divisions of at most `10 ^ 308` each; `none`
when it is too large. -/
def shift : (fuel : Nat) → Float → Int → Option Float
  | 0, f, _ => some f
  | fuel + 1, f, exponent =>
    if exponent.natAbs ≤ 308 then
      if 0 ≤ exponent then
        let f := f * tenPower exponent.toNat
        if f.isInf then none else some f
      else some (f / tenPower exponent.natAbs)
    else if f == 0.0 then some f
    else if 0 ≤ exponent then none
    else shift fuel (f / tenPower 308) (exponent + 308)

/-- The floating-point number of a sign, a significand and a decimal exponent. -/
def floating (positive : Bool) (significand : Nat) (exponent : Int) : Reader Number :=
  match shift 8 (Float.ofNat significand) exponent with
  | none => fail .numberTooLarge
  | some f => pure (.floating (if positive then f else -f))

/-- The largest exponent that is reckoned with. -/
def exponentLimit : Nat := Nat.pow 2 31

/-- Takes the exponent of a number after the letter. -/
def exponentPart (positive : Bool) (significand : Nat) (start : Int) : Reader Number := do
  skip
  let up ← do
    match ← peek with
    | some b =>
      if b = byte '+' then skip; pure true
      else if b = byte '-' then skip; pure false
      else pure true
    | none => pure true
  match ← next with
  | none => fail .endInValue
  | some b =>
    if isDigit b then
      let c ← get
      let (n, taken, left) := absorb exponentLimit (b.toNat - 48) (c.rest.takeWhile isDigit)
      if left = [] then
        set (c.advance taken)
        floating positive significand (if up then start + n else start - n)
      else if significand ≠ 0 ∧ up = true then
        set (c.advance (taken + 1))
        fail .numberTooLarge
      else
        discard digits
        return .floating (if positive then 0.0 else -0.0)
    else fail .badNumber

/-- Whether a letter that begins an exponent comes next. -/
def atExponent : Reader Bool := do
  match ← peek with
  | some b => return b = byte 'e' || b = byte 'E'
  | none => return false

/-- Takes the places of a number after the point, which is next, and the exponent. -/
def fractionPart (positive : Bool) (significand : Nat) (exponent : Int) : Reader Number := do
  skip
  let ds ← digits
  if ds = [] then
    match ← peek with
    | some _ => failAtNext .badNumber
    | none => failAtNext .endInValue
  else
    let (n, taken, _) := absorb (Nat.pow 2 64) significand ds
    if ← atExponent then exponentPart positive n (exponent - taken)
    else floating positive n (exponent - taken)

/-- Takes the rest of a number whose integer digits have been taken. -/
def afterInteger (positive : Bool) (significand : Nat) (dropped : Nat) : Reader Number := do
  match ← peek with
  | some b =>
    if b = byte '.' then fractionPart positive significand dropped
    else if b = byte 'e' ∨ b = byte 'E' then exponentPart positive significand dropped
    else integer
  | none => integer
where
  /-- The number that ends here. -/
  integer : Reader Number :=
    if dropped ≠ 0 then floating positive significand dropped
    else if positive then pure (.natural significand)
    else if significand = 0 ∨ Nat.pow 2 63 < significand then
      pure (.floating (-(Float.ofNat significand)))
    else pure (.negative significand)

/-- Takes a number after its sign: `positive` says that there was none. -/
def number (positive : Bool) : Reader Number := do
  match ← next with
  | none => fail .endInValue
  | some b =>
    if b = byte '0' then
      match ← peek with
      | some d => if isDigit d then failAtNext .badNumber else afterInteger positive 0 0
      | none => afterInteger positive 0 0
    else if isDigit b then
      let ds ← digits
      let (n, _, left) := absorb (Nat.pow 2 64) (b.toNat - 48) ds
      afterInteger positive n left.length
    else fail .badNumber

/-! ## 5. Values of the wrong type -/

/-- Names the value that comes next, which is not what is expected, and fails behind it. -/
def wrongType {α : Type} (expected : Text) : Reader α := do
  let failWith (found : Found) : Reader α := fail (.wrongType found expected)
  match ← peek with
  | none => failAtNext .noValue
  | some b =>
    if b = byte 'n' then skip; literal ['u', 'l', 'l']; failWith .null
    else if b = byte 't' then skip; literal ['r', 'u', 'e']; failWith (.boolean true)
    else if b = byte 'f' then skip; literal ['a', 'l', 's', 'e']; failWith (.boolean false)
    else if b = byte '-' then skip; failWith (.number (← number false))
    else if isDigit b then failWith (.number (← number true))
    else if b = byte '"' then skip; failWith (.string (← string))
    else if b = byte '[' then failWith .list
    else if b = byte '\x7b' then failWith .object
    else failAtNext .noValue

end Reader

end Manpage.Json
