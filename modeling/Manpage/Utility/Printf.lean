/-
# Formatted output

Formats with directives for texts and numbers.  A format is gone through again as long as arguments
are left, and an argument that is missing is empty or zero.  The shells and the separate command have
the same directives and differ in escapes, in what they take for wrong, and in their messages.
-/
import Manpage.Utility.Moment
import Manpage.Utility.Options

namespace Manpage.Utility.Printf

/-! ## 1. Directives -/

/-- A directive: its flags, the least width, the precision, and the kind of what is written. -/
structure Directive where
  flags : Text
  width : Nat
  precision : Option Nat
  kind : Char
deriving DecidableEq, Repr

namespace Directive

/-- Whether a flag was given. -/
def has (d : Directive) (c : Char) : Bool := d.flags.contains c

/-- Fills up to the width with blanks. -/
def fill (d : Directive) (s : Text) : Text :=
  let blanks := List.replicate (d.width - s.length) ' '
  if d.has '-' then s ++ blanks else blanks ++ s

/-- A text, cut at the precision. -/
def text (d : Directive) (s : Text) : Text :=
  d.fill (match d.precision with
    | some n => s.take n
    | none => s)

/-- A number with what stands before its digits; zeros between them fill the width if asked for. -/
def number (d : Directive) (front digits : Text) (zeros : Bool) : Text :=
  if zeros && d.has '0' && !d.has '-' then
    front ++ List.replicate (d.width - front.length - digits.length) '0' ++ digits
  else d.fill (front ++ digits)

/-- The sign of a number. -/
def sign (d : Directive) (negative : Bool) : Text :=
  if negative then ['-'] else if d.has '+' then ['+'] else if d.has ' ' then [' '] else []

/-- The digits of a number in a base. -/
def digitsIn (base n : Nat) (upper : Bool) : Text :=
  let ds := Nat.toDigits base n
  if upper then ds.map Char.toUpper else ds

/-- A whole number, with a sign for the signed kinds. -/
def integer (d : Directive) (n : Int) : Text :=
  let signed := d.kind == 'd' || d.kind == 'i'
  let size : Nat := if signed then n.natAbs else (n % Int.pow 2 64).toNat
  let base := if d.kind = 'o' then 8 else if d.kind = 'x' ∨ d.kind = 'X' then 16 else 10
  let bare := digitsIn base size (d.kind == 'X')
  let least := d.precision.getD 1
  let digits := if size = 0 ∧ least = 0 then [] else List.replicate (least - bare.length) '0' ++ bare
  let digits := if d.has '#' ∧ base = 8 ∧ digits.head? ≠ some '0' then '0' :: digits else digits
  let front := if signed then d.sign (n < 0)
    else if d.has '#' ∧ base = 16 ∧ size ≠ 0 then ['0', d.kind] else []
  d.number front digits d.precision.isNone

/-- A number with a fraction. -/
def floating (d : Directive) (v : Signed) : Text :=
  let upper := d.kind.isUpper
  let letter := if upper then 'E' else 'e'
  let named (s : String) : Text := if upper then s.toList.map Char.toUpper else s.toList
  let places := d.precision.getD 6
  match v.magnitude with
  | .infinite => d.number (d.sign v.negative) (named "inf") false
  | .notANumber => d.number (d.sign v.negative) (named "nan") false
  | .finite f =>
    let digits := match d.kind with
      | 'e' | 'E' => f.scientific places letter (d.has '#')
      | 'g' | 'G' => f.general places letter (d.has '#')
      | _ => f.fixed places (d.has '#')
    d.number (d.sign v.negative) digits true

end Directive

/-! ## 2. Escapes -/

/-- Who formats: the small shell, the large shell, or the command by itself. -/
inductive Style
  | shell | largeShell | program
deriving DecidableEq, Repr

/-- What an escape comes to. -/
inductive Escaped
  | chars (s : Text) (rest : Text)
  /-- Nothing more is written. -/
  | stop
  /-- A number that is missing. -/
  | faulty

/-- Takes digits of a base, so many at most. -/
def takeDigits (base count : Nat) (s : Text) : Text × Text :=
  let ds := (s.take count).takeWhile fun c => match hexValue? c with
    | some v => v < base
    | none => false
  (ds, s.drop ds.length)

/-- A byte as a character. -/
def octet (n : Nat) : Char := Char.ofNat (n % 256)

/-- A character by number: itself if one byte is enough for it, else as an escape. -/
def numbered (width value : Nat) : Text :=
  if value < 128 then [Char.ofNat value]
  else
    let ds := (Nat.toDigits 16 value).map Char.toUpper
    let size := if width ≤ 4 ∧ value < 65536 then 4 else 8
    ['\\', if size = 4 then 'u' else 'U'] ++ List.replicate (size - ds.length) '0' ++ ds

/-- Takes an escape after its backslash; `argument` says that it stands in an argument. -/
def escape (style : Style) (argument : Bool) (s : Text) : Escaped :=
  match s with
  | [] => .chars ['\\'] []
  | c :: rest =>
    let simple := List.lookup c [('\\', '\\'), ('a', '\x07'), ('b', '\x08'), ('e', '\x1b'),
      ('f', '\x0c'), ('n', '\n'), ('r', '\r'), ('t', '\t'), ('v', '\x0b')]
    match simple with
    | some meant => .chars [meant] rest
    | none =>
      if '0' ≤ c ∧ c ≤ '7' then
        let body := if argument ∧ c = '0' then rest else s
        let (ds, rest) := takeDigits 8 3 body
        .chars [octet (ofDigits 8 ds)] rest
      else if c = 'c' ∧ (argument ∨ style = .program) then .stop
      else if style = .shell then .chars ['\\'] s
      else if c = '"' then .chars ['"'] rest
      else if style = .largeShell ∧ (c = '\'' ∨ c = '?') ∧ argument = false then .chars [c] rest
      else if style = .largeShell ∧ c = 'E' then .chars ['\x1b'] rest
      else if c = 'x' then
        let (ds, more) := takeDigits 16 2 rest
        if ds.isEmpty then (if style = .program then .faulty else .chars ['\\'] s)
        else .chars [octet (ofDigits 16 ds)] more
      else if c = 'u' ∨ c = 'U' then
        let size := if c = 'u' then 4 else 8
        let (ds, more) := takeDigits 16 size rest
        if style = .program then
          if ds.length < size then .faulty else .chars (numbered size (ofDigits 16 ds)) more
        else if ds.isEmpty then .chars ['\\'] s
        else .chars (numbered size (ofDigits 16 ds)) more
      else .chars ['\\'] s

/-- A text with its escapes, and whether it stops what is written. -/
def unescaped (style : Style) (argument : Bool) : (fuel : Nat) → Text → Text × Bool
  | 0, s => (s, false)
  | _ + 1, [] => ([], false)
  | fuel + 1, '\\' :: rest =>
    match escape style argument rest with
    | .chars s rest =>
      let (more, stop) := unescaped style argument fuel rest
      (s ++ more, stop)
    | .stop => ([], true)
    | .faulty => ([], true)
  | fuel + 1, c :: rest =>
    let (more, stop) := unescaped style argument fuel rest
    (c :: more, stop)

/-! ## 3. Words for a shell -/

/-- A word as a shell would read it, with backslashes. -/
def shellWord (s : Text) : Text :=
  if s.isEmpty then ['\'', '\'']
  else if s.any fun c => !prints c then
    "$'".toList ++ (s.flatMap fun c =>
      if c = '\'' ∨ c = '\\' then ['\\', c] else if prints c then [c] else escapedOctet c) ++ ['\'']
  else s.flatMap fun c =>
    if c.isAlphanum || "%+-./:@_=".toList.contains c then [c] else ['\\', c]

/-! ## 4. Going through a format -/

/-- What has been written so far, and the arguments that are left. -/
structure Progress where
  args : List Text
  /-- Whether an argument has been asked for. -/
  asked : Bool
  pieces : List Text
  messages : List Text
  status : Nat

/-- The work on a format, which may end early. -/
abbrev Formatting := ExceptT Unit (StateM Progress)

/-- Writes a text. -/
def put (s : Text) : Formatting Unit := modify fun p => { p with pieces := s :: p.pieces }

/-- Tells that something is wrong, and goes on. -/
def warn (message : Text) (status : Nat) : Formatting Unit :=
  modify fun p => { p with messages := message :: p.messages, status := max p.status status }

/-- Tells that something is wrong, and ends. -/
def stopWith {α : Type} (message : Text) (status : Nat) : Formatting α := do
  warn message status
  throw ()

/-- The next argument. -/
def nextArg : Formatting (Option Text) := do
  let p ← get
  match p.args with
  | [] =>
    set { p with asked := true }
    return none
  | arg :: rest =>
    set { p with args := rest, asked := true }
    return some arg

/-- How a message shows an argument. -/
def shown (style : Style) (arg : Text) : Text :=
  if style = .program then quotedWord arg else arg

/-- Tells that an argument was not all a number. -/
def complainAbout (style : Style) (arg : Text) (whole : Bool) : Formatting Unit := do
  let text := shown style arg
  match style with
  | .shell =>
    warn (text ++ (if whole then ": expected numeric value" else ": not completely converted").toList) 1
  | .largeShell =>
    let kind := match arg with
      | '0' :: 'x' :: _ => ": invalid hex number"
      | '0' :: c :: _ => if c.isDigit then ": invalid octal number" else ": invalid number"
      | _ => ": invalid number"
    warn (text ++ kind.toList) 1
  | .program =>
    warn (text ++ (if whole then ": expected a numeric value" else
      ": value not completely converted").toList) 1

/-- Holds a number to the range of its kind. -/
def clamp (style : Style) (signed : Bool) (arg : Text) (n : Int) : Formatting Int := do
  let low : Int := if signed then -Int.pow 2 63 else -Int.pow 2 64 + 1
  let high : Int := if signed then Int.pow 2 63 - 1 else Int.pow 2 64 - 1
  if low ≤ n ∧ n ≤ high then return n
  else
    let message := shown style arg ++ ": Numerical result out of range".toList
    if style = .largeShell then warn ("warning: ".toList ++ message) 0 else warn message 1
    return if n < low then (if signed then low else high) else high

/-- An argument as a whole number. -/
def integerArg (style : Style) (signed : Bool) : Formatting Int := do
  match ← nextArg with
  | none => return 0
  | some arg =>
    match arg with
    | '"' :: rest | '\'' :: rest =>
      if style = .program ∧ 1 < rest.length then
        warn ("warning: ".toList ++ rest.drop 1 ++
          ": character(s) following character constant have been ignored".toList) 0
      return (rest.head?.map Char.toNat).getD 0
    | _ =>
      match takeInteger arg with
      | none =>
        if !arg.isEmpty then complainAbout style arg true
        return 0
      | some (n, rest) =>
        let n ← clamp style signed arg n
        if !rest.isEmpty then complainAbout style arg false
        return n

/-- The bits of the numbers with a fraction. -/
def bitsOf (style : Style) : Nat := if style = .shell then 53 else 64

/-- An argument as a number with a fraction. -/
def floatArg (style : Style) : Formatting Signed := do
  let zero : Signed := ⟨false, .finite ⟨0, 1⟩⟩
  match ← nextArg with
  | none => return zero
  | some arg =>
    match arg with
    | '"' :: rest | '\'' :: rest =>
      return ⟨false, .finite (.ofNat ((rest.head?.map Char.toNat).getD 0))⟩
    | _ =>
      match takeNumber arg with
      | none =>
        if !arg.isEmpty then complainAbout style arg true
        return zero
      | some (v, rest) =>
        if !rest.isEmpty then complainAbout style arg false
        match v.magnitude with
        | .finite f => return { v with magnitude := .finite (f.toPrecision (bitsOf style)) }
        | _ => return v

/-- Takes a width or a precision: a star for an argument, or digits. -/
def takeCount (style : Style) (s : Text) : Formatting (Option Int × Text) := do
  match s with
  | '*' :: rest =>
    let n ← integerArg style true
    return (some n, rest)
  | _ =>
    let ds := s.takeWhile Char.isDigit
    return (if ds.isEmpty then none else some (ofDigits 10 ds : Nat), s.drop ds.length)

/-- The conversions that the separate command knows with the flags and the precision given. -/
def programAllows (flags : Text) (precise : Bool) (kind : Char) : Bool :=
  "diouxXaAeEfFgGcs".toList.contains kind
    && !(flags.contains '\'' && "aAceEosxX".toList.contains kind)
    && !(flags.contains '#' && "cdisu".toList.contains kind)
    && !(flags.contains '0' && "cs".toList.contains kind)
    && !(precise && kind == 'c')

/-- Writes an argument as a directive says. -/
def convert (style : Style) (d : Directive) (source : Text) : Formatting Unit := do
  match d.kind with
  | 'd' | 'i' => put (d.integer (← integerArg style true))
  | 'o' | 'u' | 'x' | 'X' => put (d.integer (← integerArg style false))
  | 'a' | 'A' | 'e' | 'E' | 'f' | 'F' | 'g' | 'G' => put (d.floating (← floatArg style))
  | 's' => put (d.text ((← nextArg).getD []))
  | 'c' => put (d.fill [(((← nextArg).getD []).head?).getD '\x00'])
  | 'b' =>
    let arg := (← nextArg).getD []
    let (s, stop) := unescaped style true (arg.length + 1) arg
    put (d.text s)
    if stop then throw ()
  | 'q' =>
    let arg := (← nextArg).getD []
    if style = .largeShell then put (d.text (shellWord arg))
    else if style = .program then put (d.text (shownName arg))
    else stopWith (source ++ ": invalid directive".toList) 2
  | _ =>
    match style with
    | .shell => stopWith (source ++ ": invalid directive".toList) 2
    | .largeShell =>
      stopWith ("\x60".toList ++ [d.kind] ++ "': invalid format character".toList) 1
    | .program => stopWith (source ++ ": invalid conversion specification".toList) 1

/-- Writes a moment in a format between parentheses, up to the letter behind them; gives what follows,
if that is how it goes on. -/
def moment (width : Nat) (s : Text) : Formatting (Option Text) := do
  let format := s.takeWhile (· != ')')
  match s.drop format.length with
  | ')' :: 'T' :: rest =>
    let seconds ← match ← nextArg with
      | none => pure 0
      | some arg =>
        match takeInteger arg with
        | some (n, []) => pure (if n < 0 then 0 else n)
        | _ => do
          if !arg.isEmpty then complainAbout .largeShell arg true
          pure 0
    let text := dateIn (if format.isEmpty then "%H:%M:%S".toList else format) seconds
    put (List.replicate (width - text.length) ' ' ++ text)
    return some rest
  | _ => return none

/-- Takes a directive after its percent sign, and writes what it asks for. -/
def directive (style : Style) (s : Text) : Formatting Text := do
  let flagChars := match style with
    | .shell => "#-+ 0"
    | _ => "#-+ 0'"
  let flags := s.takeWhile fun c => flagChars.toList.contains c
  let (width, rest) ← takeCount style (s.drop flags.length)
  let (precision, rest) ← match rest with
    | '.' :: rest => do
      let (n, rest) ← takeCount style rest
      pure (some (n.getD 0), rest)
    | rest => pure (none, rest)
  let rest := if style = .shell then rest
    else rest.dropWhile fun c => "hlLjtz".toList.contains c
  let taken := s.take (s.length - rest.length)
  match rest with
  | [] =>
    match style with
    | .shell => stopWith "missing format character".toList 2
    | .largeShell =>
      stopWith ("\x60%".toList ++ taken ++ "': missing format character".toList) 1
    | .program => stopWith ('%' :: taken ++ ": invalid conversion specification".toList) 1
  | kind :: rest =>
    if style = .largeShell ∧ kind = '(' then
      match ← moment (width.getD 0).natAbs rest with
      | some rest => return rest
      | none => pure ()
    let source := '%' :: taken ++ [kind]
    let bare := taken.isEmpty && (kind == 'b' || kind == 'q')
    if style = .program ∧ bare = false ∧ programAllows flags precision.isSome kind = false then
      stopWith (source ++ ": invalid conversion specification".toList) 1
    else
      let left := flags ++ (match width with
        | some w => if w < 0 then ['-'] else []
        | none => [])
      let d : Directive :=
        { flags := left, width := (width.getD 0).natAbs,
          precision := precision.bind fun p => if p < 0 then none else some p.toNat, kind }
      convert style d source
      return rest

/-- Goes once through a format. -/
def pass (style : Style) : (fuel : Nat) → Text → Formatting Unit
  | 0, _ => pure ()
  | _ + 1, [] => pure ()
  | fuel + 1, '\\' :: rest => do
    match escape style false rest with
    | .chars s rest =>
      put s
      pass style fuel rest
    | .stop => throw ()
    | .faulty => stopWith "missing hexadecimal number in escape".toList 1
  | fuel + 1, '%' :: '%' :: rest => do
    put ['%']
    pass style fuel rest
  | fuel + 1, '%' :: rest => do
    let rest ← directive style rest
    pass style fuel rest
  | fuel + 1, c :: rest => do
    put [c]
    pass style fuel rest

/-- Goes through a format as long as arguments are left. -/
def passes (style : Style) (format : Text) : (fuel : Nat) → Formatting Unit
  | 0 => pure ()
  | fuel + 1 => do
    modify fun p => { p with asked := false }
    pass style (format.length + 1) format
    let p ← get
    if p.args.isEmpty then pure ()
    else if p.asked then passes style format fuel
    else if style = .program then
      warn ("warning: ignoring excess arguments, starting with ".toList
        ++ quotedWord (p.args.headD [])) 0

/-- What a format and arguments come to. -/
structure Printed where
  output : Text
  messages : List Text
  status : Nat
deriving DecidableEq, Repr

/-- Writes arguments in a format. -/
def print (style : Style) (format : Text) (args : List Text) : Printed :=
  let start : Progress := ⟨args, false, [], [], 0⟩
  let (_, p) := (passes style format (args.length + 1)).run.run start
  ⟨p.pieces.reverse.flatten, p.messages.reverse, p.status⟩

end Manpage.Utility.Printf
