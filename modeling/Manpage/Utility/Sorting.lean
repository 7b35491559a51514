/-
# Sorted lines

Sorting lines by keys, merging files that are sorted, and leaving out lines that repeat.
-/
import Manpage.Utility.Input
import Manpage.Utility.Decimal

namespace Manpage.Utility

/-! ## 1. Orders -/

/-- The order of two texts by their bytes. -/
def compareTexts : Text → Text → Ordering
  | [], [] => .eq
  | [], _ :: _ => .lt
  | _ :: _, [] => .gt
  | a :: s, b :: t => if a = b then compareTexts s t else compare a.toNat b.toNat

/-- How a key is compared. -/
structure KeyManner where
  blanks : Bool
  dictionary : Bool
  fold : Bool
  printable : Bool
  numeric : Bool
  general : Bool
  human : Bool
  month : Bool
  version : Bool
  reverse : Bool
deriving DecidableEq, Repr

namespace KeyManner

/-- By bytes. -/
def plain : KeyManner := ⟨false, false, false, false, false, false, false, false, false, false⟩

/-- With what an option by letter asks for. -/
def withLetter (m : KeyManner) (c : Char) : Option KeyManner :=
  match c with
  | 'b' => some { m with blanks := true }
  | 'd' => some { m with dictionary := true }
  | 'f' => some { m with fold := true }
  | 'i' => some { m with printable := true }
  | 'n' => some { m with numeric := true }
  | 'g' => some { m with general := true }
  | 'h' => some { m with human := true }
  | 'M' => some { m with month := true }
  | 'V' => some { m with version := true }
  | 'r' => some { m with reverse := true }
  | _ => none

/-- Whether nothing has been asked for. -/
def isPlain (m : KeyManner) : Bool := m == plain

end KeyManner

/-- A blank between fields. -/
def isBlankChar (c : Char) : Bool := c == ' ' || c == '\t'

/-- A number at the beginning of a text, as a numerator over a power of ten: its sign, its digits
before the point, and those after it without zeros at the end. -/
def numberKey (s : Text) : Bool × Nat × Text :=
  let s := s.dropWhile isBlankChar
  let (negative, body) := match s with
    | '-' :: r => (true, r)
    | r => (false, r)
  let whole := body.takeWhile Char.isDigit
  let places := match body.drop whole.length with
    | '.' :: r => Text.dropEndWhile (· == '0') (r.takeWhile Char.isDigit)
    | _ => []
  (negative, ofDigits 10 whole, places)

/-- The order of two numbers at the beginnings of texts. -/
def compareNumbers (s t : Text) : Ordering :=
  let (sn, sw, sp) := numberKey s
  let (tn, tw, tp) := numberKey t
  let size (a : Nat) (ap : Text) (b : Nat) (bp : Text) : Ordering :=
    if a = b then compareTexts ap bp else compare a b
  let zero (w : Nat) (p : Text) : Bool := w == 0 && p.isEmpty
  let sn := sn && !zero sw sp
  let tn := tn && !zero tw tp
  match sn, tn with
  | false, false => size sw sp tw tp
  | true, true => size tw tp sw sp
  | true, false => .lt
  | false, true => .gt

/-- The order of units: none, thousands, millions and so on. -/
def unitRank (s : Text) : Nat :=
  let s := s.dropWhile isBlankChar
  let s := match s with
    | '-' :: r => r
    | r => r
  let rest := s.dropWhile fun c => c.isDigit || c == '.'
  match rest.head? with
  | some c => ((" KMGTPEZY".toList.idxOf? (if c = 'k' then 'K' else c)).getD 0)
  | none => 0

/-- The order of two numbers with units. -/
def compareHuman (s t : Text) : Ordering :=
  let sign (x : Text) : Int :=
    let (negative, w, p) := numberKey x
    if w = 0 ∧ p = [] then 0 else if negative then -1 else 1
  let rank (x : Text) : Int := sign x * (unitRank x + 1)
  if sign s = 0 ∧ sign t = 0 then .eq
  else
    match compare (rank s) (rank t) with
    | .eq => compareNumbers s t
    | o => o

/-- The number of a month by the beginning of its name. -/
def monthRank (s : Text) : Nat :=
  let name := ((s.dropWhile isBlankChar).take 3).map Char.toUpper
  let months := ["JAN", "FEB", "MAR", "APR", "MAY", "JUN", "JUL", "AUG", "SEP", "OCT", "NOV", "DEC"]
  match (months.map String.toList).idxOf? name with
  | some n => n + 1
  | none => 0

/-- The order of two numbers with exponents; what is no number comes first. -/
def compareGeneral (s t : Text) : Ordering :=
  let value (x : Text) : Option (Bool × Fraction) :=
    match takeNumber x with
    | some (⟨negative, .finite f⟩, _) => some (negative, f)
    | _ => none
  match value s, value t with
  | none, none => .eq
  | none, some _ => .lt
  | some _, none => .gt
  | some (sn, f), some (tn, g) =>
    let a : Int := (if sn then -1 else 1) * (f.num * g.den : Nat)
    let b : Int := (if tn then -1 else 1) * (g.num * f.den : Nat)
    compare a b

/-- The rank of a character between the numbers of a version. -/
def versionRank (c : Char) : Int :=
  if c = '~' then -1 else if c.isAlpha then c.toNat else c.toNat + 256

/-- The order of two versions: stretches of digits by number, the rest by character. -/
def compareVersions : (fuel : Nat) → Text → Text → Ordering
  | 0, _, _ => .eq
  | fuel + 1, s, t =>
    let sn := s.takeWhile fun c => !c.isDigit
    let tn := t.takeWhile fun c => !c.isDigit
    let rec words : Text → Text → Ordering
      | [], [] => .eq
      | a :: x, [] => if versionRank a < 0 then .lt else if x.isEmpty then .gt else .gt
      | [], b :: _ => if versionRank b < 0 then .gt else .lt
      | a :: x, b :: y =>
        match compare (versionRank a) (versionRank b) with
        | .eq => words x y
        | o => o
    match words sn tn with
    | .eq =>
      let s := s.drop sn.length
      let t := t.drop tn.length
      if s.isEmpty && t.isEmpty then .eq
      else
        let sd := s.takeWhile Char.isDigit
        let td := t.takeWhile Char.isDigit
        match compare (ofDigits 10 sd) (ofDigits 10 td) with
        | .eq => compareVersions fuel (s.drop sd.length) (t.drop td.length)
        | o => o
    | o => o

/-- The order of two keys. -/
def compareKeys (m : KeyManner) (s t : Text) : Ordering :=
  let o :=
    if m.numeric then compareNumbers s t
    else if m.human then compareHuman s t
    else if m.general then compareGeneral s t
    else if m.month then compare (monthRank s) (monthRank t)
    else
      let kept (x : Text) : Text :=
        let x := if m.dictionary then x.filter fun c => c.isAlphanum || isBlankChar c else x
        let x := if m.printable then x.filter fun c => 0x20 ≤ c.toNat && c.toNat < 0x7F else x
        if m.fold then x.map Char.toUpper else x
      if m.version then compareVersions (s.length + t.length + 1) (kept s) (kept t)
      else compareTexts (kept s) (kept t)
  if m.reverse then o.swap else o

/-! ## 2. Keys -/

/-- A place in a line: a field and a character in it, both from one on; the character zero is the end
of the field. -/
structure KeyPlace where
  field : Nat
  character : Nat
  blanks : Bool
deriving DecidableEq, Repr

/-- A key of a line. -/
structure Key where
  first : KeyPlace
  last : Option KeyPlace
  manner : KeyManner
deriving DecidableEq, Repr

/-- Behind the fields before a field: with a separator each ends behind it, else before the blanks in
front of the next. -/
def skipFields (separator : Option Char) : (count : Nat) → Text → Text
  | 0, s => s
  | n + 1, s =>
    match separator with
    | some c =>
      let rest := s.dropWhile (· != c)
      skipFields separator n (rest.drop 1)
    | none =>
      let rest := (s.dropWhile isBlankChar).dropWhile fun c => !isBlankChar c
      skipFields separator n rest

/-- The length of the first field of a text. -/
def fieldLength (separator : Option Char) (s : Text) : Nat :=
  match separator with
  | some c => (s.takeWhile (· != c)).length
  | none =>
    let blanks := (s.takeWhile isBlankChar).length
    blanks + ((s.drop blanks).takeWhile fun c => !isBlankChar c).length

/-- Where a key begins in a line. -/
def keyStart (separator : Option Char) (place : KeyPlace) (line : Text) : Nat :=
  let rest := skipFields separator (place.field - 1) line
  let rest := if place.blanks then rest.dropWhile isBlankChar else rest
  min line.length (line.length - rest.length + (place.character - 1))

/-- Where a key ends in a line. -/
def keyEnd (separator : Option Char) (place : KeyPlace) (line : Text) : Nat :=
  let rest := skipFields separator (place.field - 1) line
  if place.character = 0 then line.length - rest.length + fieldLength separator rest
  else
    let rest := if place.blanks then rest.dropWhile isBlankChar else rest
    min line.length (line.length - rest.length + place.character)

/-- The text of a key. -/
def keyText (separator : Option Char) (key : Key) (line : Text) : Text :=
  let first := keyStart separator key.first line
  let last := match key.last with
    | some place => keyEnd separator place line
    | none => line.length
  (line.drop first).take (last - first)

/-- Reads a place of a key, with the letters behind it. -/
def keyPlace? (isLast : Bool) (s : Text) : Option (KeyPlace × Text) :=
  let digits := s.takeWhile Char.isDigit
  let rest := s.drop digits.length
  if digits.isEmpty ∨ ofDigits 10 digits = 0 then none
  else
    let (character, rest) := match rest with
      | '.' :: r =>
        let ds := r.takeWhile Char.isDigit
        (some (ofDigits 10 ds), r.drop ds.length)
      | r => (none, r)
    let letters := rest.takeWhile (· != ',')
    if !isLast ∧ character = some 0 then none
    else
      some (⟨ofDigits 10 digits, character.getD (if isLast then 0 else 1), letters.contains 'b'⟩, rest)

/-- Reads a key. -/
def key? (s : Text) : Option Key := do
  let (first, rest) ← keyPlace? false s
  let letters := rest.takeWhile (· != ',')
  let (last, more) ← match rest.drop letters.length with
    | [] => some (none, [])
    | _ :: rest => (keyPlace? true rest).map fun (p, more) => (some p, more)
  let manner ← (letters ++ more).foldlM KeyManner.withLetter KeyManner.plain
  return ⟨first, last, manner⟩

/-! ## 3. Sorting -/

/-- How lines are sorted. -/
structure SortPlan where
  keys : List Key
  separator : Option Char
  manner : KeyManner
  unique : Bool
  stable : Bool
  mark : Char

/-- The order of two lines by the keys alone. -/
def SortPlan.byKeys (plan : SortPlan) (s t : Text) : Ordering :=
  if plan.keys.isEmpty then
    let cut (x : Text) : Text := if plan.manner.blanks then x.dropWhile isBlankChar else x
    compareKeys plan.manner (cut s) (cut t)
  else
    (plan.keys.foldl (fun o key => match o with
      | .eq => compareKeys key.manner (keyText plan.separator key s) (keyText plan.separator key t)
      | o => o) Ordering.eq)

/-- The order of two lines; lines with equal keys are in the order of their bytes. -/
def SortPlan.compare (plan : SortPlan) (s t : Text) : Ordering :=
  match plan.byKeys s t with
  | .eq =>
    if plan.unique || plan.stable || (plan.keys.isEmpty && { plan.manner with reverse := false }.isPlain)
    then .eq
    else
      let o := compareTexts s t
      if plan.manner.reverse then o.swap else o
  | o => o

/-- Leaves out the lines whose keys equal those of the line before. -/
def SortPlan.distinctLines (plan : SortPlan) : (last : Option Text) → List Text → List Text
  | _, [] => []
  | last, line :: rest =>
    if last.any fun l => plan.byKeys l line == .eq then plan.distinctLines last rest
    else line :: plan.distinctLines (some line) rest

/-- The lines in order. -/
def SortPlan.sorted (plan : SortPlan) (lines : List Text) : List Text :=
  let ordered := lines.mergeSort fun s t => plan.compare s t != .gt
  if plan.unique then plan.distinctLines none ordered else ordered

/-- The lines of sorted lists as one list: always the first of the smallest lines that come next. -/
def SortPlan.merge (plan : SortPlan) : (fuel : Nat) → List (List Text) → List Text
  | 0, _ => []
  | fuel + 1, lists =>
    let lists := lists.filter fun lines => !lines.isEmpty
    let least := lists.foldl (fun least lines => match least, lines.head? with
      | some x, some y => if plan.compare x y == .gt then some y else some x
      | none, y => y
      | x, none => x) none
    match least with
    | none => []
    | some line =>
      let n := (lists.takeWhile fun lines => lines.head?.any fun x => plan.compare x line != .eq).length
      match lists[n]? with
      | some (first :: _) => first :: merge plan fuel (lists.modify n (List.drop 1))
      | _ => []

/-- The first line that is out of order, with its number. -/
def SortPlan.disorder? (plan : SortPlan) : (n : Nat) → List Text → Option (Nat × Text)
  | n, s :: t :: rest =>
    let o := plan.compare s t
    if o == .gt || (plan.unique && plan.byKeys s t == .eq) then some (n + 1, t)
    else plan.disorder? (n + 1) (t :: rest)
  | _, _ => none

/-- `sort`: sorts lines. -/
def sort (args : List Text) : Work Nat := do
  let a ← arguments ("b:ignore-leading-blanks d:dictionary-order f:ignore-case g:general-numeric-sort"
    ++ " i:ignore-nonprinting M:month-sort h:human-numeric-sort n:numeric-sort R:random-sort"
    ++ " r:reverse V:version-sort c:check? C k:key= m:merge o:output= s:stable S:buffer-size="
    ++ " t:field-separator= T:temporary-directory= u:unique z:zero-terminated -:parallel= -:debug"
    ++ " -:sort=") args 2 false
  let named := (a.values "sort").filterMap fun name => List.lookup (String.ofList name)
    [("general-numeric", 'g'), ("human-numeric", 'h'), ("month", 'M'), ("numeric", 'n'),
     ("version", 'V')]
  let letters := (a.options.map (·.key)).filterMap (fun k => if k.length = 1 then k.head? else none)
  let manner := (letters ++ named).foldl (fun m c => (m.withLetter c).getD m) KeyManner.plain
  let mut keys : List Key := []
  for text in a.values "k" do
    match key? text with
    | some key =>
      let own := key.manner
      let key := if own.isPlain ∧ key.first.blanks = false then
          { key with
            manner := manner
            first := { key.first with blanks := manner.blanks }
            last := key.last.map fun p => { p with blanks := manner.blanks } }
        else key
      keys := keys ++ [key]
    | none =>
      let digits := text.takeWhile Char.isDigit
      if digits.isEmpty then
        Work.fail 2 ("invalid number at field start: invalid count at start of ".toList
          ++ quotedWord text)
      else if ofDigits 10 digits = 0 then
        Work.fail 2 ("field number is zero: invalid field specification ".toList ++ quotedWord text)
      else
        Work.fail 2 ("stray character in field spec: invalid field specification ".toList
          ++ quotedWord text)
  let separator ← match a.value? "t" with
    | none => pure none
    | some [c] => pure (some c)
    | some [] => Work.fail 2 "empty tab".toList
    | some ['\\', '0'] => pure (some '\x00')
    | some t => Work.fail 2 ("multi-character tab ".toList ++ quotedWord t)
  let plan : SortPlan :=
    { keys, separator, manner, unique := a.has "u", stable := a.has "s",
      mark := if a.has "z" then '\x00' else '\n' }
  let paths := if a.operands.isEmpty then [['-']] else a.operands
  let mut lists : List (List Text) := []
  for path in paths do
    match ← Work.readFile path with
    | .ok s =>
      let found := (cutRecords plan.mark s).map fun r =>
        if r.getLast? = some plan.mark then r.dropLast else r
      lists := found :: lists
    | .error fault =>
      let verb := if fault = .isDirectory then "read failed: " else "cannot read: "
      Work.fail 2 (verb.toList ++ faultText path fault)
  let lines := lists.reverse.flatten
  if a.has "c" || a.has "C" then
    match plan.disorder? 1 lines with
    | none => return 0
    | some (n, line) =>
      if a.has "c" ∧ a.value? "c" ≠ some "quiet".toList then
        Work.complain ((paths.headD ['-']) ++ ":".toList ++ Text.ofNat n ++ ": disorder: ".toList ++ line)
      return 1
  let ordered :=
    if a.has "m" then
      let merged := plan.merge (lines.length + 1) lists.reverse
      if plan.unique then plan.distinctLines none merged else merged
    else plan.sorted lines
  let result := ordered.flatMap fun l => l ++ [plan.mark]
  match a.value? "o" with
  | none =>
    Work.out result
    return 0
  | some path =>
    match ← Work.writeFile path result false with
    | .ok () => return 0
    | .error fault => Work.fail 2 ("open failed: ".toList ++ faultText path fault)

/-! ## 4. Lines that repeat -/

/-- The part of a line that is compared. -/
def uniqueKey (fields chars : Nat) (width : Option Nat) (fold : Bool) (line : Text) : Text :=
  let rest := skipFields none fields line
  let rest := rest.drop chars
  let rest := match width with
    | some n => rest.take n
    | none => rest
  if fold then rest.map Char.toLower else rest

/-- Neighbouring lines with equal keys together. -/
def runsOf (key : Text → Text) : List Text → List (List Text)
  | [] => []
  | line :: rest =>
    match runsOf key rest with
    | (next :: more) :: runs =>
      if key line = key next then (line :: next :: more) :: runs else [line] :: (next :: more) :: runs
    | runs => [line] :: runs

/-- `uniq`: leaves out lines that repeat the one before. -/
def uniq (args : List Text) : Work Nat := do
  let args := args.flatMap fun arg => match arg with
    | '-' :: c :: rest =>
      if c.isDigit && rest.all Char.isDigit then ["-f".toList, c :: rest] else [arg]
    | _ => [arg]
  let a ← arguments ("c:count d:repeated D:all-repeated? f:skip-fields= i:ignore-case s:skip-chars="
    ++ " u:unique w:check-chars= z:zero-terminated -:group?") args 1 false
  let number (key what : String) : Work (Option Nat) := do
    match a.value? key with
    | none => return none
    | some s =>
      match countOf? s with
      | some n => return some n
      | none => Work.fail 1 (s ++ ": invalid number of ".toList ++ what.toList)
  let fields := (← number "f" "fields to skip").getD 0
  let chars := (← number "s" "bytes to skip").getD 0
  let width ← number "w" "bytes to compare"
  let mark := if a.has "z" then '\x00' else '\n'
  if 2 < a.operands.length then
    misuse 1 ("extra operand ".toList ++ quotedWord (a.operands.getD 2 []))
  let path := a.operands.headD ['-']
  match ← Work.readFile path with
  | .error fault =>
    let verb := if fault = .isDirectory then "error reading '" ++ String.ofList path ++ "'" else
      String.ofList (shownName path)
    Work.fail 1 (verb.toList ++ ": ".toList ++ fault.wording)
  | .ok s =>
    let lines := (cutRecords mark s).map fun r => if r.getLast? = some mark then r.dropLast else r
    let runs := runsOf (uniqueKey fields chars width (a.has "i")) lines
    let wanted := runs.filter fun run =>
      let repeated := 1 < run.length
      if a.has "d" && a.has "u" then false
      else if a.has "d" || a.has "D" then repeated
      else if a.has "u" then !repeated
      else true
    let shown := wanted.map fun run =>
      if a.has "D" then run.flatMap (· ++ [mark])
      else
        let count := if a.has "c" then alignRight 7 (Text.ofNat run.length) ++ [' '] else []
        count ++ run.headD [] ++ [mark]
    let shown := if a.has "group" then
        (wanted.map fun run => run.flatMap (· ++ [mark])).intersperse [mark]
      else if a.value? "D" == some "separate".toList then shown.intersperse [mark]
      else shown
    let result := shown.flatten
    match a.operands with
    | [_, target] =>
      match ← Work.writeFile target result false with
      | .ok () => return 0
      | .error fault => Work.fail 1 (faultText target fault)
    | _ =>
      Work.out result
      return 0

end Manpage.Utility
