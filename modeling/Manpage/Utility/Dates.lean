/-
# Dates

How a date is read and told.  The clock stands still at the beginning of 1970.
-/
import Manpage.Utility.Input
import Manpage.Utility.Moment

namespace Manpage.Utility

/-! ## 1. Reading -/

/-- The numbers between single characters of a kind, and what follows them. -/
def numbersBetween (separator : Char) : (count : Nat) → Text → Option (List Nat × Text)
  | 0, _ => none
  | count + 1, s =>
    let digits := s.takeWhile Char.isDigit
    if digits = [] ∨ 4 < digits.length then none
    else
      match s.drop digits.length with
      | c :: rest =>
        if c = separator ∧ count ≠ 0 then
          (numbersBetween separator count rest).map fun (ns, more) => (ofDigits 10 digits :: ns, more)
        else some ([ofDigits 10 digits], c :: rest)
      | [] => some ([ofDigits 10 digits], [])

/-- A time of the day in seconds. -/
def timeOfDay? (s : Text) : Option Nat :=
  let s := ("Z".toList.isSuffixOf? s).getD (("UTC".toList.isSuffixOf? s).getD s)
  match numbersBetween ':' 3 (Text.dropEndWhile (· == ' ') s) with
  | some ([h, m], []) => if h < 24 ∧ m < 60 then some (h * 3600 + m * 60) else none
  | some ([h, m, n], []) => if h < 24 ∧ m < 60 ∧ n < 61 then some (h * 3600 + m * 60 + n) else none
  | _ => none

/-- The moment that a text tells: a number of seconds, or a day of the calendar with or without a time;
the clock itself stands at zero. -/
def moment? (s : Text) : Option Int :=
  let onDay (year month day : Nat) (rest : Text) : Option Int :=
    let last := if month = 12 then 31
      else (Calendar.dayNumber year (month + 1) 1 - Calendar.dayNumber year month 1).toNat
    if month = 0 ∨ 12 < month ∨ day = 0 ∨ last < day then none
    else
      let start := Calendar.dayNumber year month day * 86400
      match rest with
      | [] => some start
      | c :: time =>
        if c = 'T' ∨ c = ' ' then
          let time := time.dropWhile (· == ' ')
          if time = "UTC".toList ∨ time = ['Z'] then some start
          else (timeOfDay? time).map fun n => start + n
        else none
  match s with
  | '@' :: '-' :: digits =>
    if digits ≠ [] ∧ digits.all Char.isDigit then some (-(ofDigits 10 digits : Int)) else none
  | '@' :: digits =>
    if digits ≠ [] ∧ digits.all Char.isDigit then some (ofDigits 10 digits : Int) else none
  | s =>
    if s = "now".toList ∨ s = "today".toList then some 0
    else
      match numbersBetween '-' 3 s with
      | some ([year, month, day], rest) => onDay year month day rest
      | _ =>
        if s.length = 8 ∧ s.all Char.isDigit then
          onDay (ofDigits 10 (s.take 4)) (ofDigits 10 ((s.drop 4).take 2)) (ofDigits 10 (s.drop 6)) []
        else none

/-! ## 2. The command -/

/-- The format of a date and time that are told to some part of a second, with something between
them. -/
def standardFormat (part : Text) (between : Text) : Text :=
  let time (s : String) : Text := "%Y-%m-%d".toList ++ between ++ s.toList
  match String.ofList part with
  | "hours" => time "%H%:z"
  | "minutes" => time "%H:%M%:z"
  | "seconds" => time "%H:%M:%S%:z"
  | "ns" => time (if between = [' '] then "%H:%M:%S.%N%:z" else "%H:%M:%S,%N%:z")
  | _ => "%Y-%m-%d".toList

/-- `date`: tells a date, that of the clock if no other is given. -/
def date (args : List Text) : Work Nat := do
  let a ← arguments "u:utc d:date= r:reference= R:rfc-email I:iso-8601? -:rfc-3339= f:file= s:set=" args 1 false
  let seconds ← match a.value? "d" with
    | none => pure 0
    | some s =>
      match moment? s with
      | some n => pure n
      | none => Work.fail 1 ("invalid date ".toList ++ quotedName s)
  let tell (format : Text) : Work Nat := do
    Work.outLine (dateIn format seconds)
    return 0
  match a.operands with
  | [] =>
    if a.has "R" then tell "%a, %d %b %Y %H:%M:%S %z".toList
    else
      match a.options.find? fun o => o.key = ['I'] ∨ o.key = "rfc-3339".toList with
      | some o => tell (standardFormat (o.value.getD []) (if o.key = ['I'] then ['T'] else [' ']))
      | none => tell "%a %b %e %H:%M:%S %Z %Y".toList
  | ('+' :: format) :: rest =>
    match rest with
    | [] => tell format
    | extra :: _ => misuse 1 ("extra operand ".toList ++ quotedName extra)
  | other :: _ => Work.fail 1 ("invalid date ".toList ++ quotedName other)

end Manpage.Utility
