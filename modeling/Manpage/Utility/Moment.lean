/-
# Moments

A moment by the calendar and the clock, and how it is written in a format with directives.  There is
one time zone, that of the meridian.
-/
import Manpage.Calendar
import Manpage.Utility.Decimal

namespace Manpage.Utility

/-! ## 1. Moments -/

/-- A moment by the calendar and the clock; the days of the week and of the year are counted from zero,
those of the week from Sunday. -/
structure Moment where
  year : Int
  month : Nat
  day : Nat
  hour : Nat
  minute : Nat
  second : Nat
  weekDay : Nat
  yearDay : Nat
deriving DecidableEq, Repr

namespace Moment

/-- The moment so many seconds after the beginning of 1970. -/
def ofSeconds (seconds : Int) : Moment :=
  let days := seconds.fdiv 86400
  let inDay := (seconds - days * 86400).toNat
  let (year, month) := Calendar.yearAndMonth days
  { year
    month
    day := (days - Calendar.dayNumber year month 1).toNat + 1
    hour := inDay / 3600
    minute := inDay / 60 % 60
    second := inDay % 60
    weekDay := ((days + 4).fmod 7).toNat
    yearDay := (days - Calendar.dayNumber year 1 1).toNat }

/-- **The calendar and the clock of a moment lead back to it.** -/
theorem seconds_ofSeconds (seconds : Int) :
    Calendar.dayNumber (ofSeconds seconds).year (ofSeconds seconds).month (ofSeconds seconds).day
        * 86400 + (ofSeconds seconds).hour * 3600 + (ofSeconds seconds).minute * 60
        + (ofSeconds seconds).second = seconds := by
  obtain ⟨year, month, hmonth, hfirst, -⟩ :=
    Calendar.dayNumber_yearAndMonth (seconds.fdiv 86400)
  have hday (more : Nat) : Calendar.dayNumber year month (more + 1)
      = Calendar.dayNumber year month 1 + more := by
    simp only [Calendar.dayNumber]
    omega
  have hdays := Int.fdiv_eq_ediv_of_nonneg seconds (by decide : (0 : Int) ≤ 86400)
  simp only [ofSeconds, hmonth]
  rw [hday]
  omega

/-- The names of the days of the week. -/
def dayNames : List Text :=
  ["Sunday", "Monday", "Tuesday", "Wednesday", "Thursday", "Friday", "Saturday"].map String.toList

/-- The names of the months. -/
def monthNames : List Text :=
  ["January", "February", "March", "April", "May", "June", "July", "August", "September", "October",
   "November", "December"].map String.toList

/-- Whether a year has a leap day. -/
def isLeap (year : Int) : Bool :=
  Calendar.dayNumber year 3 1 - Calendar.dayNumber year 2 1 == 29

/-- The year and the week that a day belongs to, in weeks from Monday of which the first holds the
fourth of January. -/
def week (m : Moment) : Int × Nat :=
  let fromMonday := (m.weekDay + 6) % 7
  -- the Thursday of the week decides the year
  let thursday : Int := m.yearDay + 3 - fromMonday
  let length : Int := if isLeap m.year then 366 else 365
  if thursday < 0 then
    let before : Int := if isLeap (m.year - 1) then 366 else 365
    (m.year - 1, ((thursday + before) / 7).toNat + 1)
  else if length ≤ thursday then (m.year + 1, 1)
  else (m.year, (thursday / 7).toNat + 1)

end Moment

/-! ## 2. Writing -/

/-- How the value of a directive is filled up. -/
inductive Filled
  | text
  /-- With zeros, or with blanks, to a width. -/
  | number (fill : Char) (width : Nat)
deriving DecidableEq, Repr

/-- The value of a directive of one letter, which may stand for several others. -/
def directiveValue (seconds : Int) (c : Char) : Option (Filled × Text) :=
  let m := Moment.ofSeconds seconds
  let zeros (width : Nat) (n : Nat) : Option (Filled × Text) :=
    some (.number '0' width, Text.ofNat n)
  let blanks (width : Nat) (n : Nat) : Option (Filled × Text) :=
    some (.number ' ' width, Text.ofNat n)
  let plain (s : Text) : Option (Filled × Text) := some (.text, s)
  let year := m.year.toNat
  let half := if m.hour % 12 = 0 then 12 else m.hour % 12
  let dayName := (Moment.dayNames[m.weekDay]?).getD []
  let monthName := (Moment.monthNames[m.month - 1]?).getD []
  match c with
  | 'Y' => some (.number '0' 0, Text.ofNat year)
  | 'C' => zeros 2 (year / 100)
  | 'y' => zeros 2 (year % 100)
  | 'm' => zeros 2 m.month
  | 'd' => zeros 2 m.day
  | 'e' => blanks 2 m.day
  | 'H' => zeros 2 m.hour
  | 'I' => zeros 2 half
  | 'k' => blanks 2 m.hour
  | 'l' => blanks 2 half
  | 'M' => zeros 2 m.minute
  | 'S' => zeros 2 m.second
  | 'N' => zeros 9 0
  | 'j' => zeros 3 (m.yearDay + 1)
  | 'q' => zeros 1 ((m.month - 1) / 3 + 1)
  | 'u' => zeros 1 (if m.weekDay = 0 then 7 else m.weekDay)
  | 'w' => zeros 1 m.weekDay
  | 'U' => zeros 2 ((m.yearDay + 7 - m.weekDay) / 7)
  | 'W' => zeros 2 ((m.yearDay + 7 - (m.weekDay + 6) % 7) / 7)
  | 'V' => zeros 2 m.week.2
  | 'G' => some (.number '0' 0, Text.ofNat m.week.1.toNat)
  | 'g' => zeros 2 (m.week.1.toNat % 100)
  | 's' => some (.number '0' 0, (if seconds < 0 then ['-'] else []) ++ Text.ofNat seconds.natAbs)
  | 'a' => plain (dayName.take 3)
  | 'A' => plain dayName
  | 'b' | 'h' => plain (monthName.take 3)
  | 'B' => plain monthName
  | 'p' => plain (if m.hour < 12 then "AM" else "PM").toList
  | 'P' => plain (if m.hour < 12 then "am" else "pm").toList
  | 'Z' => plain "UTC".toList
  | 'z' => plain "+0000".toList
  | 'n' => plain ['\n']
  | 't' => plain ['\t']
  | '%' => plain ['%']
  | _ => none

/-- The directives that a directive of one letter stands for. -/
def directiveFormat : Char → Option Text
  | 'F' => some "%Y-%m-%d".toList
  | 'T' | 'X' => some "%H:%M:%S".toList
  | 'R' => some "%H:%M".toList
  | 'D' | 'x' => some "%m/%d/%y".toList
  | 'r' => some "%I:%M:%S %p".toList
  | 'c' => some "%a %b %e %H:%M:%S %Y".toList
  | _ => none

/-- A value as the flags and the width of its directive ask for. -/
def flagged (flags : Text) (width : Nat) (filled : Filled) (s : Text) : Text :=
  let s := if flags.contains '^' then s.map Char.toUpper else s
  let (fill, size) : Char × Nat := match filled with
    | .text => (if flags.contains '0' then '0' else ' ', width)
    | .number fill own =>
      let fill := if flags.contains '_' then ' ' else if flags.contains '0' then '0' else fill
      (fill, if flags.contains '-' then 0 else max own width)
  List.replicate (size - s.length) fill ++ s

/-- A moment in a format; the fuel bounds how deep directives stand for others. -/
def dateText (seconds : Int) : (fuel : Nat) → Text → Text
  | 0, _ => []
  | _ + 1, [] => []
  | fuel + 1, '%' :: rest =>
    let flags := rest.takeWhile fun c => "-_0^#+".toList.contains c
    let behind := rest.drop flags.length
    let digits := behind.takeWhile Char.isDigit
    let width := ofDigits 10 digits
    match behind.drop digits.length with
    | [] => '%' :: rest
    | ':' :: 'z' :: after => "+00:00".toList ++ dateText seconds fuel after
    | c :: after =>
      let value : Option (Filled × Text) := match directiveFormat c with
        | some format => some (.text, dateText seconds fuel format)
        | none => directiveValue seconds c
      match value with
      | some (filled, s) =>
        let s := if c = 'N' ∧ digits ≠ [] then List.replicate width '0'
          else if c = 'Z' ∧ flags.contains '#' then s.map Char.toLower
          else if c = 'p' ∧ flags.contains '#' then s.map Char.toLower
          else flagged flags width filled s
        s ++ dateText seconds fuel after
      | none => '%' :: (rest.take (rest.length - after.length) ++ dateText seconds fuel after)
  | fuel + 1, c :: rest => c :: dateText seconds fuel rest

/-- A moment in a format. -/
def dateIn (format : Text) (seconds : Int) : Text := dateText seconds (format.length + 40) format

end Manpage.Utility
