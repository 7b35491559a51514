/-
# Log events

What a run may report while it works, as values.  An event has a level, a target that says which
part of the program it comes from, a message, and fields; it is written on one line unless one of
its texts holds a line feed.
-/
import Manpage.Page.Basic

namespace Manpage

/-- How much an event matters, from most to least. -/
inductive Level
  | error | warn | info | debug | trace
deriving DecidableEq, Repr

namespace Level

/-- How much is said at a level; a filter at a level lets through what has no greater number. -/
def rank : Level → Nat
  | .error => 1
  | .warn => 2
  | .info => 3
  | .debug => 4
  | .trace => 5

/-- The name of a level. -/
def name : Level → Text
  | .error => "ERROR".toList
  | .warn => "WARN".toList
  | .info => "INFO".toList
  | .debug => "DEBUG".toList
  | .trace => "TRACE".toList

end Level

/-- Something that a run reports. -/
inductive Event
  /-- The command that lists applets has listed some. -/
  | discovered (count : Nat) (command : Text)
  /-- The applets of the run are settled. -/
  | resolved (applets : List Text)
  /-- The options block of an applet has been read. -/
  | optionsRead (applet : Text) (count : Nat)
  /-- A further section has been read. -/
  | includeRead (applet path : Text)
  /-- The tool gave a help text and wrote to its error output as well. -/
  | complaint (applet text : Text)
  /-- A page has been written. -/
  | written (path applet : Text) (counts : PageCounts)
  /-- The page of an applet has failed. -/
  | failed (applet message : Text)
deriving DecidableEq, Repr

namespace Event

/-- The level of an event. -/
def level : Event → Level
  | .discovered .. => .info
  | .resolved _ => .debug
  | .optionsRead .. => .debug
  | .includeRead .. => .debug
  | .complaint .. => .warn
  | .written .. => .info
  | .failed .. => .error

/-- The target of an event. -/
def target : Event → Text
  | .discovered .. => "mkman::discover".toList
  | .resolved _ => "mkman".toList
  | .optionsRead .. => "mkman::render::parse::options".toList
  | .includeRead .. => "mkman::fragments".toList
  | .complaint .. => "mkman::capture".toList
  | .written .. => "mkman::batch".toList
  | .failed .. => "mkman::batch".toList

/-- A character of a message; one that could steer a terminal is written by number. -/
def shownChar (c : Char) : Text :=
  let n := c.toNat
  if n = 0x1B then "\\x1b".toList
  else if n = 0x07 then "\\x07".toList
  else if n = 0x08 then "\\x08".toList
  else if n = 0x0C then "\\x0c".toList
  else if n = 0x7F then "\\x7f".toList
  else if 0x80 ≤ n ∧ n ≤ 0x9F then "\\u\x7b".toList ++ Nat.toDigits 16 n ++ ['\x7d']
  else [c]

/-- The message of an event. -/
def message : Event → Text
  | .discovered .. => "discovered applets".toList
  | .resolved _ => "applet list resolved".toList
  | .optionsRead .. => "parsed option lines".toList
  | .includeRead .. => "loaded include fragment".toList
  | .complaint .. => "help capture wrote to stderr".toList
  | .written path .. => "wrote ".toList ++ path
  | .failed _ message => message

/-- The fields of an event with their values. -/
def fields : Event → List (Text × Text)
  | .discovered count command =>
    [("count".toList, Text.ofNat count), ("command".toList, command)]
  | .resolved applets => [("applets".toList, Text.quotedList applets)]
  | .optionsRead applet count =>
    [("applet".toList, Text.quoted applet), ("count".toList, Text.ofNat count)]
  | .includeRead applet path => [("applet".toList, Text.quoted applet), ("path".toList, path)]
  | .complaint applet text =>
    [("applet".toList, Text.quoted applet), ("stderr".toList, Text.quoted text)]
  | .written _ applet counts =>
    [("applet".toList, Text.quoted applet), ("options".toList, Text.ofNat counts.options),
     ("sub_applets".toList, Text.ofNat counts.subApplets),
     ("includes".toList, Text.ofNat counts.includes),
     ("see_also".toList, Text.ofNat counts.seeAlso)]
  | .failed applet _ => [("applet".toList, applet)]

/-- An event as it is written, without the time of day before it. -/
def render (e : Event) : Text :=
  e.level.name ++ ' ' :: e.message.flatMap shownChar
    ++ e.fields.flatMap fun (name, value) => ' ' :: name ++ '=' :: value

end Event

end Manpage
