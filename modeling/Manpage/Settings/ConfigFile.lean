/-
# The configuration file

A configuration file is a JSON object whose fields are the choices of a user, each of them optional
or null.  The same six values may also stand in a list, in the order of the fields.  A field that
does not exist or is repeated is a fault, and so is a value of the wrong type.
-/
import Manpage.Json.Reader
import Manpage.Settings.Arguments

namespace Manpage

/-- The fields of a configuration file, in order. -/
inductive ConfigField
  | tool | appletsCommand | includeDir | outDir | date | jobs
deriving DecidableEq, Repr

namespace ConfigField

/-- The fields in the order of a list. -/
def all : List ConfigField := [.tool, .appletsCommand, .includeDir, .outDir, .date, .jobs]

/-- The name of a field. -/
def name : ConfigField → Text
  | .tool => "tool".toList
  | .appletsCommand => "applets_command".toList
  | .includeDir => "include_dir".toList
  | .outDir => "out_dir".toList
  | .date => "date".toList
  | .jobs => "jobs".toList

/-- The field with a name. -/
def ofName? (s : Text) : Option ConfigField := all.find? (fun field => field.name == s)

/-- What a message says is expected in a field. -/
def expected : ConfigField → Text
  | .includeDir => "path string".toList
  | .outDir => "path string".toList
  | .jobs => "usize".toList
  | _ => "a string".toList

end ConfigField

namespace ConfigFile

open Json Json.Reader

/-- What a message says is expected at the top of the file. -/
def expectedFile : Text := "struct FileConfig".toList

/-- Takes a null or what `value` takes. -/
def optional {α : Type} (value : Reader α) : Reader (Option α) := do
  match ← skipSpace with
  | some b =>
    if b = byte 'n' then
      skip
      literal ['u', 'l', 'l']
      return none
    else some <$> value
  | none => some <$> value

/-- Takes a string. -/
def textValue (expected : Text) : Reader Text := do
  match ← skipSpace with
  | none => failAtNext .endInValue
  | some b => if b = byte '"' then do skip; string else wrongType expected

/-- Takes a natural number below `2 ^ 64`. -/
def countValue (expected : Text) : Reader Nat := do
  match ← skipSpace with
  | none => failAtNext .endInValue
  | some b =>
    let read ←
      if b = byte '-' then do skip; number false
      else if isDigit b then number true
      else wrongType expected
    match read with
    | .natural n => return n
    | .negative n => fail (.wrongSign n expected)
    | .floating f => fail (.wrongType (.number (.floating f)) expected)

/-- Takes the value of a field and puts it among the choices. -/
def fieldValue (choices : Choices) (field : ConfigField) : Reader Choices := do
  match field with
  | .tool => return { choices with tool := ← optional (textValue field.expected) }
  | .appletsCommand =>
    return { choices with appletsCommand := ← optional (textValue field.expected) }
  | .includeDir => return { choices with includeDir := ← optional (textValue field.expected) }
  | .outDir => return { choices with outDir := ← optional (textValue field.expected) }
  | .date => return { choices with date := ← optional (textValue field.expected) }
  | .jobs => return { choices with jobs := ← optional (countValue field.expected) }

/-! ## 1. The object form -/

/-- Whether another field follows, its opening quote being next. -/
def anotherField (first : Bool) : Reader Bool := do
  match ← skipSpace with
  | none => failAtNext .endInObject
  | some b =>
    if b = byte '\x7d' then return false
    else if first then
      if b = byte '"' then return true else failAtNext .keyNotString
    else if b = byte ',' then
      skip
      match ← skipSpace with
      | none => failAtNext .endInValue
      | some b =>
        if b = byte '"' then return true
        else if b = byte '\x7d' then failAtNext .trailingComma
        else failAtNext .keyNotString
    else failAtNext .noObjectComma

/-- Takes the colon after the name of a field. -/
def colon : Reader Unit := do
  match ← skipSpace with
  | none => failAtNext .endInObject
  | some b => if b = byte ':' then skip else failAtNext .noColon

/-- A fault in the name of a field is reported behind the white space after the name, and behind
the end of the object if that is next. -/
def failInName {α : Type} (fault : Fault) : Reader α := do
  match ← skipSpace with
  | some b => if b = byte '\x7d' then do skip; fail fault else fail fault
  | none => fail fault

/-- Takes the fields of an object.  `fuel` bounds their number. -/
def fields : (fuel : Nat) → (seen : List ConfigField) → Choices → Reader Choices
  | 0, _, choices => return choices
  | fuel + 1, seen, choices => do
    if ← anotherField (seen == []) then
      skip
      let name ← string
      match ConfigField.ofName? name with
      | none => failInName (.unknownField name (ConfigField.all.map ConfigField.name))
      | some field =>
        if field ∈ seen then failInName (.repeatedField name)
        else
          colon
          fields fuel (field :: seen) (← fieldValue choices field)
    else return choices

/-- Takes an object after its opening brace. -/
def object : Reader Choices := do
  -- at most one round for each field, and one that finds the end
  let choices ← fields (ConfigField.all.length + 2) [] .none
  skip
  return choices

/-! ## 2. The list form -/

/-- Whether another member follows in a list. -/
def anotherMember (first : Bool) : Reader Bool := do
  match ← skipSpace with
  | none => failAtNext .endInList
  | some b =>
    if b = byte ']' then return false
    else if first then return true
    else if b = byte ',' then
      skip
      match ← skipSpace with
      | none => failAtNext .endInValue
      | some b => if b = byte ']' then failAtNext .trailingComma else return true
    else failAtNext .noListComma

/-- Takes one member of a list for each of the fields; `count` have been taken. -/
def members : (count : Nat) → List ConfigField → Choices → Reader Choices
  | _, [], choices => return choices
  | count, field :: rest, choices => do
    if ← anotherMember (count == 0) then
      members (count + 1) rest (← fieldValue choices field)
    else
      skip
      fail (.wrongLength count (expectedFile ++ " with 6 elements".toList))

/-- Takes the end of a list. -/
def endOfList : Reader Unit := do
  match ← skipSpace with
  | none => failAtNext .endInList
  | some b =>
    if b = byte ']' then skip
    else if b = byte ',' then
      skip
      match ← skipSpace with
      | some b => if b = byte ']' then failAtNext .trailingComma else failAtNext .trailingText
      | none => failAtNext .trailingText
    else failAtNext .trailingText

/-- Takes a list after its opening bracket. -/
def list : Reader Choices := do
  let choices ← members 0 ConfigField.all .none
  endOfList
  return choices

/-! ## 3. The file -/

/-- Takes the choices and the end of the file. -/
def file : Reader Choices := do
  let choices ← do
    match ← skipSpace with
    | none => failAtNext .endInValue
    | some b =>
      if b = byte '\x7b' then do skip; object
      else if b = byte '[' then do skip; list
      else wrongType expectedFile
  match ← skipSpace with
  | none => return choices
  | some _ => failAtNext .trailingText

/-- The choices in the bytes of a configuration file. -/
def parse (bytes : Bytes) : Except Misread Choices :=
  match (file ⟨bytes, 1, 0⟩) with
  | .ok (choices, _) => .ok choices
  | .error misread => .error misread

end ConfigFile

end Manpage
