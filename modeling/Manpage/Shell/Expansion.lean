/-
# The values of words

What the words of a command stand for: parameters, the output of commands and arithmetic are put in
their places, home directories too, and what was not quoted falls apart into fields and may be a
pattern for paths.
-/
import Manpage.Shell.Arithmetic
import Manpage.Shell.Fields
import Manpage.Shell.Fork
import Manpage.Shell.Quoting

namespace Manpage.Shell.Act

/-! ## 1. Parameters -/

/-- The values that a parameter has. -/
inductive Found
  | unset
  | text (s : Text)
  /-- Several values, which are one word between quotes if `joined` holds. -/
  | many (joined : Bool) (values : List Text)

/-- The letters of the options, in the order in which they are told. -/
def optionLetters (st : State) : Text :=
  match st.dialect with
  | .small => "efIimnsxvVECabu".toList.filter st.options.contains
  | .large => "abefhkmnptuvxBCEHPTcs".toList.filter st.options.contains

/-- A whole number as a text. -/
def numberText (n : Int) : Text := Arithmetic.shown n

/-- The values of a variable that the large shell keeps by itself. -/
def listOf? (st : State) (name : Text) : Option (List Text) :=
  let main (s : Text) : List Text := if st.script.isSome then [s] else []
  match String.ofList name with
  | "FUNCNAME" =>
    some (if st.calls = 0 then [] else st.frames.map (·.name) ++ main "main".toList)
  | "BASH_LINENO" => some (st.frames.map (fun f => Text.ofNat f.line) ++ main ['0'])
  | "BASH_SOURCE" => some (st.frames.map (·.source) ++ st.script.toList)
  | "PIPESTATUS" => some (st.stageStatuses.map Text.ofNat)
  | _ => none

/-- The value of a parameter by name. -/
def find (st : State) (name : Text) : Found :=
  let ofOption (s : Option Text) : Found := match s with
    | some s => .text s
    | none => .unset
  match name with
  | ['@'] => .many false st.params
  | ['*'] => .many true st.params
  | ['#'] => .text (Text.ofNat st.params.length)
  | ['?'] => .text (Text.ofNat st.status)
  | ['$'] => .text (Text.ofNat st.shownPid)
  | ['-'] => .text (optionLetters st)
  | ['!'] => ofOption (st.lastJob.map Text.ofNat)
  | c :: _ =>
    if name.all Char.isDigit then
      let n := Utility.ofDigits 10 name
      if n = 0 then .text st.name else ofOption st.params[n - 1]?
    else if beginsName c then
      let s := String.ofList name
      match st.dialect, s with
      | .large, "LINENO" => .text (Text.ofNat st.line)
      | .large, "BASHPID" => .text (Text.ofNat st.pid)
      | .large, "FUNCNAME" | .large, "BASH_LINENO" | .large, "BASH_SOURCE" | .large, "PIPESTATUS" =>
        ofOption ((listOf? st name).bind List.head?)
      | .large, "BASH_SUBSHELL" => .text (Text.ofNat st.depth)
      | _, _ => ofOption (textOf? st name)
    else .unset
  | [] => .unset

/-- Whether a text is a number and perhaps negative. -/
def indexNumber? (s : Text) : Option Int :=
  match s with
  | '-' :: digits => if digits ≠ [] ∧ digits.all Char.isDigit then
      some (-(Utility.ofDigits 10 digits : Int)) else none
  | digits => if digits ≠ [] ∧ digits.all Char.isDigit then some (Utility.ofDigits 10 digits) else none

/-- One value of a variable; a negative number counts from the end. -/
def valueAt (v : Variable) (index : Text) : Option Text :=
  match v.value with
  | .keyed items => items.lookup index
  | .unset => none
  | .text s => if index = ['0'] ∨ index = "-1".toList then some s else none
  | .list items =>
    match indexNumber? index with
    | some n =>
      let n := if n < 0 then n + ((items.getLast?.map fun x => x.1 + 1).getD 0 : Nat) else n
      if n < 0 then none else items.lookup n.toNat
    | none => none

/-- What arithmetic knows of the variables. -/
def surroundings (st : State) : Arithmetic.Surroundings where
  dialect := st.dialect
  valueOf? name index :=
    match index with
    | none =>
      match find st name with
      | .text s => some s
      | _ => none
    | some i => valueAt (variableOf st name) i
  keyed name :=
    match (variableOf st name).value with
    | .keyed _ => true
    | _ => false
  fixed name := (variableOf st name).fixed
  checked := st.options.contains 'u'

/-- The value of an arithmetic expression, which may set variables. -/
def calculate (expression : Text) : Act (Except Arithmetic.Failure Int) := do
  match Arithmetic.evaluate (surroundings (← get)) expression with
  | .ok (n, assigned) =>
    for ((name, index), value) in assigned do
      match index with
      | none => assign name value
      | some i => assignAt name i value
    return .ok n
  | .error failure => return .error failure

/-- Gives up for want of the value of an expression: the large shell drops what it has read. -/
def failArithmetic {α : Type} (failure : Arithmetic.Failure) : Act α := do
  match (← get).dialect with
  | .small => fail failure.wording
  | .large =>
    complain failure.largeWording
    setStatus 1
    match failure.fault with
    | .unset _ => exit 1
    | _ => throw .dropped

/-- Gives up because a parameter is not set. -/
def failUnset {α : Type} (name message : Text) : Act α := do
  let st ← get
  match st.dialect with
  | .small =>
    complain (name ++ ": ".toList ++ message)
    setStatus 2
    throw .failed
  | .large =>
    set { st with speaker := none }
    complain (name ++ ": ".toList ++ message)
    exit 1

/-- Gives up because there is no such use of a parameter. -/
def failBad {α : Type} (source : Text) : Act α := do
  match (← get).dialect with
  | .small => fail "Bad substitution".toList
  | .large =>
    complain (source ++ ": bad substitution".toList)
    setStatus 1
    throw .dropped

/-! ## 2. Atoms -/

/-- How the value of a word is made. -/
structure Manner where
  /-- Whether it falls apart into fields. -/
  splits : Bool
  /-- Whether it is what a variable is set to, so that home directories also stand behind colons. -/
  assigned : Bool
  /-- Whether text outside quotes may separate fields, as it stands in the braces of a parameter. -/
  inner : Bool

/-- What is to become fields. -/
def Manner.fields : Manner := ⟨true, false, false⟩

/-- What stays one text. -/
def Manner.single : Manner := ⟨false, false, false⟩

/-- What a variable is set to. -/
def Manner.value : Manner := ⟨false, true, false⟩

/-- Several values with something between them. -/
def between (separator : List Atom) : List (List Atom) → List Atom
  | [] => []
  | [a] => a
  | a :: rest => a ++ separator ++ between separator rest

/-- What stands between values that become one text. -/
def joinerOf (st : State) : Text :=
  match textOf? st "IFS".toList with
  | none => [' ']
  | some ifs => ifs.take 1

/-- Several values as atoms. -/
def atomsOfMany (st : State) (manner : Manner) (quoted joined : Bool) (values : List Text) : List Atom :=
  if quoted && !joined && manner.splits then
    between [.gap] (values.map fun s => .mark :: Atom.ofText true false s)
  else if manner.splits && !quoted then
    between [.blank] (values.map fun s => Atom.ofText false true s)
  else
    let joiner := if !joined && st.dialect == .large then [' '] else joinerOf st
    between (Atom.ofText quoted false joiner) (values.map fun s => Atom.ofText quoted manner.splits s)

/-- The value of a parameter as atoms. -/
def atomsOf (st : State) (manner : Manner) (quoted : Bool) : Found → List Atom
  | .unset => []
  | .text s => Atom.ofText quoted manner.splits s
  | .many joined values => atomsOfMany st manner quoted joined values

/-- Whether a value is missing; `colon` says that an empty one is too. -/
def isMissing (st : State) (colon : Bool) : Found → Bool
  | .unset => true
  | .text s => colon && s.isEmpty
  | .many joined values =>
    if st.dialect = .large then
      if values.isEmpty then true else colon && (Text.join [' '] values).isEmpty
    else colon && (Text.join (if joined then joinerOf st else [' ']) values).isEmpty

/-- Applies a function to a value, or to each of several. -/
def Found.map (f : Text → Text) : Found → Found
  | .unset => .unset
  | .text s => .text (f s)
  | .many joined values => .many joined (values.map f)

/-- The home directory that a name behind a tilde means. -/
def homeOf? (st : State) (name : Text) : Option Text :=
  if name = [] then
    match textOf? st "HOME".toList, st.dialect with
    | some h, _ => some h
    | none, .large => some "/root".toList
    | none, .small => none
  else if name = "root".toList then some "/root".toList
  else if name = "nobody".toList then some "/nonexistent".toList
  else if st.dialect = .large ∧ name = ['+'] then textOf? st "PWD".toList
  else if st.dialect = .large ∧ name = ['-'] then textOf? st "OLDPWD".toList
  else none

/-- Text outside quotes as atoms; `start` says that a home directory may stand here, and `last` that
nothing follows the text. -/
def plainAtoms (st : State) (manner : Manner) (last : Bool) : (fuel : Nat) → (start : Bool) → Text →
    List Atom
  | 0, _, s => Atom.ofText false false s
  | _ + 1, _, [] => []
  | fuel + 1, start, c :: rest =>
    let stops (d : Char) : Bool := d == '/' || (manner.assigned && d == ':')
    let one : List Atom := .char c false (manner.splits && manner.inner)
      :: plainAtoms st manner last fuel (manner.assigned && c == ':') rest
    if start && c == '~' then
      let name := rest.takeWhile fun d => !stops d
      let after := rest.drop name.length
      if after.isEmpty && !last then one
      else
        match homeOf? st name with
        | some home =>
          .mark :: Atom.ofText true false home ++ plainAtoms st manner last fuel false after
        | none => one
    else one

/-- The text that commands give, without line feeds at its end. -/
def trimmedOutput (s : Text) : Text :=
  Text.dropEndWhile (· == '\n') (s.filter (· != '\x00'))

/-- A text with its letters in upper or lower case: those that fit a pattern, the first one or all. -/
def withLetters (upper all : Bool) (pattern : Pattern) (s : Text) : Text :=
  let change (c : Char) : Char :=
    if pattern.isEmpty || Pattern.fits pattern [c] then (if upper then c.toUpper else c.toLower) else c
  if all then s.map change
  else
    match s with
    | [] => []
    | c :: rest => change c :: rest

/-- What stands in the place of a match: an ampersand that is not quoted is the match itself. -/
def replacedBy : List Marked → (found : Text) → Text
  | [], _ => []
  | ('\\', false) :: ('&', _) :: rest, found => '&' :: replacedBy rest found
  | (c, quoted) :: rest, found =>
    if c = '&' ∧ quoted = false then found ++ replacedBy rest found else c :: replacedBy rest found

/-- A text with matches of a pattern replaced. -/
def withReplaced (extent : Extent) (pattern : Pattern) (replacement : Text → Text) (s : Text) : Text :=
  match extent with
  | .first => Pattern.replace pattern replacement false s.length s
  | .all => Pattern.replace pattern replacement true s.length s
  | .atStart =>
    match Pattern.matchSize? pattern false true s with
    | some n => replacement (s.take n) ++ s.drop n
    | none => s
  | .atEnd =>
    match Pattern.matchSize? pattern true true s with
    | some n => s.take (s.length - n) ++ replacement (s.drop (s.length - n))
    | none => s

/-- A value in the form of a letter. -/
def inForm (kind : Char) (s : Text) : Text :=
  match kind with
  | 'Q' => Quoting.large s
  | 'U' => s.map Char.toUpper
  | 'L' => s.map Char.toLower
  | 'u' => withLetters true false [] s
  | _ => s

/-- The values from a place on, so many of them. -/
def sliceOf {α : Type} (xs : List α) (offset : Int) (size : Option Int) : Option (List α) :=
  let n : Int := xs.length
  let start := if offset < 0 then n + offset else offset
  if start < 0 ∨ n < start then some []
  else
    match size with
    | none => some (xs.drop start.toNat)
    | some k =>
      if k < 0 then
        let stop := n + k
        if stop < start then none else some ((xs.drop start.toNat).take (stop - start).toNat)
      else some ((xs.drop start.toNat).take k.toNat)

/-! ## 3. Words -/

/-- The parts of expansion that contain one another. -/
structure Expander where
  atoms : Manner → Word → Act (List Atom)

/-- A word as one text. -/
def wordText (x : Expander) (w : Word) : Act Text := do
  return Atom.text (← x.atoms Manner.single w)

/-- What the patterns of a shell may hold. -/
def patternRules (st : State) : Pattern.Rules where
  caret := st.dialect == .large
  groups := st.features.contains "extglob".toList
  folds := st.features.contains "nocasematch".toList

/-- A word as a pattern. -/
def wordPattern (x : Expander) (w : Word) : Act Pattern := do
  let atoms ← x.atoms Manner.single w
  return Pattern.ofMarked (patternRules (← get)) (Atom.marked atoms)

/-- The value of a word as an expression. -/
def wordNumber (x : Expander) (w : Word) : Act Int := do
  match ← calculate (← wordText x w) with
  | .ok n => return n
  | .error failure => failArithmetic failure

/-- An index of a variable as a text. -/
def indexText (x : Expander) (name : Text) (w : Word) : Act Text := do
  match (variableOf (← get) name).value with
  | .keyed _ => wordText x w
  | _ => return numberText (← wordNumber x w)

/-- The value of a parameter with an index. -/
def findAt (x : Expander) (name : Text) (index : Index) : Act Found := do
  let st ← get
  match index with
  | .none => return find st name
  | .all joined =>
    return .many joined ((listOf? st name).getD (variableOf st name).all)
  | .place w =>
    let i ← indexText x name w
    let found := match listOf? st name with
      | some values => values[((String.ofList i).toNat?).getD 1000000]?
      | none => valueAt (variableOf st name) i
    match found with
    | some s => return .text s
    | none => return .unset

/-- Sets what a parameter stands for. -/
def assignFound (x : Expander) (name : Text) (index : Index) (value : Text) : Act Unit := do
  match index with
  | .place w => assignAt name (← indexText x name w) value
  | _ =>
    if isName name then assign name value
    else
      match (← get).dialect with
      | .small => fail (name ++ ": bad variable name".toList)
      | .large =>
        complain ("$".toList ++ name ++ ": cannot assign in this way".toList)
        setStatus 1
        throw .dropped

/-- How an index is written. -/
def shownIndex (index : Word) : Text :=
  index.flatMap fun
    | .plain s | .literal s => s
    | .parameter _ (.mk name _ _) => '$' :: name
    | _ => []

/-- A parameter in a message of the large shell. -/
def shownParameter (dialect : Dialect) (name : Text) : Text :=
  match dialect, name with
  | .large, c :: _ => if beginsName c then name else '$' :: name
  | _, _ => name

/-- An index in a message. -/
def shownPlace : Index → Text
  | .none => []
  | .all joined => if joined then "[*]".toList else "[@]".toList
  | .place w => '[' :: shownIndex w ++ [']']

/-- The value of a parameter and what is made of it. -/
def useParameter (x : Expander) (manner : Manner) (quoted : Bool) (name : Text) (index : Index) :
    (fuel : Nat) → Use → Act (List Atom)
  | 0, _ => return []
  | fuel + 1, use => do
    let st ← get
    let checked := st.options.contains 'u'
    let inner : Manner := { manner with inner := true, assigned := false }
    let refuseUnset (found : Found) : Act Unit := do
      match found with
      | .unset =>
        if checked then
          failUnset (shownParameter st.dialect name ++ shownPlace index) (match st.dialect with
            | .small => "parameter not set".toList
            | .large => "unbound variable".toList)
      | _ => pure ()
    let mapped (f : Text → Text) : Act (List Atom) := do
      let found ← findAt x name index
      refuseUnset found
      let found := match found, st.dialect with
        | .many joined values, .small =>
          -- the small shell takes all parameters for one text
          Found.text (f (Text.join (if joined then joinerOf st else [' ']) values))
        | found, _ => Found.map f found
      return atomsOf (← get) manner quoted found
    match use with
    | .value =>
      let found ← findAt x name index
      refuseUnset found
      return atomsOf st manner quoted found
    | .length =>
      let found ← findAt x name index
      refuseUnset found
      let n := match found, st.dialect with
        | .unset, _ => 0
        | .text s, _ => s.length
        | .many _ values, .large => values.length
        | .many joined values, .small =>
          (Text.join (if joined then joinerOf st else [' ']) values).length
      return Atom.ofText quoted manner.splits (Text.ofNat n)
    | .default colon w =>
      let found ← findAt x name index
      if isMissing st colon found then x.atoms inner w
      else return atomsOf st manner quoted found
    | .alternative colon w =>
      let found ← findAt x name index
      if isMissing st colon found then return [] else x.atoms inner w
    | .assign colon w =>
      let found ← findAt x name index
      if isMissing st colon found then
        let value ← wordText x w
        assignFound x name index value
        return atomsOf (← get) manner quoted (.text value)
      else return atomsOf st manner quoted found
    | .required colon w =>
      let found ← findAt x name index
      if isMissing st colon found then
        let message ← if w.isEmpty then pure (match st.dialect, colon with
            | .small, true => "parameter not set or null".toList
            | .large, true => "parameter null or not set".toList
            | _, false => "parameter not set".toList)
          else wordText x w
        failUnset (match index with
          | .all _ => name ++ "[@]".toList
          | _ => name) message
      else return atomsOf st manner quoted found
    | .strip atEnd longest w =>
      let pattern ← wordPattern x w
      mapped (Pattern.strip pattern atEnd longest)
    | .bad source _ => failBad source
    | .replaced extent p r =>
      let pattern ← wordPattern x p
      let replacement := Atom.marked (← x.atoms Manner.single r)
      mapped (withReplaced extent pattern (replacedBy replacement))
    | .letters upper all p =>
      let pattern ← wordPattern x p
      mapped (withLetters upper all pattern)
    | .formed kind => mapped (inForm kind)
    | .slice offset size =>
      let found ← findAt x name index
      refuseUnset found
      let from' ← wordNumber x offset
      let count ← match size with
        | none => pure none
        | some w => do pure (some (← wordNumber x w))
      match found with
      | .unset => return []
      | .text s =>
        match sliceOf s from' count with
        | some t => return atomsOf st manner quoted (.text t)
        | none =>
          complain (numberText (count.getD 0) ++ ": substring expression < 0".toList)
          setStatus 1
          throw .dropped
      | .many joined values =>
        let isParams := name = ['@'] ∨ name = ['*']
        -- the parameters are counted with the name of the shell before them
        let all := if isParams then st.name :: values else values
        let chosen := (sliceOf all from' count).getD []
        let chosen := if isParams ∧ from' < 0 then
            (sliceOf values from' count).getD []
          else chosen
        return atomsOf st manner quoted (.many joined chosen)
    | .indirect use =>
      match ← findAt x name index with
      | .text target =>
        let plain := target.takeWhile (· != '[')
        let inside := (target.drop (plain.length + 1)).dropLast
        let inner : Index := if plain.length = target.length then .none
          else if inside = ['@'] then .all false
          else if inside = ['*'] then .all true
          else .place [.plain inside]
        useParameter x manner quoted plain inner fuel use
      | _ =>
        match use with
        | .value => return []
        | _ => useParameter x manner quoted [] .none fuel use
    | .indices =>
      match index with
      | .all joined =>
        return atomsOf st manner quoted (.many joined (variableOf st name).indices)
      | _ => return []
    | .names =>
      let names := (st.bindings.filter fun v => name.isPrefixOf v.1 && v.2.value != .unset).map Prod.fst
      return atomsOf st manner quoted (.many false (names.mergeSort Paths.inOrder))

/-- The path of a free file number behind which commands are, from which their output comes or to which
their input goes. -/
def openProcess (e : Engine) (input : Bool) (line : Nat) (body : Command) : Act Text := do
  let channel ← if input then do
      let (text, _) ← collectOutput e line (e.run .final body)
      onSystem fun sys => sys.addChannel (.source text false)
    else do
      let pid ← onSystem System.newPid
      let (channel, index) ← onSystem fun sys =>
        let (c, i, sys) := sys.collect none
        ((c, i), sys)
      let shell := splitOff (← get) pid
      modifyThe Scene fun scene => { scene with feeds := scene.feeds ++ [⟨channel, index, body, shell⟩] }
      pure channel
  let st ← get
  let fd := (((List.range 24).map fun n => 63 - n).find? fun n => (st.fds.lookup n).isNone).getD 39
  set { st with fds := (fd, channel) :: st.fds }
  return "/dev/fd/".toList ++ Text.ofNat fd

/-- A piece of a word as atoms. -/
def pieceAtoms (e : Engine) (x : Expander) (manner : Manner) (first last : Bool) (p : Piece) :
    Act (List Atom) := do
  match p with
  | .plain s => return plainAtoms (← get) manner last (s.length + 1) first s
  | .literal s => return Atom.ofText true false s
  | .quotes => return [.mark]
  | .parameter quoted (.mk name index use) => useParameter x manner quoted name index 100 use
  | .output quoted line body =>
    let (text, status) ← collectOutput e line (e.run .final body)
    modify fun st => { st with
      outputStatus := status
      status := match st.dialect with
        | .small => st.status
        | .large => status }
    return Atom.ofText quoted manner.splits (trimmedOutput text)
  | .process input line body => return Atom.ofText true false (← openProcess e input line body)
  | .arithmetic quoted w =>
    let n ← wordNumber x w
    return Atom.ofText quoted manner.splits (numberText n)
  | .list _ _ => return []

/-- The pieces of a word as atoms. -/
def piecesAtoms (e : Engine) (x : Expander) (manner : Manner) : (first : Bool) → Word → Act (List Atom)
  | _, [] => return []
  | first, p :: rest => do
    let here ← pieceAtoms e x manner first rest.isEmpty p
    let endsColon := manner.assigned && (match p with
      | .plain s => s.getLast? == some ':'
      | _ => false)
    return here ++ (← piecesAtoms e x manner endsColon rest)

/-- The expansion of words, as deep as they may be nested. -/
def expander (e : Engine) : (depth : Nat) → Expander
  | 0 => ⟨fun _ _ => return []⟩
  | depth + 1 => ⟨fun manner w st => piecesAtoms e (expander e depth) manner true w st⟩

/-- The expansion of words. -/
def words (e : Engine) : Expander := expander e 1000

/-! ## 4. Braces -/

/-- A character of a word, or another piece of it. -/
inductive Glyph
  | char (c : Char)
  | piece (p : Piece)

/-- A word by its characters. -/
def glyphs (w : Word) : List Glyph :=
  w.flatMap fun
    | .plain s => s.map .char
    | p => [.piece p]

/-- Characters as a word. -/
def ofGlyphs (gs : List Glyph) : Word :=
  merge (gs.map fun
    | .char c => .plain [c]
    | .piece p => p)

/-- The text up to a brace that closes, cut at commas that no other braces hold, and what follows. -/
def braceParts : (depth : Nat) → (current : List Glyph) → (parts : List (List Glyph)) → List Glyph →
    Option (List (List Glyph) × List Glyph)
  | _, _, _, [] => none
  | depth, current, parts, g :: rest =>
    match g with
    | .char '\x7b' => braceParts (depth + 1) (g :: current) parts rest
    | .char '\x7d' =>
      if depth = 0 then some ((current.reverse :: parts).reverse, rest)
      else braceParts (depth - 1) (g :: current) parts rest
    | .char ',' =>
      if depth = 0 then braceParts depth [] (current.reverse :: parts) rest
      else braceParts depth (g :: current) parts rest
    | g => braceParts depth (g :: current) parts rest

/-- The text of glyphs that are all characters. -/
def glyphText? (gs : List Glyph) : Option Text :=
  gs.mapM fun
    | .char c => some c
    | .piece _ => none

/-- The numbers from one to another in steps, up or down. -/
def numbersTo (last step : Int) : (fuel : Nat) → Int → List Int
  | 0, _ => []
  | fuel + 1, n =>
    if (0 < step ∧ last < n) ∨ (step < 0 ∧ n < last) then [] else n :: numbersTo last step fuel (n + step)

/-- The sequence that the inside of braces stands for: from one number or letter to another. -/
def braceSequence? (s : Text) : Option (List Text) :=
  let parts : List Text :=
    let rec cut : Text → List Text
      | '.' :: '.' :: rest => [] :: cut rest
      | c :: rest => Text.consFirst c (cut rest)
      | [] => [[]]
    cut s
  let number? (s : Text) : Option Int := indexNumber? s
  let stepOf (a b : Int) (given : Option Int) : Int :=
    let size : Int := (given.getD 1).natAbs
    let size := if size = 0 then 1 else size
    if a ≤ b then size else -size
  let wide (s : Text) : Bool :=
    let digits := if s.head? = some '-' then s.drop 1 else s
    digits.length > 1 && digits.head? == some '0'
  let build (a b : Text) (given : Option Int) : Option (List Text) :=
    match number? a, number? b, a, b with
    | some m, some n, _, _ =>
      let width := if wide a || wide b then max a.length b.length else 0
      some ((numbersTo n (stepOf m n given) 100000 m).map fun k =>
        let digits := Text.ofNat k.natAbs
        let room := if k < 0 then width - 1 else width
        let digits := List.replicate (room - digits.length) '0' ++ digits
        if k < 0 then '-' :: digits else digits)
    | _, _, [c], [d] =>
      if c.isAlpha ∧ d.isAlpha then
        let m : Int := c.toNat
        let n : Int := d.toNat
        some ((numbersTo n (stepOf m n given) 1000 m).map fun k => [Char.ofNat k.toNat])
      else none
    | _, _, _, _ => none
  match parts with
  | [a, b] => build a b none
  | [a, b, c] => (number? c).bind fun step => build a b (some step)
  | _ => none

/-- The words that a word with braces stands for. -/
def braced : (fuel : Nat) → List Glyph → List (List Glyph)
  | 0, gs => [gs]
  | _ + 1, [] => [[]]
  | fuel + 1, g :: rest =>
    let plain : List (List Glyph) := (braced fuel rest).map (g :: ·)
    match g with
    | .char '\x7b' =>
      match braceParts 0 [] [] rest with
      | none => plain
      | some (parts, after) =>
        let choices : Option (List (List Glyph)) :=
          match parts with
          | [only] =>
            ((glyphText? only).bind braceSequence?).map fun ws => ws.map fun w => w.map Glyph.char
          | parts => some (parts.flatMap (braced fuel))
        match choices with
        | none => plain
        | some choices =>
          let tails := braced fuel after
          choices.flatMap fun c => tails.map fun t => c ++ t
    | _ => plain

/-- The words that a word stands for before anything else is put in its place. -/
def bracedWords (braces : Bool) (w : Word) : List Word :=
  let hasBrace := w.any fun
    | .plain s => s.contains '\x7b'
    | _ => false
  if braces ∧ hasBrace then
    let gs := glyphs w
    (braced (gs.length + 1) gs).map ofGlyphs
  else [w]

/-! ## 5. Fields and texts -/

/-- How paths are looked for. -/
def searchOf : Act Paths.Search := do
  let st ← get
  let on (name : String) : Bool := st.features.contains name.toList
  return {
    files := ← files
    cwd := st.cwd
    rules := { patternRules st with folds := on "nocaseglob" }
    dots := st.dialect == .small
    hidden := on "dotglob"
    vanishes := on "nullglob"
    deep := on "globstar" }

/-- The atoms of a word that is to become fields.  What looks like an assignment may have home
directories behind its equals sign, as the large shell has it. -/
def fieldAtoms (e : Engine) (w : Word) : Act (List Atom) := do
  match w, (← get).dialect with
  | .plain s :: rest, .large =>
    let name := s.takeWhile inName
    match isName name, s.drop name.length with
    | true, '=' :: value =>
      let front := Atom.ofText false false (name ++ ['='])
      return front ++ (← (words e).atoms { Manner.fields with assigned := true } (.plain value :: rest))
    | _, _ => (words e).atoms Manner.fields w
  | w, _ => (words e).atoms Manner.fields w

/-- The fields that a word stands for. -/
def fieldsOfWord (e : Engine) (w : Word) : Act (List Text) := do
  match plainText? w with
  | some (c :: rest) =>
    -- most words are plain, and stand for themselves
    if !((c :: rest).any fun c => "*?[~(\\\x7b".toList.contains c) then return [c :: rest]
  | _ => pure ()
  let mut found : List Text := []
  for w in bracedWords ((← get).options.contains 'B') w do
    let atoms ← fieldAtoms e w
    let st ← get
    for field in Atom.fields (separators st) atoms do
      if st.options.contains 'f' then found := found ++ [Paths.textOf field]
      else
        let search ← searchOf
        if st.features.contains "failglob".toList ∧ Paths.isUnmatched search field = true then
          complain ("no match: ".toList ++ Paths.textOf field)
          setStatus 1
          throw .dropped
        found := found ++ Paths.arguments search field
  return found

/-- The fields that words stand for. -/
def fieldsOfWords (e : Engine) : List Word → Act (List Text)
  | [] => return []
  | w :: rest => do
    let here ← fieldsOfWord e w
    return here ++ (← fieldsOfWords e rest)

/-- The text that a word stands for. -/
def textOfWord (e : Engine) (w : Word) : Act Text := wordText (words e) w

/-- The text that a variable is set to by a word. -/
def valueOfWord (e : Engine) (w : Word) : Act Text := do
  return Atom.text (← (words e).atoms Manner.value w)

/-- The pattern that a word stands for. -/
def patternOfWord (e : Engine) (w : Word) : Act Pattern := wordPattern (words e) w

/-- The value of a word as an expression. -/
def numberOfWord (e : Engine) (w : Word) : Act Int := wordNumber (words e) w

end Manpage.Shell.Act
