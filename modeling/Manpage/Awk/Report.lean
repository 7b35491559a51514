/-
# Making reports

What expressions come to and what statements do.  The rules of a program are gone through for each
record; those for the beginning come before the first one and those for the end behind the last one.
-/
import Manpage.Awk.Grammar
import Manpage.Awk.Machine

namespace Manpage.Awk

open Manpage.Utility (Source)

/-! ## 1. Replacing -/

/-- What is put in the place of a match: characters, and the match itself where there is none.  A
backslash takes its meaning from an ampersand, and another backslash takes that back. -/
def replacement : (slashes : Nat) → Text → List (Option Char)
  | n, '\\' :: rest => replacement (n + 1) rest
  | n, '&' :: rest =>
    List.replicate (n / 2) (some '\\') ++ (if n % 2 = 1 then some '&' else none) :: replacement 0 rest
  | n, c :: rest => List.replicate n (some '\\') ++ some c :: replacement 0 rest
  | n, [] => List.replicate n (some '\\')

/-- Replaces matches from a place on; `past` is where the last one ended.  It gives the text from the
place on, and how many were replaced. -/
def replaceFrom (r : Regex) (s : Regex.Subject) (parts : List (Option Char)) (everywhere : Bool) :
    (fuel : Nat) → (start : Nat) → (past : Option Nat) → Text × Nat
  | 0, _, _ => ([], 0)
  | fuel + 1, start, past =>
    let between (first last : Nat) : Text := (s.chars.extract first last).toList
    match r.find s start with
    | none => (between start s.chars.size, 0)
    | some m =>
      if m.first = m.last ∧ past = some m.first then
        if m.last < s.chars.size then
          let (more, n) := replaceFrom r s parts everywhere fuel (m.last + 1) none
          (between start (m.last + 1) ++ more, n)
        else (between start s.chars.size, 0)
      else
        let found := between m.first m.last
        let replaced := between start m.first ++ parts.flatMap fun p => match p with
          | some c => [c]
          | none => found
        if everywhere then
          if m.first < m.last then
            let (more, n) := replaceFrom r s parts everywhere fuel m.last (some m.last)
            (replaced ++ more, n + 1)
          else if m.last < s.chars.size then
            let (more, n) := replaceFrom r s parts everywhere fuel (m.last + 1) none
            (replaced ++ between m.last (m.last + 1) ++ more, n + 1)
          else (replaced, 1)
        else (replaced ++ between m.last s.chars.size, 1)

/-- Replaces matches in a text, and tells how many. -/
def replaceIn (r : Regex) (with_ s : Text) (everywhere : Bool) : Text × Nat :=
  replaceFrom r ⟨s.toArray, ⟨false, false⟩, true⟩ (replacement 0 with_) everywhere (s.length + 2) 0 none

/-- The part of a text from a place on, of a length if one is given; places are counted from one. -/
def partOf (s : Text) (first : Int) (length : Option Int) : Text :=
  match length with
  | none => s.drop (max first 1 - 1).toNat
  | some n =>
    -- what is asked for below zero is added to the length
    let n := if first < 0 then n - first else n
    (s.drop (max first 1 - 1).toNat).take n.toNat

/-- Where a text begins in another, counted from one; zero if it is not there. -/
def placeIn (wanted : Text) : (i : Nat) → Text → Nat
  | i, s =>
    if wanted.isPrefixOf s then i
    else
      match s with
      | [] => 0
      | _ :: rest => placeIn wanted (i + 1) rest

/-! ## 2. Programs that are run -/

/-- A program, and how commands are started. -/
structure Setting where
  program : Program
  invoke : Invoke

/-- A place that a value is put into. -/
inductive Place
  | name (x : Text)
  | field (i : Nat)
  | element (id : Nat) (key : Text)

namespace Report

open Running

/-- What is in a place. -/
def read : Place → Running Value
  | .name x => valueOf x
  | .field i => field i
  | .element id key => do
    let m ← get
    let v := ((m.table id).get? key).getD .nothing
    set (m.setTable id ((m.table id).put key v))
    return v

/-- Puts a value into a place. -/
def store (p : Place) (v : Value) : Running Unit := do
  match p with
  | .name x => setValue x v
  | .field i => setField i v
  | .element id key => modify fun m => m.setTable id ((m.table id).put key v)

/-- The number of a field. -/
def fieldIndex (v : Value) : Running Nat := do
  match Number.truncated? v.toNumber with
  | some i =>
    if i < 0 then
      fault ("negative field index $".toList ++ v.toNumber.text (← get).format)
    else return i.toNat
  | none => fault "negative field index $".toList

/-- What two numbers come to. -/
def reckon (op : Arithmetic) (a b : Number) : Number :=
  match op with
  | .add => Number.add a b
  | .sub => Number.sub a b
  | .mul => Number.mul a b
  | .div => Number.div a b
  | .rem => Number.rem a b
  | .pow => Number.pow a b

/-- Whether an order is as a comparison asks. -/
def holds (op : Comparison) (o : Ordering) : Bool :=
  match op with
  | .lt => o == .lt
  | .le => o != .gt
  | .eq => o == .eq
  | .ne => o != .eq
  | .gt => o == .gt
  | .ge => o != .lt

/-- Whether an expression is in a text. -/
def occurs (r : Regex) (s : Text) : Bool := r.occurs ⟨s.toArray, ⟨false, false⟩, true⟩

/-- A value as a text. -/
def textOf (v : Value) : Running Text := do return v.toText (← get).format

/-- A value as it is written. -/
def written (v : Value) : Running Text := do
  match v with
  | .number n => return n.text ((← get).textOf "OFMT")
  | v => textOf v

/-- The key that values make together. -/
def keyOf (vs : List Value) : Running Text := do
  let m ← get
  return Text.join (m.textOf "SUBSEP") (vs.map (·.toText m.format))

/-- Fills an array with texts, under their numbers. -/
def fill (id : Nat) (parts : List Text) : Running Unit := do
  let numbered := parts.mapIdx fun i s => (Text.ofNat (i + 1), Value.input s)
  modify fun m => m.setTable id (numbered.foldl (fun t x => t.put x.1 x.2) Table.empty)

/-- What a format makes of values. -/
def formatted (name : String) (args : List Value) : Running Text := do
  let m ← get
  match args with
  | [] => return []
  | f :: args =>
    let format := f.toText m.format
    let (l, wrong) := Layout.run m.format (format.length + 1) ⟨[], args, 0⟩ format
    let shown := name.toList ++ "(\"".toList ++ format ++ "\")".toList
    match wrong with
    | none => return l.pieces.reverse.flatten
    | some cause =>
      if name = "printf" then Work.out l.pieces.reverse.flatten
      match cause with
      | .missing => fault ("not enough arguments passed to ".toList ++ shown)
      | .improper n =>
        fault ("improper conversion(number ".toList ++ Text.ofNat n ++ ") in ".toList ++ shown)

/-- What the functions of one number come to. -/
def ofNumber (b : Builtin) (n : Number) : Number :=
  match b with
  | .int => match Number.truncated? n with
    | some k => Number.ofInt k
    | none => n
  | .sqrt => Number.sqrt n
  | .exp => Number.exp n
  | .log => Number.log n
  | .sin => Number.sin n
  | .cos => Number.cos n
  | _ => n

/-- The next random number. -/
def random : Running Value := do
  let m ← get
  let drawn : Nat := (m.random * 6364136223846793005 + 1442695040888963407) % Nat.pow 2 64
  set { m with random := drawn }
  return .number (Number.ofRatio (drawn / Nat.pow 2 32 : Nat) (Nat.pow 2 32))

/-- The status of what has been closed. -/
def closed (status : Option Nat) : Value :=
  match status with
  | some n => .ofNat n
  | none => .ofInt (-1)

mutual

/-- What an expression comes to. -/
def eval (s : Setting) : (fuel : Nat) → Expr → Running Value
  | 0, _ => throw .exit
  | fuel + 1, e => do
    match e with
    | .number n => return .number n
    | .text t => return .text t
    | .regex r _ => do
      let record ← textOf (← field 0)
      return .ofBool (occurs r record)
    | .name x => valueOf x
    | .field e => do
      let i ← fieldIndex (← eval s fuel e)
      field i
    | .element .. => do
      let p ← place s fuel e
      read p
    | .assign op target value => do
      let p ← place s fuel target
      let v ← eval s fuel value
      match op with
      | none =>
        store p v
        return v
      | some op => do
        let old ← read p
        let new := Value.number (reckon op old.toNumber v.toNumber)
        store p new
        return new
    | .step up after target => do
      let p ← place s fuel target
      let old := (← read p).toNumber
      let one := Number.ofNat 1
      let new := if up then Number.add old one else Number.sub old one
      store p (.number new)
      return .number (if after then old else new)
    | .not e => do
      let v ← eval s fuel e
      return .ofBool (!v.isTrue)
    | .sign negative e => do
      let n := (← eval s fuel e).toNumber
      return .number (if negative then n.neg else n)
    | .arithmetic op a b => do
      let x := (← eval s fuel a).toNumber
      let y := (← eval s fuel b).toNumber
      return .number (reckon op x y)
    | .compare op a b => do
      let x ← eval s fuel a
      let y ← eval s fuel b
      return .ofBool (holds op (Value.order (← get).format x y))
    | .concat a b => do
      let x ← textOf (← eval s fuel a)
      let y ← textOf (← eval s fuel b)
      return .text (x ++ y)
    | .and a b => do
      let x ← eval s fuel a
      if x.isTrue then
        let y ← eval s fuel b
        return .ofBool y.isTrue
      else return .ofBool false
    | .or a b => do
      let x ← eval s fuel a
      if x.isTrue then return .ofBool true
      else
        let y ← eval s fuel b
        return .ofBool y.isTrue
    | .choose c a b => do
      let x ← eval s fuel c
      if x.isTrue then eval s fuel a else eval s fuel b
    | .fits wanted a b => do
      let t ← textOf (← eval s fuel a)
      let r ← regex s fuel b
      return .ofBool (occurs r t == wanted)
    | .member keys array => do
      let key ← keyOf (← evalAll s fuel keys)
      let id ← arrayId array
      return .ofBool (((← get).table id).get? key).isSome
    | .call f args => call s fuel f args
    | .builtin b args => builtin s fuel b args
    | .getline origin source target => getline s fuel origin source target
    | .group e => eval s fuel e

/-- What expressions come to, one after another. -/
def evalAll (s : Setting) : (fuel : Nat) → List Expr → Running (List Value)
  | 0, _ => throw .exit
  | _ + 1, [] => return []
  | fuel + 1, e :: rest => do
    let v ← eval s fuel e
    return v :: (← evalAll s fuel rest)

/-- The place that an expression means. -/
def place (s : Setting) : (fuel : Nat) → Expr → Running Place
  | 0, _ => throw .exit
  | fuel + 1, e => do
    match e with
    | .name x => return .name x
    | .field e => do
      let i ← fieldIndex (← eval s fuel e)
      return .field i
    | .element array keys => do
      let key ← keyOf (← evalAll s fuel keys)
      let id ← arrayId array
      let p := Place.element id key
      discard (read p)
      return p
    | _ => return .name []

/-- The regular expression that an expression means. -/
def regex (s : Setting) : (fuel : Nat) → Expr → Running Regex
  | 0, _ => throw .exit
  | fuel + 1, e => do
    match e with
    | .regex r _ => return r
    | e => do
      let t ← textOf (← eval s fuel e)
      regexOf t

/-- What a function of the program comes to. -/
def call (s : Setting) : (fuel : Nat) → Text → List Expr → Running Value
  | 0, _, _ => throw .exit
  | fuel + 1, name, args => do
    match s.program.functions.find? (·.name == name) with
    | none => return .nothing
    | some f => do
      let frame ← slots s fuel f f.params args
      let outer := (← get).frame
      modify fun m => { m with frame }
      let v ← tryCatch (do
          exec s fuel f.body
          return Value.nothing) fun l => match l with
        | .give v => return v
        | l => throw l
      modify fun m => { m with frame := outer }
      return v

/-- What the parameters of a function stand for. -/
def slots (s : Setting) : (fuel : Nat) → Function → List Text → List Expr → Running (List (Text × Slot))
  | 0, _, _, _ => throw .exit
  | _ + 1, _, [], _ => return []
  | fuel + 1, f, x :: params, args => do
    let slot ← match args with
      | .name y :: _ =>
        if f.arrays.contains x then pure (.array (← arrayId y)) else pure (.value (← valueOf y))
      | e :: _ => do
        let v ← eval s fuel e
        pure (Slot.value v)
      | [] =>
        if f.arrays.contains x then do
          let (id, m) := (← get).addTable
          set m
          pure (.array id)
        else pure (.value .nothing)
    return (x, slot) :: (← slots s fuel f params (args.drop 1))

/-- What a function that every program knows comes to. -/
def builtin (s : Setting) : (fuel : Nat) → Builtin → List Expr → Running Value
  | 0, _, _ => throw .exit
  | fuel + 1, b, args => do
    match b, args with
    | .length, [] => do
      let t ← textOf (← field 0)
      return .ofNat t.length
    | .length, [.name x] => do
      let m ← get
      match m.frame.lookup x, m.arrayIds.lookup x with
      | some (.array id), _ => return .ofNat (m.table id).size
      | none, some id => return .ofNat (m.table id).size
      | _, _ => do
        let t ← textOf (← valueOf x)
        return .ofNat t.length
    | .length, e :: _ => do
      let t ← textOf (← eval s fuel e)
      return .ofNat t.length
    | .substr, e :: more => do
      let t ← textOf (← eval s fuel e)
      let numbers ← evalAll s fuel more
      let whole (v : Value) : Int := match Number.truncated? v.toNumber with
        | some k => k
        | none => if v.toNumber.magnitude = .infinite ∧ v.toNumber.negative = false then Int.pow 2 40 else 0
      match numbers with
      | [first] => return .text (partOf t (whole first) none)
      | first :: n :: _ => return .text (partOf t (whole first) (some (whole n)))
      | [] => return .text t
    | .index, [a, b] => do
      let t ← textOf (← eval s fuel a)
      let wanted ← textOf (← eval s fuel b)
      return .ofNat (placeIn wanted 1 t)
    | .split, e :: .name x :: more => do
      let t ← textOf (← eval s fuel e)
      let sep ← match more with
        | .regex r _ :: _ => pure (Separator.regex r)
        | e :: _ => do
          let w ← textOf (← eval s fuel e)
          separator w
        | [] => do
          let m ← get
          separator (m.textOf "FS")
      let parts := sep.cut t
      let id ← arrayId x
      fill id parts
      return .ofNat parts.length
    | .sub, r :: w :: more => replace s fuel false r w more
    | .gsub, r :: w :: more => replace s fuel true r w more
    | .position, [e, r] => do
      let t ← textOf (← eval s fuel e)
      let r ← regex s fuel r
      let (first, length) : Int × Int := match r.find ⟨t.toArray, ⟨false, false⟩, true⟩ 0 with
        | some m => ((m.first : Int) + 1, (m.last : Int) - m.first)
        | none => (0, -1)
      setValue "RSTART".toList (.ofInt first)
      setValue "RLENGTH".toList (.ofInt length)
      return .ofInt first
    | .sprintf, args => do
      let vs ← evalAll s fuel args
      return .text (← formatted "sprintf" vs)
    | .tolower, [e] => do
      let t ← textOf (← eval s fuel e)
      return .text (t.map Char.toLower)
    | .toupper, [e] => do
      let t ← textOf (← eval s fuel e)
      return .text (t.map Char.toUpper)
    | .atan2, [y, x] => do
      let y ← eval s fuel y
      let x ← eval s fuel x
      return .number (Number.atan2 y.toNumber x.toNumber)
    | .rand, _ => random
    | .srand, args => do
      let old := (← get).seed
      let new ← match args with
        | e :: _ => eval s fuel e
        | [] => pure (.ofNat 1)
      modify fun m => { m with seed := new, random := (Number.clamped new.toNumber % Int.pow 2 64).toNat }
      return old
    | .system, [e] => do
      let command ← textOf (← eval s fuel e)
      flush
      Work.flush
      return .ofNat (statusOf (← start s.invoke command []))
    | .close, [e] => do
      let name ← textOf (← eval s fuel e)
      return closed (← close s.invoke name)
    | .fflush, args => do
      discard (evalAll s fuel args)
      flush
      Work.flush
      return .ofNat 0
    | b, [e] => do
      let v ← eval s fuel e
      return .number (ofNumber b v.toNumber)
    | _, _ => return .nothing

/-- The separator that a text means. -/
def separator (w : Text) : Running Separator := do
  match Separator.ofText w with
  | .ok sep => return sep
  | .error message => fault message

/-- Replaces matches in a place, which is the record if none is named. -/
def replace (s : Setting) : (fuel : Nat) → Bool → Expr → Expr → List Expr → Running Value
  | 0, _, _, _, _ => throw .exit
  | fuel + 1, everywhere, r, w, more => do
    let r ← regex s fuel r
    let w ← textOf (← eval s fuel w)
    let p ← match more with
      | e :: _ => place s fuel e
      | [] => pure (.field 0)
    let t ← textOf (← read p)
    let (new, n) := replaceIn r w t everywhere
    if 0 < n then store p (.text new)
    return .ofNat n

/-- Reads a line into a place, which is the record if none is named. -/
def getline (s : Setting) : (fuel : Nat) → Origin → Option Expr → Option Expr → Running Value
  | 0, _, _, _ => throw .exit
  | fuel + 1, origin, source, target => do
    let found : Except SystemFault (Option Text) ← match source with
      | none => do
        let line ← nextMain patience
        pure (.ok line)
      | some e => do
        let name ← textOf (← eval s fuel e)
        nextNamed s.invoke (origin == .command) name
    match found with
    | .error _ => return .ofInt (-1)
    | .ok none => return .ofNat 0
    | .ok (some line) => do
      match target with
      | none => setRecord line
      | some e => do
        let p ← place s fuel e
        store p (.input line)
      return .ofNat 1

/-- Does what a statement says. -/
def exec (s : Setting) : (fuel : Nat) → Statement → Running Unit
  | 0, _ => throw .exit
  | fuel + 1, st => do
    match st with
    | .print args way => do
      let m ← get
      let texts ← match args with
        | [] => do
          let record ← textOf (← field 0)
          pure [record]
        | args => do
          let vs ← evalAll s fuel args
          vs.mapM written
      put s fuel way (Text.join (m.textOf "OFS") texts ++ m.textOf "ORS")
    | .printf args way => do
      let vs ← evalAll s fuel args
      put s fuel way (← formatted "printf" vs)
    | .expr e => discard (eval s fuel e)
    | .block body => execAll s fuel body
    | .choice c yes no => do
      let v ← eval s fuel c
      if v.isTrue then exec s fuel yes
      else
        match no with
        | some no => exec s fuel no
        | none => return
    | .loop checksAtEnd c body =>
      if checksAtEnd then do
        if ← round s fuel body then whileTrue s fuel c body
      else whileTrue s fuel c body
    | .count first c step body => do
      match first with
      | some first => exec s fuel first
      | none => pure ()
      counted s fuel c step body
    | .forKeys x array body => do
      let id ← arrayId array
      forEach s fuel x ((← get).table id).keys body
    | .nextRecord => throw .nextRecord
    | .nextFile => throw .nextFile
    | .leave => throw .leave
    | .again => throw .again
    | .exit status => do
      match status with
      | some e => do
        let v ← eval s fuel e
        modify fun m => { m with status := (Number.clamped v.toNumber % 256).toNat }
      | none => pure ()
      throw .exit
    | .give value => do
      let v ← match value with
        | some e => eval s fuel e
        | none => pure .nothing
      throw (.give v)
    | .delete array keys => do
      let id ← arrayId array
      match keys with
      | [] => modify fun m => m.setTable id Table.empty
      | keys => do
        let key ← keyOf (← evalAll s fuel keys)
        modify fun m => m.setTable id ((m.table id).erase key)

/-- Writes a text to where a statement says. -/
def put (s : Setting) : (fuel : Nat) → Option (Direction × Expr) → Text → Running Unit
  | 0, _, _ => throw .exit
  | _ + 1, none, t => Work.out t
  | fuel + 1, some (d, e), t => do
    let name ← textOf (← eval s fuel e)
    write (d == .command) (d == .append) name t

/-- Does what statements say, one after another. -/
def execAll (s : Setting) : (fuel : Nat) → List Statement → Running Unit
  | 0, _ => throw .exit
  | _ + 1, [] => return
  | fuel + 1, st :: rest => do
    exec s fuel st
    execAll s fuel rest

/-- Does what the body of a loop says once, and tells whether the loop goes on. -/
def round (s : Setting) : (fuel : Nat) → Statement → Running Bool
  | 0, _ => throw .exit
  | fuel + 1, body =>
    tryCatch (do
      exec s fuel body
      return true) fun l => match l with
    | .leave => return false
    | .again => return true
    | l => throw l

/-- Goes on as long as a condition holds. -/
def whileTrue (s : Setting) : (fuel : Nat) → Expr → Statement → Running Unit
  | 0, _, _ => throw .exit
  | fuel + 1, c, body => do
    let v ← eval s fuel c
    if v.isTrue then
      if ← round s fuel body then whileTrue s fuel c body

/-- Goes on as long as a condition holds, with a step behind each round. -/
def counted (s : Setting) :
    (fuel : Nat) → Option Expr → Option Statement → Statement → Running Unit
  | 0, _, _, _ => throw .exit
  | fuel + 1, c, step, body => do
    let on ← match c with
      | some c => do
        let v ← eval s fuel c
        pure v.isTrue
      | none => pure true
    if on then
      if ← round s fuel body then
        match step with
        | some step => exec s fuel step
        | none => pure ()
        counted s fuel c step body

/-- Goes through keys. -/
def forEach (s : Setting) : (fuel : Nat) → Text → List Text → Statement → Running Unit
  | 0, _, _, _ => throw .exit
  | _ + 1, _, [], _ => return
  | fuel + 1, x, key :: keys, body => do
    setValue x (.input key)
    if ← round s fuel body then forEach s fuel x keys body

end

/-! ## 3. Rules -/

/-- How much a program may do. -/
def endurance : Nat := 1000000000000

/-- Whether a rule is for the record; `i` is its number. -/
def applies (s : Setting) (i : Nat) : Pattern → Running Bool
  | .always => return true
  | .first | .last => return false
  | .when e => do
    let v ← eval s endurance e
    return v.isTrue
  | .range first last => do
    let begun ← if (← get).inside.contains i then pure true
      else do
        let v ← eval s endurance first
        if v.isTrue then
          modify fun m => { m with inside := i :: m.inside }
          pure true
        else pure false
    if begun then
      let v ← eval s endurance last
      if v.isTrue then modify fun m => { m with inside := m.inside.filter (· != i) }
      return true
    else return false

/-- Does what a rule says. -/
def perform (s : Setting) (r : Rule) : Running Unit :=
  match r.body with
  | some body => exec s endurance body
  | none => exec s endurance (.print [] none)

/-- Goes through the rules for a record. -/
def goThrough (s : Setting) : (i : Nat) → List Rule → Running Unit
  | _, [] => return
  | i, r :: rest => do
    if ← applies s i r.pattern then perform s r
    goThrough s (i + 1) rest

/-- Goes through the records. -/
def records (s : Setting) : (fuel : Nat) → Running Unit
  | 0 => return
  | fuel + 1 => do
    match ← nextMain patience with
    | none => return
    | some line => do
      setRecord line
      tryCatch (goThrough s 0 s.program.rules) fun l => match l with
        | .nextRecord => return
        | .nextFile => modify fun m => { m with main := none }
        | l => throw l
      records s fuel

/-- The rules for the beginning or the end. -/
def outer (p : Program) (first : Bool) : List Rule :=
  p.rules.filter fun r => match r.pattern with
    | .first => first
    | .last => !first
    | _ => false

/-- Makes a report, and tells its status. -/
def make (s : Setting) : Running Nat := do
  let quiet (work : Running Unit) : Running Bool :=
    tryCatch (do
      work
      return true) fun _ => return false
  let firsts := outer s.program true
  let lasts := outer s.program false
  let goesOn ← quiet (firsts.forM (perform s))
  let reads := s.program.rules.any fun r => match r.pattern with
    | .first => false
    | _ => true
  if goesOn && reads then discard (quiet (records s endurance))
  discard (quiet (lasts.forM (perform s)))
  closeAll s.invoke
  return (← get).status

end Report

end Manpage.Awk
