/-
# A pool of workers

Programs wait in a pool, and a number of workers takes them up.  Each worker has one program at a
time and goes on with it step by step; which of them comes first is not for the programs to say, and
neither is the name that the system gives to a staged file.  Both are said by a schedule, tick by
tick (`Tick`).  A tick for which there is nothing to do, or no worker free, changes nothing.

A schedule may end where it likes: what it leaves is done in order (`Pool.run`).  So there is an end
for every schedule, and the empty one runs the programs one after another.
-/
import Manpage.Program

namespace Manpage

/-! ## 1. Pieces of work -/

/-- A program that waits for a worker, one that a worker is at, or the result of one that is done. -/
inductive Piece (α : Type) : Type
  | waiting (p : Program α)
  | underway (p : Program α)
  | finished (result : α)

namespace Piece

variable {α : Type}

def program : Piece α → Program α
  | .waiting p => p
  | .underway p => p
  | .finished result => .done result

def isUnderway : Piece α → Bool
  | .underway _ => true
  | _ => false

end Piece

/-! ## 2. Ticks -/

/-- The name of a staged file, whatever stands between its beginning and its ending. -/
def temporaryName (middle : Text) : Text := ".mkman-".toList ++ middle ++ ".tmp".toList

/-- One moment of a schedule: which piece goes on, and what the name of a file that it stages has in
its middle, if that is said. -/
structure Tick where
  piece : Nat
  middle : Option Text := none
deriving DecidableEq, Repr

/-- Where a file is staged in a directory under a name with the given middle, if that name is free. -/
def stagedAs? (files : Files) (cwd : Location) (dir middle : Text) : Option Location :=
  match files.locate cwd dir with
  | .error _ => none
  | .ok d =>
    let staged := d ++ [temporaryName middle]
    if files.get? d = some .directory ∧ files.get? staged = none then some staged else none

/-- Performs one action; a file is staged under the name that is said, if it is free. -/
def performAs (site : Site) (middle : Option Text) : (a : Action) → World → a.Reply × World
  | .stage dir tag, w =>
    match middle.bind (stagedAs? w.files site.cwd dir) with
    | some staged => (.ok staged, w.withFiles (w.files.put staged (.file 0o600 [])))
    | none => perform site (.stage dir tag) w
  | a, w => perform site a w

namespace Pool

variable {α : Type}

/-- One tick: a piece that waits is taken up if a worker is free, one that is underway takes its next
step, and one that has no step left is finished. -/
def tick (site : Site) (workers : Nat) (state : List (Piece α) × World) (t : Tick) :
    List (Piece α) × World :=
  match state.1[t.piece]? with
  | some (.waiting p) =>
    if state.1.countP Piece.isUnderway < workers then (state.1.set t.piece (.underway p), state.2)
    else state
  | some (.underway (.done result)) => (state.1.set t.piece (.finished result), state.2)
  | some (.underway (.step a next)) =>
    let (reply, w) := performAs site t.middle a state.2
    (state.1.set t.piece (.underway (next reply)), w)
  | _ => state

/-! ## 3. To the end -/

/-- The workers go on with what they are at, one after another. -/
def settle (site : Site) : List (Piece α) → World → List (Piece α) × World
  | [], w => ([], w)
  | .underway p :: rest, w =>
    let (result, w) := p.run site w
    let (rest, w) := settle site rest w
    (.finished result :: rest, w)
  | piece :: rest, w =>
    let (rest, w) := settle site rest w
    (piece :: rest, w)

/-- Several programs, one after another. -/
def runAll (site : Site) : List (Program α) → World → List α × World
  | [], w => ([], w)
  | p :: rest, w =>
    let (result, w) := p.run site w
    let (results, w) := runAll site rest w
    (result :: results, w)

/-- The pieces worked at by a number of workers, as the schedule says and then in order. -/
def run (site : Site) (workers : Nat) (schedule : List Tick) (pieces : List (Piece α)) (w : World) :
    List α × World :=
  let (pieces, w) := schedule.foldl (tick site workers) (pieces, w)
  let (pieces, w) := settle site pieces w
  runAll site (pieces.map Piece.program) w

end Pool

end Manpage
