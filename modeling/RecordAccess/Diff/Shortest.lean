/-!
# Shortest edits

A row of edits leads from one row of lines to another. Each edit keeps, removes or adds some lines. What
is removed and what is added between kept lines may be done in either order, so removals can stand first.

Edits with as few removed and added lines as possible are found from both ends: one search runs forward
from the start, another one backward from the end, and where they first meet, the problem is cut in two.
Equal lines at either end are kept beforehand.
-/
namespace RecordAccess.Diff

/-- A text line with its line break. -/
abbrev Line := List Char

inductive Edit where
  | keep (lines : List Line)
  | remove (lines : List Line)
  | add (lines : List Line)
  deriving DecidableEq, Repr

def Edit.lines : Edit → List Line
  | keep lines | remove lines | add lines => lines

/-- Edits without those of no lines. -/
def dropIdle (edits : List Edit) : List Edit := edits.filter fun edit => !edit.lines.isEmpty

/-- The edits with all removals between kept lines before the additions there; `removed` and `added`
stand before them. -/
def grouped (removed added : List Line) : List Edit → List Edit
  | [] => [.remove removed, .add added]
  | .keep lines :: rest => .remove removed :: .add added :: .keep lines :: grouped [] [] rest
  | .remove lines :: rest => grouped (removed ++ lines) added rest
  | .add lines :: rest => grouped removed (added ++ lines) rest

/-- The lines of a text. A line ends at a line feed, at a carriage return, or at both in that order, and
keeps its end. -/
def splitLines : List Char → List Line
  | [] => []
  | '\r' :: '\n' :: rest => ['\r', '\n'] :: splitLines rest
  | '\r' :: rest => ['\r'] :: splitLines rest
  | '\n' :: rest => ['\n'] :: splitLines rest
  | c :: rest =>
    match rest with
    | [] => [[c]]
    | d :: more =>
      match splitLines (d :: more) with
      | first :: lines => (c :: first) :: lines
      | [] => [[c]]

def isEnded (line : Line) : Bool :=
  match line.getLast? with
  | some c => c == '\n' || c == '\r'
  | none => false

/-- The text of a line after a mark. -/
def marked (mark : Char) (line : Line) : List Char :=
  mark :: line ++ if isEnded line then [] else ['\n']

/-- The text of an edit: its lines after a mark that says what becomes of them. -/
def Edit.show : Edit → List Char
  | keep lines => lines.flatMap (marked ' ')
  | remove lines => lines.flatMap (marked '-')
  | add lines => lines.flatMap (marked '+')

/-- How far a search got on each diagonal. The diagonal `k` holds the places that are `k` lines further
on the old side than on the new one. -/
structure Front where
  offset : Nat
  reached : Array Nat

namespace Front

/-- A front of diagonals up to `limit` on either side. -/
def start (limit : Nat) : Front := ⟨limit, Array.replicate (2 * limit + 1) 0⟩

/-- How far the search got on a diagonal. -/
def get (front : Front) (k : Int) : Nat := front.reached.getD (k + front.offset).toNat 0

/-- The front after a search got to `x` on a diagonal. -/
def set (front : Front) (k : Int) (x : Nat) : Front :=
  { front with reached := front.reached.setIfInBounds (k + front.offset).toNat x }

/-- How far the `d`-th round of a search starts on a diagonal: from the neighbour that is further. -/
def entry (front : Front) (d : Nat) (k : Int) : Nat :=
  if k = -d ∨ (k ≠ d ∧ front.get (k - 1) < front.get (k + 1)) then front.get (k + 1)
  else front.get (k - 1) + 1

end Front

/-- The number of equal lines at the start of two rows. -/
def sharedLength : List Line → List Line → Nat
  | a :: as, b :: bs => if a = b then sharedLength as bs + 1 else 0
  | _, _ => 0

/-- The number of equal lines at the end of two rows. -/
def sharedEnd (old new : List Line) : Nat := sharedLength old.reverse new.reverse

structure Rows where
  old : Array Line
  new : Array Line
  deriving DecidableEq, Repr

namespace Rows

/-- The number of equal lines from a place of each row on, `count` at most. -/
def run (rows : Rows) (x y : Nat) : Nat → Nat
  | 0 => 0
  | count + 1 =>
    match rows.old[x]?, rows.new[y]? with
    | some a, some b => if a = b then rows.run (x + 1) (y + 1) count + 1 else 0
    | _, _ => 0

def reverse (rows : Rows) : Rows := ⟨rows.old.reverse, rows.new.reverse⟩

/-- The lines of a stretch that is equal in both rows, at most. -/
def bound (rows : Rows) : Nat := min rows.old.size rows.new.size

end Rows

/-- The diagonals of a round, from the last to the first. -/
def diagonals (d : Nat) : List Int := (List.range (d + 1)).map fun (i : Nat) => (d : Int) - 2 * (i : Int)

structure Search where
  forward : Front
  backward : Front

/-- The place where the searches meet, or the searches so far. -/
abbrev Meeting := Except (Nat × Nat) Search

/-- Advances the forward search on one diagonal. -/
def stepForward (rows : Rows) (d : Nat) (search : Search) (k : Int) : Meeting :=
  let delta : Int := (rows.old.size : Int) - rows.new.size
  let x := search.forward.entry d k
  let y := ((x : Int) - k).toNat
  let far := x + rows.run x y rows.bound
  let search := { search with forward := search.forward.set k far }
  if delta % 2 ≠ 0 ∧ (k - delta).natAbs + 1 ≤ d ∧
      rows.old.size ≤ far + search.backward.get (-(k - delta)) then .error (x, y)
  else .ok search

/-- Advances the backward search on one diagonal. `reversed` are the rows from their ends. -/
def stepBackward (rows reversed : Rows) (d : Nat) (search : Search) (k : Int) : Meeting :=
  let delta : Int := (rows.old.size : Int) - rows.new.size
  let x := search.backward.entry d k
  let y := ((x : Int) - k).toNat
  let length := reversed.run x y rows.bound
  let far := x + length
  let search := { search with backward := search.backward.set k far }
  if delta % 2 = 0 ∧ (k - delta).natAbs ≤ d ∧
      rows.old.size ≤ far + search.forward.get (-(k - delta)) then
    .error (rows.old.size - far, rows.new.size - (y + length))
  else .ok search

/-- One round of both searches. -/
def searchRound (rows reversed : Rows) (search : Search) (d : Nat) : Meeting := do
  let search ← (diagonals d).foldlM (stepForward rows d) search
  (diagonals d).foldlM (stepBackward rows reversed d) search

/-- The number of rounds after which the searches have met. -/
def rounds (rows : Rows) : Nat := (rows.old.size + rows.new.size + 1) / 2 + 1

/-- The place where the searches meet. -/
def meeting? (rows : Rows) : Option (Nat × Nat) :=
  let limit := rounds rows + 1
  let start : Search := ⟨Front.start limit, Front.start limit⟩
  match (List.range (rounds rows)).foldlM (searchRound rows rows.reverse) start with
  | .error place => some place
  | .ok _ => none

/-- Edits that lead from one row to the other; `fuel` bounds how often the rows are cut in two. -/
def editsBetween (fuel : Nat) (old new : List Line) : List Edit :=
  let lead := sharedLength old new
  let restOld := old.drop lead
  let restNew := new.drop lead
  let tail := sharedEnd restOld restNew
  let middleOld := restOld.take (restOld.length - tail)
  let middleNew := restNew.take (restNew.length - tail)
  let middle : List Edit :=
    match fuel with
    | 0 => [.remove middleOld, .add middleNew]
    | fuel + 1 =>
      if middleOld.isEmpty || middleNew.isEmpty then [.remove middleOld, .add middleNew]
      else
        match meeting? ⟨middleOld.toArray, middleNew.toArray⟩ with
        | none => [.remove middleOld, .add middleNew]
        | some (x, y) =>
          editsBetween fuel (middleOld.take x) (middleNew.take y) ++
            editsBetween fuel (middleOld.drop x) (middleNew.drop y)
  .keep (old.take lead) :: middle ++ [.keep (restOld.drop (restOld.length - tail))]

/-- The edits that lead from one row to the other, less those of no lines. -/
def shortestEdits (old new : List Line) : List Edit :=
  dropIdle (editsBetween (old.length + new.length) old new)

end RecordAccess.Diff
