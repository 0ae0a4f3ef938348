import RecordAccess.Diff.Shortest

/-!
# Compact edits

The same change can often be described by adding lines at several places. An addition is moved up as far
as the kept lines above it allow, joining additions that it meets, and then down as far as possible;
removals only join removals that stand next to them. This leaves few edits, and additions as far down as
they can stand.
-/
namespace RecordAccess.Diff

/-- An edit among others; those before it are given nearest first. -/
structure Focus where
  before : List Edit
  edit : Edit
  after : List Edit
  deriving DecidableEq, Repr

/-- Lines kept before edits, joined with kept lines that stand there. -/
def keepBefore (lines : List Line) : List Edit → List Edit
  | .keep next :: rest => .keep (lines ++ next) :: rest
  | rest => .keep lines :: rest

/-- Lines kept after edits that are given nearest first. -/
def keepAfter (lines : List Line) : List Edit → List Edit
  | .keep last :: rest => .keep (last ++ lines) :: rest
  | rest => .keep lines :: rest

/-- Kept lines in front of edits, if there are any. -/
def keepRest (lines : List Line) (rest : List Edit) : List Edit :=
  if lines.isEmpty then rest else .keep lines :: rest

/-- The number of lines and edits in a row of edits. -/
def weight : List Edit → Nat
  | [] => 0
  | edit :: rest => edit.lines.length + 1 + weight rest

@[simp] theorem weight_cons (edit : Edit) (rest : List Edit) :
    weight (edit :: rest) = edit.lines.length + 1 + weight rest := rfl

theorem weight_keepRest (lines : List Line) (rest : List Edit) :
    weight (keepRest lines rest) ≤ lines.length + 1 + weight rest := by
  unfold keepRest
  split
  · omega
  · simp [Edit.lines]

theorem weight_keepRest_take {kept : List Line} {shared : Nat} (rest : List Edit)
    (hk : kept ≠ []) (hs : 0 < shared) :
    weight (keepRest (kept.take (kept.length - shared)) rest) < weight (.keep kept :: rest) := by
  have hw := weight_keepRest (kept.take (kept.length - shared)) rest
  have hl := List.length_pos_iff.2 hk
  simp only [List.length_take] at hw
  simp only [weight_cons, Edit.lines]
  omega

theorem weight_keepRest_drop {kept : List Line} {shared : Nat} (rest : List Edit)
    (hk : kept ≠ []) (hs : 0 < shared) :
    weight (keepRest (kept.drop shared) rest) < weight (.keep kept :: rest) := by
  have hw := weight_keepRest (kept.drop shared) rest
  have hl := List.length_pos_iff.2 hk
  simp only [List.length_drop] at hw
  simp only [weight_cons, Edit.lines]
  omega

def moveUp (before : List Edit) (edit : Edit) (after : List Edit) : Focus :=
  match before with
  | [] => ⟨[], edit, after⟩
  | previous :: above =>
    match edit, previous with
    | .add lines, .keep kept =>
      let shared := sharedEnd kept lines
      if _hk : kept = [] then moveUp above edit after
      else if _hs : 0 < shared then
        moveUp (keepRest (kept.take (kept.length - shared)) above)
          (.add (kept.drop (kept.length - shared) ++ lines.take (lines.length - shared)))
          (keepBefore (lines.drop (lines.length - shared)) after)
      else ⟨previous :: above, edit, after⟩
    | .remove _, .keep kept =>
      if kept = [] then moveUp above edit after else ⟨previous :: above, edit, after⟩
    | .add lines, .add earlier => moveUp above (.add (earlier ++ lines)) after
    | .remove lines, .remove earlier => moveUp above (.remove (earlier ++ lines)) after
    | .add _, .remove _ | .remove _, .add _ => moveUp above edit (previous :: after)
    | .keep _, _ => ⟨previous :: above, edit, after⟩
termination_by weight before
decreasing_by
  all_goals first
    | exact weight_keepRest_take _ _hk _hs
    | (simp only [weight_cons]; omega)

def moveDown (before : List Edit) (edit : Edit) (after : List Edit) : Focus :=
  match after with
  | [] => ⟨before, edit, []⟩
  | next :: below =>
    match edit, next with
    | .add lines, .keep kept =>
      let shared := sharedLength kept lines
      if _hk : kept = [] then moveDown before edit below
      else if _hs : 0 < shared then
        moveDown (keepAfter (kept.take shared) before)
          (.add (lines.drop shared ++ kept.take shared)) (keepRest (kept.drop shared) below)
      else ⟨before, edit, next :: below⟩
    | .remove _, .keep kept =>
      if kept = [] then moveDown before edit below else ⟨before, edit, next :: below⟩
    | .add lines, .add later => moveDown before (.add (lines ++ later)) below
    | .remove lines, .remove later => moveDown before (.remove (lines ++ later)) below
    | .add _, .remove _ | .remove _, .add _ => moveDown (next :: before) edit below
    | .keep _, _ => ⟨before, edit, next :: below⟩
termination_by weight after
decreasing_by
  all_goals first
    | exact weight_keepRest_drop _ _hk _hs
    | (simp only [weight_cons]; omega)

/-- Moves each edit of a kind, from the first to the last; `fuel` bounds the number of moves. -/
def settle (isMoved : Edit → Bool) (fuel : Nat) (before after : List Edit) : List Edit :=
  match fuel, after with
  | _, [] => before.reverse
  | 0, after => before.reverse ++ after
  | fuel + 1, edit :: after =>
    if isMoved edit then
      let up := moveUp before edit after
      let down := moveDown up.before up.edit up.after
      settle isMoved fuel (down.edit :: down.before) down.after
    else settle isMoved fuel (edit :: before) after

def isRemoval : Edit → Bool
  | .remove _ => true
  | _ => false

def isAddition : Edit → Bool
  | .add _ => true
  | _ => false

/-- The same change in compact edits. -/
def compact (edits : List Edit) : List Edit :=
  let settleAll (isMoved : Edit → Bool) (edits : List Edit) := settle isMoved (weight edits) [] edits
  settleAll isAddition (settleAll isRemoval edits)

/-- The edits that a report shows between two texts. -/
def edits (old new : List Char) : List Edit :=
  dropIdle (grouped [] [] (compact (shortestEdits (splitLines old) (splitLines new))))

/-- The report of what changes between two texts. -/
def report (old new : String) : String :=
  String.ofList ((edits old.toList new.toList).flatMap Edit.show)

end RecordAccess.Diff
