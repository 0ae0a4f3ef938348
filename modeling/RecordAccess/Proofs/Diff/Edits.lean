import Mathlib.Data.List.Basic
import RecordAccess.Diff.Compact

/-!
# Edits lead from one text to another

What the edits between two texts keep and remove is the old text, and what they keep and add is the new
one. The search for shortest edits decides only where two rows of lines are cut in two, and every cut will
do; grouping and moving edits changes their order, but neither of the two sides.
-/
namespace RecordAccess.Diff

inductive Side where
  | old
  | new

def Edit.on (side : Side) : Edit → List Line
  | keep lines => lines
  | remove lines => match side with
    | .old => lines
    | .new => []
  | add lines => match side with
    | .old => []
    | .new => lines

def linesOn (side : Side) (edits : List Edit) : List Line := edits.flatMap (Edit.on side)

structure Leads (edits : List Edit) (old new : List Line) : Prop where
  old : linesOn .old edits = old
  new : linesOn .new edits = new

section Sides
variable {side : Side} {lines : List Line} {edit : Edit} {edits rest : List Edit}

@[simp] theorem linesOn_nil : linesOn side [] = [] := rfl

@[simp] theorem linesOn_cons : linesOn side (edit :: edits) = edit.on side ++ linesOn side edits :=
  List.flatMap_cons

@[simp] theorem linesOn_append : linesOn side (edits ++ rest) = linesOn side edits ++ linesOn side rest :=
  List.flatMap_append

theorem linesOn_dropIdle : linesOn side (dropIdle edits) = linesOn side edits := by
  induction edits with
  | nil => rfl
  | cons edit rest ih =>
    by_cases hidle : edit.lines = []
    · have idle : edit.on side = [] := by
        cases edit <;> cases side <;> simp_all [Edit.on, Edit.lines]
      simpa [dropIdle, hidle, idle] using ih
    · simpa [dropIdle, hidle] using ih

theorem linesOn_grouped (removed added : List Line) : linesOn side (grouped removed added edits) =
    (Edit.remove removed).on side ++ (Edit.add added).on side ++ linesOn side edits := by
  fun_induction grouped removed added edits <;> cases side <;> simp_all [Edit.on]

end Sides

section Rows
variable {old new : List Line}

theorem take_sharedLength (old new : List Line) :
    old.take (sharedLength old new) = new.take (sharedLength old new) := by
  fun_induction sharedLength old new <;> simp_all

theorem drop_sharedEnd (old new : List Line) :
    old.drop (old.length - sharedEnd old new) = new.drop (new.length - sharedEnd old new) := by
  have shared := congrArg List.reverse (take_sharedLength old.reverse new.reverse)
  simpa [List.take_reverse, sharedEnd] using shared

/-- Edits between two rows lead from one to the other when equal lines are kept on either side. -/
theorem Leads.around {middle : List Edit} {lead : Nat} {restOld restNew : List Line} {keptOld keptNew : Nat}
    (hlead : old.take lead = new.take lead) (hOld : old.drop lead = restOld) (hNew : new.drop lead = restNew)
    (htail : restOld.drop keptOld = restNew.drop keptNew)
    (h : Leads middle (restOld.take keptOld) (restNew.take keptNew)) :
    Leads (.keep (old.take lead) :: middle ++ [.keep (restOld.drop keptOld)]) old new := by
  subst hOld hNew
  constructor
  · rw [linesOn_append, linesOn_cons, h.old]
    simp only [Edit.on, linesOn_cons, linesOn_nil, List.append_nil, List.append_assoc,
      List.take_append_drop]
  · rw [linesOn_append, linesOn_cons, h.new, hlead, htail]
    simp only [Edit.on, linesOn_cons, linesOn_nil, List.append_nil, List.append_assoc,
      List.take_append_drop]

theorem leads_removeAdd (old new : List Line) : Leads [.remove old, .add new] old new := by
  constructor <;> simp [Edit.on]

theorem Leads.cut {edits rest : List Edit} {x y : Nat} (h : Leads edits (old.take x) (new.take y))
    (h' : Leads rest (old.drop x) (new.drop y)) : Leads (edits ++ rest) old new := by
  constructor
  · rw [linesOn_append, h.old, h'.old, List.take_append_drop]
  · rw [linesOn_append, h.new, h'.new, List.take_append_drop]

theorem leads_editsBetween (fuel : Nat) (old new : List Line) :
    Leads (editsBetween fuel old new) old new := by
  induction fuel generalizing old new with
  | zero =>
    unfold editsBetween
    exact .around (take_sharedLength old new) rfl rfl (drop_sharedEnd _ _) (leads_removeAdd _ _)
  | succ fuel ih =>
    unfold editsBetween
    refine .around (take_sharedLength old new) rfl rfl (drop_sharedEnd _ _) ?_
    dsimp only
    split
    · exact leads_removeAdd _ _
    · split
      · exact leads_removeAdd _ _
      · exact .cut (ih _ _) (ih _ _)

theorem leads_shortestEdits (old new : List Line) : Leads (shortestEdits old new) old new := by
  have between := leads_editsBetween (old.length + new.length) old new
  constructor
  · rw [shortestEdits, linesOn_dropIdle, between.old]
  · rw [shortestEdits, linesOn_dropIdle, between.new]

end Rows

section Moves
variable {side : Side} {lines : List Line} {rest before after : List Edit} {edit : Edit}

/-- The edits around the one in focus and that edit itself. -/
def Focus.edits (focus : Focus) : List Edit := focus.before.reverse ++ focus.edit :: focus.after

@[simp] theorem linesOn_keepBefore : linesOn side (keepBefore lines rest) = lines ++ linesOn side rest := by
  unfold keepBefore
  split <;> simp [Edit.on]

@[simp] theorem linesOn_keepAfter :
    linesOn side (keepAfter lines rest).reverse = linesOn side rest.reverse ++ lines := by
  unfold keepAfter
  split <;> simp [Edit.on]

@[simp] theorem linesOn_keepRest : linesOn side (keepRest lines rest) = lines ++ linesOn side rest := by
  unfold keepRest
  split <;> simp_all [Edit.on]

@[simp] theorem linesOn_reverse_keepRest :
    linesOn side (keepRest lines rest).reverse = linesOn side rest.reverse ++ lines := by
  unfold keepRest
  split <;> simp_all [Edit.on]

theorem linesOn_moveUp : linesOn side (moveUp before edit after).edits =
    linesOn side (before.reverse ++ edit :: after) := by
  fun_induction moveUp before edit after with
  -- the edit stays where it is
  | case1 | case4 | case6 | case11 => simp_all [Focus.edits]
  -- it joins one of its kind, or changes places with one that has no lines on the same side
  | case2 | case5 | case7 | case8 | case9 | case10 => cases side <;> simp_all [Edit.on]
  | case3 after above lines kept shared hkept hshared ih =>
    -- the lines that both end with pass from above the addition to below it
    have common : kept.drop (kept.length - shared) = lines.drop (lines.length - shared) :=
      drop_sharedEnd kept lines
    have kept_eq := List.take_append_drop (kept.length - shared) kept
    have lines_eq := List.take_append_drop (lines.length - shared) lines
    rw [common] at kept_eq
    rw [ih, common]
    cases side with
    | old =>
      simp only [Edit.on, linesOn_append, linesOn_cons, linesOn_reverse_keepRest, linesOn_keepBefore,
        List.reverse_cons, linesOn_nil, List.append_nil, List.nil_append, List.append_assoc]
      rw [← List.append_assoc (kept.take _), kept_eq]
    | new =>
      simp only [Edit.on, linesOn_append, linesOn_cons, linesOn_reverse_keepRest, linesOn_keepBefore,
        List.reverse_cons, linesOn_nil, List.append_nil, List.append_assoc]
      rw [← List.append_assoc (kept.take _), kept_eq, ← List.append_assoc (lines.take _), lines_eq]

theorem linesOn_moveDown : linesOn side (moveDown before edit after).edits =
    linesOn side (before.reverse ++ edit :: after) := by
  fun_induction moveDown before edit after with
  | case1 | case4 | case6 | case11 => simp_all [Focus.edits]
  | case2 | case5 | case7 | case8 | case9 | case10 => cases side <;> simp_all [Edit.on]
  | case3 before below lines kept shared hkept hshared ih =>
    -- the lines that both start with pass from below the addition to above it
    have common : kept.take shared = lines.take shared := take_sharedLength kept lines
    have kept_eq := List.take_append_drop shared kept
    have lines_eq := List.take_append_drop shared lines
    rw [← common] at lines_eq
    rw [ih]
    cases side with
    | old =>
      simp only [Edit.on, linesOn_append, linesOn_cons, linesOn_keepAfter, linesOn_keepRest,
        List.nil_append, List.append_assoc]
      rw [← List.append_assoc (kept.take _), kept_eq]
    | new =>
      simp only [Edit.on, linesOn_append, linesOn_cons, linesOn_keepAfter, linesOn_keepRest,
        List.append_assoc]
      rw [← List.append_assoc (kept.take _) (lines.drop _), lines_eq, ← List.append_assoc (kept.take _),
        kept_eq]

theorem linesOn_settle (isMoved : Edit → Bool) (fuel : Nat) :
    linesOn side (settle isMoved fuel before after) = linesOn side (before.reverse ++ after) := by
  fun_induction settle isMoved fuel before after with
  | case1 => simp
  | case2 => simp
  | case3 before fuel edit after hmoved up down ih =>
    have raised : linesOn side up.edits = _ := linesOn_moveUp
    have lowered : linesOn side down.edits = _ := linesOn_moveDown
    simp_all [Focus.edits]
  | case4 => simp_all

theorem linesOn_compact (edits : List Edit) : linesOn side (compact edits) = linesOn side edits := by
  simp only [compact, linesOn_settle, List.reverse_nil, List.nil_append]

end Moves

section Texts

theorem flatten_splitLines (s : List Char) : (splitLines s).flatten = s := by
  fun_induction splitLines s <;> simp_all

/-- The edits between two texts have the lines of the old text on the one side, and those of the new text on
the other. -/
theorem leads_edits (old new : List Char) : Leads (edits old new) (splitLines old) (splitLines new) := by
  have shortest := leads_shortestEdits (splitLines old) (splitLines new)
  constructor
  · rw [edits, linesOn_dropIdle, linesOn_grouped, linesOn_compact, shortest.old]
    rfl
  · rw [edits, linesOn_dropIdle, linesOn_grouped, linesOn_compact, shortest.new]
    rfl

/-- Both texts can be read off the edits between them. -/
theorem flatten_linesOn_edits (old new : List Char) :
    (linesOn .old (edits old new)).flatten = old ∧ (linesOn .new (edits old new)).flatten = new := by
  have leads := leads_edits old new
  constructor
  · rw [leads.old, flatten_splitLines]
  · rw [leads.new, flatten_splitLines]

end Texts
end RecordAccess.Diff
