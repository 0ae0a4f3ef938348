import RecordAccess.Proofs.Roles.Reachable
import RecordAccess.Proofs.Sql.Execution
import RecordAccess.Proofs.Sql.ReadBack
import RecordAccess.Proofs.Template.Wholeness

/-!
# Deleted rows are out of reach

A row is deleted once its column for deletion has a value. The operations send the texts of their
statements to a table, one after the other, with any values. None of them picks a deleted row or changes
it, and none removes a row; what a deletion picks is deleted afterwards and stays so.
-/
namespace RecordAccess.Fragment

open Sql

/-- The text that an operation sends to the database. A listing has no filter. -/
def sent (operation : Operation) (roles : Roles) : String :=
  String.intercalate " " (sqlTexts roles operation)

theorem sent_eq (operation : Operation) (roles : Roles) :
    sent operation roles = (statement operation roles).text := by
  cases operation with
  | list =>
    unfold sent sqlTexts
    cases hmark : roles.softDelete with
    | none =>
      simp [statement, notDeleted, Roles.softDeleteColumn?, hmark, Statement.text, spaced, whereClause]
    | some i =>
      simp [statement, notDeleted, Roles.softDeleteColumn?, hmark, Statement.text, spaced, whereClause,
        String.append_assoc]
  | create => simp [sent, sqlTexts]
  | get => simp [sent, sqlTexts]
  | update => simp [sent, sqlTexts]
  | delete => simp [sent, sqlTexts]

/-- Roles with a key and a column for deletion, whose names can stand in statements. -/
structure Guards (roles : Roles) (column : String) : Prop where
  softDelete : roles.softDeleteColumn? = some column
  names : ∀ name, NamedBy roles name → Plain name

theorem guards_of_reachable {record : Record} {roles : Roles} {column : String}
    (h : Roles.Reachable record roles) (hprimary : roles.primary.isSome)
    (hcolumn : roles.softDeleteColumn? = some column) (htable : Plain roles.table)
    (hcolumns : ∀ field ∈ record.fields, Plain field.column) : Guards roles column := by
  have wellFormed := h.wellFormed
  have columnAt : ∀ i, i < roles.record.size → Plain (roles.columnAt i) := by
    intro i hi
    have hfield : roles.record.field? i = some roles.record.fields[i] := List.getElem?_eq_getElem hi
    rw [Roles.columnAt_eq hfield]
    exact hcolumns _ (h.record_eq ▸ List.getElem_mem hi)
  refine ⟨hcolumn, ?_⟩
  rintro name (rfl | rfl | hname | ⟨i, hi, rfl⟩)
  · exact htable
  · obtain ⟨p, hp⟩ := Option.isSome_iff_exists.1 hprimary
    simp only [Roles.primaryColumn, hp]
    exact columnAt p (wellFormed.primary_lt p hp)
  · obtain ⟨s, hs, rfl⟩ := Option.map_eq_some_iff.1 hname
    exact columnAt s (wellFormed.softDelete_lt s hs)
  · rcases List.mem_append.1 hi with hi | hi
    · exact columnAt i (wellFormed.read_lt i hi)
    · exact columnAt i (wellFormed.write_lt i hi)

structure Execution (α : Type) where
  operation : Operation
  inputs : Inputs α
  /-- What reaches the caller of the rows that the database returns: those that the order and the limits
  of a listing leave, or the first one. -/
  page : List (List (Option α)) → List (List (Option α))
  page_subset : ∀ rows, page rows ⊆ rows

structure Served (α : Type) where
  execution : Execution α
  before : Table α
  effect : Effect α

section Runs
variable {α : Type} [DecidableEq α] {roles : Roles} {column : String}

/-- An execution over a table, by the text that it sends. -/
def Execution.served (execution : Execution α) (roles : Roles) (table : Table α) : Served α where
  execution
  before := table
  effect :=
    let effect := serve execution.inputs roles.table table (sent execution.operation roles)
    { effect with returned := execution.page effect.returned }

def run (roles : Roles) : Table α → List (Execution α) → List (Served α)
  | _, [] => []
  | table, execution :: rest =>
    let step := execution.served roles table
    step :: run roles step.effect.table rest

/-- The row is one of those that the execution asks for. -/
def Execution.Asks (execution : Execution α) (roles : Roles) (row : Row α) : Prop :=
  let keyed (index : Nat) := ∃ value, row roles.primaryColumn = some value ∧
    execution.inputs.values index = some value
  match execution.operation with
  | .create => False
  | .list => True
  | .get | .delete => keyed 1
  | .update => roles.write ≠ [] ∧ keyed (roles.write.length + 1)

structure Served.Sound (roles : Roles) (column : String) (step : Served α) : Prop where
  /-- Only an update of no column is no statement. -/
  read : (step.execution.operation = .update → roles.write ≠ []) →
    Statement.ofText? (sent step.execution.operation roles) =
      some (statement step.execution.operation roles)
  mem_picked_iff : ∀ i, i ∈ step.effect.picked ↔ ∃ row : Row α, step.before[i]? = some row ∧
    row column = none ∧ step.execution.Asks roles row
  /-- What a fetch and a listing return they read from rows that they pick. -/
  returned_picked : step.execution.operation = .get ∨ step.execution.operation = .list →
    ∀ values ∈ step.effect.returned, ∃ i ∈ step.effect.picked, ∃ row : Row α,
      step.before[i]? = some row ∧ values = row.project (roles.readColumns "")
  /-- Every row stays in its place, and a deleted one as it is. -/
  kept : ∀ (i : Nat) (row : Row α), step.before[i]? = some row →
    ∃ after, step.effect.table[i]? = some after ∧ (row column ≠ none → after = row)
  deleted : step.execution.operation = .delete → ∀ i ∈ step.effect.picked,
    ∃ row : Row α, step.effect.table[i]? = some row ∧ row column ≠ none

theorem Guards.ofText?_sent (h : Guards roles column) (operation : Operation) :
    Statement.ofText? (sent operation roles) =
      if operation = .update ∧ roles.write = [] then none else some (statement operation roles) := by
  have names : ∀ name ∈ (statement operation roles).names, Plain name :=
    fun name hname => h.names name (namedBy_of_mem_names operation name hname)
  rw [sent_eq, Statement.ofText?_text names]
  cases operation with
  | update =>
    simp [statement, updateByKey, Statement.setsNothing, assignments, Roles.writeColumns]
  | delete =>
    simp only [statement, h.softDelete]
    rfl
  | create => rfl
  | get => rfl
  | list => rfl

theorem Guards.ofText?_sent_of_set (h : Guards roles column) {operation : Operation}
    (hset : ¬(operation = .update ∧ roles.write = [])) :
    Statement.ofText? (sent operation roles) = some (statement operation roles) := by
  rw [h.ofText?_sent, if_neg hset]

theorem table_statement (operation : Operation) (roles : Roles) :
    (statement operation roles).table = roles.table := by
  cases operation with
  | delete =>
    simp only [statement]
    cases roles.softDeleteColumn? <;> rfl
  | create => rfl
  | get => rfl
  | list => rfl
  | update => rfl

theorem Guards.effect_served (h : Guards roles column) {execution : Execution α}
    (hset : ¬(execution.operation = .update ∧ roles.write = [])) (table : Table α) :
    let effect := (statement execution.operation roles).execute execution.inputs table
    (execution.served roles table).effect.table = effect.table ∧
      (execution.served roles table).effect.picked = effect.picked ∧
      (execution.served roles table).effect.returned = execution.page effect.returned := by
  have read := h.ofText?_sent_of_set hset
  simp only [Execution.served, serve, read, table_statement, if_true, and_self]

theorem Guards.effect_vain (h : Guards roles column) {execution : Execution α}
    (hupdate : execution.operation = .update) (hwrite : roles.write = []) (table : Table α) :
    (execution.served roles table).effect = { table } := by
  have read := h.ofText?_sent execution.operation
  rw [if_pos ⟨hupdate, hwrite⟩] at read
  have nothing : execution.page [] = [] := List.subset_nil.1 (execution.page_subset [])
  simp only [Execution.served, serve, read, nothing]

variable {inputs : Inputs α}

theorem Guards.meets_notDeleted_iff (h : Guards roles column) {row : Row α} :
    row.meets inputs (notDeleted roles) ↔ row column = none := by
  simp [notDeleted, h.softDelete, Row.meets, Condition.holds]

/-- A statement that picks rows by conditions on deletion and on what the execution asks for. -/
theorem Served.sound_of_picks {step : Served α} (conditions : List Condition)
    (hread : Statement.ofText? (sent step.execution.operation roles) =
      some (statement step.execution.operation roles))
    (hpicked : step.effect.picked = picks step.execution.inputs step.before conditions)
    (hmeets : ∀ row : Row α, row.meets step.execution.inputs conditions ↔
      row column = none ∧ step.execution.Asks roles row)
    (hreturned : step.execution.operation = .get ∨ step.execution.operation = .list →
      step.effect.returned ⊆ returns step.before (roles.readColumns "") step.effect.picked)
    (hkept : ∀ (i : Nat) (row : Row α), step.before[i]? = some row →
      ∃ after, step.effect.table[i]? = some after ∧
        (¬row.meets step.execution.inputs conditions → after = row))
    (hdeleted : step.execution.operation = .delete → ∀ i ∈ step.effect.picked,
      ∃ row : Row α, step.effect.table[i]? = some row ∧ row column ≠ none) :
    step.Sound roles column where
  read _ := hread
  mem_picked_iff i := by
    rw [hpicked, mem_picks_iff]
    simp only [hmeets]
  returned_picked hselects values hvalues := mem_returns_iff.1 (hreturned hselects hvalues)
  kept i row hrow := by
    obtain ⟨after, hafter, same⟩ := hkept i row hrow
    exact ⟨after, hafter, fun deleted => same fun meets => deleted ((hmeets row).1 meets).1⟩
  deleted := hdeleted

section Cases
variable {execution : Execution α} (table : Table α)

/-- An update that sets no column is not read, and the table stays as it is. -/
theorem Guards.sound_of_vain (h : Guards roles column) (hupdate : execution.operation = .update)
    (hwrite : roles.write = []) : (execution.served roles table).Sound roles column := by
  have effect := h.effect_vain hupdate hwrite table
  constructor
  case read => exact fun hset => absurd hwrite (hset hupdate)
  case mem_picked_iff =>
    intro i
    rw [effect]
    simp [Execution.Asks, Execution.served, hupdate, hwrite]
  case returned_picked => simp [Execution.served, hupdate]
  case kept =>
    intro i row hrow
    exact ⟨row, by rw [effect]; exact hrow, fun _ => rfl⟩
  case deleted => simp [Execution.served, hupdate]

/-- An insertion picks no row, and its row comes after the others. -/
theorem Guards.sound_of_create (h : Guards roles column) (hcreate : execution.operation = .create) :
    (execution.served roles table).Sound roles column := by
  have hset : ¬(execution.operation = .update ∧ roles.write = []) := by simp [hcreate]
  obtain ⟨htable, hpicked, _⟩ := h.effect_served hset table
  constructor
  case read => exact fun _ => h.ofText?_sent_of_set hset
  case mem_picked_iff =>
    intro i
    rw [hpicked]
    simp [Execution.Asks, Execution.served, hcreate, statement, Statement.execute]
  case returned_picked => simp [Execution.served, hcreate]
  case kept =>
    intro i row hrow
    have hlt : i < table.length := (List.getElem?_eq_some_iff.1 hrow).1
    refine ⟨row, ?_, fun _ => rfl⟩
    rw [htable, hcreate]
    simp only [statement, Statement.execute, List.getElem?_append_left hlt]
    exact hrow
  case deleted => simp [Execution.served, hcreate]

variable {conditions : List Condition}

/-- An operation whose statement selects keeps the table, and returns rows that it picks. -/
theorem Guards.sound_of_select (h : Guards roles column)
    (hstatement : statement execution.operation roles =
      .select (roles.readColumns "") roles.table conditions)
    (hmeets : ∀ row : Row α, row.meets execution.inputs conditions ↔
      row column = none ∧ execution.Asks roles row) :
    (execution.served roles table).Sound roles column := by
  have hset : ¬(execution.operation = .update ∧ roles.write = []) := by
    rintro ⟨hupdate, _⟩
    simp [hupdate, statement, updateByKey] at hstatement
  obtain ⟨htable, hpicked, hreturned⟩ := h.effect_served hset table
  rw [hstatement] at htable hpicked hreturned
  refine Served.sound_of_picks conditions (h.ofText?_sent_of_set hset) hpicked hmeets ?_ ?_ ?_
  · intro _
    rw [hreturned, hpicked]
    exact execution.page_subset _
  · intro i row hrow
    exact ⟨row, htable ▸ hrow, fun _ => rfl⟩
  · intro hdelete
    have operation : execution.operation = .delete := hdelete
    simp [operation, statement, h.softDelete, softDeleteByKey] at hstatement

/-- An operation whose statement updates keeps the rows that do not meet its conditions; a deletion has
to set the column for deletion. -/
theorem Guards.sound_of_update (h : Guards roles column) {assigned : List Assignment}
    {returning : List String} (hset : ¬(execution.operation = .update ∧ roles.write = []))
    (hstatement : statement execution.operation roles =
      .update roles.table assigned conditions returning)
    (hmeets : ∀ row : Row α, row.meets execution.inputs conditions ↔
      row column = none ∧ execution.Asks roles row)
    (hmarks : execution.operation = .delete →
      ∀ row : Row α, row.assigned execution.inputs assigned column ≠ none) :
    (execution.served roles table).Sound roles column := by
  obtain ⟨htable, hpicked, _⟩ := h.effect_served hset table
  rw [hstatement] at htable hpicked
  refine Served.sound_of_picks conditions (h.ofText?_sent_of_set hset) hpicked hmeets ?_ ?_ ?_
  · rintro (hselects | hselects)
    · have operation : execution.operation = .get := hselects
      simp [operation, statement] at hstatement
    · have operation : execution.operation = .list := hselects
      simp [operation, statement] at hstatement
  · intro i row hrow
    rw [htable]
    exact ⟨_, getElem?_execute_update hrow, fun unmet => if_neg unmet⟩
  · intro hdelete i hi
    rw [hpicked] at hi
    obtain ⟨row, hrow, hrowMeets⟩ := mem_picks_iff.1 hi
    refine ⟨_, htable ▸ getElem?_execute_update hrow, ?_⟩
    rw [if_pos hrowMeets]
    exact hmarks hdelete row

end Cases

/-- What one execution does. -/
theorem Guards.sound_served (h : Guards roles column) (execution : Execution α) (table : Table α) :
    (execution.served roles table).Sound roles column := by
  by_cases vain : execution.operation = .update ∧ roles.write = []
  · exact h.sound_of_vain table vain.1 vain.2
  cases operation : execution.operation with
  | create => exact h.sound_of_create table operation
  | get =>
    have hstatement : statement execution.operation roles =
        .select (roles.readColumns "") roles.table (byKey roles) := by
      rw [operation, statement]
    refine h.sound_of_select table hstatement ?_
    intro row
    simp only [byKey, h.softDelete, meets_keyed_iff, Execution.Asks, operation]
  | list =>
    have hstatement : statement execution.operation roles =
        .select (roles.readColumns "") roles.table (notDeleted roles) := by
      rw [operation, statement]
    refine h.sound_of_select table hstatement ?_
    intro row
    simp [h.meets_notDeleted_iff, Execution.Asks, operation]
  | update =>
    have written : roles.write ≠ [] := fun hwrite => vain ⟨operation, hwrite⟩
    have hstatement : statement execution.operation roles = updateByKey roles.table
        (roles.writeColumns "") roles.primaryColumn roles.softDeleteColumn? (roles.readColumns "") := by
      rw [operation, statement]
    refine h.sound_of_update table vain hstatement ?_ (by simp [operation])
    intro row
    rw [h.softDelete, Roles.writeColumns, List.length_map]
    simp only [meets_keyed_iff, Execution.Asks, operation, written, ne_eq, not_false_eq_true, true_and]
  | delete =>
    have hstatement : statement execution.operation roles =
        softDeleteByKey roles.table roles.primaryColumn column := by
      simp only [operation, statement, h.softDelete]
    refine h.sound_of_update table vain hstatement ?_ ?_
    · intro row
      simp only [meets_keyed_iff, Execution.Asks, operation]
    · intro _ row
      simp [Row.assigned, Value.given]

/-- A row that is deleted before a run stays as it is, and no execution of the run picks it. -/
theorem Guards.kept_of_mem_run (h : Guards roles column) {executions : List (Execution α)} {i : Nat}
    {row : Row α} (hdeleted : row column ≠ none) : ∀ {table : Table α}, table[i]? = some row →
      ∀ step ∈ run roles table executions,
        step.effect.table[i]? = some row ∧ i ∉ step.effect.picked := by
  induction executions with
  | nil => simp [run]
  | cons execution rest ih =>
    intro table hrow step hstep
    have sound := h.sound_served execution table
    have kept : (execution.served roles table).effect.table[i]? = some row := by
      obtain ⟨after, hafter, same⟩ := sound.kept i row hrow
      rw [hafter, same hdeleted]
    rcases List.mem_cons.1 hstep with rfl | hstep
    · refine ⟨kept, fun hpicked => ?_⟩
      obtain ⟨picked, hpicked, live, _⟩ := (sound.mem_picked_iff i).1 hpicked
      have same : row = picked := Option.some.inj (hrow.symm.trans hpicked)
      exact hdeleted (same ▸ live)
    · exact ih kept step hstep

theorem Guards.sound_of_mem_run (h : Guards roles column) {executions : List (Execution α)} :
    ∀ {table : Table α}, ∀ step ∈ run roles table executions, step.Sound roles column := by
  induction executions with
  | nil => simp [run]
  | cons execution rest ih =>
    intro table step hstep
    rcases List.mem_cons.1 hstep with rfl | hstep
    · exact h.sound_served execution table
    · exact ih step hstep

/-- What an execution leaves deleted, and what a deletion picks, is out of reach of a later execution. -/
structure Served.Hides (column : String) (earlier later : Served α) : Prop where
  deleted : ∀ (i : Nat) (row : Row α), earlier.effect.table[i]? = some row → row column ≠ none →
    later.effect.table[i]? = some row ∧ i ∉ later.effect.picked
  picked : earlier.execution.operation = .delete →
    ∀ i ∈ earlier.effect.picked, i ∉ later.effect.picked

theorem Guards.pairwise_run (h : Guards roles column) (executions : List (Execution α)) :
    ∀ table : Table α, (run roles table executions).Pairwise (Served.Hides column) := by
  induction executions with
  | nil => simp [run]
  | cons execution rest ih =>
    intro table
    refine List.pairwise_cons.2 ⟨?_, ih _⟩
    intro later hlater
    constructor
    · intro i row hrow hdeleted
      exact h.kept_of_mem_run hdeleted hrow later hlater
    · intro hdelete i hpicked
      obtain ⟨row, hrow, hdeleted⟩ := (h.sound_served execution table).deleted hdelete i hpicked
      exact (h.kept_of_mem_run hdeleted hrow later hlater).2

end Runs

/-- Roles with a key and a column for deletion, their names plain: whatever the operations are given and
in whatever order they come, none picks, returns or changes a deleted row, none removes a row, and the
rows that a deletion picks are out of reach of all that comes after it. -/
theorem deleted_out_of_reach {α : Type} [DecidableEq α] {record : Record} {roles : Roles}
    {column : String} (h : Roles.Reachable record roles) (hprimary : roles.primary.isSome)
    (hcolumn : roles.softDeleteColumn? = some column) (htable : Plain roles.table)
    (hcolumns : ∀ field ∈ record.fields, Plain field.column) (table : Table α)
    (executions : List (Execution α)) :
    (∀ step ∈ run roles table executions, step.Sound roles column) ∧
      (run roles table executions).Pairwise (Served.Hides column) := by
  have guards := guards_of_reachable h hprimary hcolumn htable hcolumns
  exact ⟨guards.sound_of_mem_run, guards.pairwise_run executions table⟩

/-- The row of a key is deleted once: the second deletion does not find it. -/
theorem deleted_out_of_reach_twice :
    let foo : Record := ⟨"Foo", [⟨"ID", some "id", "uint64", .basic⟩,
      ⟨"Name", some "name", "string", .basic⟩,
      ⟨"DeletedAt", some "deleted_at", "time.Time", .named⟩], by decide⟩
    let roles : Roles := ⟨foo, "Foo", some 0, some 2, [0, 1], [1], false⟩
    let row : Row Nat := fun column => if column = "id" then some 1 else none
    let deletion : Execution Nat := ⟨.delete, ⟨fun _ => some 1, 7, fun _ => none⟩, id, fun _ => .refl _⟩
    ∃ first second, run roles [row] [deletion, deletion] = [first, second] ∧
      first.effect.picked = [0] ∧ 0 ∉ second.effect.picked := by
  intro foo roles row deletion
  have classified : (Classification.classify foo {}).outcome = .ok roles := rfl
  have marked : roles.softDeleteColumn? = some "deleted_at" := by decide
  have reach := deleted_out_of_reach (Roles.reachable_of_classify classified) rfl marked (by decide)
    (by decide) [row] [deletion, deletion]
  have picked : (deletion.served roles [row]).effect.picked = [0] := by decide +kernel
  refine ⟨_, _, rfl, picked, ?_⟩
  have hides := List.pairwise_pair.1 reach.2
  exact hides.picked rfl 0 (by rw [picked]; simp)

end RecordAccess.Fragment
