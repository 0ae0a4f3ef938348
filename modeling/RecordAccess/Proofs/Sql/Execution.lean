import RecordAccess.Proofs.Sql.Parsing

/-!
# What statements do to a table

A row gives columns their values, and a column without a value is null. A condition on a null column
holds only if it asks for that. A statement picks the rows that meet all its conditions; what it does to
them depends on its form. A text that is no statement over the table does nothing.
-/
namespace RecordAccess.Sql

/-- What each column of a row has, if it has a value. -/
abbrev Row (α : Type) := String → Option α

/-- Rows in the order in which they came. -/
abbrev Table (α : Type) := List (Row α)

structure Inputs (α : Type) where
  /-- The values of the placeholders. -/
  values : Nat → Option α
  now : α
  /-- What an inserted row has in the columns that the insertion leaves out. -/
  fresh : Row α

/-- What comes of an execution: the table after it, the places of the rows that it picked, and the rows
that it returns. -/
structure Effect (α : Type) where
  table : Table α
  picked : List Nat := []
  returned : List (List (Option α)) := []

section Execution
variable {α : Type} [DecidableEq α] (inputs : Inputs α)

def Condition.holds (row : Row α) : Condition → Bool
  | equals column index => (row column).isSome && row column == inputs.values index
  | isNull column => (row column).isNone

def Value.given : Value → Option α
  | placeholder index => inputs.values index
  | now => some inputs.now

/-- The row with columns set to their values, one after the other. -/
def Row.assigned (row : Row α) (assignments : List Assignment) : Row α :=
  assignments.foldl (fun row assignment column =>
    if column = assignment.column then assignment.value.given inputs else row column) row

def Row.meets (row : Row α) (conditions : List Condition) : Bool :=
  conditions.all (Condition.holds inputs row)

def Row.project (columns : List String) (row : Row α) : List (Option α) := columns.map row

/-- The places of the rows that meet the conditions. -/
def picks (table : Table α) (conditions : List Condition) : List Nat :=
  (List.range table.length).filter fun i => table[i]?.any fun row => row.meets inputs conditions

/-- What columns of the rows at places have. -/
def returns (table : Table α) (columns : List String) (places : List Nat) : List (List (Option α)) :=
  places.filterMap fun i => table[i]?.map (Row.project columns)

def Statement.table : Statement → String
  | select _ table _ | insert table _ _ | update table _ _ _ | delete table _ => table

def Statement.execute (table : Table α) : Statement → Effect α
  | select columns _ conditions =>
    let picked := picks inputs table conditions
    { table, picked, returned := returns table columns picked }
  | insert _ columns returning =>
    let row := inputs.fresh.assigned inputs (assignments columns)
    { table := table ++ [row], returned := [row.project returning] }
  | update _ assignments conditions returning =>
    let picked := picks inputs table conditions
    let after := table.map fun row =>
      if row.meets inputs conditions then row.assigned inputs assignments else row
    { table := after, picked, returned := returns after returning picked }
  | delete _ conditions =>
    { table := table.filter fun row => !row.meets inputs conditions
      picked := picks inputs table conditions }

/-- What the text of a statement does to the table of a name. -/
def serve (name : String) (table : Table α) (text : String) : Effect α :=
  match Statement.ofText? text with
  | some statement => if statement.table = name then statement.execute inputs table else { table }
  | none => { table }

end Execution

section Laws
variable {α : Type} {table : Table α} {row : Row α}

theorem mem_returns_iff {columns : List String} {places : List Nat} {values : List (Option α)} :
    values ∈ returns table columns places ↔
      ∃ i ∈ places, ∃ row, table[i]? = some row ∧ values = row.project columns := by
  unfold returns
  rw [List.mem_filterMap]
  constructor
  · rintro ⟨i, hi, hvalues⟩
    obtain ⟨row, hrow, rfl⟩ := Option.map_eq_some_iff.1 hvalues
    exact ⟨i, hi, row, hrow, rfl⟩
  · rintro ⟨i, hi, row, hrow, rfl⟩
    exact ⟨i, hi, Option.map_eq_some_iff.2 ⟨row, hrow, rfl⟩⟩

variable [DecidableEq α] {inputs : Inputs α}

theorem mem_picks_iff {conditions : List Condition} {i : Nat} : i ∈ picks inputs table conditions ↔
    ∃ row, table[i]? = some row ∧ row.meets inputs conditions := by
  unfold picks
  rw [List.mem_filter, List.mem_range]
  constructor
  · rintro ⟨hlt, hany⟩
    rw [List.getElem?_eq_getElem hlt] at hany ⊢
    exact ⟨_, rfl, hany⟩
  · rintro ⟨row, hrow, hmeets⟩
    obtain ⟨hlt, _⟩ := List.getElem?_eq_some_iff.1 hrow
    rw [hrow]
    exact ⟨hlt, hmeets⟩

theorem holds_equals_iff {column : String} {index : Nat} :
    (Condition.equals column index).holds inputs row ↔
      ∃ value, row column = some value ∧ inputs.values index = some value := by
  simp only [Condition.holds, Bool.and_eq_true, beq_iff_eq, Option.isSome_iff_exists]
  constructor
  · rintro ⟨⟨value, hvalue⟩, heq⟩
    exact ⟨value, hvalue, heq ▸ hvalue⟩
  · rintro ⟨value, hrow, hvalue⟩
    exact ⟨⟨value, hrow⟩, hrow.trans hvalue.symm⟩

theorem meets_keyed_iff {primary softDelete : String} {index : Nat} :
    row.meets inputs (keyed primary index (some softDelete)) ↔
      row softDelete = none ∧ ∃ value, row primary = some value ∧ inputs.values index = some value := by
  have null : (Condition.isNull softDelete).holds inputs row ↔ row softDelete = none := by
    simp [Condition.holds]
  rw [← holds_equals_iff, ← null, and_comm]
  simp [Row.meets, keyed]

/-- An update leaves every row where it is, and those that do not meet its conditions as they are. -/
theorem getElem?_execute_update {name : String} {assignments : List Assignment}
    {conditions : List Condition} {returning : List String} {i : Nat} (h : table[i]? = some row) :
    ((Statement.update name assignments conditions returning).execute inputs table).table[i]? =
      some (if row.meets inputs conditions then row.assigned inputs assignments else row) := by
  simp only [Statement.execute, List.getElem?_map, h, Option.map_some]

end Laws

end RecordAccess.Sql
