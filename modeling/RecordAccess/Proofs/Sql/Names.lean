import RecordAccess.Fragment
import RecordAccess.Proofs.Sql.Characters

/-!
# The names in statements

The statements of an operation name the table and columns of fields with a role, and nothing else. What
holds of these names holds of every name in a statement.
-/
namespace RecordAccess.Fragment

open Sql

/-- The name is that of the table, or of the column of a field with a role. -/
def NamedBy (roles : Roles) (name : String) : Prop :=
  name = roles.table ∨ name = roles.primaryColumn ∨ roles.softDeleteColumn? = some name ∨
    ∃ i ∈ roles.read ++ roles.write, roles.columnAt i = name

variable {roles : Roles}

theorem namedBy_of_mem_readColumns : ∀ name ∈ roles.readColumns "", NamedBy roles name := by
  intro name hname
  obtain ⟨i, hi, rfl⟩ := List.mem_map.1 hname
  exact .inr (.inr (.inr ⟨i, List.mem_append_left _ hi, by simp⟩))

theorem namedBy_of_mem_writeColumns : ∀ name ∈ roles.writeColumns "", NamedBy roles name := by
  intro name hname
  obtain ⟨i, hi, rfl⟩ := List.mem_map.1 hname
  exact .inr (.inr (.inr ⟨i, List.mem_append_right _ hi, by simp⟩))

theorem namedBy_of_mem_notDeleted : ∀ condition ∈ notDeleted roles, NamedBy roles condition.column := by
  intro condition hcondition
  obtain ⟨column, hcolumn, rfl⟩ := Option.map_eq_some_iff.1 (Option.mem_toList.1 hcondition)
  exact .inr (.inr (.inl hcolumn))

theorem namedBy_of_mem_keyed (index : Nat) :
    ∀ condition ∈ keyed roles.primaryColumn index roles.softDeleteColumn?,
      NamedBy roles condition.column := by
  intro condition hcondition
  rcases List.mem_cons.1 hcondition with rfl | hcondition
  · exact .inr (.inl rfl)
  · exact namedBy_of_mem_notDeleted condition hcondition

theorem map_column_assignments (columns : List String) :
    (assignments columns).map Assignment.column = columns := by
  rw [assignments, List.map_map]
  exact List.zipIdx_map_fst 0 columns

/-- The names of a selection that reads the columns of the read set. -/
theorem namedBy_of_mem_select {conditions : List Condition}
    (h : ∀ condition ∈ conditions, NamedBy roles condition.column) :
    ∀ name ∈ (Statement.select (roles.readColumns "") roles.table conditions).names,
      NamedBy roles name := by
  intro name hname
  simp only [Statement.names, List.mem_append, List.mem_cons, List.mem_map] at hname
  rcases hname with (rfl | hname) | ⟨condition, hcondition, rfl⟩
  · exact .inl rfl
  · exact namedBy_of_mem_readColumns name hname
  · exact h condition hcondition

/-- The names of an update of the row of a key. -/
theorem namedBy_of_mem_update {assigned : List Assignment} {returning : List String} (index : Nat)
    (hassigned : ∀ column ∈ assigned.map Assignment.column, NamedBy roles column)
    (hreturning : ∀ column ∈ returning, NamedBy roles column) :
    ∀ name ∈ (Statement.update roles.table assigned
      (keyed roles.primaryColumn index roles.softDeleteColumn?) returning).names, NamedBy roles name := by
  intro name hname
  rcases List.mem_append.1 hname with hname | hname
  · rcases List.mem_append.1 hname with hname | hname
    · rcases List.mem_cons.1 hname with rfl | hname
      · exact .inl rfl
      · exact hassigned name hname
    · obtain ⟨condition, hcondition, rfl⟩ := List.mem_map.1 hname
      exact namedBy_of_mem_keyed index condition hcondition
  · exact hreturning name hname

theorem namedBy_of_mem_names (operation : Operation) :
    ∀ name ∈ (statement operation roles).names, NamedBy roles name := by
  cases operation with
  | create =>
    intro name hname
    rcases List.mem_append.1 hname with hname | hname
    · rcases List.mem_cons.1 hname with rfl | hname
      · exact .inl rfl
      · exact namedBy_of_mem_writeColumns name hname
    · exact namedBy_of_mem_readColumns name hname
  | get => exact namedBy_of_mem_select (namedBy_of_mem_keyed 1)
  | list => exact namedBy_of_mem_select namedBy_of_mem_notDeleted
  | update =>
    refine namedBy_of_mem_update _ ?_ namedBy_of_mem_readColumns
    rw [map_column_assignments]
    exact namedBy_of_mem_writeColumns
  | delete =>
    unfold statement
    cases hcolumn : roles.softDeleteColumn? with
    | some column =>
      have names := @namedBy_of_mem_update roles [⟨column, .now⟩] [] 1
        (fun name hname => .inr (.inr (.inl (hcolumn.trans (by simpa [eq_comm] using hname))))) (by simp)
      rwa [hcolumn] at names
    | none =>
      intro name hname
      rcases List.mem_cons.1 hname with rfl | hname
      · exact .inl rfl
      · obtain ⟨condition, hcondition, rfl⟩ := List.mem_map.1 hname
        rw [← hcolumn] at hcondition
        exact namedBy_of_mem_keyed 1 condition hcondition

end RecordAccess.Fragment
