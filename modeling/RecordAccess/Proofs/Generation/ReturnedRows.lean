import RecordAccess.Proofs.Generation.ColumnLists

/-!
# Rows that writes return

The function of a write scans one row, and only a statement that returns columns has a row for it. The columns are
those of the read set, and nothing keeps that set from being empty: then the statement returns no column, and the
function scans nothing.
-/
namespace RecordAccess

namespace Sql

/-- The statement without the columns that it returns. -/
def Statement.silent : Statement → Statement
  | select columns table conditions => .select columns table conditions
  | insert table columns _ => .insert table columns []
  | update table assignments conditions _ => .update table assignments conditions []
  | delete table conditions => .delete table conditions

theorem returningClause_eq (columns : List String) :
    returningClause columns = if columns = [] then "" else " RETURNING " ++ commaList columns := by
  simp only [returningClause, List.isEmpty_iff]

theorem text_insert_silent (table : String) (columns returning : List String) :
    (Statement.insert table columns returning).text =
      (Statement.insert table columns returning).silent.text ++ returningClause returning := by
  simp [Statement.text, Statement.silent, returningClause]

theorem text_update_silent (table : String) (assignments : List Assignment) (conditions : List Condition)
    (returning : List String) :
    (Statement.update table assignments conditions returning).text =
      (Statement.update table assignments conditions returning).silent.text ++ returningClause returning := by
  simp [Statement.text, Statement.silent, returningClause]

end Sql

namespace Fragment
open Sql

/-- The function of an operation runs its statement and scans one row, a target for each column that the statement
returns. The statement ends in the columns that it returns, if there are any. -/
structure ScansRow (operation : Operation) (roles : Roles) : Prop where
  called : ∃ opening, text operation roles = opening ++
    call (statement operation roles).text (handed operation roles) (targets operation roles)
  text_eq : (statement operation roles).text = (statement operation roles).silent.text ++
    (if (statement operation roles).fetched = [] then ""
      else " RETURNING " ++ commaList (statement operation roles).fetched)
  length_targets : (targets operation roles).length = (statement operation roles).fetched.length

section Writes
variable {operation : Operation} {roles : Roles}

theorem length_readNames (lead : String) :
    (roles.readNames lead).length = (roles.readColumns "").length := by
  rw [Roles.readNames, Roles.readColumns, List.length_map, List.length_map]

theorem scansRow_of_write (h : operation = .create ∨ operation = .update) : ScansRow operation roles := by
  rcases h with rfl | rfl
  · refine ⟨text_create roles, ?_, length_readNames "&y."⟩
    rw [← returningClause_eq]
    exact text_insert_silent _ _ _
  · refine ⟨text_update roles, ?_, length_readNames "&y."⟩
    rw [← returningClause_eq]
    exact text_update_silent _ _ _ _

theorem fetched_ne_nil_iff (h : operation ≠ .delete) :
    (statement operation roles).fetched ≠ [] ↔ ∃ i, i ∈ roles.read := by
  rw [fetched_statement h, Ne, List.map_eq_nil_iff]
  exact ⟨List.exists_mem_of_ne_nil _, fun ⟨_, hi⟩ => List.ne_nil_of_mem hi⟩

end Writes
end Fragment

namespace Generator
open Fragment Sql Classification

variable {generator : Generator} {record : Record} {existing : List String} {source : GeneratedSource}

/-- The field is wanted for reading, and it is not the one that marks deletion. -/
def Reads (generator : Generator) (record : Record) (i : Nat) : Prop :=
  Wanted record generator.settings.readFields i ∧
    ¬Gives record (softDeleteName record generator.settings.overrides) (some i)

theorem mem_read_iff_reads {roles : Roles} (h : generator.classified record = .ok roles) (i : Nat) :
    i ∈ roles.read ↔ generator.Reads record i := by
  have classified := classified_of_outcome h
  rw [classified.mem_read_iff, Reads]
  refine and_congr_right fun _ => not_congr ?_
  constructor
  · intro mark
    exact mark ▸ classified.softDelete
  · exact classified.softDelete.unique

/-- An update has a field to assign, and unless the read set is overridden that field is read. -/
theorem exists_reads_of_update {session : Session} (h : generator.Renders record existing session)
    (hupdate : .update ∈ generator.settings.operations) (hread : generator.settings.readFields = none) :
    ∃ i, generator.Reads record i := by
  have classified := classified_of_outcome h.classified
  have filled : session.roles.write ≠ [] := fun empty => h.assigned ⟨empty, hupdate⟩
  obtain ⟨i, hi⟩ := List.exists_mem_of_ne_nil _ filled
  obtain ⟨wanted, mark, _⟩ := (classified.mem_write_iff i).1 hi
  have all : Wanted record generator.settings.readFields i := by
    rw [hread]
    exact lt_of_wanted wanted
  exact ⟨i, all, fun gives => mark (classified.softDelete.unique gives)⟩

/-- In a returned source a write scans a row of at least one column exactly if some field is read: one that is
wanted for the read set and does not mark deletion. An update has one unless the read set is overridden. -/
theorem writes_return_iff_reads (h : generator.Returns record existing source) :
    ∃ session, generator.Produces record existing session source ∧
      ∀ operation ∈ generator.settings.operations, operation = .create ∨ operation = .update →
        ScansRow operation session.roles ∧
        ((statement operation session.roles).fetched ≠ [] ↔ ∃ i, generator.Reads record i) ∧
        (operation = .update → generator.settings.readFields = none →
          (statement operation session.roles).fetched ≠ []) := by
  obtain ⟨session, produces⟩ := h.exists_produces
  refine ⟨session, produces, ?_⟩
  intro operation hmem write
  have returns : (statement operation session.roles).fetched ≠ [] ↔ ∃ i, generator.Reads record i := by
    have kept : operation ≠ .delete := by
      rcases write with rfl | rfl <;> decide
    rw [fetched_ne_nil_iff kept]
    exact exists_congr (mem_read_iff_reads produces.renders.classified)
  refine ⟨scansRow_of_write write, returns, ?_⟩
  rintro rfl hread
  exact returns.2 (exists_reads_of_update produces.renders hmem hread)

/-- The override names a field, blanks around it, and the mark of deletion, which is left out. -/
theorem writes_return_iff_reads_padded :
    let note : Record := ⟨"Note", [⟨"ID", some "id", "int64", .basic⟩, ⟨"Title", none, "string", .basic⟩,
      ⟨"DeletedAt", some "deleted_at", "time.Time", .named⟩], by decide⟩
    let generator : Generator :=
      { settings := { readFields := some ["DeletedAt", " Title "], format := .none } }
    ∃ source session, (generator.generate note "notes").outcome = .ok source ∧
      generator.Produces note [] session source ∧
      (statement .create session.roles).fetched ≠ [] ∧ (statement .update session.roles).fetched ≠ [] := by
  intro note generator
  let roles : Roles :=
    { record := note, table := "Note", primary := some 0, softDelete := some 2, read := [1], write := [1] }
  have passes : generator.Passes note roles := ⟨by decide +kernel, by decide, rfl⟩
  obtain ⟨source, outcome, _⟩ := @Passes.exists_composed generator note roles [] "notes" passes
  have returned : (generator.generate note "notes").outcome = .ok source := (outcome_generate_iff _).2 outcome
  obtain ⟨session, produces, writes⟩ := writes_return_iff_reads (.atHand returned)
  have read : ∃ i, generator.Reads note i := ⟨1, (mem_read_iff_reads passes.classified 1).1 (by decide)⟩
  exact ⟨source, session, returned, produces, (writes .create (by decide) (.inl rfl)).2.1.2 read,
    (writes .update (by decide) (.inr rfl)).2.1.2 read⟩

/-- Where the read set is overridden by no names, a source is returned in which both writes return no column, and
their functions scan a row into nothing. -/
theorem unread_writes_return_nothing :
    let note : Record := ⟨"Note", [⟨"ID", some "id", "int64", .basic⟩, ⟨"Title", some "title", "string", .basic⟩],
      by decide⟩
    let writing : Generator :=
      { settings := { operations := [.create, .update], readFields := some [], format := .none } }
    ∃ source, (writing.generate note "notes").outcome = .ok source ∧
      ∀ session, writing.Produces note [] session source →
        (statement .create session.roles).text = "INSERT INTO Note (title) VALUES ($1)" ∧
        (statement .update session.roles).text = "UPDATE Note SET title = $1 WHERE id = $2" ∧
        ∀ operation ∈ [Operation.create, .update],
          (statement operation session.roles).fetched = [] ∧ targets operation session.roles = [] := by
  intro note writing
  let roles : Roles := { record := note, table := "Note", primary := some 0, write := [1] }
  have classified : writing.classified note = .ok roles := by decide +kernel
  have renders : writing.Renders note [] (Session.rendered roles [] [.create, .update]) :=
    renders_rendered classified (fun h => nomatch h.1) (fun h => nomatch h.1)
  refine ⟨_, (outcome_generate_iff _).2 (.generated renders rfl), ?_⟩
  intro session produces
  have same : session.roles = roles := Except.ok.inj (produces.renders.classified.symm.trans classified)
  rw [same]
  exact ⟨by decide +kernel, by decide +kernel, by decide +kernel⟩

end Generator
end RecordAccess
