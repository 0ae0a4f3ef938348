import RecordAccess.Proofs.Generation.EmptyNames

/-!
# Columns that statements list

Roles keep fields apart by their ordinals, and statements list columns. A list has the column of each field of a set
once, so it names a column twice exactly if two of its fields have that column, and it names the column of a key
role exactly if a field of the set has that column too. Nothing compares columns: two fields of a record may have
one.
-/
namespace RecordAccess

namespace Sql

/-- The columns that a statement inserts or assigns. -/
def Statement.written : Statement → List String
  | insert _ columns _ => columns
  | update _ assignments _ _ => assignments.map Assignment.column
  | select _ _ _ | delete _ _ => []

/-- The columns that a statement selects or returns. -/
def Statement.fetched : Statement → List String
  | select columns _ _ => columns
  | insert _ _ returning | update _ _ _ returning => returning
  | delete _ _ => []

end Sql

namespace Fragment
open Sql

/-- The ordinals of the columns that an operation inserts or assigns. -/
def writes (operation : Operation) (roles : Roles) : List Nat :=
  match operation with
  | .create | .update => roles.write
  | .get | .list | .delete => []

section Lists
variable {operation : Operation} {roles : Roles}

theorem written_statement (h : operation ≠ .delete) :
    (statement operation roles).written = (writes operation roles).map roles.columnAt := by
  cases operation with
  | create => exact writeColumns_eq_map roles
  | get => rfl
  | list => rfl
  | update => exact (map_column_assignments _).trans (writeColumns_eq_map roles)
  | delete => exact absurd rfl h

theorem fetched_statement (h : operation ≠ .delete) :
    (statement operation roles).fetched = roles.read.map roles.columnAt := by
  cases operation with
  | create => exact readColumns_eq_map roles
  | get => exact readColumns_eq_map roles
  | list => exact readColumns_eq_map roles
  | update => exact readColumns_eq_map roles
  | delete => exact absurd rfl h

theorem mem_write_of_mem_writes {i : Nat} (h : i ∈ writes operation roles) : i ∈ roles.write := by
  cases operation with
  | create => exact h
  | update => exact h
  | get => cases h
  | list => cases h
  | delete => cases h

theorem nodup_writes (h : roles.WellFormed) : (writes operation roles).Nodup := by
  have ascending : roles.write.Nodup := h.write_ascending.imp Nat.ne_of_lt
  cases operation with
  | create => exact ascending
  | update => exact ascending
  | get => exact List.nodup_nil
  | list => exact List.nodup_nil
  | delete => exact List.nodup_nil

end Lists

/-- The statement of an operation lists each column once, and in no list the column of a role that is kept out
of it. -/
structure NamesOnce (operation : Operation) (roles : Roles) : Prop where
  written_nodup : (statement operation roles).written.Nodup
  fetched_nodup : (statement operation roles).fetched.Nodup
  key_not_written : ∀ p ∈ roles.primary, roles.columnAt p ∉ (statement operation roles).written
  mark_not_written : ∀ s ∈ roles.softDelete, roles.columnAt s ∉ (statement operation roles).written
  mark_not_fetched : ∀ s ∈ roles.softDelete, roles.columnAt s ∉ (statement operation roles).fetched

/-- Two fields meet in an operation if one list has both, or has one while the other is kept out of it. -/
inductive Meets (operation : Operation) (roles : Roles) : Nat → Nat → Prop
  | written {i j : Nat} (hi : i ∈ writes operation roles) (hj : j ∈ writes operation roles) (h : i ≠ j) :
      Meets operation roles i j
  | fetched {i j : Nat} (hi : i ∈ roles.read) (hj : j ∈ roles.read) (h : i ≠ j) : Meets operation roles i j
  | key {i p : Nat} (hi : i ∈ writes operation roles) (hp : p ∈ roles.primary) : Meets operation roles i p
  | mark {i s : Nat} (hi : i ∈ writes operation roles ++ roles.read) (hs : s ∈ roles.softDelete) :
      Meets operation roles i s

section Meets
variable {operation : Operation} {roles : Roles} {i j : Nat}

theorem Meets.ne (h : roles.WellFormed) (meets : Meets operation roles i j) : i ≠ j := by
  cases meets with
  | written _ _ hne => exact hne
  | fetched _ _ hne => exact hne
  | key hi hp =>
    rintro rfl
    exact h.primary_not_written i hp (mem_write_of_mem_writes hi)
  | mark hi hs =>
    rintro rfl
    rcases List.mem_append.1 hi with hi | hi
    · exact h.softDelete_not_written i hs (mem_write_of_mem_writes hi)
    · exact h.softDelete_not_read i hs hi

theorem Meets.lt (h : roles.WellFormed) (meets : Meets operation roles i j) :
    i < roles.record.size ∧ j < roles.record.size := by
  have written {k : Nat} (hk : k ∈ writes operation roles) : k < roles.record.size :=
    h.write_lt k (mem_write_of_mem_writes hk)
  cases meets with
  | written hi hj _ => exact ⟨written hi, written hj⟩
  | fetched hi hj _ => exact ⟨h.read_lt i hi, h.read_lt j hj⟩
  | key hi hp => exact ⟨written hi, h.primary_lt j hp⟩
  | mark hi hs =>
    refine ⟨?_, h.softDelete_lt j hs⟩
    rcases List.mem_append.1 hi with hi | hi
    · exact written hi
    · exact h.read_lt i hi

/-- An operation lists a column twice, or one that it keeps out, only through two fields that meet. -/
theorem namesOnce_iff (h : roles.WellFormed) (hoperation : operation ≠ .delete) :
    NamesOnce operation roles ↔
      ∀ i j, Meets operation roles i j → roles.columnAt i ≠ roles.columnAt j := by
  have written := @written_statement operation roles hoperation
  have fetched := @fetched_statement operation roles hoperation
  have writes_nodup := @nodup_writes operation roles h
  have read_nodup : roles.read.Nodup := h.read_ascending.imp Nat.ne_of_lt
  constructor
  · intro once i j meets same
    cases meets with
    | written hi hj hne =>
      have nodup := once.written_nodup
      rw [written] at nodup
      exact hne (List.inj_on_of_nodup_map nodup hi hj same)
    | fetched hi hj hne =>
      have nodup := once.fetched_nodup
      rw [fetched] at nodup
      exact hne (List.inj_on_of_nodup_map nodup hi hj same)
    | key hi hp =>
      refine once.key_not_written j hp ?_
      rw [written, ← same]
      exact List.mem_map_of_mem hi
    | mark hi hs =>
      rcases List.mem_append.1 hi with hi | hi
      · refine once.mark_not_written j hs ?_
        rw [written, ← same]
        exact List.mem_map_of_mem hi
      · refine once.mark_not_fetched j hs ?_
        rw [fetched, ← same]
        exact List.mem_map_of_mem hi
  · intro apart
    refine ⟨?_, ?_, ?_, ?_, ?_⟩
    · rw [written, List.nodup_map_iff_inj_on writes_nodup]
      intro i hi j hj same
      by_contra hne
      exact apart i j (.written hi hj hne) same
    · rw [fetched, List.nodup_map_iff_inj_on read_nodup]
      intro i hi j hj same
      by_contra hne
      exact apart i j (.fetched hi hj hne) same
    · rw [written]
      intro p hp hmem
      obtain ⟨i, hi, same⟩ := List.mem_map.1 hmem
      exact apart i p (.key hi hp) same
    · rw [written]
      intro s hs hmem
      obtain ⟨i, hi, same⟩ := List.mem_map.1 hmem
      exact apart i s (.mark (List.mem_append_left _ hi) hs) same
    · rw [fetched]
      intro s hs hmem
      obtain ⟨i, hi, same⟩ := List.mem_map.1 hmem
      exact apart i s (.mark (List.mem_append_right _ hi) hs) same

theorem columnAt_injective (h : (roles.record.fields.map Field.column).Nodup) (hi : i < roles.record.size)
    (hj : j < roles.record.size) (same : roles.columnAt i = roles.columnAt j) : i = j := by
  have column {k : Nat} (hk : k < roles.record.size) :
      (roles.record.fields.map Field.column)[k]? = some (roles.columnAt k) := by
    have field : roles.record.field? k = some roles.record.fields[k] := List.getElem?_eq_getElem hk
    rw [List.getElem?_map, Roles.columnAt_eq field]
    exact congrArg (Option.map Field.column) field
  have place : i < (roles.record.fields.map Field.column).length := by rwa [List.length_map]
  exact (List.getElem?_inj place h).1 (by rw [column hi, column hj, same])

end Meets
end Fragment

namespace Generator
open Fragment Sql

variable {generator : Generator} {record : Record} {existing : List String} {source : GeneratedSource}

/-- The statements of a returned source name no column twice and keep the columns of the key roles out of their
lists, exactly if fields that meet in an operation have different columns; where all columns of the record differ,
they do. -/
theorem columns_once_iff_apart (h : generator.Returns record existing source) :
    ∃ session, generator.Produces record existing session source ∧
      ∀ operation ∈ generator.settings.operations, operation ≠ .delete →
        (NamesOnce operation session.roles ↔ ∀ i j, Meets operation session.roles i j →
          session.roles.columnAt i ≠ session.roles.columnAt j) ∧
        ((record.fields.map Field.column).Nodup → NamesOnce operation session.roles) := by
  obtain ⟨session, produces⟩ := h.exists_produces
  have reachable := Roles.reachable_of_classify produces.renders.classified
  refine ⟨session, produces, ?_⟩
  intro operation _ hoperation
  have once := namesOnce_iff reachable.wellFormed hoperation
  refine ⟨once, fun distinct => once.2 ?_⟩
  intro i j meets same
  rw [← reachable.record_eq] at distinct
  obtain ⟨hi, hj⟩ := meets.lt reachable.wellFormed
  exact meets.ne reachable.wellFormed (columnAt_injective distinct hi hj same)

/-- The columns come from a tag, a name and a column given on its own. -/
theorem columns_once_iff_apart_threeSources :
    let specs : List FieldSpec := [⟨"ID", "int64", none, some "db:\"id\""⟩, ⟨"Title", "string", none, none⟩,
      ⟨"DeletedAt", "time.Time", some "deleted_at", none⟩]
    let note : Record := ⟨"Note", specs.map Field.ofSpec, by decide⟩
    let generator : Generator := { settings := { format := .none } }
    note.fields.map Field.column = ["id", "Title", "deleted_at"] ∧
      ∃ source session, (generator.generate note "notes").outcome = .ok source ∧
        generator.Produces note [] session source ∧
        ∀ operation ∈ Operation.all, operation ≠ .delete → NamesOnce operation session.roles := by
  intro specs note generator
  let roles : Roles :=
    { record := note, table := "Note", primary := some 0, softDelete := some 2, read := [0, 1], write := [1] }
  have passes : generator.Passes note roles := ⟨by decide +kernel, by decide, rfl⟩
  obtain ⟨source, outcome, _⟩ := @Passes.exists_composed generator note roles [] "notes" passes
  have returned : (generator.generate note "notes").outcome = .ok source := (outcome_generate_iff _).2 outcome
  obtain ⟨session, produces, once⟩ := columns_once_iff_apart (.atHand returned)
  have columns : note.fields.map Field.column = ["id", "Title", "deleted_at"] := by decide +kernel
  refine ⟨columns, source, session, returned, produces, ?_⟩
  intro operation hmem hoperation
  exact (once operation hmem hoperation).2 (by rw [columns]; decide)

/-- A second field with the column of the key is assigned and returned beside it, and a second field with the
column that marks deletion brings that column back. -/
theorem shared_columns_are_listed :
    let specs : List FieldSpec := [⟨"ID", "int64", some "id", none⟩, ⟨"Key", "string", none, some "db:\"id\""⟩,
      ⟨"DeletedAt", "time.Time", some "deleted_at", none⟩, ⟨"deleted_at", "bool", none, none⟩]
    let note : Record := ⟨"Note", specs.map Field.ofSpec, by decide⟩
    let writing : Generator := { settings := { operations := [.create, .update], format := .none } }
    Record.ofSpecs "Note" specs = .ok note ∧
      ∃ source, (writing.generate note "notes").outcome = .ok source ∧
        ∀ session, writing.Produces note [] session source → ∀ operation ∈ [Operation.create, .update],
          (statement operation session.roles).written = ["id", "deleted_at"] ∧
          (statement operation session.roles).fetched = ["id", "id", "deleted_at"] ∧
          session.roles.primaryColumn = "id" ∧ session.roles.softDeleteColumn? = some "deleted_at" ∧
          ¬NamesOnce operation session.roles := by
  intro specs note writing
  let roles : Roles :=
    { record := note, table := "Note", primary := some 0, softDelete := some 2, read := [0, 1, 3], write := [1, 3] }
  have classified : writing.classified note = .ok roles := by decide +kernel
  have renders : writing.Renders note [] (Session.rendered roles [] [.create, .update]) :=
    renders_rendered classified (fun h => nomatch h.1) (fun h => nomatch h.1)
  refine ⟨rfl, _, (outcome_generate_iff _).2 (.generated renders rfl), ?_⟩
  intro session produces operation hmem
  obtain same : session.roles = roles := Except.ok.inj (produces.renders.classified.symm.trans classified)
  rw [same]
  have lists : (statement operation roles).written = ["id", "deleted_at"] ∧
      (statement operation roles).fetched = ["id", "id", "deleted_at"] := by
    revert operation
    decide +kernel
  refine ⟨lists.1, lists.2, by decide +kernel, by decide +kernel, ?_⟩
  intro once
  have nodup := once.fetched_nodup
  rw [lists.2] at nodup
  exact absurd nodup (by decide)

end Generator
end RecordAccess
