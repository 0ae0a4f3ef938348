import RecordAccess.Description
import RecordAccess.Proofs.Generation.Overriding
import RecordAccess.Proofs.Sql.Names

/-!
# Empty names in statements

A compact text and a tag never give an empty column, but a description can give one on its own, and an override
of the table can be blank. Both are taken as they are. So a source whose record and fields have names places an
empty name if its table was overridden by blanks, or if it places a column that was given empty, and in no other
case.
-/
namespace RecordAccess

namespace Tag

theorem column?_ne_empty (tag : String) : column? tag ≠ some "" := by
  intro h
  obtain ⟨pair, _, hvalue⟩ := Option.bind_eq_some_iff.1 h
  unfold columnOfValue at hvalue
  dsimp only at hvalue
  split at hvalue
  · cases hvalue
  · next named =>
    have chars := congrArg String.toList (Option.some.inj hvalue)
    rw [String.toList_ofList] at chars
    exact named (.inl chars)

end Tag

theorem FieldSpec.column_ne_empty_of_parse {text : String} {spec : FieldSpec} (h : parse text = .ok spec) :
    spec.column ≠ some "" := by
  unfold parse at h
  dsimp only at h
  split at h
  · cases h
  · obtain rfl := Except.ok.inj h
    dsimp only
    split
    · simp
    · next given =>
      intro empty
      have chars := congrArg String.toList (Option.some.inj empty)
      rw [String.toList_ofList] at chars
      exact given (List.isEmpty_iff.2 chars)

theorem Description.column_ne_empty_of_parseFields {texts : List String} {specs : List FieldSpec}
    (h : parseFields texts = .ok specs) : ∀ spec ∈ specs, spec.column ≠ some "" := by
  induction texts generalizing specs with
  | nil =>
    obtain rfl := Except.ok.inj h
    simp
  | cons text rest ih =>
    unfold parseFields at h
    split at h
    · cases h
    · next first hfirst =>
      split at h
      · cases h
      · next others hothers =>
        obtain rfl := Except.ok.inj h
        intro spec hspec
        rcases List.mem_cons.1 hspec with rfl | hspec
        · exact FieldSpec.column_ne_empty_of_parse hfirst
        · exact ih hothers spec hspec

/-- The tag counts where no column is given, and it gives none that is empty. -/
theorem FieldSpec.namedColumn_eq_empty_iff (spec : FieldSpec) :
    spec.namedColumn = some "" ↔ spec.column = some "" := by
  unfold namedColumn
  cases hcolumn : spec.column with
  | some column => exact Iff.rfl
  | none =>
    refine ⟨fun h => ?_, fun h => nomatch h⟩
    obtain ⟨tag, _, htag⟩ := Option.bind_eq_some_iff.1 h
    exact absurd htag (Tag.column?_ne_empty tag)

theorem Field.column_ofSpec_eq_empty_iff {spec : FieldSpec} (hname : spec.name ≠ "") :
    (Field.ofSpec spec).column = "" ↔ spec.column = some "" := by
  rw [← spec.namedColumn_eq_empty_iff]
  unfold Field.column Field.ofSpec
  cases spec.namedColumn with
  | some column => exact Option.some_inj.symm
  | none => exact ⟨fun h => absurd h hname, fun h => nomatch h⟩

/-- The record has these descriptions for its fields, by whichever way it was described. -/
inductive Described (record : Record) : List FieldSpec → Prop
  | specified {name : String} {specs : List FieldSpec} (h : Record.ofSpecs name specs = .ok record) :
      Described record specs
  | compact {name : String} {texts : List String} {specs : List FieldSpec}
      (hspecs : Description.parseFields texts = .ok specs)
      (h : Description.inlineRecord name texts = .ok record) : Described record specs
  | listed {manifest : Manifest} {name : String} {entry : RecordEntry}
      (hentry : manifest.records.find? (fun entry => entry.name == name) = some entry)
      (h : manifest.lookup name = .ok record) : Described record entry.fields

theorem fields_of_ofSpecs {record : Record} {name : String} {specs : List FieldSpec}
    (h : Record.ofSpecs name specs = .ok record) : record.fields = specs.map Field.ofSpec := by
  unfold Record.ofSpecs at h
  split at h
  · cases h
  · obtain rfl := Except.ok.inj h
    rfl

theorem Described.fields_eq {record : Record} {specs : List FieldSpec} (h : Described record specs) :
    record.fields = specs.map Field.ofSpec := by
  cases h with
  | specified h => exact fields_of_ofSpecs h
  | compact hspecs h =>
    rw [Description.inlineRecord, hspecs] at h
    exact fields_of_ofSpecs h
  | listed hentry h =>
    simp only [Manifest.lookup, hentry] at h
    split at h
    · exact fields_of_ofSpecs h
    · cases h

namespace Fragment
open Sql

/-- The ordinals of the columns that the statement of an operation places, in their order. -/
def placed (operation : Operation) (roles : Roles) : List Nat :=
  let key := roles.primary.toList ++ roles.softDelete.toList
  match operation with
  | .create => roles.write ++ roles.read
  | .get => roles.read ++ key
  | .list => roles.read ++ roles.softDelete.toList
  | .update => roles.write ++ key ++ roles.read
  | .delete => roles.softDelete.toList ++ key

section Placed
variable {roles : Roles}

theorem readColumns_eq_map (roles : Roles) : roles.readColumns "" = roles.read.map roles.columnAt :=
  List.map_congr_left fun _ _ => String.empty_append

theorem writeColumns_eq_map (roles : Roles) : roles.writeColumns "" = roles.write.map roles.columnAt :=
  List.map_congr_left fun _ _ => String.empty_append

theorem map_column_notDeleted (roles : Roles) :
    (notDeleted roles).map Condition.column = roles.softDelete.toList.map roles.columnAt := by
  unfold notDeleted Roles.softDeleteColumn?
  cases roles.softDelete <;> rfl

theorem map_column_keyed {p : Nat} (hprimary : roles.primary = some p) (index : Nat) :
    (keyed roles.primaryColumn index roles.softDeleteColumn?).map Condition.column =
      (roles.primary.toList ++ roles.softDelete.toList).map roles.columnAt := by
  have column : roles.primaryColumn = roles.columnAt p := by
    rw [Roles.primaryColumn, hprimary]
  rw [hprimary, column]
  exact congrArg (roles.columnAt p :: ·) (map_column_notDeleted roles)

/-- A statement that finds its row by a key has a key to place. -/
theorem names_statement {operation : Operation} (h : operation.needsPrimary → roles.primary ≠ none) :
    (statement operation roles).names = roles.table :: (placed operation roles).map roles.columnAt := by
  cases operation with
  | create =>
    simp only [statement, Statement.names, placed, readColumns_eq_map, writeColumns_eq_map, List.map_append,
      List.cons_append]
  | list =>
    simp only [statement, Statement.names, placed, readColumns_eq_map, map_column_notDeleted,
      List.map_append, List.cons_append]
  | get =>
    obtain ⟨p, hprimary⟩ := Option.ne_none_iff_exists'.1 (h rfl)
    simp only [statement, byKey, Statement.names, placed, readColumns_eq_map, map_column_keyed hprimary,
      List.map_append, List.cons_append]
  | update =>
    obtain ⟨p, hprimary⟩ := Option.ne_none_iff_exists'.1 (h rfl)
    simp only [statement, updateByKey, Statement.names, placed, readColumns_eq_map, writeColumns_eq_map,
      map_column_assignments, map_column_keyed hprimary, List.map_append, List.cons_append, List.append_assoc]
  | delete =>
    obtain ⟨p, hprimary⟩ := Option.ne_none_iff_exists'.1 (h rfl)
    have key := map_column_keyed hprimary 1
    cases hmark : roles.softDelete with
    | none =>
      simp only [Roles.softDeleteColumn?, hmark, Option.map_none] at key
      simp only [statement, Roles.softDeleteColumn?, hmark, Option.map_none, deleteByKey, Statement.names, placed,
        key, Option.toList_none, List.nil_append]
    | some s =>
      simp only [Roles.softDeleteColumn?, hmark, Option.map_some] at key
      simp only [statement, Roles.softDeleteColumn?, hmark, Option.map_some, softDeleteByKey, Statement.names,
        placed, key, Option.toList_some, List.map_cons, List.map_nil, List.append_nil, List.map_append,
        List.cons_append, List.nil_append]

theorem lt_of_mem_placed (h : roles.WellFormed) {operation : Operation} :
    ∀ i ∈ placed operation roles, i < roles.record.size := by
  intro i hi
  have role : i ∈ roles.read ∨ i ∈ roles.write ∨ roles.primary = some i ∨ roles.softDelete = some i := by
    cases operation <;>
      simp only [placed, List.mem_append, Option.mem_toList] at hi <;> tauto
  rcases role with hread | hwrite | hprimary | hmark
  · exact h.read_lt i hread
  · exact h.write_lt i hwrite
  · exact h.primary_lt i hprimary
  · exact h.softDelete_lt i hmark

end Placed
end Fragment

namespace Generator
open Fragment Sql

variable {generator : Generator} {record : Record} {specs : List FieldSpec} {existing : List String}
  {source : GeneratedSource}

theorem primary_ne_none_of_renders {session : Session} (h : generator.Renders record existing session)
    {operation : Operation} (hmem : operation ∈ generator.settings.operations) :
    operation.needsPrimary → session.roles.primary ≠ none := by
  intro needs absent
  refine h.keyed ⟨absent, ?_⟩
  rw [← any_needsPrimary, List.any_eq_true]
  exact ⟨operation, hmem, needs⟩

theorem table_ne_empty_iff {roles : Roles} (h : generator.classified record = .ok roles)
    (hname : record.name ≠ "") :
    roles.table ≠ "" ↔ ∀ table ∈ generator.settings.table, Text.trimmed table ≠ "" := by
  have table_eq := (Classification.classified_of_outcome h).table_eq
  change roles.table = (generator.settings.table.map Text.trimmed).getD record.name at table_eq
  rw [table_eq]
  cases generator.settings.table with
  | none => simp [hname]
  | some table => simp

theorem columnAt_eq_empty_iff {roles : Roles} (described : Described record specs)
    (hrecord : roles.record = record) (hnames : ∀ spec ∈ specs, spec.name ≠ "") {i : Nat}
    (hi : i < roles.record.size) :
    roles.columnAt i = "" ↔ ∃ spec, specs[i]? = some spec ∧ spec.column = some "" := by
  obtain ⟨field, hfield⟩ : ∃ field, roles.record.field? i = some field :=
    ⟨_, List.getElem?_eq_getElem hi⟩
  have at_specs : (specs.map Field.ofSpec)[i]? = some field := by
    rw [← described.fields_eq, ← hrecord]
    exact hfield
  rw [List.getElem?_map] at at_specs
  obtain ⟨spec, hspec, rfl⟩ := Option.map_eq_some_iff.1 at_specs
  rw [Roles.columnAt_eq hfield, Field.column_ofSpec_eq_empty_iff (hnames spec (List.mem_of_getElem? hspec)),
    hspec]
  simp

/-- A returned source places no empty name, unless its table was overridden by blanks or it places a column that
was given empty. Compact texts give no such column. -/
theorem names_nonempty_unless_given_empty (described : Described record specs)
    (h : generator.Returns record existing source) (hname : record.name ≠ "")
    (hnames : ∀ spec ∈ specs, spec.name ≠ "") :
    (∃ session, generator.Produces record existing session source ∧
      ∀ operation ∈ generator.settings.operations,
        ((∀ name ∈ (statement operation session.roles).names, name ≠ "") ↔
          (∀ table ∈ generator.settings.table, Text.trimmed table ≠ "") ∧
          ∀ i ∈ placed operation session.roles, ∀ spec, specs[i]? = some spec → spec.column ≠ some "")) ∧
    ∀ texts, Description.parseFields texts = .ok specs → ∀ spec ∈ specs, spec.column ≠ some "" := by
  refine ⟨?_, fun texts htexts => Description.column_ne_empty_of_parseFields htexts⟩
  obtain ⟨session, produces⟩ := h.exists_produces
  refine ⟨session, produces, ?_⟩
  intro operation hmem
  have classified := produces.renders.classified
  have reachable := Roles.reachable_of_classify classified
  have table := table_ne_empty_iff classified hname
  have columns : ∀ i ∈ placed operation session.roles, (session.roles.columnAt i ≠ "" ↔
      ∀ spec, specs[i]? = some spec → spec.column ≠ some "") := by
    intro i hi
    have given := columnAt_eq_empty_iff described reachable.record_eq hnames
      (lt_of_mem_placed reachable.wellFormed i hi)
    rw [Ne, given]
    push Not
    rfl
  rw [names_statement (primary_ne_none_of_renders produces.renders hmem), List.forall_mem_cons, table,
    List.forall_mem_map]
  exact and_congr_right fun _ => forall₂_congr columns

/-- Five functions over compact texts: the text that ends in a colon gives no column, and the blanks around the
table are set aside. -/
theorem names_nonempty_unless_given_empty_compact :
    let texts := ["ID:int64:id", "Title: string :", "DeletedAt:time.Time:deleted_at"]
    let generator : Generator := { settings := { table := some " notes ", format := .none } }
    ∃ record source session, Description.inlineRecord "Note" texts = .ok record ∧
      (generator.generate record "notes").outcome = .ok source ∧
      generator.Produces record [] session source ∧
      ∀ operation ∈ Operation.all, ∀ name ∈ (statement operation session.roles).names, name ≠ "" := by
  intro texts generator
  let specs : List FieldSpec := [⟨"ID", "int64", some "id", none⟩, ⟨"Title", "string", none, none⟩,
    ⟨"DeletedAt", "time.Time", some "deleted_at", none⟩]
  let record : Record := ⟨"Note", specs.map Field.ofSpec, by decide⟩
  let roles : Roles :=
    { record, table := "notes", primary := some 0, softDelete := some 2, read := [0, 1], write := [1] }
  have parsed : Description.parseFields texts = .ok specs := by decide +kernel
  have described : Description.inlineRecord "Note" texts = .ok record := by decide +kernel
  have passes : generator.Passes record roles := ⟨by decide +kernel, by decide, rfl⟩
  obtain ⟨source, outcome, _⟩ := @Passes.exists_composed generator record roles [] "notes" passes
  have returned : (generator.generate record "notes").outcome = .ok source := (outcome_generate_iff _).2 outcome
  obtain ⟨⟨session, produces, names⟩, columns⟩ :=
    names_nonempty_unless_given_empty (.compact parsed described) (.atHand returned) (by decide) (by decide)
  refine ⟨record, source, session, described, returned, produces, ?_⟩
  intro operation hmem
  refine (names operation hmem).2 ⟨by decide, ?_⟩
  intro i _ spec hspec
  exact columns texts parsed spec (List.mem_of_getElem? hspec)

/-- A column that is given empty, and a table that is overridden by a blank, are placed as they are, and the run
succeeds. -/
theorem empty_names_are_placed :
    let key (column : String) : FieldSpec := ⟨"ID", "int64", some column, none⟩
    let note (column : String) : Record := ⟨"Note", [Field.ofSpec (key column)], List.nodup_singleton _⟩
    let getting (table : Option String) : Generator :=
      { settings := { operations := [.get], table, format := .none } }
    let places (column : String) (table : Option String) (text : String) : Prop :=
      Described (note column) [key column] ∧
      ∃ source, ((getting table).generate (note column) "notes").outcome = .ok source ∧
        ∀ session, (getting table).Produces (note column) [] session source →
          "" ∈ (statement .get session.roles).names ∧ (statement .get session.roles).text = text
    places "" none "SELECT  FROM Note WHERE  = $1" ∧
      places "id" (some " ") "SELECT id FROM  WHERE id = $1" := by
  intro key note getting places
  have placed : ∀ column table text, ∀ roles : Roles, (getting table).classified (note column) = .ok roles →
      roles.primary ≠ none → "" ∈ (statement .get roles).names → (statement .get roles).text = text →
      places column table text := by
    intro column table text roles classified keyed hempty htext
    have renders : (getting table).Renders (note column) [] (Session.rendered roles [] [.get]) :=
      renders_rendered classified (fun h => keyed h.1) (fun h => nomatch h.2)
    have described : Record.ofSpecs "Note" [key column] = .ok (note column) := rfl
    refine ⟨.specified described, _, (outcome_generate_iff _).2 (.generated renders rfl), ?_⟩
    intro session produces
    have same : session.roles = roles := Except.ok.inj (produces.renders.classified.symm.trans classified)
    rw [same]
    exact ⟨hempty, htext⟩
  let roles (table column : String) : Roles :=
    { record := note column, table, primary := some 0, read := [0] }
  exact ⟨placed "" none _ (roles "Note" "") (by decide +kernel) (by decide) (by decide) (by decide),
    placed "id" (some " ") _ (roles "" "id") (by decide +kernel) (by decide) (by decide) (by decide)⟩

end Generator
end RecordAccess
