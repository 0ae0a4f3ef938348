import RecordAccess.Proofs.Sql.Alignment
import RecordAccess.Proofs.Sql.Predicates
import RecordAccess.Proofs.Template.Wholeness

/-!
# Listings with a filter

The function of a listing joins its statement when it runs: the selection, the clause that leaves
deleted rows out, and a caller's filter after a keyword. No parentheses go around the filter, so what
stands after an `OR` of the filter is not joined to the clause.
-/
namespace RecordAccess.Fragment

open Sql Text

/-- The statement that a listing joins when a caller gives a filter, before any order and limits. -/
def listing (roles : Roles) (filter : String) : String :=
  String.intercalate " " (sqlTexts roles .list ++
    if filter = "" then [] else [filterKeyword roles ++ " " ++ filter])

/-- The lines of a listing that put the parts of its statement in a row. -/
def gathering (roles : Roles) : String :=
  let clause := if roles.softDelete.isSome then
    ["\n\tsqlParts = append(sqlParts, `", whereClause (notDeleted roles), "`)"] else []
  String.join (
    [", error) \x7b\n\tvar args []interface\x7b\x7d\n\tsqlParts := []string\x7b`",
      (Statement.select (roles.readColumns "") roles.table []).text, "`\x7d"] ++ clause ++
    ["\n\n\tif filter != nil \x7b\n" ++
      "\t\tif filters, filterArgs := filter.Where(); filters != \"\" \x7b\n" ++
      "\t\t\tsqlParts = append(sqlParts, \"", filterKeyword roles,
      " \"+filters)\n\t\t\targs = append(args, filterArgs...)\n\t\t\x7d\n\t\x7d\n\n"])

/-- The lines of a listing that pass the parts to the database, with a space between any two. -/
def joining : String :=
  "\trows, err := db.Query(\n\t\tstrings.Join(sqlParts, \" \"),\n\t\targs...,\n\t)\n"

theorem text_list_gathering (roles : Roles) : ∃ opening between closing,
    text .list roles = opening ++ gathering roles ++ between ++ joining ++ closing := by
  have ending := @text_of_ending roles .list 6
  rw [shown_eq_variant, visible] at ending
  -- The clause is shown or not, so the two listings have different pieces after their openings.
  unfold gathering
  cases deletes : roles.softDelete.isSome with
  | false =>
    rw [deletes] at ending
    obtain ⟨opening, hopening⟩ := @ending [_, _, _, _, _,
      _ ++ _ ++ _ ++ _ ++ _ ++ _ ++ _ ++ _ ++ joining ++ _ ++ _, _, _, _, _, _, _] rfl
    refine ⟨opening, String.join [?_, ?_, ?_, ?_, ?_, ?_, ?_], ?_, hopening.trans ?_⟩
    case refine_9 =>
      simp only [String.join_cons, String.join_nil, String.append_assoc, List.cons_append,
        List.nil_append, String.append_empty, Bool.false_eq_true, if_false]
      rfl
  | true =>
    rw [deletes] at ending
    obtain ⟨opening, hopening⟩ := @ending [_, _, _, _, _, _, _, _,
      _ ++ _ ++ _ ++ _ ++ _ ++ _ ++ _ ++ _ ++ joining ++ _ ++ _, _, _, _, _, _, _] rfl
    refine ⟨opening, String.join [?_, ?_, ?_, ?_, ?_, ?_, ?_], ?_, hopening.trans ?_⟩
    case refine_9 =>
      simp only [String.join_cons, String.join_nil, String.append_assoc, List.cons_append,
        List.nil_append, String.append_empty, if_true]
      rfl

section Guarded
variable {roles : Roles} {column : String}

theorem listing_eq (hcolumn : roles.softDeleteColumn? = some column) {filter : String}
    (hfilter : filter ≠ "") :
    listing roles filter = (Statement.select (roles.readColumns "") roles.table []).text ++ " WHERE " ++
      ((Condition.isNull column).text ++ " " ++ ("AND" ++ " " ++ filter)) := by
  have marked : roles.softDelete.isSome = true := by
    unfold Roles.softDeleteColumn? at hcolumn
    cases hmark : roles.softDelete with
    | none => simp [hmark] at hcolumn
    | some i => rfl
  have clause : whereClause (notDeleted roles) = "WHERE " ++ (Condition.isNull column).text := by
    simp [notDeleted, hcolumn, whereClause]
  simp only [listing, sqlTexts, filterKeyword, marked, if_true, if_neg hfilter, clause, List.cons_append,
    List.nil_append, String.intercalate_cons_cons, String.intercalate_singleton, String.append_assoc]
  rfl

structure Guarded (guard : String) (filter reading : Predicate) : Prop where
  words_eq : reading.words = .condition guard :: .and :: filter.words
  unique : ∀ other : Predicate, other.words = reading.words → other = reading
  /-- Rows that are not deleted are listed as the filter says. -/
  live : ∀ truth, truth guard = .yes → reading.value truth = filter.value truth
  /-- Deleted rows are listed as the filter says after its first `OR`. -/
  deleted : ∀ truth, truth guard = .no →
    reading.value truth = (filter.others.map (Reading.value truth)).getD .no

theorem guarded_guarded (guard : String) (filter : Predicate) :
    Guarded guard filter (filter.guarded guard) where
  words_eq := Reading.words_guarded
  unique := fun _ => Reading.words_injective
  live := fun _ => Reading.value_guarded_of_yes
  deleted := fun _ => Reading.value_guarded_of_no

/-- The condition of a listing with a filter is read in one way. It lists the rows that are not deleted
as the filter says, and it hides those that are exactly if what the filter says after its first `OR`
never holds for them. -/
theorem guarded_listing (hcolumn : roles.softDeleteColumn? = some column) {filter : Predicate}
    {text : String} (spelled : Spells filter.words text) (given : text ≠ "") :
    (∃ opening between closing, Fragment.text .list roles =
      opening ++ gathering roles ++ between ++ joining ++ closing) ∧
    ∃ (condition : String) (reading : Predicate),
      listing roles text = (Statement.select (roles.readColumns "") roles.table []).text ++ " WHERE " ++
        condition ∧
      Spells reading.words condition ∧
      Guarded (Condition.isNull column).text filter reading ∧
      ((∀ truth, truth (Condition.isNull column).text = .no → reading.value truth = .no) ↔
        ∀ others ∈ filter.others, ∀ truth, truth (Condition.isNull column).text = .no →
          others.value truth = .no) := by
  have guarded := guarded_guarded (Condition.isNull column).text filter
  refine ⟨text_list_gathering roles, _, _, listing_eq hcolumn given, ?_, guarded, ?_⟩
  · rw [guarded.words_eq]
    exact spelled.guarded filter.words_ne_nil _
  · constructor
    · intro hides others hothers truth htruth
      have hidden := hides truth htruth
      rw [guarded.deleted truth htruth, hothers] at hidden
      exact hidden
    · intro never truth htruth
      rw [guarded.deleted truth htruth]
      cases hothers : filter.others with
      | none => rfl
      | some others => exact never others hothers truth htruth

end Guarded

/-- A filter in parentheses has nothing after an `OR`, and no deleted row comes through. -/
theorem guarded_listing_grouped :
    let foo : Record := ⟨"Foo", [⟨"ID", some "id", "uint64", .basic⟩,
      ⟨"Name", some "name", "string", .basic⟩,
      ⟨"DeletedAt", some "deleted_at", "time.Time", .named⟩], by decide⟩
    let roles : Roles := ⟨foo, "Foo", some 0, some 2, [0, 1], [1], false⟩
    (Classification.classify foo {}).outcome = .ok roles ∧
      ∃ (condition : String) (reading : Predicate),
        listing roles "(a OR b)" = "SELECT id, name FROM Foo WHERE " ++ condition ∧
        Spells reading.words condition ∧
        ∀ truth, truth "deleted_at IS NULL" = .no → reading.value truth = .no := by
  intro foo roles
  let either : Predicate := .or (.negation (.primary (.condition "a")))
    (.conjunction (.negation (.primary (.condition "b"))))
  let filter : Predicate := .conjunction (.negation (.primary (.group either)))
  have spelled : Spells filter.words "(a OR b)" := by
    refine ⟨[("", .opening), ("", .condition "a"), (" ", .or), (" ", .condition "b"), ("", .closing)], "",
      rfl, by decide, by decide, ?_, by decide⟩
    simp [Apart]
  have column : roles.softDeleteColumn? = some "deleted_at" := by decide
  have select : (Statement.select (roles.readColumns "") roles.table []).text ++ " WHERE " =
      "SELECT id, name FROM Foo WHERE " := by decide +kernel
  obtain ⟨_, condition, reading, listed, spells, _, hides⟩ := guarded_listing column spelled (by decide)
  refine ⟨rfl, condition, reading, ?_, spells, ?_⟩
  · rw [listed, select]
  · exact hides.2 (by simp [filter, Reading.others])

/-- Not so without the parentheses: the text of the listing is read in one way, and lists deleted rows. -/
theorem listing_lists_deleted :
    let foo : Record := ⟨"Foo", [⟨"ID", some "id", "uint64", .basic⟩,
      ⟨"Name", some "name", "string", .basic⟩,
      ⟨"DeletedAt", some "deleted_at", "time.Time", .named⟩], by decide⟩
    let roles : Roles := ⟨foo, "Foo", some 0, some 2, [0, 1], [1], false⟩
    (Classification.classify foo {}).outcome = .ok roles ∧
      Spells [.condition "a", .or, .condition "b"] "a OR b" ∧
      listing roles "a OR b" = "SELECT id, name FROM Foo WHERE deleted_at IS NULL AND a OR b" ∧
      Spells [.condition "deleted_at IS NULL", .and, .condition "a", .or, .condition "b"]
        "deleted_at IS NULL AND a OR b" ∧
      ∃! reading : Predicate,
        reading.words = [.condition "deleted_at IS NULL", .and, .condition "a", .or, .condition "b"] ∧
        ∃ truth : String → Truth, truth "deleted_at IS NULL" = .no ∧ reading.value truth = .yes := by
  intro foo roles
  have filter : Spells [.condition "a", .or, .condition "b"] "a OR b" := by
    refine ⟨[("", .condition "a"), (" ", .or), (" ", .condition "b")], "", rfl, by decide, by decide, ?_,
      by decide⟩
    simp [Apart]
  have spells := filter.guarded (by decide) "deleted_at IS NULL"
  let either : Predicate := .or (.negation (.primary (.condition "a")))
    (.conjunction (.negation (.primary (.condition "b"))))
  have reading := guarded_guarded "deleted_at IS NULL" either
  refine ⟨rfl, filter, by decide +kernel, ?_, either.guarded "deleted_at IS NULL", ⟨rfl, ?_⟩, ?_⟩
  · have same : "deleted_at IS NULL" ++ " " ++ ("AND" ++ " " ++ "a OR b") =
        "deleted_at IS NULL AND a OR b" := by decide
    rwa [same] at spells
  · refine ⟨fun text => if text = "b" then .yes else .no, by decide, ?_⟩
    rw [reading.deleted _ (by decide)]
    rfl
  · rintro other ⟨hother, _⟩
    exact reading.unique other hother

end RecordAccess.Fragment
