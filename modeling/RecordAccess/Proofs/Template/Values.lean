import RecordAccess.Proofs.Sql.Names
import RecordAccess.Proofs.Template.Filling

/-!
# The characters of values

The values that templates place are made of names. SQL takes the table and the columns, and every other value
takes the names of the record and of its fields. So the characters of values are those of the names, and
characters that no value has of its own.
-/
namespace RecordAccess.Fragment

open Sql Text

/-- The variables that stand for SQL. -/
def isSql (name : String) : Bool := ["query", "select", "soft_delete_where"].contains name

/-- Whether a value that is no SQL has the character of its own. -/
def isSign (c : Char) : Bool := c.isAlphanum || ['&', '.', ',', ' '].contains c

/-- The names in SQL consist of characters of one class, the others of characters of another. The classes have
the characters that stand around the names. -/
structure Lettered (plain sql : Char → Bool) (roles : Roles) : Prop where
  plain_signs : ∀ c, isSign c → plain c
  sql_signs : ∀ c, isSqlChar c → sql c
  model : Only plain roles.model
  fields : ∀ field ∈ roles.record.fields, Only plain field.name
  table : Only sql roles.table
  columns : ∀ field ∈ roles.record.fields, Only sql field.column

/-- The SQL texts that an operation builds, in order. -/
def sqlTexts (roles : Roles) : Operation → List String
  | .list =>
    (Statement.select (roles.readColumns "") roles.table []).text ::
      if roles.softDelete.isSome then [whereClause (notDeleted roles)] else []
  | operation => [(statement operation roles).text]

namespace Lettered
variable {plain sql : Char → Bool} {roles : Roles}

theorem signs (h : Lettered plain sql roles) {text : String} (htext : Only isSign text) : Only plain text :=
  fun c hc => h.plain_signs c (htext c hc)

theorem columnAt (h : Lettered plain sql roles) (i : Nat) : Only sql (roles.columnAt i) := by
  unfold Roles.columnAt
  cases hfield : roles.record.field? i with
  | none => exact only_empty
  | some field => exact h.columns field (List.mem_of_getElem? hfield)

theorem nameAt (h : Lettered plain sql roles) (i : Nat) : Only plain (roles.nameAt i) := by
  unfold Roles.nameAt
  cases hfield : roles.record.field? i with
  | none => exact only_empty
  | some field => exact h.fields field (List.mem_of_getElem? hfield)

theorem namedBy (h : Lettered plain sql roles) {name : String} (hname : NamedBy roles name) :
    Only sql name := by
  rcases hname with rfl | rfl | hcolumn | ⟨i, _, rfl⟩
  · exact h.table
  · unfold Roles.primaryColumn
    split
    · exact h.columnAt _
    · exact only_empty
  · obtain ⟨i, _, rfl⟩ := Option.map_eq_some_iff.1 hcolumn
    exact h.columnAt i
  · exact h.columnAt i

theorem statement (h : Lettered plain sql roles) (operation : Operation) :
    Only sql (Fragment.statement operation roles).text :=
  (made_text _).only h.sql_signs fun name hname => h.namedBy (namedBy_of_mem_names operation name hname)

theorem select (h : Lettered plain sql roles) :
    Only sql (Statement.select (roles.readColumns "") roles.table []).text :=
  (made_text _).only h.sql_signs fun name hname => h.namedBy (namedBy_of_mem_select (by simp) name hname)

theorem notDeleted (h : Lettered plain sql roles) : Only sql (whereClause (Fragment.notDeleted roles)) := by
  refine (made_whereClause _).only h.sql_signs fun name hname => ?_
  obtain ⟨condition, hcondition, rfl⟩ := List.mem_map.1 hname
  exact h.namedBy (namedBy_of_mem_notDeleted condition hcondition)

theorem suffix (h : Lettered plain sql roles) : Only plain roles.suffix := by
  unfold Roles.suffix
  split
  · exact only_empty
  · exact h.model

theorem commaList (h : Lettered plain sql roles) {items : List String} (hitems : ∀ item ∈ items, Only plain item) :
    Only plain (Sql.commaList items) :=
  only_intercalate (h.signs (by decide)) hitems

theorem targets (h : Lettered plain sql roles) (operation : Operation) :
    Only plain (Sql.commaList (Fragment.targets operation roles)) := by
  have names : ∀ lead, Only isSign lead → ∀ name ∈ roles.readNames lead, Only plain name := by
    intro lead hlead name hname
    obtain ⟨i, _, rfl⟩ := List.mem_map.1 hname
    exact only_append.2 ⟨h.signs hlead, h.nameAt i⟩
  refine h.commaList ?_
  cases operation with
  | create => exact names _ (by decide)
  | get => exact names _ (by decide)
  | list => exact names _ (by decide)
  | update => exact names _ (by decide)
  | delete => simp [Fragment.targets]

theorem arguments (h : Lettered plain sql roles) (operation : Operation) :
    Only plain (Sql.commaList (Fragment.arguments operation roles)) := by
  have lead : Only plain "x." := h.signs (by decide)
  have written : ∀ name ∈ roles.writeNames "x.", Only plain name := by
    intro name hname
    obtain ⟨field, hfield, rfl⟩ := List.mem_map.1 hname
    obtain ⟨i, _, hi⟩ := List.mem_filterMap.1 hfield
    have name := h.fields field (List.mem_of_getElem? hi)
    have reference : Only isSign (if field.shape.byReference then "&" else "") := by
      split <;> decide
    exact only_append.2 ⟨only_append.2 ⟨h.signs reference, lead⟩, name⟩
  have primary : Only plain roles.primaryName := by
    unfold Roles.primaryName
    split
    · exact h.nameAt _
    · exact only_empty
  refine h.commaList ?_
  cases operation with
  | create => exact written
  | update =>
    intro name hname
    rcases List.mem_append.1 hname with hname | hname
    · exact written name hname
    · exact List.mem_singleton.1 hname ▸ only_append.2 ⟨lead, primary⟩
  | get => simp [Fragment.arguments]
  | list => simp [Fragment.arguments]
  | delete => simp [Fragment.arguments]

theorem bindings (h : Lettered plain sql roles) (operation : Operation) :
    ∀ bound ∈ Fragment.bindings operation roles,
      if isSql bound.1 then Only sql bound.2 else Only plain bound.2 := by
  have keyword : Only plain (filterKeyword roles) := by
    refine h.signs ?_
    unfold filterKeyword
    split <;> decide
  cases operation with
  | create => simp [Fragment.bindings, isSql, h.suffix, h.model, h.statement, h.arguments, h.targets]
  | get => simp [Fragment.bindings, isSql, h.suffix, h.model, h.statement, h.targets]
  | list => simp [Fragment.bindings, isSql, h.suffix, h.model, h.select, h.notDeleted, keyword, h.targets]
  | update => simp [Fragment.bindings, isSql, h.suffix, h.model, h.statement, h.arguments, h.targets]
  | delete => simp [Fragment.bindings, isSql, h.suffix, h.statement]

/-- A value that is SQL has characters of names in SQL, and every other value those of the other names. -/
theorem valueOf (h : Lettered plain sql roles) (operation : Operation) (name : String) :
    if isSql name then Only sql (Fragment.valueOf operation roles name)
    else Only plain (Fragment.valueOf operation roles name) := by
  unfold Fragment.valueOf
  cases hlookup : (Fragment.bindings operation roles).lookup name with
  | none => split <;> exact only_empty
  | some value =>
    obtain ⟨first, last, hbound, _⟩ := List.lookup_eq_some_iff.1 hlookup
    exact h.bindings operation (name, value) (hbound ▸ by simp)

end Lettered
end RecordAccess.Fragment
