import RecordAccess.Registry
import RecordAccess.Roles
import RecordAccess.Sql.Statement
import RecordAccess.Template.Functions

/-!
# Fragments

The text of one operation for classified roles: its statement, the values that it hands to the
database, the targets that it scans a row into, and the requests that it makes to the registry. The
placeholders of a statement, its values and the targets of its columns are in one order, that of the
ordinals.
-/
namespace RecordAccess.Fragment

open Sql

def formatImport : String := "fmt"

def stringsImport : String := "strings"

/-- What an operation requests, in order. -/
def requests : Operation → List Request
  | .create | .get | .update => [.declaration .queryRower]
  | .list =>
    [.declaration .queryer, .declaration .sqlFilter, .declaration .sqlSorter,
      .importPath formatImport, .importPath stringsImport]
  | .delete => [.declaration .execer, .declaration .noRowsAffected]

def notDeleted (roles : Roles) : List Condition :=
  (roles.softDeleteColumn?.map Condition.isNull).toList

/-- The conditions that pick the row of the primary key, unless it is marked as deleted. -/
def byKey (roles : Roles) : List Condition := keyed roles.primaryColumn 1 roles.softDeleteColumn?

/-- The statement of an operation. That of a listing is the one without a filter. -/
def statement (operation : Operation) (roles : Roles) : Statement :=
  match operation with
  | .create => .insert roles.table (roles.writeColumns "") (roles.readColumns "")
  | .get => .select (roles.readColumns "") roles.table (byKey roles)
  | .list => .select (roles.readColumns "") roles.table (notDeleted roles)
  | .update =>
    updateByKey roles.table (roles.writeColumns "") roles.primaryColumn roles.softDeleteColumn?
      (roles.readColumns "")
  | .delete =>
    match roles.softDeleteColumn? with
    | some column => softDeleteByKey roles.table roles.primaryColumn column
    | none => deleteByKey roles.table roles.primaryColumn

/-- The values that a write hands to the placeholders, in order. -/
def arguments (operation : Operation) (roles : Roles) : List String :=
  match operation with
  | .create => roles.writeNames "x."
  | .update => roles.writeNames "x." ++ ["x." ++ roles.primaryName]
  | .get | .list | .delete => []

/-- The targets of the columns of a row, in order. -/
def targets (operation : Operation) (roles : Roles) : List String :=
  match operation with
  | .create | .get | .update => roles.readNames "&y."
  | .list => roles.readNames "&e."
  | .delete => []

/-- The keyword that joins a caller's filter to the statement of a listing. -/
def filterKeyword (roles : Roles) : String := if roles.softDelete.isSome then "AND" else "WHERE"

/-- The variables of an operation's template, by name. -/
def bindings (operation : Operation) (roles : Roles) : List (String × String) :=
  let suffix := ("suffix", roles.suffix)
  let model := ("model", roles.model)
  let query := ("query", (statement operation roles).text)
  let args := ("args", commaList (arguments operation roles))
  let scan := ("scan", commaList (targets operation roles))
  match operation with
  | .create | .update => [suffix, model, query, args, scan]
  | .get => [suffix, model, query, scan]
  | .list =>
    [suffix, model,
      ("select", (Statement.select (roles.readColumns "") roles.table []).text),
      ("soft_delete_where", whereClause (notDeleted roles)),
      ("filter_join", filterKeyword roles), scan]
  | .delete => [suffix, query]

def context (operation : Operation) (roles : Roles) : Context :=
  (bindings operation roles).map fun (name, value) => (name, .text value)

def render (operation : Operation) (roles : Roles) : Except GenerationError String :=
  (Template.ofOperation operation).render (context operation roles)

end RecordAccess.Fragment
