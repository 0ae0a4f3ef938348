/-!
# Shared declarations

The Go declarations that generated functions share. Each is known by the identifier it declares, has
a fixed text and needs fixed imports.
-/
namespace RecordAccess

inductive Declaration where
  /-- The interface of a handle that executes a statement. -/
  | execer
  /-- The interface of a handle that queries rows. -/
  | queryer
  /-- The interface of a handle that queries one row. -/
  | queryRower
  /-- The interface of a caller's filter. -/
  | sqlFilter
  /-- The interface of a caller's sort order. -/
  | sqlSorter
  /-- The error of a statement that changed nothing. -/
  | noRowsAffected
  deriving DecidableEq, Repr

namespace Declaration

/-- All declarations; ties between equal ranks are broken in this order. -/
def all : List Declaration := [execer, queryer, queryRower, sqlFilter, sqlSorter, noRowsAffected]

def index : Declaration → Nat
  | execer => 0
  | queryer => 1
  | queryRower => 2
  | sqlFilter => 3
  | sqlSorter => 4
  | noRowsAffected => 5

def identifier : Declaration → String
  | execer => "cruderExecer"
  | queryer => "cruderQueryer"
  | queryRower => "cruderQueryRower"
  | sqlFilter => "cruderSQLFilter"
  | sqlSorter => "cruderSQLSorter"
  | noRowsAffected => "ErrNoRowsAffected"

def databaseImport : String := "database/sql"

def errorsImport : String := "errors"

def imports : Declaration → List String
  | execer | queryer | queryRower => [databaseImport]
  | sqlFilter | sqlSorter => []
  | noRowsAffected => [errorsImport]

/-- The text of an interface with one method. -/
def interfaceText (name method : String) : String :=
  "type " ++ name ++ " interface \x7b\n\t" ++ method ++ "\n\x7d\n"

def text (declaration : Declaration) : String :=
  match declaration with
  | execer =>
    "\n" ++ interfaceText declaration.identifier
      "Exec(string, ...interface\x7b\x7d) (sql.Result, error)"
  | queryer =>
    "\n" ++ interfaceText declaration.identifier
      "Query(string, ...interface\x7b\x7d) (*sql.Rows, error)"
  | queryRower =>
    "\n" ++ interfaceText declaration.identifier "QueryRow(string, ...interface\x7b\x7d) *sql.Row"
  | sqlFilter =>
    "\n// cruderSQLFilter returns a WHERE predicate (without the WHERE keyword) and its\n" ++
      "// positional arguments, numbered from $1\n" ++
      interfaceText declaration.identifier "Where() (string, []interface\x7b\x7d)"
  | sqlSorter =>
    "\n// cruderSQLSorter returns an ORDER BY expression (without the ORDER BY keyword)\n" ++
      interfaceText declaration.identifier "OrderBy() string"
  | noRowsAffected =>
    "\n// ErrNoRowsAffected is returned when a statement succeeded but changed no rows\n" ++
      "var ErrNoRowsAffected = errors.New(\"sql: no rows affected\")\n"

end Declaration
end RecordAccess
