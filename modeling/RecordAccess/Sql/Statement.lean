/-!
# Statements

SQL statements as data, with their text in the PostgreSQL dialect: values are placeholders `$1`, `$2`
and so on, and lists are separated by a comma and a space. Names are placed as they are, in the order
in which they are given.
-/
namespace RecordAccess.Sql

def placeholder (index : Nat) : String := "$" ++ toString index

def placeholders (n : Nat) : List String := (List.range n).map fun i => placeholder (i + 1)

inductive Condition where
  /-- The column equals the value of a placeholder. -/
  | equals (column : String) (index : Nat)
  /-- The column has no value. -/
  | isNull (column : String)
  deriving DecidableEq, Repr

inductive Value where
  | placeholder (index : Nat)
  /-- The time of the statement. -/
  | now
  deriving DecidableEq, Repr

structure Assignment where
  column : String
  value : Value
  deriving DecidableEq, Repr

/-- A statement over one table. All its conditions have to hold. -/
inductive Statement where
  | select (columns : List String) (table : String) (conditions : List Condition)
  /-- The columns take the placeholders in order. -/
  | insert (table : String) (columns : List String) (returning : List String)
  | update (table : String) (assignments : List Assignment) (conditions : List Condition)
      (returning : List String)
  | delete (table : String) (conditions : List Condition)
  deriving DecidableEq, Repr

def commaList (items : List String) : String := String.intercalate ", " items

def Condition.text : Condition → String
  | equals column index => column ++ " = " ++ Sql.placeholder index
  | isNull column => column ++ " IS NULL"

def Value.text : Value → String
  | placeholder index => Sql.placeholder index
  | now => "NOW()"

def Assignment.text (assignment : Assignment) : String :=
  assignment.column ++ " = " ++ assignment.value.text

/-- The clause that demands the conditions; nothing if there are none. -/
def whereClause (conditions : List Condition) : String :=
  if conditions.isEmpty then ""
  else "WHERE " ++ String.intercalate " AND " (conditions.map Condition.text)

/-- A clause after a space, or nothing. -/
def spaced (clause : String) : String := if clause = "" then "" else " " ++ clause

/-- The clause that asks for columns of the changed row; nothing if there are none. -/
def returningClause (columns : List String) : String :=
  if columns.isEmpty then "" else " RETURNING " ++ commaList columns

/-- The values that an insertion gives to its columns. -/
def valuesClause (columns : List String) : String :=
  if columns.isEmpty then "DEFAULT VALUES"
  else "(" ++ commaList columns ++ ") VALUES (" ++ commaList (placeholders columns.length) ++ ")"

def Statement.text : Statement → String
  | select columns table conditions =>
    "SELECT " ++ commaList columns ++ " FROM " ++ table ++ spaced (whereClause conditions)
  | insert table columns returning =>
    "INSERT INTO " ++ table ++ " " ++ valuesClause columns ++ returningClause returning
  | update table assignments conditions returning =>
    "UPDATE " ++ table ++ " SET " ++ commaList (assignments.map Assignment.text) ++
      spaced (whereClause conditions) ++ returningClause returning
  | delete table conditions => "DELETE FROM " ++ table ++ spaced (whereClause conditions)

/-- The conditions that pick the row of a key, if it is not marked as deleted. -/
def keyed (primary : String) (index : Nat) (softDelete : Option String) : List Condition :=
  .equals primary index :: (softDelete.map Condition.isNull).toList

/-- The columns set to the placeholders from 1 on. -/
def assignments (columns : List String) : List Assignment :=
  columns.zipIdx.map fun (column, i) => ⟨column, .placeholder (i + 1)⟩

/-- Changes the row of a key; the key takes the placeholder after those of the columns. -/
def updateByKey (table : String) (columns : List String) (primary : String)
    (softDelete : Option String) (returning : List String) : Statement :=
  .update table (assignments columns) (keyed primary (columns.length + 1) softDelete) returning

/-- Marks the row of a key as deleted, if it is not. -/
def softDeleteByKey (table primary softDelete : String) : Statement :=
  .update table [⟨softDelete, .now⟩] (keyed primary 1 (some softDelete)) []

def deleteByKey (table primary : String) : Statement := .delete table (keyed primary 1 none)

end RecordAccess.Sql
