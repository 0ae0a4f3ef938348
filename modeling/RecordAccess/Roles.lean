import RecordAccess.Record

/-!
# Roles of fields

The roles say what each field of a record is for: which one is the primary key, which one marks a row
as deleted, which ones are read and which ones are written. Read and write sets are kept as ascending
lists of ordinals. The field that marks deletion is in neither set and the primary field is not
written; every operation here restores that, and a name that matches no field changes nothing.

A table shows a record's fields, one a line: the name, the column, the type and the roles in brackets.
Names and columns are filled up with spaces so that what follows them starts at the same place on every
line. The width of a cell is the largest number of bytes in it, which is never less than its number of
characters. Widths are kept in 16 bits, so there is no table of a record with a longer name or column.
-/
namespace RecordAccess

/-- The two sets that a list of field names can replace. -/
inductive FieldSet where
  | read
  | write
  deriving DecidableEq, Repr

def FieldSet.name : FieldSet → String
  | read => "read"
  | write => "write"

/-- A field that was named for a set but is kept out by its role. -/
structure Dropped where
  field : String
  set : FieldSet
  deriving DecidableEq, Repr

structure Roles where
  record : Record
  /-- The table that statements name. -/
  table : String
  primary : Option Nat := none
  softDelete : Option Nat := none
  /-- The ordinals of the fields that are read, ascending. -/
  read : List Nat := []
  /-- The ordinals of the fields that are written, ascending. -/
  write : List Nat := []
  /-- Whether function names leave out the record's name. -/
  skipSuffix : Bool := false
  deriving DecidableEq, Repr

namespace Roles

/-- The roles before any is given: the table is named like the record. -/
def ofRecord (record : Record) : Roles := { record, table := record.name }

def model (roles : Roles) : String := roles.record.name

def resolve (roles : Roles) (name : String) : Except GenerationError Nat :=
  match roles.record.position? name with
  | some ordinal => .ok ordinal
  | none => .error (.fieldNotFound (Text.trimmed name) roles.model)

def resolveAll (roles : Roles) : List String → Except GenerationError (List Nat)
  | [] => .ok []
  | name :: rest =>
    match roles.resolve name with
    | .error e => .error e
    | .ok ordinal =>
      match roles.resolveAll rest with
      | .error e => .error e
      | .ok ordinals => .ok (ordinal :: ordinals)

/-- The name of the field at an ordinal, empty if there is none. -/
def nameAt (roles : Roles) (ordinal : Nat) : String :=
  match roles.record.field? ordinal with
  | some field => field.name
  | none => ""

def columnAt (roles : Roles) (ordinal : Nat) : String :=
  match roles.record.field? ordinal with
  | some field => field.column
  | none => ""

def setTable (roles : Roles) (table : String) : Roles := { roles with table }

/-- Says whether function names leave out the record's name. -/
def setSkipSuffix (roles : Roles) (skip : Bool) : Roles := { roles with skipSuffix := skip }

def setPrimary (roles : Roles) (name : String) : Except GenerationError Roles :=
  match roles.resolve name with
  | .error e => .error e
  | .ok ordinal =>
    .ok { roles with primary := some ordinal, write := roles.write.filter (· ≠ ordinal) }

def setSoftDelete (roles : Roles) (name : String) : Except GenerationError Roles :=
  match roles.resolve name with
  | .error e => .error e
  | .ok ordinal =>
    .ok { roles with
      softDelete := some ordinal
      read := roles.read.filter (· ≠ ordinal)
      write := roles.write.filter (· ≠ ordinal) }

/-- The ordinals that the roles keep out of a set, in the order in which they are reported. -/
def excluded (roles : Roles) : FieldSet → List Nat
  | .read => roles.softDelete.toList
  | .write => (roles.softDelete.toList ++ roles.primary.toList).eraseDups

/-- The members of a set, given the ordinals that were named for it. -/
def members (roles : Roles) (set : FieldSet) (named : List Nat) : List Nat :=
  roles.record.ordinals.filter fun i => named.contains i && !(roles.excluded set).contains i

/-- The fields that were named for a set but are kept out of it. -/
def dropped (roles : Roles) (set : FieldSet) (named : List Nat) : List Dropped :=
  ((roles.excluded set).filter named.contains).map fun i => ⟨roles.nameAt i, set⟩

def withSet (roles : Roles) (set : FieldSet) (ordinals : List Nat) : Roles :=
  match set with
  | .read => { roles with read := ordinals }
  | .write => { roles with write := ordinals }

/-- Replaces a set by the named fields, less those that a role keeps out; these are reported. -/
def setFields (roles : Roles) (set : FieldSet) (names : List String) :
    Except GenerationError (Roles × List Dropped) :=
  match roles.resolveAll names with
  | .error e => .error e
  | .ok named => .ok (roles.withSet set (roles.members set named), roles.dropped set named)

/-- Makes each set as large as the roles allow. -/
def resetSets (roles : Roles) : Roles :=
  let all := roles.record.ordinals
  { roles with read := roles.members .read all, write := roles.members .write all }

/-- The names of the fields that are read, each after `lead`. -/
def readNames (roles : Roles) (lead : String) : List String :=
  roles.read.map fun i => lead ++ roles.nameAt i

def readColumns (roles : Roles) (lead : String) : List String :=
  roles.read.map fun i => lead ++ roles.columnAt i

/-- The value that a field hands to the database: its name after `lead`, by reference where its shape
asks for it. -/
def argument (lead : String) (field : Field) : String :=
  (if field.shape.byReference then "&" else "") ++ lead ++ field.name

/-- The values of the fields that are written. -/
def writeNames (roles : Roles) (lead : String) : List String :=
  (roles.write.filterMap roles.record.field?).map (argument lead)

def writeColumns (roles : Roles) (lead : String) : List String :=
  roles.write.map fun i => lead ++ roles.columnAt i

/-- The name of the primary field, empty if there is none. -/
def primaryName (roles : Roles) : String :=
  match roles.primary with
  | some ordinal => roles.nameAt ordinal
  | none => ""

def primaryColumn (roles : Roles) : String :=
  match roles.primary with
  | some ordinal => roles.columnAt ordinal
  | none => ""

def softDeleteColumn? (roles : Roles) : Option String := roles.softDelete.map roles.columnAt

/-- What function names end in. -/
def suffix (roles : Roles) : String := if roles.skipSuffix then "" else roles.model

/-- The words for the roles of the field at an ordinal. -/
def tags (roles : Roles) (ordinal : Nat) : List String :=
  (if roles.primary = some ordinal then ["primary"] else []) ++
  (if roles.softDelete = some ordinal then ["soft-delete"] else []) ++
  (if roles.read.contains ordinal then ["read"] else []) ++
  (if roles.write.contains ordinal then ["write"] else [])

/-- The largest width of a cell. -/
def widthLimit : Nat := 65535

/-- The text with spaces after it, `width` characters at least. -/
def filled (text : String) (width : Nat) : String :=
  text ++ String.ofList (List.replicate (width - text.length) ' ')

/-- The text filled up to a width, unless that is beyond the limit; the text itself may be longer. -/
def padded (text : String) (width : Nat) : Option String :=
  if width ≤ widthLimit then some (filled text width) else none

/-- The largest number of bytes of some texts. -/
def widthOf (texts : List String) : Nat := (texts.map String.utf8ByteSize).foldr max 0

/-- The line of a field at an ordinal, its cells of the given widths. -/
def line (roles : Roles) (nameWidth columnWidth ordinal : Nat) (field : Field) : Option String := do
  let name ← padded field.name nameWidth
  let column ← padded field.column columnWidth
  return name ++ "  " ++ column ++ "  " ++ field.type ++
    "  [" ++ String.intercalate ", " (roles.tags ordinal) ++ "]"

def nameWidth (roles : Roles) : Nat := widthOf (roles.record.fields.map Field.name)

def columnWidth (roles : Roles) : Nat := widthOf (roles.record.fields.map Field.column)

/-- The lines of the table, in the order of the fields, if all of them can be made. -/
def lines (roles : Roles) : Option (List String) :=
  let nameWidth := roles.nameWidth
  let columnWidth := roles.columnWidth
  roles.record.fields.zipIdx.mapM fun (field, ordinal) => roles.line nameWidth columnWidth ordinal field

end Roles
end RecordAccess
