import RecordAccess.Roles

/-!
# Classification

Gives a record's fields their roles. A field called `ID` is the primary key and a field called
`DeletedAt` marks deletion, unless an override names others; both sets then hold all the fields that
the roles allow, unless an override names them. Overrides are applied in a fixed order and the first
one that fails decides the error.
-/
namespace RecordAccess

structure Overrides where
  table : Option String := none
  readFields : Option (List String) := none
  writeFields : Option (List String) := none
  primaryField : Option String := none
  softDeleteField : Option String := none
  skipSuffix : Bool := false
  deriving DecidableEq, Repr

/-- The outcome of a step, with the fields that overrides named in vain, reported up to its end. -/
structure Reported (α : Type) where
  outcome : Except GenerationError α
  dropped : List Dropped

namespace Classification

def conventionalPrimary : String := "ID"

def conventionalSoftDelete : String := "DeletedAt"

/-- The name that gives a role: the override, else the conventional name if a field has it. -/
def roleName (record : Record) (override : Option String) (convention : String) : Option String :=
  match override with
  | some name => some name
  | none => (record.position? convention).map fun _ => convention

/-- Applies a setter if there is a name for it. -/
def assign (setter : Roles → String → Except GenerationError Roles) (roles : Roles) :
    Option String → Except GenerationError Roles
  | none => .ok roles
  | some name => setter roles name

/-- The primary field and the mark of deletion, which must be two fields. -/
def keyRoles (record : Record) (overrides : Overrides) : Except GenerationError Roles := do
  let roles ← assign Roles.setPrimary (Roles.ofRecord record)
    (roleName record overrides.primaryField conventionalPrimary)
  let roles ← assign Roles.setSoftDelete roles
    (roleName record overrides.softDeleteField conventionalSoftDelete)
  match roles.primary with
  | some ordinal =>
    if roles.softDelete = some ordinal then
      .error (.conflictingRoles record.name (roles.nameAt ordinal))
    else .ok roles
  | none => .ok roles

/-- Replaces a set if there are names for it. -/
def override (roles : Roles) (set : FieldSet) :
    Option (List String) → Except GenerationError (Roles × List Dropped)
  | none => .ok (roles, [])
  | some names => roles.setFields set names

/-- The table and the form of function names. -/
def named (roles : Roles) (overrides : Overrides) : Roles :=
  let roles := match overrides.table with
    | some table => roles.setTable (Text.trimmed table)
    | none => roles
  roles.setSkipSuffix overrides.skipSuffix

def classify (record : Record) (overrides : Overrides) : Reported Roles :=
  match keyRoles record overrides with
  | .error e => ⟨.error e, []⟩
  | .ok roles =>
    match override roles.resetSets .read overrides.readFields with
    | .error e => ⟨.error e, []⟩
    | .ok (roles, droppedReads) =>
      match override roles .write overrides.writeFields with
      | .error e => ⟨.error e, droppedReads⟩
      | .ok (roles, droppedWrites) => ⟨.ok (named roles overrides), droppedReads ++ droppedWrites⟩

end Classification
end RecordAccess
