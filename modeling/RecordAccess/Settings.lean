import RecordAccess.Classification
import RecordAccess.Operation

/-!
# Settings

Everything that one generation run can be told.
-/
namespace RecordAccess

inductive FormatMode where
  /-- Check the text and tidy its layout. -/
  | check
  /-- Leave the text as it is. -/
  | none
  deriving DecidableEq, Repr

def FormatMode.name : FormatMode → String
  | check => "check"
  | none => "none"

structure Settings where
  /-- The operations to generate, in the order of their functions. -/
  operations : List Operation := Operation.all
  /-- The package of the output, instead of the record's. -/
  package : Option String := none
  table : Option String := none
  readFields : Option (List String) := none
  writeFields : Option (List String) := none
  primaryField : Option String := none
  softDeleteField : Option String := none
  skipSuffix : Bool := false
  format : FormatMode := .check
  /-- Whether operations are rendered side by side. -/
  parallel : Bool := false
  deriving DecidableEq, Repr

namespace Settings

def overrides (settings : Settings) : Overrides where
  table := settings.table
  readFields := settings.readFields
  writeFields := settings.writeFields
  primaryField := settings.primaryField
  softDeleteField := settings.softDeleteField
  skipSuffix := settings.skipSuffix

/-- The requested operations, each at its first place only. -/
def uniqueOperations (settings : Settings) : List Operation := settings.operations.eraseDups

end Settings
end RecordAccess
