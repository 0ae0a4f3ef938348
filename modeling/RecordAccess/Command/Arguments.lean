import RecordAccess.Settings

/-!
# Commands

What a command line can ask for. Both commands need a record and may overrule settings; generating has
options of its own.
-/
namespace RecordAccess

structure Arguments where
  /-- The name of the record type. -/
  record : String
  /-- The path of a manifest. -/
  manifest : Option String := none
  /-- Compact texts of fields. -/
  fields : List String := []
  table : Option String := none
  readFields : Option (List String) := none
  writeFields : Option (List String) := none
  primaryField : Option String := none
  softDeleteField : Option String := none
  skipSuffix : Bool := false
  package : Option String := none
  /-- The path of a configuration file. -/
  config : Option String := none
  deriving DecidableEq, Repr

structure GenerateOptions where
  /-- The words for the operations to generate. -/
  operations : List String := []
  /-- The path of the file to write. -/
  output : Option String := none
  /-- Whether to compare with the file instead of writing it. -/
  check : Bool := false
  /-- Whether to format through the usual program. -/
  gofmt : Bool := false
  parallel : Bool := false
  deriving DecidableEq, Repr

inductive Command where
  | generate (arguments : Arguments) (options : GenerateOptions)
  | inspect (arguments : Arguments)
  deriving DecidableEq, Repr

def Command.arguments : Command → Arguments
  | generate arguments _ => arguments
  | inspect arguments => arguments

/-- The settings as the command line overrules them, one by one. -/
def Arguments.overrule (arguments : Arguments) (settings : Settings) : Settings :=
  { settings with
    table := arguments.table.or settings.table
    readFields := arguments.readFields.or settings.readFields
    writeFields := arguments.writeFields.or settings.writeFields
    primaryField := arguments.primaryField.or settings.primaryField
    softDeleteField := arguments.softDeleteField.or settings.softDeleteField
    package := arguments.package.or settings.package
    skipSuffix := settings.skipSuffix || arguments.skipSuffix }

end RecordAccess
