import RecordAccess.Config.Reading
import RecordAccess.Host.View

/-!
# Layers of settings

Settings are put together from layers. Each layer gives values to some keys, and the last layer that
gives one to a key decides; only maps are joined. A key that no layer knows keeps its default, and a key
that is no setting has no effect. A value that does not suit is reported with the source that gave it.
-/
namespace RecordAccess.Config

structure Layer where
  source : Source
  entries : List (String × Value)

inductive LoadError where
  /-- The file could not be read. -/
  | unread (name : String) (fault : ReadFault)
  /-- The text of the file is not in the form of a configuration. -/
  | malformed (name : String)
  /-- A value does not suit its key. -/
  | unfit (source : Source) (path : List String) (mismatch : Mismatch)

def LoadError.cause : LoadError → String
  | unread name fault => fault.message ++ "\n in " ++ (Source.file name).message
  | malformed name => "TOML parse error in " ++ (Source.file name).message
  | unfit source path mismatch =>
    mismatch.message ++ " for key " ++ Text.quoted (source.key path) ++ " in " ++ source.message

def LoadError.message (error : LoadError) : String := "configuration error: " ++ error.cause

/-- What all layers together give to keys. -/
def combined (layers : List Layer) : List (String × Value) :=
  layers.foldl (fun entries layer => joined layer.entries entries) []

/-- What stands at the end of a way inside a value. -/
def Value.at? (value : Value) : List String → Option Value
  | [] => some value
  | key :: way =>
    match value with
    | .map entries => (entries.lookup key).bind fun value => value.at? way
    | .list items => (key.toNat?.bind (items[·]?)).bind fun value => value.at? way
    | _ => none

/-- Whether a layer says what stands at the end of a way. -/
def Layer.gives (layer : Layer) (way : List String) : Bool :=
  ((Value.map layer.entries).at? way).isSome

/-- The source of what stands at the end of a way: of the layers that say something there, the last one
decided. -/
def giver (layers : List Layer) (way : List String) : Source :=
  ((layers.reverse.find? (·.gives way)).map Layer.source).getD .environment

/-- Reads the setting of a key; `default` is the one that holds without any value. -/
def readKey {α : Type} (layers : List Layer) (key : String) (default : α) (read : Reader α) :
    Except LoadError α :=
  match (combined layers).lookup key with
  | none => .ok default
  | some value =>
    match read value with
    | .ok setting => .ok setting
    | .error ⟨path, mismatch⟩ => .error (.unfit (giver layers (key :: path)) (key :: path) mismatch)

/-- The settings that layers give, read in the order of the keys. -/
def settingsOf (layers : List Layer) : Except LoadError Settings := do
  let start : Settings := {}
  let format ← readKey layers "format" start.format asFormatMode
  let operations ← readKey layers "operations" start.operations (asList asOperation)
  let package ← readKey layers "package" start.package (given asText)
  let parallel ← readKey layers "parallel" start.parallel asBoolean
  let primaryField ← readKey layers "primary_field" start.primaryField (given asText)
  let readFields ← readKey layers "read_fields" start.readFields (given (asList asText))
  let skipSuffix ← readKey layers "skip_suffix" start.skipSuffix asBoolean
  let softDeleteField ← readKey layers "soft_delete_field" start.softDeleteField (given asText)
  let table ← readKey layers "table" start.table (given asText)
  let writeFields ← readKey layers "write_fields" start.writeFields (given (asList asText))
  return {
    operations, package, table, readFields, writeFields, primaryField, softDeleteField, skipSuffix
    format, parallel }

end RecordAccess.Config
