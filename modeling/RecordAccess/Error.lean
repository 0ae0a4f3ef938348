/-!
# Errors of generation

Every way in which describing a record, classifying its fields or generating its functions can fail.
Each error holds what its message names; the wording is in one place.
-/
namespace RecordAccess

inductive GenerationError where
  | recordNotFound (name package : String)
  /-- The type of that name is of another kind. -/
  | notAStruct (name kind : String)
  | duplicateField (record field : String)
  /-- A compact field text has no identifier or no type. -/
  | invalidFieldSpec (input : String)
  | fieldNotFound (name record : String)
  /-- A keyed operation was asked for and there is no primary field. -/
  | missingPrimaryField (record : String)
  /-- One field was given both key roles. -/
  | conflictingRoles (record field : String)
  /-- An update was asked for and no field is left to assign. -/
  | emptyWriteSet (record : String)
  | unknownOperation (name : String)
  | templateNotFound (name : String)
  /-- A template needs a variable that its context lacks. -/
  | missingVariable (variableName : String)
  /-- The formatter rejected the text. -/
  | format (diagnostic : String)
  deriving DecidableEq, Repr

def GenerationError.message : GenerationError → String
  | recordNotFound name package =>
    "the struct " ++ name ++ " doesn't seem to exist in package " ++ package
  | notAStruct name kind => "the type " ++ name ++ " is not a struct (found " ++ kind ++ ")"
  | duplicateField record field =>
    "the field " ++ field ++ " is declared more than once in struct " ++ record
  | invalidFieldSpec input =>
    "invalid field spec '" ++ input ++ "'. Expected format: Name:type[:column]"
  | fieldNotFound name record => "the field " ++ name ++ " does not exist in struct " ++ record
  | missingPrimaryField record =>
    "struct " ++ record ++ " has no primary field; name one with an override or add an `ID` field"
  | conflictingRoles record field =>
    "the field " ++ field ++ " of struct " ++ record ++
      " cannot be both the primary and the soft-delete field"
  | emptyWriteSet record => "struct " ++ record ++ " has no write fields to update"
  | unknownOperation name =>
    "unknown operation '" ++ name ++ "'. Valid operations: create, get, list, update, delete"
  | templateNotFound name => "template error: Template not found " ++ name
  | missingVariable name => "template error: Variable \"" ++ name ++ "\" not found in strict mode."
  | format diagnostic => "format error: " ++ diagnostic

end RecordAccess
