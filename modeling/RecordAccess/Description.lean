import RecordAccess.Manifest

/-!
# Descriptions of records

A record is described in a manifest or by compact field texts. Field texts describe one record and no
package, so whoever generates from them has to name the package.
-/
namespace RecordAccess

inductive DescriptionError where
  /-- There is neither a manifest nor a field text. -/
  | nothingGiven
  /-- Field texts are given and no package is named. -/
  | noPackage
  | generation (error : GenerationError)
  deriving DecidableEq, Repr

def DescriptionError.message : DescriptionError → String
  | nothingGiven => "Either --manifest or at least one --field is required"
  | noPackage => "--pkg is required when fields are given with --field"
  | generation error => error.message

inductive Description where
  | manifest (manifest : Manifest)
  | inline (record : Record)
  deriving DecidableEq, Repr

namespace Description

/-- The fields that compact texts describe; the first text that is none decides. -/
def parseFields : List String → Except GenerationError (List FieldSpec)
  | [] => .ok []
  | text :: rest =>
    match FieldSpec.parse text with
    | .error e => .error e
    | .ok spec =>
      match parseFields rest with
      | .error e => .error e
      | .ok specs => .ok (spec :: specs)

def inlineRecord (name : String) (fields : List String) : Except GenerationError Record :=
  match parseFields fields with
  | .error e => .error e
  | .ok specs => Record.ofSpecs (Text.trimmed name) specs

/-- The description by compact texts, of which there has to be one. -/
def ofFields (name : String) (fields : List String) : Except DescriptionError Description :=
  if fields.isEmpty then .error .nothingGiven
  else
    match inlineRecord name fields with
    | .error e => .error (.generation e)
    | .ok record => .ok (.inline record)

/-- The described record; a description by field texts does not look at the name. -/
def record (description : Description) (name : String) : Except GenerationError Record :=
  match description with
  | .manifest known => known.lookup name
  | .inline record => .ok record

def generate (description : Description) (generator : Generator) (name : String) :
    Except DescriptionError (Reported GeneratedSource) :=
  match description with
  | .manifest known => .ok (generator.generateFrom known.source name)
  | .inline record =>
    match generator.settings.package with
    | none => .error .noPackage
    | some package => .ok (generator.generate record package)

end Description
end RecordAccess
