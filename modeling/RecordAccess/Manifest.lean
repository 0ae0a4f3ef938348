import RecordAccess.Generation
import RecordAccess.Json.Fault
import RecordAccess.Json.Layout

/-!
# Manifests

A manifest describes a package: its name, the identifiers that it declares already, and its types, of
which the structures are records. A record is looked up by its exact name; the first entry of that name
counts. Reading the JSON form accepts every spelling of a manifest, writing chooses one: members in their
order, columns and tags only where there are any, and no gaps.
-/
namespace RecordAccess

structure RecordEntry where
  name : String
  /-- The kind of the type. -/
  kind : String := "struct"
  fields : List FieldSpec := []
  deriving DecidableEq, Repr

/-- The kind of a record type; letter case does not matter. -/
def RecordEntry.structKind : String := "struct"

def RecordEntry.isStruct (entry : RecordEntry) : Bool :=
  entry.kind.toList.map Char.toLower == structKind.toList

structure Manifest where
  package : String
  /-- The identifiers that the package declares. -/
  declarations : List String := []
  records : List RecordEntry := []
  deriving DecidableEq, Repr

namespace Manifest

/-- The record of exactly that name. -/
def lookup (manifest : Manifest) (name : String) : Except GenerationError Record :=
  match manifest.records.find? fun entry => entry.name == name with
  | none => .error (.recordNotFound name manifest.package)
  | some entry =>
    if entry.isStruct then Record.ofSpecs entry.name entry.fields
    else .error (.notAStruct name entry.kind)

def source (manifest : Manifest) : RecordSource where
  package := manifest.package
  existing := manifest.declarations
  lookup := manifest.lookup

end Manifest

open Json

def FieldSpec.layout : Layout FieldSpec where
  name := "FieldSpec"
  blank := { name := "", type := "" }
  slots := [
    slot "name" true Reader.text fun name spec => { spec with name },
    slot "type" true Reader.text fun type spec => { spec with type },
    slot "column" false Reader.text.optional fun column spec => { spec with column },
    slot "tag" false Reader.text.optional fun tag spec => { spec with tag }]

def RecordEntry.layout : Layout RecordEntry where
  name := "RecordEntry"
  blank := { name := "" }
  slots := [
    slot "name" true Reader.text fun name entry => { entry with name },
    slot "kind" false Reader.text fun kind entry => { entry with kind },
    slot "fields" false FieldSpec.layout.reader.list fun fields entry => { entry with fields }]

def Manifest.layout : Layout Manifest where
  name := "PackageManifest"
  blank := { package := "" }
  slots := [
    slot "package" true Reader.text fun package manifest => { manifest with package },
    slot "declarations" false Reader.text.list fun declarations manifest =>
      { manifest with declarations },
    slot "records" false RecordEntry.layout.reader.list fun records manifest =>
      { manifest with records }]

/-- Reads a manifest from a text that holds nothing else. -/
def Manifest.parse (text : String) : Except Stop Manifest :=
  readWhole? Manifest.layout.read text.toList

def writtenIfSome (key : String) (value : Option String) : List (String × List Char) :=
  (value.map fun value => (key, writeString value)).toList

def FieldSpec.write (spec : FieldSpec) : List Char :=
  writeObject ([("name", writeString spec.name), ("type", writeString spec.type)] ++
    writtenIfSome "column" spec.column ++ writtenIfSome "tag" spec.tag)

def RecordEntry.write (entry : RecordEntry) : List Char :=
  writeObject [("name", writeString entry.name), ("kind", writeString entry.kind),
    ("fields", writeArray (entry.fields.map FieldSpec.write))]

def Manifest.write (manifest : Manifest) : List Char :=
  writeObject [("package", writeString manifest.package),
    ("declarations", writeArray (manifest.declarations.map writeString)),
    ("records", writeArray (manifest.records.map RecordEntry.write))]

def Manifest.print (manifest : Manifest) : String := String.ofList manifest.write

end RecordAccess
