import RecordAccess.Error
import RecordAccess.Field.Tag
import RecordAccess.Text.Blank
import RecordAccess.Text.Letters

/-!
# Field specifications

What is said about one field before it joins a record: its name and declared type, and where its
column comes from. The compact form is `Name:type` or `Name:type:column`; further colons belong to
the column. The shape of a Go type expression is read off its text. Generated code needs one fact from it:
a value of a named type is handed to the database by reference, every other value as it is.
-/
namespace RecordAccess

/-- The structural shape of a declared type. -/
inductive Shape where
  /-- A predeclared type such as `string`. -/
  | basic
  /-- A type known by an identifier, possibly of another package. -/
  | named
  | pointer
  | slice
  | map
  /-- Any other type expression. -/
  | other
  deriving DecidableEq, Repr

namespace Shape

open Text

/-- The predeclared types that are never passed by reference. The predeclared `error` is not one of
them: it is an interface with a name. -/
def predeclared : List String :=
  ["bool", "string", "byte", "rune", "int", "int8", "int16", "int32", "int64", "uint", "uint8",
    "uint16", "uint32", "uint64", "uintptr", "float32", "float64", "complex64", "complex128", "any"]

def isQualifiedIdentifier (s : List Char) : Bool :=
  match s.dropWhile (· != '.') with
  | [] => isIdentifier s
  | _ :: name => isIdentifier (s.takeWhile (· != '.')) && isIdentifier name

/-- The shape of a type expression without surrounding blanks. -/
def ofTrimmed : List Char → Shape
  | '*' :: _ => pointer
  | '[' :: _ => slice
  | 'm' :: 'a' :: 'p' :: '[' :: _ => map
  | expr =>
    if predeclared.contains (String.ofList expr) then basic
    else if isQualifiedIdentifier expr then named
    else other

def ofType (type : String) : Shape := ofTrimmed (trim type.toList)

/-- Whether a value of this shape is passed by reference. -/
def byReference (shape : Shape) : Bool := shape == named

end Shape

structure FieldSpec where
  name : String
  /-- The declared type, as written. -/
  type : String
  /-- A column given on its own, which wins over the tag. -/
  column : Option String := none
  /-- The struct tag, as written. -/
  tag : Option String := none
  deriving DecidableEq, Repr

namespace FieldSpec

open Text

/-- The text before the first colon, and the text after it if there is one. -/
def splitColon (s : List Char) : List Char × Option (List Char) :=
  match s.dropWhile (· != ':') with
  | [] => (s, none)
  | _ :: rest => (s.takeWhile (· != ':'), some rest)

/-- The texts between the first two colons of a compact form; what is missing is empty. -/
def parts (s : List Char) : List Char × List Char × List Char :=
  let (name, rest) := splitColon s
  let (type, column) := splitColon (rest.getD [])
  (trim name, trim type, trim (column.getD []))

def parse (input : String) : Except GenerationError FieldSpec :=
  let (name, type, column) := parts input.toList
  if !isIdentifier name || type.isEmpty then .error (.invalidFieldSpec input)
  else .ok {
    name := String.ofList name
    type := String.ofList type
    column := if column.isEmpty then none else some (String.ofList column) }

/-- The column that the description names: the one given on its own, else the tag's. -/
def namedColumn (spec : FieldSpec) : Option String := spec.column <|> spec.tag.bind Tag.column?

end FieldSpec
end RecordAccess
