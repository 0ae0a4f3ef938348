import RecordAccess.Error
import RecordAccess.Number.Shortest

/-!
# Templates

A template is a row of pieces: literal text, holes for variables, and parts that appear only if a
variable has something to show. A hole takes the text of its variable as it is. A variable that a
hole needs and the context lacks is an error, the first one from the left; a conditional part whose
variable is missing is left out.
-/
namespace RecordAccess

inductive TemplateValue where
  | null
  | boolean (value : Bool)
  | integer (value : Int)
  /-- A number that is not written as a whole one, or too large for that. -/
  | fraction (value : Number.Real)
  | text (value : String)
  | list (items : List TemplateValue)
  /-- Values by name, of which only whether there are any shows. -/
  | object (members : List (String × TemplateValue))
  deriving Inhabited

/-- The text that a hole takes. -/
def TemplateValue.render : TemplateValue → String
  | null => ""
  | boolean value => if value then "true" else "false"
  | integer value => toString value
  | fraction value => value.text
  | text value => value
  | list items => "[" ++ String.intercalate ", " (items.map TemplateValue.render) ++ "]"
  | object _ => "[object]"

/-- Whether a conditional part shows for this value. A number that is zero, or next to it without all its
bits of precision, has nothing to show. -/
def TemplateValue.isShown : TemplateValue → Bool
  | null => false
  | boolean value => value
  | integer value => value != 0
  | fraction value => value.isNormal
  | text value => value != ""
  | list items => !items.isEmpty
  | object members => !members.isEmpty

/-- The values of a template's variables. -/
abbrev Context := List (String × TemplateValue)

/-- Literal text, or a hole. -/
inductive Part where
  | text (value : String)
  | hole (name : String)
  deriving DecidableEq, Repr

/-- A part, or parts that appear only if a variable has something to show. -/
inductive Piece where
  | part (value : Part)
  | shownIf (name : String) (parts : List Part)
  deriving DecidableEq, Repr

/-- A template: its pieces from left to right. -/
abbrev Template := List Piece

namespace Template

def valueOf (context : Context) (name : String) : Option TemplateValue := context.lookup name

def isShown (context : Context) (name : String) : Bool :=
  match valueOf context name with
  | some value => value.isShown
  | none => false

def shownParts (context : Context) (template : Template) : List Part :=
  template.flatMap fun
    | .part value => [value]
    | .shownIf name parts => if isShown context name then parts else []

def renderParts (context : Context) : List Part → Except GenerationError String
  | [] => .ok ""
  | .text value :: rest =>
    match renderParts context rest with
    | .ok text => .ok (value ++ text)
    | .error e => .error e
  | .hole name :: rest =>
    match valueOf context name with
    | none => .error (.missingVariable name)
    | some value =>
      match renderParts context rest with
      | .ok text => .ok (value.render ++ text)
      | .error e => .error e

def render (template : Template) (context : Context) : Except GenerationError String :=
  renderParts context (shownParts context template)

end Template
end RecordAccess
