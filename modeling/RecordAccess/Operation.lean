import RecordAccess.Error
import RecordAccess.Text.Blank
import RecordAccess.Text.Lowercase

/-!
# Operations

The five data-access functions that can be generated for a record, and how a request names them.
-/
namespace RecordAccess

/-- A data-access function to generate. -/
inductive Operation where
  | create
  | get
  /-- Fetches a page of entries. -/
  | list
  | update
  | delete
  deriving DecidableEq, Repr

namespace Operation

/-- All operations, in the order in which they are generated by default. -/
def all : List Operation := [create, get, list, update, delete]

def name : Operation → String
  | create => "create"
  | get => "get"
  | list => "list"
  | update => "update"
  | delete => "delete"

/-- Whether the operation finds its entry by the primary key. -/
def needsPrimary : Operation → Bool
  | get | update | delete => true
  | create | list => false

/-- The operation of exactly that name. -/
def named? (word : String) : Option Operation := all.find? fun operation => operation.name == word

/-- The operation that a request means: blanks around the word and letter case do not matter, and
`read` is another word for `get`. -/
def parse (text : String) : Except GenerationError Operation :=
  let word := Text.lowercase (Text.trimmed text)
  match if word == "read" then some get else named? word with
  | some operation => .ok operation
  | none => .error (.unknownOperation word)

end Operation
end RecordAccess
