import RecordAccess.Number.Shortest
import RecordAccess.Text.Quoted

/-!
# Values of settings and where they come from

Settings come from files and from the environment. A source has a name for messages, and its own way of
writing how one gets to a value.

What a configuration may say for a key. Maps keep their entries in the order of the keys, and each key
once. Of two values for the same key the newer one stands, but two maps are joined, key by key.
-/
namespace RecordAccess.Config

inductive Source where
  /-- A file, by the name that leads to it. -/
  | file (name : String)
  /-- The environment. -/
  | environment
  deriving DecidableEq, Repr

def variableStart : String := "CRUDGEN_"

def Source.message : Source → String
  | file name => name ++ " TOML file"
  | environment => Text.ticked variableStart ++ " environment variable(s)"

/-- The way to a value as its source writes it: the names of variables are upper case. -/
def Source.key (source : Source) (path : List String) : String :=
  match source with
  | file _ => String.intercalate "." ("default" :: path)
  | environment => String.ofList ((String.intercalate "." path).toList.map Char.toUpper)

inductive Value where
  | text (value : String)
  /-- A single character, which counts as text. -/
  | character (value : Char)
  | boolean (value : Bool)
  /-- A whole number that was written without regard to sign. -/
  | natural (value : Nat)
  /-- A whole number that has a sign or might have one. -/
  | integer (value : Int)
  | fraction (value : Number.Real)
  | list (items : List Value)
  /-- Values by key, in the order of the keys. -/
  | map (entries : List (String × Value))
  deriving Inhabited

def Value.message : Value → String
  | text value => "string " ++ Text.quoted value
  | character value => "string " ++ Text.quoted (String.singleton value)
  | boolean value => "bool " ++ (if value then "true" else "false")
  | natural value => "unsigned int " ++ Text.ticked (toString value)
  | integer value => "signed int " ++ Text.ticked (toString value)
  | fraction value => "float " ++ Text.ticked value.positional
  | list _ => "sequence"
  | map _ => "map"

/-- Puts a value at a key, in place of the one that stood there. -/
def put (key : String) (value : Value) : List (String × Value) → List (String × Value)
  | [] => [(key, value)]
  | (first, old) :: rest =>
    if key < first then (key, value) :: (first, old) :: rest
    else if key = first then (key, value) :: rest
    else (first, old) :: put key value rest

/-- A key has the value that was put there, and other keys keep theirs. -/
theorem lookup_put (key other : String) (value : Value) (entries : List (String × Value)) :
    (put key value entries).lookup other =
      if other = key then some value else entries.lookup other := by
  induction entries with
  | nil => grind [put]
  | cons entry rest ih => grind [put]

mutual

/-- Puts a newer value in place of an older one; maps are joined. -/
def Value.over : Value → Value → Value
  | .map newer, .map older => .map (joined newer older)
  | newer, _ => newer

/-- Older entries with newer ones over them. -/
def joined : List (String × Value) → List (String × Value) → List (String × Value)
  | [], older => older
  | (key, value) :: rest, older =>
    joined rest (put key ((older.lookup key).elim value value.over) older)

end

/-- The value of pairs of a key and a value, of which the later ones count. -/
def mapOf (pairs : List (String × Value)) : Value :=
  .map (pairs.foldl (fun entries (key, value) => put key value entries) [])

end RecordAccess.Config
