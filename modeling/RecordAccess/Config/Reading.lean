import RecordAccess.Config.Value
import RecordAccess.Operation
import RecordAccess.Settings

/-!
# Reading settings from values

What it takes for a setting to be read from a value. Nothing is converted: a number is no text and a text
is no truth value. A value that does not suit says where in it the trouble lies.
-/
namespace RecordAccess.Config

inductive Mismatch where
  | wrongType (found : Value) (expected : String)
  /-- A word that is none of those to choose from. -/
  | unknownWord (word : String) (choice : List String)

def choiceText (choice : List String) : String :=
  match choice with
  | [first, second] => Text.ticked first ++ " or " ++ Text.ticked second
  | words => "one of " ++ String.intercalate ", " (words.map Text.ticked)

def Mismatch.message : Mismatch → String
  | wrongType found expected => "invalid type: found " ++ found.message ++ ", expected " ++ expected
  | unknownWord word choice =>
    "unknown variant: found " ++ Text.ticked word ++ ", expected " ++ Text.ticked (choiceText choice)

structure Unfit where
  path : List String
  mismatch : Mismatch

/-- A way to read a setting from a value. -/
abbrev Reader (α : Type) := Value → Except Unfit α

def refuse {α : Type} (mismatch : Mismatch) : Except Unfit α := .error ⟨[], mismatch⟩

def asBoolean : Reader Bool
  | .boolean value => .ok value
  | value => refuse (.wrongType value "a boolean")

def asText : Reader String
  | .text value => .ok value
  | .character value => .ok (String.singleton value)
  | value => refuse (.wrongType value "a string")

/-- The items of a list, from the one numbered `index` on. -/
def asItems {α : Type} (read : Reader α) (index : Nat) : List Value → Except Unfit (List α)
  | [] => .ok []
  | item :: rest =>
    match read item with
    | .error unfit => .error { unfit with path := toString index :: unfit.path }
    | .ok value =>
      match asItems read (index + 1) rest with
      | .error unfit => .error unfit
      | .ok values => .ok (value :: values)

def asList {α : Type} (read : Reader α) : Reader (List α)
  | .list items => asItems read 0 items
  | value => refuse (.wrongType value "a sequence")

/-- A word that stands for one of several things. A map stands for its first key, and the way leads on to
that key; but what it stands for has no use for the value there. -/
def asChoice {α : Type} (type : String) (choice : List String) (named? : String → Option α) : Reader α
  | .text word =>
    match named? word with
    | some value => .ok value
    | none => refuse (.unknownWord word choice)
  | .map [] => refuse (.wrongType (.map []) "enum")
  | .map ((key, value) :: _) =>
    .error ⟨[key], if (named? key).isSome then .wrongType value "unit" else .unknownWord key choice⟩
  | value => refuse (.wrongType value ("enum " ++ type))

def asOperation : Reader Operation :=
  asChoice "Operation" (Operation.all.map Operation.name) Operation.named?

def formatModes : List FormatMode := [.check, .none]

def asFormatMode : Reader FormatMode :=
  asChoice "FormatMode" (formatModes.map FormatMode.name) fun word =>
    formatModes.find? fun mode => mode.name == word

/-- A setting that may be left out. -/
def given {α : Type} (read : Reader α) : Reader (Option α) := fun value => some <$> read value

end RecordAccess.Config
