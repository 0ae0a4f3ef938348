import RecordAccess.Number.Shortest
import RecordAccess.Text.Quoted

/-!
# Problems of a JSON text

A reader of JSON text stops at the first problem from the left. Either the text is not well formed, or
it ends too early, or it is well formed so far but not what the reader demands. Every stop keeps what
was not read yet, which tells where it happened.
-/
namespace RecordAccess.Json

inductive Found where
  | null
  | boolean (value : Bool)
  | integer (value : Int)
  | fraction (value : Number.Real)
  | text (value : String)
  | sequence
  | map
  deriving DecidableEq, Repr

inductive Misfit where
  /-- A value of another type. -/
  | wrongType (found : Found) (expected : String)
  /-- A member that is demanded and not there. -/
  | missingField (key : String)
  /-- A member that is there twice. -/
  | repeatedField (key : String)
  /-- An array that ends before the member that is demanded at this place. -/
  | wrongLength (length : Nat) (expected : String)
  deriving DecidableEq, Repr

inductive Problem where
  | malformed
  | endOfText
  | misfit (cause : Misfit)
  deriving DecidableEq, Repr

/-- A problem, and the text that was not read when it was noticed. -/
structure Stop where
  problem : Problem
  rest : List Char
  deriving DecidableEq, Repr

/-- The outcome of reading from the start of a text: a value and the text after it. -/
abbrev Reading (α : Type) := Except Stop (α × List Char)

/-- A way to read a value from the start of a text. It always takes some of the text. -/
structure Reader (α : Type) where
  run : List Char → Reading α
  length_lt : ∀ {s rest : List Char} {value : α}, run s = .ok (value, rest) → rest.length < s.length

theorem map_eq_ok {ε α β : Type} {f : α → β} {result : Except ε α} {value : β}
    (h : result.map f = .ok value) : ∃ start, result = .ok start ∧ f start = value := by
  cases result with
  | error e => simp [Except.map] at h
  | ok start => exact ⟨start, rfl, by simpa [Except.map] using h⟩

def malformed {α : Type} (rest : List Char) : Except Stop α := .error ⟨.malformed, rest⟩

def endOfText {α : Type} : Except Stop α := .error ⟨.endOfText, []⟩

def misfit {α : Type} (cause : Misfit) (rest : List Char) : Except Stop α :=
  .error ⟨.misfit cause, rest⟩

def Found.message : Found → String
  | null => "null"
  | boolean value => "boolean " ++ Text.ticked (if value then "true" else "false")
  | integer value => "integer " ++ Text.ticked (toString value)
  | fraction value => "floating point " ++ Text.ticked value.text
  | text value => "string " ++ Text.quoted value
  | sequence => "sequence"
  | map => "map"

def Misfit.message : Misfit → String
  | wrongType found expected => "invalid type: " ++ found.message ++ ", expected " ++ expected
  | missingField key => "missing field " ++ Text.ticked key
  | repeatedField key => "duplicate field " ++ Text.ticked key
  | wrongLength length expected =>
    "invalid length " ++ toString length ++ ", expected " ++ expected

def byteCount (s : List Char) : Nat := (String.ofList s).utf8ByteSize

/-- A place in a text: its line, from one on, and the number of bytes before it on that line. -/
structure Place where
  line : Nat
  column : Nat
  deriving DecidableEq, Repr

/-- The place at which a text goes on with `rest`. -/
def placeOf (text rest : List Char) : Place :=
  let before := text.take (text.length - rest.length)
  { line := before.count '\n' + 1
    column := byteCount (before.reverse.takeWhile (· != '\n')) }

def Place.message (place : Place) : String :=
  " at line " ++ toString place.line ++ " column " ++ toString place.column

end RecordAccess.Json
