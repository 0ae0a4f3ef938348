import RecordAccess.Proofs.Sql.Tokens
import RecordAccess.Sql.Statement

/-!
# Statements from texts

A database gets a statement as a text. It reads the words and the marks of the text, cuts them at the
keywords that open clauses, and splits the clauses into their items.
-/
namespace RecordAccess.Sql

open Text

section Clauses
variable {α : Type}

/-- The tokens before the first of a kind, and those after it if there is one. -/
def cut (token : Token) : List Token → List Token × Option (List Token)
  | [] => ([], none)
  | first :: rest =>
    if first = token then ([], some rest) else (first :: (cut token rest).1, (cut token rest).2)

/-- Reads items between tokens of a kind, at least one. -/
def readItems (separator : Token) (item : List Token → Option α) (tokens : List Token) :
    Option (List α) :=
  (tokens.splitOn separator).mapM item

/-- Reads a clause that may be missing. -/
def readClause (separator : Token) (item : List Token → Option α) :
    Option (List Token) → Option (List α)
  | none => some []
  | some tokens => readItems separator item tokens

end Clauses

def index? (word : String) : Option Nat :=
  match word.toList with
  | '$' :: digits =>
    if digits ≠ [] ∧ digits.all Char.isDigit then some (Nat.ofDigitChars 10 digits 0) else none
  | _ => none

def name? : List Token → Option String
  | [.word name] => some name
  | _ => none

def condition? : List Token → Option Condition
  | [.word column, .mark '=', .word value] => (index? value).map (.equals column)
  | [.word column, .word "IS", .word "NULL"] => some (.isNull column)
  | _ => none

def value? : List Token → Option Value
  | [.word "NOW", .mark '(', .mark ')'] => some .now
  | [.word value] => (index? value).map .placeholder
  | _ => none

def assignment? : List Token → Option Assignment
  | .word column :: .mark '=' :: value => (value? value).map (⟨column, ·⟩)
  | _ => none

def conditions? : Option (List Token) → Option (List Condition) :=
  readClause (.word "AND") condition?

def names? : Option (List Token) → Option (List String) := readClause (.mark ',') name?

/-- Reads what an insertion gives to its columns. They take the placeholders in order. -/
def source? : List Token → Option (List String)
  | [.word "DEFAULT", .word "VALUES"] => some []
  | .mark '(' :: rest =>
    match cut (.mark ')') rest with
    | (columns, some (.word "VALUES" :: .mark '(' :: rest)) =>
      match names? (some columns), cut (.mark ')') rest with
      | some columns, (values, some []) =>
        if names? (some values) = some (placeholders columns.length) then some columns else none
      | _, _ => none
    | _ => none
  | _ => none

def Statement.ofTokens? : List Token → Option Statement
  | .word "SELECT" :: rest =>
    match cut (.word "FROM") rest with
    | (columns, some rest) =>
      match cut (.word "WHERE") rest with
      | ([.word table], conditions) => do
        let columns ← names? (if columns = [] then none else some columns)
        return .select columns table (← conditions? conditions)
      | _ => none
    | _ => none
  | .word "INSERT" :: .word "INTO" :: .word table :: rest => do
    let (source, returning) := cut (.word "RETURNING") rest
    return .insert table (← source? source) (← names? returning)
  | .word "UPDATE" :: .word table :: .word "SET" :: rest => do
    let (rest, returning) := cut (.word "RETURNING") rest
    let (assignments, conditions) := cut (.word "WHERE") rest
    return .update table (← readItems (.mark ',') assignment? assignments) (← conditions? conditions)
      (← names? returning)
  | .word "DELETE" :: .word "FROM" :: .word table :: rest =>
    match cut (.word "WHERE") rest with
    | ([], conditions) => do return .delete table (← conditions? conditions)
    | _ => none
  | _ => none

def Statement.ofText? (text : String) : Option Statement := ofTokens? (tokens text)

end RecordAccess.Sql
