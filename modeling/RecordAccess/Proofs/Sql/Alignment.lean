import RecordAccess.Proofs.Roles.Reachable
import RecordAccess.Proofs.Template.Filling

/-!
# Statements and what goes with them are aligned

A statement, the values that its function hands to it and the targets of its columns come from lists
that are built apart. For roles that calls lead to they agree: the placeholders of a statement are
numbered from one to the number of values, a column and its value stand for one field, and so do a
column of the row that comes back and its target.
-/
namespace RecordAccess

namespace Sql

def Condition.placeholders : Condition → List Nat
  | equals _ index => [index]
  | isNull _ => []

def Value.placeholders : Value → List Nat
  | placeholder index => [index]
  | now => []

/-- The numbers of a statement's placeholders, in the order of its text. -/
def Statement.placeholders : Statement → List Nat
  | select _ _ conditions => conditions.flatMap Condition.placeholders
  | insert _ columns _ => List.range' 1 columns.length
  | update _ assignments conditions _ =>
    (assignments.flatMap fun assignment => assignment.value.placeholders) ++
      conditions.flatMap Condition.placeholders
  | delete _ conditions => conditions.flatMap Condition.placeholders

end Sql

namespace Fragment
open Sql

/-- The values that the function of an operation hands to its statement, in order. -/
def handed (operation : Operation) (roles : Roles) : List String :=
  match operation with
  | .create | .update => arguments operation roles
  | .get | .delete => ["id"]
  | .list => []

section Columns
variable {roles : Roles}

theorem writeColumns_eq (h : roles.WellFormed) :
    roles.writeColumns "" = (roles.fieldsAt roles.write).map Field.column :=
  Roles.map_fieldsAt h.write_lt fun i _ hi => by rw [String.empty_append, Roles.columnAt_eq hi]

theorem readColumns_eq (h : roles.WellFormed) :
    roles.readColumns "" = (roles.fieldsAt roles.read).map Field.column :=
  Roles.map_fieldsAt h.read_lt fun i _ hi => by rw [String.empty_append, Roles.columnAt_eq hi]

end Columns

section Functions
variable (roles : Roles)

/-- The lines between a statement and the end of the call that it is passed in: the values. -/
def below (values : List String) : String :=
  if values = [] then "\n\t" else "\n\t\t" ++ commaList values ++ ",\n\t"

/-- What a function that queries one row passes to the database and where it scans the row: the
statement, the values below it, and the targets. -/
def call (query : String) (values targets : List String) : String :=
  String.join ["\n\terr := db.QueryRow(\n\t\t`", query, "`,", below values, ").Scan(",
    commaList targets, ")\n\n\treturn &y, err\n\x7d\n"]

/-- What the function of a listing starts its statement with and where it scans each row. -/
def page (select : String) (between targets : List String) : String :=
  String.join (
    [", error) \x7b\n\tvar args []interface\x7b\x7d\n\tsqlParts := []string\x7b`", select, "`\x7d"] ++
    between ++ ["\n\t\tif err := rows.Scan(", commaList targets,
      "); err != nil \x7b\n\t\t\treturn nil, err\n\t\t\x7d\n\t\tr = append(r, e)\n\t\x7d\n\n" ++
        "\treturn r, rows.Err()\n\x7d\n"])

theorem text_of_ending {operation : Operation} (n : Nat) {ending : List String}
    (h : ((shown operation roles).drop n).map (Part.filled (valueOf operation roles)) = ending) :
    ∃ opening, text operation roles = opening ++ String.join ending := by
  refine ⟨String.join (((shown operation roles).take n).map (Part.filled (valueOf operation roles))), ?_⟩
  rw [← h, ← String.join_append, ← List.map_append, List.take_append_drop]
  rfl

theorem text_create : ∃ opening, text .create roles = opening ++
    call (statement .create roles).text (handed .create roles) (targets .create roles) := by
  let values := if arguments .create roles = [] then [] else
    ["\n\t\t", commaList (arguments .create roles), ","]
  obtain ⟨opening, hopening⟩ := @text_of_ending roles .create 11
    (["\n\terr := db.QueryRow(\n\t\t`", (statement .create roles).text, "`,"] ++ values ++
      ["\n\t", ").Scan(", commaList (targets .create roles), ")\n\n\treturn &y, err\n\x7d\n"]) <| by
    rw [shown_eq_variant]
    by_cases none : arguments .create roles = []
    · simp only [values, if_pos none]
      rw [show visible .create roles = false by simp [visible, none]]
      rfl
    · simp only [values, if_neg none]
      rw [show visible .create roles = true by simp [visible, none]]
      rfl
  have lines : String.join values ++ "\n\t" = below (handed .create roles) := by
    have comma : ",\n\t" = "," ++ "\n\t" := by decide
    simp only [values, below, handed, comma]
    split <;> simp [String.append_assoc]
  refine ⟨opening, hopening.trans ?_⟩
  rw [call, ← lines]
  simp [String.append_assoc]

theorem text_update : ∃ opening, text .update roles = opening ++
    call (statement .update roles).text (handed .update roles) (targets .update roles) := by
  have filled : handed .update roles ≠ [] := by simp [handed, arguments]
  obtain ⟨opening, hopening⟩ := @text_of_ending roles .update 11 [_, _, _, _, _, _, _, _, _] rfl
  refine ⟨opening, hopening.trans ?_⟩
  rw [call, below, if_neg filled]
  simp only [String.join_cons, String.append_assoc]
  rfl

end Functions

end Fragment
end RecordAccess
