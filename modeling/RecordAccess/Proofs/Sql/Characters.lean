import RecordAccess.Proofs.Text.Characters
import RecordAccess.Sql.Statement

/-!
# The characters of statements

A statement is made of its names and of letters, digits and a few signs. So its characters are theirs: what
holds of all of them, and how often another character occurs, is settled by the names.
-/
namespace RecordAccess.Sql

open Source Text

def Condition.column : Condition → String
  | equals column _ => column
  | isNull column => column

/-- The names that a statement places as they are. -/
def Statement.names : Statement → List String
  | select columns table conditions => table :: columns ++ conditions.map Condition.column
  | insert table columns returning => table :: columns ++ returning
  | update table assignments conditions returning =>
    table :: assignments.map Assignment.column ++ conditions.map Condition.column ++ returning
  | delete table conditions => table :: conditions.map Condition.column

/-- Whether a statement has the character of its own. -/
def isSqlChar (c : Char) : Bool := c.isAlphanum || [' ', ',', '=', '$', '(', ')'].contains c

/-- The text is made of these names, each placed once, and of characters of statements. -/
inductive Made : List String → String → Prop
  | signs {text : String} (h : Only isSqlChar text) : Made [] text
  | name (name : String) : Made [name] name
  | append {first second : List String} {s t : String} (hs : Made first s) (ht : Made second t) :
      Made (first ++ second) (s ++ t)
  | perm {first second : List String} {s : String} (h : first.Perm second) (hs : Made first s) : Made second s

section Made
variable {names : List String} {text : String}

theorem Made.before (h : Made names text) (lead : String) (hlead : Only isSqlChar lead) :
    Made names (lead ++ text) :=
  .append (.signs hlead) h

theorem Made.after (h : Made names text) (trail : String) (htrail : Only isSqlChar trail) :
    Made names (text ++ trail) := by
  simpa using h.append (.signs htrail)

theorem made_placeholder (index : Nat) : Made [] (placeholder index) := by
  have digit : ∀ c : Char, c.isDigit → isSqlChar c := fun c hc => by simp [isSqlChar, Char.isAlphanum, hc]
  exact .signs (only_append.2 ⟨by decide, only_toString digit index⟩)

theorem made_intercalate {α : Type} {names : α → List String} {text : α → String} {separator : String}
    (hsep : Only isSqlChar separator) {items : List α} (h : ∀ item ∈ items, Made (names item) (text item)) :
    Made (items.flatMap names) (String.intercalate separator (items.map text)) := by
  induction items with
  | nil => exact .signs (by simpa using only_empty)
  | cons first rest ih =>
    have hfirst := h first List.mem_cons_self
    have hrest := ih fun item hitem => h item (List.mem_cons_of_mem _ hitem)
    cases rest with
    | nil => simpa using hfirst
    | cons second rest =>
      rw [List.map_cons, List.map_cons, String.intercalate_cons_cons, List.flatMap_cons]
      exact (hfirst.after separator hsep).append hrest

theorem only_comma : Only isSqlChar ", " := by decide

theorem made_commaList (items : List String) : Made items (commaList items) := by
  have made := made_intercalate only_comma fun item (_ : item ∈ items) => Made.name item
  simpa [commaList] using made

theorem made_placeholders (n : Nat) : Made [] (commaList (placeholders n)) := by
  have made := made_intercalate only_comma fun i (_ : i ∈ List.range n) => made_placeholder (i + 1)
  have noNames : ((List.range n).flatMap fun _ => ([] : List String)) = [] := by simp
  rwa [noNames] at made

theorem made_text_condition (condition : Condition) : Made [condition.column] condition.text := by
  cases condition with
  | equals column index => exact ((Made.name column).after " = " (by decide)).append (made_placeholder index)
  | isNull column => exact (Made.name column).after " IS NULL" (by decide)

theorem made_whereClause (conditions : List Condition) :
    Made (conditions.map Condition.column) (whereClause conditions) := by
  unfold whereClause
  split
  · next none =>
    rw [List.isEmpty_iff.1 none]
    exact .signs only_empty
  · have separator : Only isSqlChar " AND " := by decide
    have joined := made_intercalate separator fun condition (_ : condition ∈ conditions) =>
      made_text_condition condition
    rw [List.map_eq_flatMap]
    exact joined.before "WHERE " (by decide)

theorem Made.spaced {clause : String} (h : Made names clause) : Made names (spaced clause) := by
  unfold Sql.spaced
  split
  · next none => rwa [none] at h
  · exact h.before " " (by decide)

theorem made_returningClause (columns : List String) : Made columns (returningClause columns) := by
  unfold returningClause
  split
  · next none =>
    rw [List.isEmpty_iff.1 none]
    exact .signs only_empty
  · exact (made_commaList columns).before " RETURNING " (by decide)

theorem made_valuesClause (columns : List String) : Made columns (valuesClause columns) := by
  unfold valuesClause
  split
  · next none =>
    rw [List.isEmpty_iff.1 none]
    exact .signs (by decide)
  · have columns := ((made_commaList columns).before "(" (by decide)).after ") VALUES (" (by decide)
    simpa using (columns.append (made_placeholders _)).after ")" (by decide)

theorem made_text_assignment (assignment : Assignment) : Made [assignment.column] assignment.text := by
  have value : Made [] assignment.value.text := by
    cases assignment.value with
    | placeholder index => exact made_placeholder index
    | now => exact .signs (by decide)
  exact ((Made.name assignment.column).after " = " (by decide)).append value

/-- A statement is made of its names. -/
theorem made_text (statement : Statement) : Made statement.names statement.text := by
  cases statement with
  | select columns table conditions =>
    have made := ((((made_commaList columns).before "SELECT " (by decide)).after " FROM " (by decide)).append
      (.name table)).append (made_whereClause conditions).spaced
    exact made.perm (by simp [Statement.names])
  | insert table columns returning =>
    exact ((((Made.name table).before "INSERT INTO " (by decide)).after " " (by decide)).append
      (made_valuesClause columns)).append (made_returningClause returning)
  | update table assignments conditions returning =>
    have texts : Made (assignments.map Assignment.column) (commaList (assignments.map Assignment.text)) := by
      rw [List.map_eq_flatMap]
      exact made_intercalate only_comma fun assignment _ => made_text_assignment assignment
    exact (((((Made.name table).before "UPDATE " (by decide)).after " SET " (by decide)).append texts).append
      (made_whereClause conditions).spaced).append (made_returningClause returning)
  | delete table conditions =>
    exact ((Made.name table).before "DELETE FROM " (by decide)).append (made_whereClause conditions).spaced

end Made

section Characters
variable {names : List String} {text : String}

/-- A text has no character that neither statements nor its names have. -/
theorem Made.only {passes : Char → Bool} (h : Made names text) (hsigns : ∀ c, isSqlChar c → passes c)
    (hnames : ∀ name ∈ names, Only passes name) : Only passes text := by
  induction h with
  | signs signs => exact fun c hc => hsigns c (signs c hc)
  | name name => exact hnames name List.mem_cons_self
  | append _ _ first second =>
    exact only_append.2 ⟨first fun name hname => hnames name (List.mem_append_left _ hname),
      second fun name hname => hnames name (List.mem_append_right _ hname)⟩
  | perm same _ ih => exact ih fun name hname => hnames name (same.mem_iff.1 hname)

/-- A character that statements do not have occurs in a text as often as in its names. -/
theorem Made.count {c : Char} (h : Made names text) (hc : isSqlChar c = false) :
    text.toList.count c = (names.flatMap String.toList).count c := by
  induction h with
  | signs signs =>
    rw [List.flatMap_nil, List.count_nil, List.count_eq_zero]
    intro hmem
    simp [signs c hmem] at hc
  | name name => simp
  | append _ _ first second => simp [first, second]
  | perm same _ ih => rw [ih, (same.flatMap_right _).count_eq]

end Characters
end RecordAccess.Sql
