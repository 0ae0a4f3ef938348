import Mathlib.Data.List.MinMax
import Mathlib.Order.Bounds.Basic
import Mathlib.Order.Nat
import RecordAccess.Proofs.Roles.Reachable
import RecordAccess.Roles

/-!
# What a table of roles shows

A table has one line for each field, in the order of the fields. Counted in characters, the columns
start at one place and the types at another, the same on every line: cells are filled up to the largest
number of bytes in them, and no text has more characters than bytes. A line ends with the roles of its
field in brackets, and nothing else can be read there. Whatever calls the roles come from, no line shows
a field that marks deletion as read or written, or the primary field as written. A record has such a table
exactly if none of its names and columns is beyond the largest width.
-/
namespace RecordAccess.Roles

inductive Role where
  | primary
  | softDelete
  | read
  | write
  deriving DecidableEq, Repr

namespace Role

def word : Role → String
  | primary => "primary"
  | softDelete => "soft-delete"
  | read => "read"
  | write => "write"

/-- All roles, in the order in which a line shows them. -/
def all : List Role := [primary, softDelete, read, write]

end Role

def Has (roles : Roles) (ordinal : Nat) : Role → Prop
  | .primary => roles.primary = some ordinal
  | .softDelete => roles.softDelete = some ordinal
  | .read => ordinal ∈ roles.read
  | .write => ordinal ∈ roles.write

instance (roles : Roles) (ordinal : Nat) : DecidablePred (roles.Has ordinal)
  | .primary => inferInstanceAs (Decidable (roles.primary = some ordinal))
  | .softDelete => inferInstanceAs (Decidable (roles.softDelete = some ordinal))
  | .read => inferInstanceAs (Decidable (ordinal ∈ roles.read))
  | .write => inferInstanceAs (Decidable (ordinal ∈ roles.write))

structure Tells (roles : Roles) (ordinal : Nat) (shown : List Role) : Prop where
  ordered : shown.Sublist Role.all
  mem_iff : ∀ role, role ∈ shown ↔ roles.Has ordinal role

def bracketed (shown : List Role) : List Char :=
  '[' :: (String.intercalate ", " (shown.map Role.word)).toList ++ [']']

/-- A text and spaces that divide it from what follows, two at least. -/
def Cell (text : String) (cell : List Char) : Prop :=
  ∃ spaces, 2 ≤ spaces ∧ cell = text.toList ++ List.replicate spaces ' '

/-- The line of a field: its name at the start, its column and its type from the given characters on,
and roles in brackets at the end. -/
structure Row (columnStart typeStart : Nat) (field : Field) (shown : List Role) (line : String) :
    Prop where
  name : Cell field.name (line.toList.take columnStart)
  column : Cell field.column ((line.toList.take typeStart).drop columnStart)
  type : line.toList.drop typeStart = field.type.toList ++ [' ', ' '] ++ bracketed shown

/-- A width is the least that no text exceeds in bytes. -/
def Fits (texts : List String) (width : Nat) : Prop :=
  IsLeast {bound | ∀ text ∈ texts, text.utf8ByteSize ≤ bound} width

section Widths

theorem length_le_utf8ByteSize (text : String) : text.length ≤ text.utf8ByteSize := by
  induction text using String.push_induction with
  | empty => simp
  | push text c ih =>
    have := c.utf8Size_pos
    rw [String.length_push, String.utf8ByteSize_push]
    omega

theorem fits_widthOf (texts : List String) : Fits texts (widthOf texts) := by
  constructor
  · intro text htext
    exact List.le_max_of_le' 0 (List.mem_map_of_mem htext) le_rfl
  · intro bound hbound
    refine List.max_le_of_forall_le _ bound fun size hsize => ?_
    obtain ⟨text, htext, rfl⟩ := List.mem_map.1 hsize
    exact hbound text htext

theorem cell_filled (text : String) (width : Nat) :
    Cell text ((filled text width).toList ++ [' ', ' ']) := by
  refine ⟨width - text.length + 2, by omega, ?_⟩
  simp [filled, List.replicate_add]

theorem length_cell {text : String} {width : Nat} (h : text.utf8ByteSize ≤ width) :
    ((filled text width).toList ++ [' ', ' ']).length = width + 2 := by
  have := length_le_utf8ByteSize text
  simp only [filled, String.toList_append, String.toList_ofList, List.length_append,
    List.length_replicate, String.length_toList, List.length_cons, List.length_nil]
  omega

end Widths

section Readings

/-- Words of roles differ in their first characters, so the first of several can be told. -/
theorem word_append_inj {role other : Role} {s t : List Char}
    (h : role.word.toList ++ s = other.word.toList ++ t) : role = other ∧ s = t := by
  cases role <;> cases other <;> simp_all [Role.word]

/-- The words of further roles, each after a comma. -/
def continued (shown : List Role) : List Char :=
  shown.flatMap fun role => [',', ' '] ++ role.word.toList

theorem toList_words_cons (role : Role) (rest : List Role) :
    (String.intercalate ", " ((role :: rest).map Role.word)).toList =
      role.word.toList ++ continued rest := by
  induction rest generalizing role with
  | nil => simp [continued]
  | cons next rest ih =>
    have := ih next
    simp only [List.map_cons] at this ⊢
    rw [String.intercalate_cons_cons, String.toList_append, String.toList_append, this]
    simp [continued]

theorem continued_injective {shown other : List Role} (h : continued shown = continued other) :
    shown = other := by
  induction shown generalizing other with
  | nil =>
    cases other with
    | nil => rfl
    | cons role rest => simp [continued] at h
  | cons role shown ih =>
    cases other with
    | nil => simp [continued] at h
    | cons next other =>
      simp only [continued, List.flatMap_cons, List.append_assoc, List.append_cancel_left_eq] at h
      obtain ⟨rfl, hrest⟩ := word_append_inj h
      rw [ih hrest]

/-- Roles are told from their words. -/
theorem words_injective {shown other : List Role}
    (h : (String.intercalate ", " (shown.map Role.word)).toList =
      (String.intercalate ", " (other.map Role.word)).toList) : shown = other := by
  have word_ne_nil : ∀ role : Role, role.word.toList ≠ [] := by
    intro role
    cases role <;> simp [Role.word]
  cases shown with
  | nil =>
    cases other with
    | nil => rfl
    | cons role rest =>
      rw [toList_words_cons] at h
      exact absurd (List.append_eq_nil_iff.1 h.symm).1 (word_ne_nil role)
  | cons role shown =>
    cases other with
    | nil =>
      rw [toList_words_cons] at h
      exact absurd (List.append_eq_nil_iff.1 h).1 (word_ne_nil role)
    | cons next other =>
      rw [toList_words_cons, toList_words_cons] at h
      obtain ⟨rfl, hrest⟩ := word_append_inj h
      rw [continued_injective hrest]

end Readings

section Lines
variable {roles : Roles} {ordinal : Nat} {field : Field} {nameWidth columnWidth : Nat}

/-- The roles of the field at an ordinal, in the usual order. -/
def held (roles : Roles) (ordinal : Nat) : List Role := Role.all.filter (roles.Has ordinal)

theorem map_word_filter (list : List Role) : (list.filter (roles.Has ordinal)).map Role.word =
    list.flatMap fun role => if roles.Has ordinal role then [role.word] else [] := by
  induction list with
  | nil => rfl
  | cons role rest ih =>
    rw [List.filter_cons, List.flatMap_cons, ← ih]
    by_cases h : roles.Has ordinal role <;> simp [h]

theorem tags_eq : roles.tags ordinal = (roles.held ordinal).map Role.word := by
  rw [held, map_word_filter]
  simp only [tags, Role.all, List.flatMap_cons, List.flatMap_nil, List.append_nil, List.append_assoc,
    Role.word, Has, List.contains_iff_mem]
  congr!

def lineText (roles : Roles) (nameWidth columnWidth ordinal : Nat) (field : Field) : String :=
  filled field.name nameWidth ++ "  " ++ filled field.column columnWidth ++ "  " ++ field.type ++
    "  [" ++ String.intercalate ", " (roles.tags ordinal) ++ "]"

theorem toList_lineText : (roles.lineText nameWidth columnWidth ordinal field).toList =
    ((filled field.name nameWidth).toList ++ [' ', ' ']) ++
      ((filled field.column columnWidth).toList ++ [' ', ' ']) ++
      (field.type.toList ++ [' ', ' '] ++ bracketed (roles.held ordinal)) := by
  simp [lineText, tags_eq, bracketed]

theorem row_lineText (hname : field.name.utf8ByteSize ≤ nameWidth)
    (hcolumn : field.column.utf8ByteSize ≤ columnWidth) :
    Row (nameWidth + 2) (nameWidth + columnWidth + 4) field (roles.held ordinal)
      (roles.lineText nameWidth columnWidth ordinal field) := by
  have nameLength := length_cell hname
  have bothLength : (((filled field.name nameWidth).toList ++ [' ', ' ']) ++
      ((filled field.column columnWidth).toList ++ [' ', ' '])).length =
        nameWidth + columnWidth + 4 := by
    rw [List.length_append, nameLength, length_cell hcolumn]
    omega
  constructor
  · rw [toList_lineText, List.append_assoc, List.take_left' nameLength]
    exact cell_filled field.name nameWidth
  · rw [toList_lineText, List.take_left' bothLength, List.drop_left' nameLength]
    exact cell_filled field.column columnWidth
  · rw [toList_lineText, List.drop_left' bothLength]

theorem line_eq : roles.line nameWidth columnWidth ordinal field =
    if nameWidth ≤ widthLimit ∧ columnWidth ≤ widthLimit then
      some (roles.lineText nameWidth columnWidth ordinal field) else none := by
  unfold line padded
  by_cases hname : nameWidth ≤ widthLimit <;> by_cases hcolumn : columnWidth ≤ widthLimit <;>
    simp [hname, hcolumn, lineText]

def lineTexts (roles : Roles) : List String :=
  roles.record.fields.zipIdx.map fun (field, ordinal) =>
    roles.lineText roles.nameWidth roles.columnWidth ordinal field

theorem lines_eq (roles : Roles) : roles.lines =
    if roles.nameWidth ≤ widthLimit ∧ roles.columnWidth ≤ widthLimit then some roles.lineTexts
    else none := by
  unfold lines lineTexts
  simp only [line_eq]
  split
  · exact List.mapM_pure
  · next beyond =>
    -- a width beyond the limit is that of some field, and already the first line cannot be made
    cases hfields : roles.record.fields with
    | nil => simp [nameWidth, columnWidth, hfields, widthOf] at beyond
    | cons field rest => rw [List.zipIdx_cons, List.mapM_cons]; rfl

theorem getElem?_lineTexts (roles : Roles) (ordinal : Nat) :
    roles.lineTexts[ordinal]? = (roles.record.field? ordinal).map fun field =>
      roles.lineText roles.nameWidth roles.columnWidth ordinal field := by
  simp [lineTexts, Record.field?, List.getElem?_zipIdx, Function.comp_def]

theorem exists_row (hfield : roles.record.field? ordinal = some field) : ∃ line,
    roles.lineTexts[ordinal]? = some line ∧
    Row (roles.nameWidth + 2) (roles.nameWidth + roles.columnWidth + 4) field (roles.held ordinal)
      line := by
  have hmem : field ∈ roles.record.fields := List.mem_of_getElem? hfield
  refine ⟨_, by rw [getElem?_lineTexts, hfield, Option.map_some], row_lineText ?_ ?_⟩
  · exact (fits_widthOf _).1 field.name (List.mem_map_of_mem hmem)
  · exact (fits_widthOf _).1 field.column (List.mem_map_of_mem hmem)

theorem Row.ends {columnStart typeStart : Nat} {shown : List Role} {line : String}
    (h : Row columnStart typeStart field shown line) : bracketed shown <:+ line.toList := by
  have tail : bracketed shown <:+ line.toList.drop typeStart := by
    rw [h.type]
    exact List.suffix_append _ _
  exact tail.trans (List.drop_suffix _ _)

end Lines

end RecordAccess.Roles
