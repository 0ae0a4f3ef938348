import RecordAccess.Field.Spec

/-!
# Records

A record is a named row of fields in declaration order. Fields are addressed by their place in the
row, their ordinal. Two fields of one record never share a name, so a name has at most one ordinal;
the record carries the proof.
-/
namespace RecordAccess

structure Field where
  name : String
  /-- The column that the description named, if it named one. -/
  column? : Option String
  /-- The declared type, as written. -/
  type : String
  shape : Shape
  deriving DecidableEq, Repr

/-- The column of the field: its name unless the description named another. -/
def Field.column (field : Field) : String := field.column?.getD field.name

def Field.ofSpec (spec : FieldSpec) : Field where
  name := spec.name
  column? := spec.namedColumn
  type := spec.type
  shape := Shape.ofType spec.type

@[simp] theorem Field.name_ofSpec (spec : FieldSpec) : (Field.ofSpec spec).name = spec.name := rfl

/-- The first name that stands in `seen` or earlier in the list. -/
def firstRepeat (seen : List String) : List String → Option String
  | [] => none
  | name :: rest => if seen.contains name then some name else firstRepeat (name :: seen) rest

theorem nodup_of_firstRepeat {seen names : List String} (h : firstRepeat seen names = none) :
    names.Nodup ∧ ∀ name ∈ names, name ∉ seen := by
  induction names generalizing seen with
  | nil => simp
  | cons name rest ih =>
    simp only [firstRepeat] at h
    split at h
    · simp at h
    · next hs =>
      have hn : name ∉ seen := by simpa using hs
      obtain ⟨hr, hf⟩ := ih h
      refine ⟨List.nodup_cons.2 ⟨fun hm => hf name hm (by simp), hr⟩, ?_⟩
      intro other ho
      rcases List.mem_cons.1 ho with rfl | ho
      · exact hn
      · exact fun hs => hf other ho (List.mem_cons_of_mem _ hs)

structure Record where
  name : String
  fields : List Field
  /-- No two fields share a name. -/
  nodup_names : (fields.map Field.name).Nodup
  deriving DecidableEq, Repr

namespace Record

def ofSpecs (name : String) (specs : List FieldSpec) : Except GenerationError Record :=
  match h : firstRepeat [] (specs.map FieldSpec.name) with
  | some field => .error (.duplicateField name field)
  | none => .ok {
      name
      fields := specs.map Field.ofSpec
      nodup_names := by
        simpa [Function.comp_def] using (nodup_of_firstRepeat h).1 }

def size (record : Record) : Nat := record.fields.length

def field? (record : Record) (ordinal : Nat) : Option Field := record.fields[ordinal]?

/-- The ordinal of the field with the given name, blanks around it set aside. -/
def position? (record : Record) (name : String) : Option Nat :=
  record.fields.findIdx? fun field => field.name == Text.trimmed name

def ordinals (record : Record) : List Nat := List.range record.size

end Record
end RecordAccess
