import RecordAccess.Proofs.Roles.Calls

/-!
# The fields that names stand for

A name stands for the field that has it, blanks around it set aside. Fields of one record never share
a name, so looking a name up finds the one field that it stands for, or tells that there is none.
-/
namespace RecordAccess.Record

/-- The name, blanks around it set aside, is that of the field at the ordinal. -/
def Names (record : Record) (name : String) (i : Nat) : Prop :=
  ∃ field, record.field? i = some field ∧ field.name = Text.trimmed name

section Names
variable {record : Record} {name : String} {i j : Nat}

theorem Names.unique (hi : record.Names name i) (hj : record.Names name j) : i = j := by
  obtain ⟨first, hfirst, hname⟩ := hi
  obtain ⟨second, hsecond, hname'⟩ := hj
  have hlt : i < record.fields.length := (List.getElem?_eq_some_iff.1 hfirst).1
  have same : (record.fields.map Field.name)[i]? = (record.fields.map Field.name)[j]? := by
    have hi' : record.fields[i]? = some first := hfirst
    have hj' : record.fields[j]? = some second := hsecond
    rw [List.getElem?_map, List.getElem?_map, hi', hj', Option.map_some, Option.map_some, hname, hname']
  exact (List.getElem?_inj (by simpa using hlt) record.nodup_names).1 same

theorem position?_eq_some_iff : record.position? name = some i ↔ record.Names name i := by
  unfold position?
  have found : ∀ {j}, record.fields.findIdx? (fun field => field.name == Text.trimmed name) = some j →
      record.Names name j := by
    intro j hj
    obtain ⟨hlt, heq, _⟩ := List.findIdx?_eq_some_iff_getElem.1 hj
    exact ⟨record.fields[j], List.getElem?_eq_getElem hlt, by simpa using heq⟩
  constructor
  · exact found
  · intro h
    cases hfind : record.fields.findIdx? fun field => field.name == Text.trimmed name with
    | some j => rw [(found hfind).unique h]
    | none =>
      obtain ⟨field, hfield, hname⟩ := h
      have other := List.findIdx?_eq_none_iff.1 hfind field (List.mem_of_getElem? hfield)
      simp [hname] at other

theorem position?_eq_none_iff : record.position? name = none ↔ ¬∃ i, record.Names name i := by
  constructor
  · rintro h ⟨i, hi⟩
    rw [position?_eq_some_iff.2 hi] at h
    cases h
  · intro h
    cases hfind : record.position? name with
    | none => rfl
    | some i => exact absurd ⟨i, position?_eq_some_iff.1 hfind⟩ h

end Names

/-- The name is the first in the list that stands for no field. -/
def FirstUnknown (record : Record) (names : List String) (name : String) : Prop :=
  (¬∃ i, record.Names name i) ∧
    ∃ before after, names = before ++ name :: after ∧ ∀ known ∈ before, ∃ i, record.Names known i

section Unknown
variable {record : Record} {names : List String}

theorem firstUnknown_eq_some_iff {name : String} :
    Roles.firstUnknown record names = some name ↔ record.FirstUnknown names name := by
  unfold Roles.firstUnknown FirstUnknown
  have known : ∀ other, (!(record.position? other).isNone) = true ↔ ∃ i, record.Names other i := by
    intro other
    rw [← not_iff_not, ← position?_eq_none_iff]
    simp
  simp only [List.find?_eq_some_iff_append, known, Option.isNone_iff_eq_none, position?_eq_none_iff]

theorem firstUnknown_eq_none_iff :
    Roles.firstUnknown record names = none ↔ ∀ name ∈ names, ∃ i, record.Names name i := by
  unfold Roles.firstUnknown
  simp only [List.find?_eq_none, Option.isNone_iff_eq_none, position?_eq_none_iff, not_not]

theorem firstUnknown_append (first second : List String) :
    Roles.firstUnknown record (first ++ second) =
      (Roles.firstUnknown record first).or (Roles.firstUnknown record second) :=
  List.find?_append

end Unknown

end RecordAccess.Record
