import Mathlib.Data.Bool.AllAny
import Mathlib.Data.List.Forall2
import RecordAccess.Manifest
import RecordAccess.Proofs.Record.Positions
import RecordAccess.Proofs.Record.Repeats

/-!
# Looking records up

A name leads to the first entry of exactly that name and to no other. The entry decides what is found: a type of
another kind, a name that two of its fields share, or the record that it describes, in which the place of a field in
the entry is its ordinal.
-/
namespace RecordAccess

namespace RecordEntry

/-- The text is the word, each of its small letters in either case. -/
def InEitherCase (word text : List Char) : Prop :=
  List.Forall₂ (fun letter c => c = letter ∨ c = letter.toUpper) word text

theorem toLower_eq_iff {letter c : Char} (h : letter ∈ structKind.toList) :
    c.toLower = letter ↔ c = letter ∨ c = letter.toUpper := by
  have table : ∀ n < 128, structKind.toList.all fun letter => (Char.ofNat n).toLower = letter ↔
      Char.ofNat n = letter ∨ Char.ofNat n = letter.toUpper := by
    decide +kernel
  by_cases ascii : c.toNat < 128
  · have same := List.all_iff_forall_prop.1 (table c.toNat ascii) letter h
    rwa [Char.ofNat_toNat] at same
  · -- Beyond ASCII a character has no other case and is none of the letters.
    have letters : ∀ letter ∈ structKind.toList, letter.toNat < 128 ∧ letter.toUpper.toNat < 128 :=
      List.all_iff_forall_prop.1 (by decide)
    have small := letters letter h
    have lower : c.toLower = c := by
      refine dif_neg ?_
      rintro ⟨_, upper⟩
      exact ascii (Nat.lt_of_le_of_lt (UInt32.le_iff_toNat_le.1 upper) (by decide))
    rw [lower]
    constructor
    · exact .inl
    · rintro (rfl | rfl)
      · rfl
      · exact absurd small.2 ascii

theorem map_toLower_eq_iff {word text : List Char} (h : ∀ letter ∈ word, letter ∈ structKind.toList) :
    text.map Char.toLower = word ↔ InEitherCase word text := by
  induction word generalizing text with
  | nil => simp [InEitherCase, List.forall₂_nil_left_iff]
  | cons letter word ih =>
    cases text with
    | nil => simp [InEitherCase, List.forall₂_nil_right_iff]
    | cons c text =>
      rw [InEitherCase, List.forall₂_cons, List.map_cons, List.cons.injEq,
        toLower_eq_iff (h letter List.mem_cons_self), ih fun other hother => h other (List.mem_cons_of_mem _ hother)]
      rfl

theorem isStruct_iff {entry : RecordEntry} : entry.isStruct ↔ InEitherCase structKind.toList entry.kind.toList := by
  rw [isStruct, beq_iff_eq, map_toLower_eq_iff fun _ h => h]

end RecordEntry

/-- The name stands at the first place of the list at which a name stands that occurs earlier. -/
def FirstAgain (names : List String) (name : String) : Prop :=
  ∃ i, names[i]? = some name ∧ name ∈ names.take i ∧
    ∀ j < i, ∀ other, names[j]? = some other → other ∉ names.take j

theorem nodup_iff_not_mem_take {names : List String} :
    names.Nodup ↔ ∀ (j : Nat) other, names[j]? = some other → other ∉ names.take j := by
  rw [List.Nodup, List.pairwise_iff_getElem]
  constructor
  · intro apart j other hother earlier
    obtain ⟨hj, rfl⟩ := List.getElem?_eq_some_iff.1 hother
    obtain ⟨i, hi, same⟩ := List.mem_take_iff_getElem.1 earlier
    exact apart i j (by omega) hj (by omega) same
  · intro fresh i j hi hj hlt same
    refine fresh j _ (List.getElem?_eq_getElem hj) ?_
    exact List.mem_take_iff_getElem.2 ⟨i, by omega, same⟩

theorem repeats_iff_firstAgain {names : List String} {name : String} :
    Repeats [] names name ↔ FirstAgain names name := by
  constructor
  · rintro ⟨before, after, rfl, nodup, _, again⟩
    have known : name ∈ before := again.resolve_right (by simp)
    refine ⟨before.length, by simp, by simpa using known, ?_⟩
    intro j hj other hother
    rw [List.getElem?_append_left hj] at hother
    rw [List.take_append_of_le_length (Nat.le_of_lt hj)]
    exact nodup_iff_not_mem_take.1 nodup j other hother
  · rintro ⟨i, hi, again, first⟩
    obtain ⟨hlt, hname⟩ := List.getElem?_eq_some_iff.1 hi
    refine ⟨names.take i, names.drop (i + 1), ?_, nodup_iff_not_mem_take.2 ?_, by simp, .inl again⟩
    · rw [← hname, List.getElem_cons_drop, List.take_append_drop]
    · intro j other hother
      rw [List.getElem?_take] at hother
      obtain ⟨hj, hother⟩ := Option.ite_none_right_eq_some.1 hother
      rw [List.take_take, Nat.min_eq_left (Nat.le_of_lt hj)]
      exact first j hj other hother

structure FieldSpec.Describes (spec : FieldSpec) (field : Field) : Prop where
  name_eq : field.name = spec.name
  type_eq : field.type = spec.type
  shape_eq : field.shape = Shape.ofType spec.type
  column?_eq : field.column? = spec.column.or (spec.tag.bind Tag.column?)

theorem FieldSpec.describes_iff {spec : FieldSpec} {field : Field} :
    spec.Describes field ↔ field = Field.ofSpec spec := by
  have column : spec.namedColumn = spec.column.or (spec.tag.bind Tag.column?) := by
    cases h : spec.column <;> simp [namedColumn, h]
  constructor
  · rintro ⟨name, type, shape, named⟩
    cases field
    simp_all [Field.ofSpec]
  · rintro rfl
    exact ⟨rfl, rfl, rfl, column⟩

theorem FieldSpec.forall_describes_iff {specs : List FieldSpec} {fields : List Field} :
    List.Forall₂ Describes specs fields ↔ fields = specs.map Field.ofSpec := by
  induction specs generalizing fields with
  | nil => simp [List.forall₂_nil_left_iff]
  | cons spec specs ih =>
    cases fields with
    | nil => simp [List.forall₂_nil_right_iff]
    | cons field fields => rw [List.forall₂_cons, describes_iff, ih, List.map_cons, List.cons.injEq]

namespace Manifest

/-- The entry is the first one of that name. -/
def First (manifest : Manifest) (name : String) (entry : RecordEntry) : Prop :=
  ∃ before after, manifest.records = before ++ entry :: after ∧ entry.name = name ∧
    ∀ other ∈ before, other.name ≠ name

inductive LookedUp (manifest : Manifest) (name : String) : Except GenerationError Record → Prop
  | unknown (h : ∀ entry ∈ manifest.records, entry.name ≠ name) :
      LookedUp manifest name (.error (.recordNotFound name manifest.package))
  | otherKind {entry : RecordEntry} (first : manifest.First name entry)
      (kind : ¬RecordEntry.InEitherCase "struct".toList entry.kind.toList) :
      LookedUp manifest name (.error (.notAStruct name entry.kind))
  | again {entry : RecordEntry} {field : String} (first : manifest.First name entry)
      (kind : RecordEntry.InEitherCase "struct".toList entry.kind.toList)
      (again : FirstAgain (entry.fields.map FieldSpec.name) field) :
      LookedUp manifest name (.error (.duplicateField name field))
  | found {entry : RecordEntry} {record : Record} (first : manifest.First name entry)
      (kind : RecordEntry.InEitherCase "struct".toList entry.kind.toList) (name_eq : record.name = name)
      (describes : List.Forall₂ FieldSpec.Describes entry.fields record.fields) :
      LookedUp manifest name (.ok record)

section Lookup
variable {manifest : Manifest} {name : String} {entry : RecordEntry}

theorem find?_eq_some_iff :
    (manifest.records.find? fun entry => entry.name == name) = some entry ↔ manifest.First name entry := by
  rw [List.find?_eq_some_iff_append]
  simp only [First, beq_iff_eq, Bool.not_eq_true', beq_eq_false_iff_ne]
  constructor
  · rintro ⟨hname, before, after, split, others⟩
    exact ⟨before, after, split, hname, others⟩
  · rintro ⟨before, after, split, hname, others⟩
    exact ⟨hname, before, after, split, others⟩

theorem First.lookup_eq (first : manifest.First name entry) :
    manifest.lookup name =
      if entry.isStruct then Record.ofSpecs entry.name entry.fields else .error (.notAStruct name entry.kind) := by
  rw [lookup, find?_eq_some_iff.2 first]

theorem First.name_eq (first : manifest.First name entry) : entry.name = name := by
  obtain ⟨before, after, _, hname, _⟩ := first
  exact hname

theorem LookedUp.lookup_eq {outcome : Except GenerationError Record} (h : manifest.LookedUp name outcome) :
    manifest.lookup name = outcome := by
  cases h with
  | unknown lacking =>
    have missing : (manifest.records.find? fun entry => entry.name == name) = none := by
      simpa [List.find?_eq_none] using lacking
    rw [lookup, missing]
  | otherKind first kind => rw [first.lookup_eq, if_neg fun struct => kind (RecordEntry.isStruct_iff.1 struct)]
  | again first kind again =>
    rw [first.lookup_eq, if_pos (RecordEntry.isStruct_iff.2 kind), first.name_eq]
    exact Record.ofSpecs_of_repeats (repeats_iff_firstAgain.2 again)
  | found first kind name_eq describes =>
    rw [first.lookup_eq, if_pos (RecordEntry.isStruct_iff.2 kind), first.name_eq, ← name_eq,
      Record.ofSpecs_of_fields_eq (FieldSpec.forall_describes_iff.1 describes)]

theorem exists_lookedUp (manifest : Manifest) (name : String) : ∃ outcome, manifest.LookedUp name outcome := by
  cases hfind : manifest.records.find? fun entry => entry.name == name with
  | none => exact ⟨_, .unknown (by simpa [List.find?_eq_none] using hfind)⟩
  | some entry =>
    have first := find?_eq_some_iff.1 hfind
    by_cases kind : RecordEntry.InEitherCase "struct".toList entry.kind.toList
    · cases hrepeat : firstRepeat [] (entry.fields.map FieldSpec.name) with
      | none =>
        obtain ⟨record, _, hname, hfields⟩ := @Record.exists_ofSpecs name _ (firstRepeat_eq_none_iff.1 hrepeat)
        exact ⟨_, .found first kind hname (FieldSpec.forall_describes_iff.2 hfields)⟩
      | some field =>
        exact ⟨_, .again first kind (repeats_iff_firstAgain.1 (firstRepeat_eq_some_iff.1 hrepeat))⟩
    · exact ⟨_, .otherKind first kind⟩

end Lookup

/-- The fields of the record are those of the entry in their places, and each of them goes by its own name. -/
structure Makes (entry : RecordEntry) (record : Record) : Prop where
  ordinals_eq : record.ordinals = List.range entry.fields.length
  nodup_names : (record.fields.map Field.name).Nodup
  column_eq : ∀ (i : Nat) spec field, entry.fields[i]? = some spec → record.field? i = some field →
    field.column = (spec.column.or (spec.tag.bind Tag.column?)).getD spec.name
  position?_eq_some_iff : ∀ query i, record.position? query = some i ↔
    ∃ field, record.field? i = some field ∧ field.name = Text.trimmed query

theorem makes_of_describes {entry : RecordEntry} {record : Record}
    (h : List.Forall₂ FieldSpec.Describes entry.fields record.fields) : Makes entry record where
  ordinals_eq := congrArg List.range h.length_eq.symm
  nodup_names := record.nodup_names
  column_eq i spec field hspec hfield := by
    obtain ⟨hi, rfl⟩ := List.getElem?_eq_some_iff.1 hspec
    obtain ⟨hi', rfl⟩ := List.getElem?_eq_some_iff.1 hfield
    have describes : FieldSpec.Describes entry.fields[i] record.fields[i] := (List.forall₂_iff_get.1 h).2 i hi hi'
    rw [Field.column, describes.column?_eq, describes.name_eq]
  position?_eq_some_iff _ _ := Record.position?_eq_some_iff

/-- Looking a name up comes to one outcome, which the first entry of that name decides. What is found is the record
that this entry makes: its fields are addressed by their places there, and by their names. -/
theorem lookup_eq_iff (manifest : Manifest) (name : String) :
    (∀ outcome, manifest.lookup name = outcome ↔ manifest.LookedUp name outcome) ∧
    ∀ record, manifest.lookup name = .ok record →
      record.name = name ∧ ∃ entry, manifest.First name entry ∧ Makes entry record := by
  have settled : ∀ outcome, manifest.lookup name = outcome ↔ manifest.LookedUp name outcome := by
    intro outcome
    constructor
    · rintro rfl
      obtain ⟨outcome, h⟩ := manifest.exists_lookedUp name
      rwa [h.lookup_eq]
    · exact LookedUp.lookup_eq
  refine ⟨settled, ?_⟩
  intro record h
  cases (settled _).1 h with
  | @found entry _ first kind name_eq describes => exact ⟨name_eq, entry, first, makes_of_describes describes⟩

/-- The second entry of a name counts for nothing, letter case does not matter in the kind but a blank does, and of
two names that repeat the one that does so first is reported. -/
theorem lookup_eq_iff_shadowed :
    let fields : List FieldSpec :=
      [⟨"ID", "int64", none, some "db:\"id\""⟩, ⟨"Title", "string", some "title", some "db:\"name\""⟩,
        ⟨"Body", "string", none, none⟩]
    let twice : List FieldSpec := [⟨"A", "int", none, none⟩, ⟨"B", "int", none, none⟩, ⟨"B", "bool", none, none⟩,
      ⟨"A", "bool", none, none⟩]
    let manifest : Manifest := { package := "notes", records :=
      [⟨"Note", "StrucT", fields⟩, ⟨"Note", "int", []⟩, ⟨"Mark", "struct ", twice⟩, ⟨"Pair", "struct", twice⟩] }
    (∃ record, manifest.lookup "Note" = .ok record ∧ record.fields.map Field.column = ["id", "title", "Body"] ∧
        record.position? " Body " = some 2) ∧
      manifest.lookup "Mark" = .error (.notAStruct "Mark" "struct ") ∧
      manifest.lookup "Pair" = .error (.duplicateField "Pair" "B") ∧
      manifest.lookup "note" = .error (.recordNotFound "note" "notes") := by
  intro fields twice manifest
  have note : manifest.First "Note" ⟨"Note", "StrucT", fields⟩ := ⟨[], _, rfl, rfl, by simp⟩
  have mark : manifest.First "Mark" ⟨"Mark", "struct ", twice⟩ :=
    ⟨[⟨"Note", "StrucT", fields⟩, ⟨"Note", "int", []⟩], _, rfl, rfl, by decide +kernel⟩
  have pair : manifest.First "Pair" ⟨"Pair", "struct", twice⟩ :=
    ⟨[⟨"Note", "StrucT", fields⟩, ⟨"Note", "int", []⟩, ⟨"Mark", "struct ", twice⟩], _, rfl, rfl, by decide +kernel⟩
  have settled : ∀ {name outcome}, manifest.LookedUp name outcome → manifest.lookup name = outcome :=
    fun {name outcome} => ((lookup_eq_iff manifest name).1 outcome).2
  refine ⟨?_, settled (.otherKind mark ?_), settled (.again pair ?_ ⟨2, rfl, by decide +kernel, ?_⟩),
    settled (.unknown (by decide +kernel))⟩
  · obtain ⟨record, _, name_eq, fields_eq⟩ := @Record.exists_ofSpecs "Note" fields (by decide +kernel)
    have found : manifest.lookup "Note" = .ok record :=
      settled (.found note (RecordEntry.isStruct_iff.1 (by decide +kernel)) name_eq
        (FieldSpec.forall_describes_iff.2 fields_eq))
    obtain ⟨_, entry, _, makes⟩ := (lookup_eq_iff manifest "Note").2 record found
    refine ⟨record, found, ?_, (makes.position?_eq_some_iff _ 2).2 ⟨Field.ofSpec fields[2], ?_, ?_⟩⟩
    · rw [fields_eq]
      decide +kernel
    · rw [Record.field?, fields_eq]
      rfl
    · decide +kernel
  · exact RecordEntry.isStruct_iff.not.1 (by decide +kernel)
  · exact RecordEntry.isStruct_iff.1 (by decide +kernel)
  · intro j hj other hother
    match j, hj with
    | 0, _ => simp
    | 1, _ =>
      cases hother
      decide +kernel

end Manifest
end RecordAccess
