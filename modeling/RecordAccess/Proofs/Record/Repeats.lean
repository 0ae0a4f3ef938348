import RecordAccess.Record

/-!
# Records that are refused

Descriptions make up a record exactly if no two of them have one name. Otherwise the first name that an earlier
description has decides the error.
-/
namespace RecordAccess

/-- The name is the first of the list that stands in `seen` or earlier in the list. -/
def Repeats (seen names : List String) (name : String) : Prop :=
  ∃ before after, names = before ++ name :: after ∧ before.Nodup ∧ (∀ other ∈ before, other ∉ seen) ∧
    (name ∈ before ∨ name ∈ seen)

section Repeats
variable {seen rest : List String} {first name : String}

theorem repeats_cons_of_mem (h : first ∈ seen) : Repeats seen (first :: rest) name ↔ first = name := by
  constructor
  · rintro ⟨before, after, split, _, fresh, _⟩
    cases before with
    | nil => exact (List.cons.inj split).1
    | cons other before =>
      have same : first = other := (List.cons.inj split).1
      exact absurd (same ▸ h) (fresh other List.mem_cons_self)
  · rintro rfl
    exact ⟨[], rest, rfl, List.nodup_nil, by simp, .inr h⟩

theorem repeats_cons_of_not_mem (h : first ∉ seen) :
    Repeats seen (first :: rest) name ↔ Repeats (first :: seen) rest name := by
  constructor
  · rintro ⟨before, after, split, nodup, fresh, again⟩
    cases before with
    | nil =>
      obtain rfl : first = name := (List.cons.inj split).1
      rcases again with again | again
      · cases again
      · exact absurd again h
    | cons other before =>
      obtain ⟨rfl, tails⟩ := List.cons.inj split
      obtain ⟨apart, nodup⟩ := List.nodup_cons.1 nodup
      refine ⟨before, after, tails, nodup, ?_, ?_⟩
      · intro known hknown hseen
        rcases List.mem_cons.1 hseen with rfl | hseen
        · exact apart hknown
        · exact fresh known (List.mem_cons_of_mem _ hknown) hseen
      · rcases again with again | again
        · rcases List.mem_cons.1 again with rfl | again
          · exact .inr List.mem_cons_self
          · exact .inl again
        · exact .inr (List.mem_cons_of_mem _ again)
  · rintro ⟨before, after, split, nodup, fresh, again⟩
    refine ⟨first :: before, after, by rw [split, List.cons_append], ?_, ?_, ?_⟩
    · exact List.nodup_cons.2 ⟨fun hmem => fresh first hmem List.mem_cons_self, nodup⟩
    · intro known hknown
      rcases List.mem_cons.1 hknown with rfl | hknown
      · exact h
      · exact fun hseen => fresh known hknown (List.mem_cons_of_mem _ hseen)
    · rcases again with again | again
      · exact .inl (List.mem_cons_of_mem _ again)
      · rcases List.mem_cons.1 again with rfl | again
        · exact .inl List.mem_cons_self
        · exact .inr again

theorem firstRepeat_eq_some_iff {names : List String} :
    firstRepeat seen names = some name ↔ Repeats seen names name := by
  induction names generalizing seen with
  | nil =>
    constructor
    · intro h
      cases h
    · rintro ⟨before, after, split, _⟩
      cases before <;> cases split
  | cons first rest ih =>
    rw [firstRepeat]
    split
    · next hseen =>
      rw [repeats_cons_of_mem (by simpa using hseen), Option.some_inj]
    · next hseen =>
      rw [ih, repeats_cons_of_not_mem (by simpa using hseen)]

theorem firstRepeat_eq_none_iff {names : List String} : firstRepeat [] names = none ↔ names.Nodup := by
  constructor
  · exact fun h => (nodup_of_firstRepeat h).1
  · intro nodup
    cases h : firstRepeat [] names with
    | none => rfl
    | some name =>
      obtain ⟨before, after, split, _, _, again⟩ := firstRepeat_eq_some_iff.1 h
      rw [split, List.nodup_append] at nodup
      rcases again with again | again
      · exact absurd rfl (nodup.2.2 name again name List.mem_cons_self)
      · cases again

end Repeats

namespace Record
variable {name : String} {specs : List FieldSpec}

/-- Descriptions with different names make up a record. -/
theorem exists_ofSpecs (h : (specs.map FieldSpec.name).Nodup) :
    ∃ record, ofSpecs name specs = .ok record ∧ record.name = name ∧ record.fields = specs.map Field.ofSpec := by
  have none := firstRepeat_eq_none_iff.2 h
  unfold ofSpecs
  split
  · next field hfield =>
    rw [none] at hfield
    cases hfield
  · exact ⟨_, rfl, rfl, rfl⟩

/-- A record whose fields are as described is the one that the descriptions make up. -/
theorem ofSpecs_of_fields_eq {record : Record} (h : record.fields = specs.map Field.ofSpec) :
    ofSpecs record.name specs = .ok record := by
  have nodup := record.nodup_names
  rw [h, List.map_map] at nodup
  obtain ⟨other, hother, name_eq, fields_eq⟩ := @exists_ofSpecs record.name specs nodup
  have same : other = record := by
    cases other
    cases record
    simp_all only
  rw [hother, same]

theorem ofSpecs_of_repeats {field : String} (h : Repeats [] (specs.map FieldSpec.name) field) :
    ofSpecs name specs = .error (.duplicateField name field) := by
  have some := firstRepeat_eq_some_iff.2 h
  unfold ofSpecs
  split
  · next other hother =>
    rw [some] at hother
    obtain rfl := Option.some.inj hother
    rfl
  · next none =>
    rw [some] at none
    cases none

end Record
end RecordAccess
