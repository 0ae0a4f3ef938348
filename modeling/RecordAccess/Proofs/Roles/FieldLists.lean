import RecordAccess.Proofs.Classification.Verdict
import RecordAccess.Proofs.Registry.FirstRequests
import RecordAccess.Proofs.Roles.Reachable

/-!
# Field lists as sets

A list of names is read as the set of the fields that they stand for. Order, repetition and blanks around a name
are lost on it. What the list names comes apart into the fields that are kept and those that their roles keep
out, and the latter are reported, each once.
-/
namespace RecordAccess

/-- The same names, blanks around them set aside, in any order and any number of times. -/
def SameNames (names others : List String) : Prop :=
  ∀ name, name ∈ names.map Text.trimmed ↔ name ∈ others.map Text.trimmed

instance (names others : List String) : Decidable (SameNames names others) :=
  decidable_of_iff ((∀ name ∈ names.map Text.trimmed, name ∈ others.map Text.trimmed) ∧
    ∀ name ∈ others.map Text.trimmed, name ∈ names.map Text.trimmed)
    ⟨fun h name => ⟨h.1 name, h.2 name⟩, fun h => ⟨fun name => (h name).1, fun name => (h name).2⟩⟩

namespace Record
variable {record : Record}

theorem names_congr {name other : String} {i : Nat} (h : Text.trimmed name = Text.trimmed other) :
    record.Names name i ↔ record.Names other i := by
  rw [Names, Names, h]

end Record

namespace SameNames
variable {names others : List String}

theorem symm (h : SameNames names others) : SameNames others names :=
  fun name => (h name).symm

theorem exists_other (h : SameNames names others) {name : String} (hname : name ∈ names) :
    ∃ other ∈ others, Text.trimmed name = Text.trimmed other := by
  obtain ⟨other, hother, same⟩ := List.mem_map.1 ((h _).1 (List.mem_map_of_mem hname))
  exact ⟨other, hother, same.symm⟩

variable {record : Record}

theorem known (h : SameNames names others) (hknown : ∀ name ∈ names, ∃ i, record.Names name i) :
    ∀ other ∈ others, ∃ i, record.Names other i := by
  intro other hother
  obtain ⟨name, hname, same⟩ := h.symm.exists_other hother
  obtain ⟨i, stands⟩ := hknown name hname
  exact ⟨i, (Record.names_congr same).2 stands⟩

theorem mem_positions_iff (h : SameNames names others) (i : Nat) :
    i ∈ names.filterMap record.position? ↔ i ∈ others.filterMap record.position? := by
  have leads : ∀ {names others}, SameNames names others → i ∈ names.filterMap record.position? →
      i ∈ others.filterMap record.position? := by
    intro names others h hi
    obtain ⟨name, hname, stands⟩ := List.mem_filterMap.1 hi
    obtain ⟨other, hother, same⟩ := h.exists_other hname
    rw [Record.position?_eq_some_iff, Record.names_congr same, ← Record.position?_eq_some_iff] at stands
    exact List.mem_filterMap.2 ⟨other, hother, stands⟩
  exact ⟨leads h, leads h.symm⟩

end SameNames

namespace Roles

def columns (roles : Roles) (lead : String) : FieldSet → List String
  | .read => roles.readColumns lead
  | .write => roles.writeColumns lead

/-- The fields that are named come apart into those that are kept in a set and those that their roles keep out
of it. -/
structure Parts (roles : Roles) (set : FieldSet) (names : List String) (kept gone : List Nat) : Prop where
  named_iff : ∀ i, (∃ name ∈ names, roles.record.Names name i) ↔ i ∈ kept ∨ i ∈ gone
  apart : kept.Disjoint gone
  gone_iff : ∀ i, i ∈ gone ↔ (∃ name ∈ names, roles.record.Names name i) ∧ i ∈ roles.keptOut set
  ascending : kept.Pairwise (· < ·)
  /-- They are told in the order of their roles. -/
  told : gone.Sublist (roles.keptOut set)
  told_once : (gone.map roles.nameAt).Nodup

section Lists
variable {roles : Roles} {set : FieldSet} {names others : List String}

theorem setFields_eq (known : ∀ name ∈ names, ∃ i, roles.record.Names name i) :
    roles.setFields set names =
      .ok (roles.withSet set (roles.members set (names.filterMap roles.record.position?)),
        roles.dropped set (names.filterMap roles.record.position?)) := by
  rw [setFields, resolveAll_eq, Record.firstUnknown_eq_none_iff.2 known]

theorem mem_positions_iff {i : Nat} :
    i ∈ names.filterMap roles.record.position? ↔ ∃ name ∈ names, roles.record.Names name i := by
  simp only [List.mem_filterMap, Record.position?_eq_some_iff]

theorem mem_excluded_iff {i : Nat} : i ∈ roles.excluded set ↔ i ∈ roles.keptOut set := by
  rw [← eraseDups_keptOut, List.mem_eraseDups]

/-- Ordinals of fields are told apart by the names of the fields. -/
theorem nodup_map_nameAt {ordinals : List Nat} (nodup : ordinals.Nodup)
    (lt : ∀ i ∈ ordinals, i < roles.record.fields.length) : (ordinals.map roles.nameAt).Nodup := by
  have named : ∀ i ∈ ordinals, (roles.record.fields.map Field.name)[i]? = some (roles.nameAt i) := by
    intro i hi
    obtain ⟨field, hfield⟩ : ∃ field, roles.record.fields[i]? = some field :=
      ⟨_, List.getElem?_eq_getElem (lt i hi)⟩
    rw [List.getElem?_map, hfield, nameAt_eq hfield, Option.map_some]
  refine List.Nodup.map_on ?_ nodup
  intro i hi j hj same
  refine (List.getElem?_inj (by simpa using lt i hi) roles.record.nodup_names).1 ?_
  rw [named i hi, named j hj, same]

/-- What `setFields` keeps and what it reports are the parts of what is named. -/
theorem parts (roles : Roles) (set : FieldSet) (names : List String) :
    roles.Parts set names (roles.members set (names.filterMap roles.record.position?))
      ((roles.excluded set).filter (names.filterMap roles.record.position?).contains) := by
  have lt : ∀ i, (∃ name ∈ names, roles.record.Names name i) → i < roles.record.size := by
    intro i named
    have wanted : Classification.Wanted roles.record (some names) i := named
    exact Classification.lt_of_wanted wanted
  have mem_kept : ∀ i, i ∈ roles.members set (names.filterMap roles.record.position?) ↔
      (∃ name ∈ names, roles.record.Names name i) ∧ i ∉ roles.keptOut set := by
    intro i
    rw [mem_members, mem_positions_iff, mem_excluded_iff]
    constructor
    · rintro ⟨_, named, free⟩
      exact ⟨named, free⟩
    · rintro ⟨named, free⟩
      exact ⟨lt i named, named, free⟩
  have mem_gone : ∀ i, i ∈ (roles.excluded set).filter (names.filterMap roles.record.position?).contains ↔
      (∃ name ∈ names, roles.record.Names name i) ∧ i ∈ roles.keptOut set := by
    intro i
    rw [List.mem_filter, List.contains_iff_mem, mem_positions_iff, mem_excluded_iff, and_comm]
  constructor
  case named_iff =>
    intro i
    rw [mem_kept, mem_gone, ← and_or_left]
    exact (and_iff_left (em' _)).symm
  case apart =>
    intro i kept gone
    exact ((mem_kept i).1 kept).2 ((mem_gone i).1 gone).2
  case gone_iff => exact mem_gone
  case ascending => exact members_ascending roles set _
  case told =>
    rw [← eraseDups_keptOut]
    exact List.filter_sublist.trans (eraseDups_sublist _)
  case told_once =>
    apply nodup_map_nameAt
    · rw [← eraseDups_keptOut]
      exact (nodup_eraseDups _).filter _
    · intro i gone
      exact lt i ((mem_gone i).1 gone).1

theorem setFields_congr (same : SameNames names others)
    (known : ∀ name ∈ names, ∃ i, roles.record.Names name i) :
    roles.setFields set others = roles.setFields set names := by
  have contains : (others.filterMap roles.record.position?).contains =
      (names.filterMap roles.record.position?).contains := by
    funext i
    simp only [List.contains_eq_mem, same.mem_positions_iff i]
  rw [setFields_eq known, setFields_eq (same.known known), members, members, dropped, dropped, contains]

end Lists
end Roles
end RecordAccess
