import RecordAccess.Classification
import RecordAccess.Proofs.Roles.WellFormed

/-!
# Roles that calls lead to

The roles that some row of calls leads to, those of a classification among them. They are well formed,
so each ordinal in a set stands for a field.
-/
namespace RecordAccess.Roles

inductive Reachable (record : Record) : Roles → Prop
  | ofRecord : Reachable record (ofRecord record)
  | perform {roles : Roles} (h : Reachable record roles) (call : Call) :
      Reachable record (roles.perform call).after

section Reachable
variable {record : Record} {roles after : Roles}

theorem Reachable.wellFormed (h : Reachable record roles) : roles.WellFormed := by
  induction h with
  | ofRecord => exact wellFormed_ofRecord record
  | perform _ call ih => exact (ih.perform call).wellFormed

theorem Reachable.record_eq (h : Reachable record roles) : roles.record = record := by
  induction h with
  | ofRecord => rfl
  | perform before call ih => rw [(before.wellFormed.perform call).record_eq, ih]

theorem Reachable.apply {dropped : List Dropped} (h : Reachable record roles) (call : Call)
    (hcall : roles.apply call = .ok (after, dropped)) : Reachable record after := by
  have run := call.program_run ⟨roles, []⟩
  simp only [hcall] at run
  have := h.perform call
  rwa [Roles.perform, run] at this

end Reachable

section Classified
open Classification
variable {record : Record} {overrides : Overrides} {roles after : Roles}

theorem Reachable.assign_setPrimary {name : Option String} (h : Reachable record roles)
    (hassign : assign Roles.setPrimary roles name = .ok after) : Reachable record after := by
  cases name with
  | none => exact Except.ok.inj hassign ▸ h
  | some name =>
    simp only [assign] at hassign
    exact @h.apply _ _ _ [] (.setPrimary name) (by simp [Roles.apply, hassign, Except.map])

theorem Reachable.assign_setSoftDelete {name : Option String} (h : Reachable record roles)
    (hassign : assign Roles.setSoftDelete roles name = .ok after) : Reachable record after := by
  cases name with
  | none => exact Except.ok.inj hassign ▸ h
  | some name =>
    simp only [assign] at hassign
    exact @h.apply _ _ _ [] (.setSoftDelete name) (by simp [Roles.apply, hassign, Except.map])

theorem Reachable.override {set : FieldSet} {names : Option (List String)}
    {dropped : List Dropped} (h : Reachable record roles)
    (hset : Classification.override roles set names = .ok (after, dropped)) :
    Reachable record after := by
  cases names with
  | none => exact (Prod.mk.inj (Except.ok.inj hset)).1 ▸ h
  | some names => exact h.apply (.setFields set names) hset

theorem Reachable.resetSets (h : Reachable record roles) : Reachable record roles.resetSets :=
  h.apply .resetSets rfl

theorem Reachable.named (h : Reachable record roles) (overrides : Overrides) :
    Reachable record (Classification.named roles overrides) := by
  unfold Classification.named
  cases overrides.table with
  | none => exact h.apply (.setSkipSuffix _) rfl
  | some table => exact (h.apply (.setTable _) rfl).apply (.setSkipSuffix _) rfl

theorem reachable_of_keyRoles (h : keyRoles record overrides = .ok roles) :
    Reachable record roles := by
  unfold keyRoles at h
  simp only [bind, Except.bind] at h
  split at h
  · simp at h
  · next marked hmarked =>
    split at h
    · simp at h
    · next both hboth =>
      have reachable := (Reachable.ofRecord.assign_setPrimary hmarked).assign_setSoftDelete
        hboth
      split at h
      · split at h
        · simp at h
        · exact Except.ok.inj h ▸ reachable
      · exact Except.ok.inj h ▸ reachable

/-- A classification is a row of calls. -/
theorem reachable_of_classify (h : (classify record overrides).outcome = .ok roles) :
    Reachable record roles := by
  unfold classify at h
  split at h
  · simp at h
  · next keyed hkeyed =>
    split at h
    · simp at h
    · next read _ hread =>
      split at h
      · simp at h
      · next written _ hwritten =>
        have reachable := ((reachable_of_keyRoles hkeyed).resetSets.override hread).override hwritten
        exact Except.ok.inj h ▸ reachable.named overrides

end Classified

def fieldsAt (roles : Roles) (ordinals : List Nat) : List Field :=
  ordinals.filterMap roles.record.field?

theorem map_fieldsAt {α : Type} {roles : Roles} {ordinals : List Nat} {atOrdinal : Nat → α}
    {ofField : Field → α} (h : ∀ i ∈ ordinals, i < roles.record.size)
    (heq : ∀ i field, roles.record.field? i = some field → atOrdinal i = ofField field) :
    ordinals.map atOrdinal = (roles.fieldsAt ordinals).map ofField := by
  induction ordinals with
  | nil => rfl
  | cons i rest ih =>
    obtain ⟨field, hi⟩ : ∃ field, roles.record.field? i = some field :=
      ⟨_, List.getElem?_eq_getElem (h i List.mem_cons_self)⟩
    have hrest := ih fun j hj => h j (List.mem_cons_of_mem _ hj)
    simp only [fieldsAt] at hrest
    simp only [fieldsAt, List.map_cons, List.filterMap_cons, hi, hrest, heq i _ hi]

theorem nameAt_eq {roles : Roles} {i : Nat} {field : Field} (h : roles.record.field? i = some field) :
    roles.nameAt i = field.name := by
  simp [nameAt, h]

theorem columnAt_eq {roles : Roles} {i : Nat} {field : Field}
    (h : roles.record.field? i = some field) : roles.columnAt i = field.column := by
  simp [columnAt, h]

end RecordAccess.Roles
