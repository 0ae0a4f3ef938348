import RecordAccess.Classification
import RecordAccess.Proofs.Record.Positions

/-!
# Classification by names

A classification looks names up and does nothing else that can fail. Each step of it is said here by
the first of its names that stands for no field, and by what the names stand for if there is none.
-/
namespace RecordAccess
namespace Classification
open Record

/-- The name that is to give a role: the override, else the conventional name if a field has it. -/
def keyName (record : Record) (override : Option String) (convention : String) : Option String :=
  override.or (if convention ∈ record.fields.map Field.name then some convention else none)

def primaryName (record : Record) (overrides : Overrides) : Option String :=
  keyName record overrides.primaryField conventionalPrimary

def softDeleteName (record : Record) (overrides : Overrides) : Option String :=
  keyName record overrides.softDeleteField conventionalSoftDelete

/-- The names that are to give the key roles, in the order in which they are looked up. -/
def keyNames (record : Record) (overrides : Overrides) : List String :=
  (primaryName record overrides).toList ++ (softDeleteName record overrides).toList

/-- The names that are to be members of the sets, in the order in which they are looked up. -/
def memberNames (overrides : Overrides) : List String :=
  overrides.readFields.getD [] ++ overrides.writeFields.getD []

/-- What a name that may be left out stands for. -/
inductive Gives (record : Record) : Option String → Option Nat → Prop
  | absent : Gives record none none
  | named {name : String} {i : Nat} (h : record.Names name i) : Gives record (some name) (some i)

/-- The ordinal is wanted for a set: one of the names stands for it, or there are no names. -/
def Wanted (record : Record) : Option (List String) → Nat → Prop
  | none, i => i < record.size
  | some names, i => ∃ name ∈ names, record.Names name i

section Keys
variable {record : Record} {overrides : Overrides}

theorem roleName_eq_keyName (override : Option String) {convention : String}
    (h : Text.trimmed convention = convention) :
    roleName record override convention = keyName record override convention := by
  unfold roleName keyName
  cases override with
  | some name => rfl
  | none =>
    have declared : (∃ i, record.Names convention i) ↔ convention ∈ record.fields.map Field.name := by
      unfold Names
      rw [h, List.mem_map]
      constructor
      · rintro ⟨i, field, hfield, hname⟩
        exact ⟨field, List.mem_of_getElem? hfield, hname⟩
      · rintro ⟨field, hfield, hname⟩
        obtain ⟨i, hi⟩ := List.mem_iff_getElem?.1 hfield
        exact ⟨i, field, hi, hname⟩
    rw [Option.none_or]
    split_ifs with hmem
    · obtain ⟨i, hi⟩ := declared.2 hmem
      simp [position?_eq_some_iff.2 hi]
    · have unknown : ¬∃ i, record.Names convention i := fun hknown => hmem (declared.1 hknown)
      simp [position?_eq_none_iff.2 unknown]

theorem gives_iff {name : Option String} {given : Option Nat} :
    Gives record name given ↔
      Roles.firstUnknown record name.toList = none ∧ given = name.bind record.position? := by
  cases name with
  | none =>
    constructor
    · intro gives
      cases gives
      exact ⟨rfl, rfl⟩
    · rintro ⟨_, rfl⟩
      exact .absent
  | some name =>
    rw [firstUnknown_eq_none_iff]
    simp only [Option.toList_some, List.mem_singleton, forall_eq, Option.bind_some]
    constructor
    · intro gives
      cases gives with
      | named h => exact ⟨⟨_, h⟩, (position?_eq_some_iff.2 h).symm⟩
    · rintro ⟨⟨i, hi⟩, rfl⟩
      rw [position?_eq_some_iff.2 hi]
      exact .named hi

/-- Giving a role by a name that may be left out. -/
theorem assign_eq (setter : Roles → String → Except GenerationError Roles) (mark : Option Nat → Roles)
    (roles : Roles) (name : Option String) (hnone : mark none = roles)
    (hsetter : ∀ name, setter roles name = match roles.record.position? name with
      | some i => .ok (mark (some i))
      | none => .error (.fieldNotFound (Text.trimmed name) roles.model)) :
    assign setter roles name = match Roles.firstUnknown roles.record name.toList with
      | some name => .error (.fieldNotFound (Text.trimmed name) roles.model)
      | none => .ok (mark (name.bind roles.record.position?)) := by
  cases name with
  | none => rw [assign, Option.bind_none, hnone]; rfl
  | some name =>
    rw [assign, hsetter]
    simp only [Roles.firstUnknown, Option.toList_some, List.find?_singleton, Option.bind_some]
    cases roles.record.position? name <;> rfl

/-- Roles with the key roles given and no set. -/
def marked (record : Record) (primary softDelete : Option Nat) : Roles :=
  { Roles.ofRecord record with primary, softDelete }

theorem keyRoles_eq (record : Record) (overrides : Overrides) :
    keyRoles record overrides =
      match Roles.firstUnknown record (keyNames record overrides) with
      | some name => .error (.fieldNotFound (Text.trimmed name) record.name)
      | none =>
        let roles := marked record ((primaryName record overrides).bind record.position?)
          ((softDeleteName record overrides).bind record.position?)
        match roles.primary with
        | some i =>
          if roles.softDelete = some i then .error (.conflictingRoles record.name (roles.nameAt i))
          else .ok roles
        | none => .ok roles := by
  have primary : assign Roles.setPrimary (Roles.ofRecord record)
      (roleName record overrides.primaryField conventionalPrimary) =
      match Roles.firstUnknown record (primaryName record overrides).toList with
      | some name => .error (.fieldNotFound (Text.trimmed name) record.name)
      | none => .ok (marked record ((primaryName record overrides).bind record.position?) none) := by
    rw [roleName_eq_keyName _ (by decide)]
    refine assign_eq _ (fun given => marked record given none) _ _ rfl ?_
    intro name
    simp only [Roles.setPrimary, Roles.resolve]
    cases (Roles.ofRecord record).record.position? name <;> rfl
  have softDelete : ∀ given, assign Roles.setSoftDelete (marked record given none)
      (roleName record overrides.softDeleteField conventionalSoftDelete) =
      match Roles.firstUnknown record (softDeleteName record overrides).toList with
      | some name => .error (.fieldNotFound (Text.trimmed name) record.name)
      | none => .ok (marked record given ((softDeleteName record overrides).bind record.position?)) := by
    intro given
    rw [roleName_eq_keyName _ (by decide)]
    refine assign_eq _ (fun mark => marked record given mark) _ _ rfl ?_
    intro name
    simp only [Roles.setSoftDelete, Roles.resolve]
    cases (marked record given none).record.position? name <;> rfl
  unfold keyRoles keyNames
  rw [primary, firstUnknown_append]
  cases Roles.firstUnknown record (primaryName record overrides).toList with
  | some name => rfl
  | none =>
    simp only [bind, Except.bind, Option.none_or, softDelete]
    cases Roles.firstUnknown record (softDeleteName record overrides).toList <;> rfl

end Keys

section Members
variable {record : Record} {overrides : Overrides}

/-- The ordinals that are named for a set; all of them if there are no names. -/
def chosen (record : Record) : Option (List String) → List Nat
  | none => record.ordinals
  | some names => names.filterMap record.position?

theorem mem_chosen_iff {names : Option (List String)} {i : Nat} :
    i ∈ chosen record names ↔ Wanted record names i := by
  cases names with
  | none => simp [chosen, Wanted, ordinals]
  | some names => simp [chosen, Wanted, position?_eq_some_iff]

/-- Roles whose sets hold what is given for them, as far as their key roles allow. -/
def filled (roles : Roles) (read write : List Nat) : Roles :=
  { roles with read := roles.members .read read, write := roles.members .write write }

/-- Replacing a set by names that may be left out. -/
theorem exists_override_eq (roles : Roles) (set : FieldSet) (names : Option (List String)) :
    ∃ dropped, override roles set names =
      match Roles.firstUnknown roles.record (names.getD []) with
      | some name => .error (.fieldNotFound (Text.trimmed name) roles.model)
      | none => .ok (names.elim roles fun names =>
          roles.withSet set (roles.members set (names.filterMap roles.record.position?)), dropped) := by
  cases names with
  | none => exact ⟨[], rfl⟩
  | some names =>
    refine ⟨roles.dropped set (names.filterMap roles.record.position?), ?_⟩
    simp only [override, Roles.setFields, Roles.resolveAll_eq, Option.getD_some, Option.elim_some]
    cases Roles.firstUnknown roles.record names <;> rfl

theorem exists_override_read_eq (roles : Roles) (names : Option (List String)) (write : List Nat) :
    ∃ dropped, override (filled roles roles.record.ordinals write) .read names =
      match Roles.firstUnknown roles.record (names.getD []) with
      | some name => .error (.fieldNotFound (Text.trimmed name) roles.model)
      | none => .ok (filled roles (chosen roles.record names) write, dropped) := by
  obtain ⟨dropped, h⟩ := exists_override_eq (filled roles roles.record.ordinals write) .read names
  refine ⟨dropped, h.trans ?_⟩
  cases names <;> rfl

theorem exists_override_write_eq (roles : Roles) (names : Option (List String)) (read : List Nat) :
    ∃ dropped, override (filled roles read roles.record.ordinals) .write names =
      match Roles.firstUnknown roles.record (names.getD []) with
      | some name => .error (.fieldNotFound (Text.trimmed name) roles.model)
      | none => .ok (filled roles read (chosen roles.record names), dropped) := by
  obtain ⟨dropped, h⟩ := exists_override_eq (filled roles read roles.record.ordinals) .write names
  refine ⟨dropped, h.trans ?_⟩
  cases names <;> rfl

/-- The roles that overrides make of key roles. -/
def settled (roles : Roles) (overrides : Overrides) : Roles :=
  named (filled roles (chosen roles.record overrides.readFields)
    (chosen roles.record overrides.writeFields)) overrides

theorem outcome_classify (record : Record) (overrides : Overrides) :
    (classify record overrides).outcome = match keyRoles record overrides with
      | .error e => .error e
      | .ok roles => match Roles.firstUnknown roles.record (memberNames overrides) with
        | some name => .error (.fieldNotFound (Text.trimmed name) roles.model)
        | none => .ok (settled roles overrides) := by
  unfold classify memberNames
  cases keyRoles record overrides with
  | error e => rfl
  | ok roles =>
    have reset : roles.resetSets = filled roles roles.record.ordinals roles.record.ordinals := rfl
    obtain ⟨_, read⟩ :=
      exists_override_read_eq roles overrides.readFields roles.record.ordinals
    obtain ⟨_, write⟩ := exists_override_write_eq roles overrides.writeFields
      (chosen roles.record overrides.readFields)
    simp only [reset, read, firstUnknown_append]
    cases Roles.firstUnknown roles.record (overrides.readFields.getD []) with
    | some name => rfl
    | none =>
      simp only [write, Option.none_or]
      cases Roles.firstUnknown roles.record (overrides.writeFields.getD []) <;> rfl

end Members

end Classification
end RecordAccess
