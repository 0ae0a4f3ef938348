import RecordAccess.Proofs.Roles.Calls

/-!
# Roles stay well formed

Well-formed roles point at fields of the record, never write the primary field, and neither read nor
write the field that marks deletion. Every call keeps them well formed, those that fail among them: a
failed call names the first name that matches no field, changes nothing and drops nothing.
-/
namespace RecordAccess.Roles

structure WellFormed (roles : Roles) : Prop where
  primary_lt : ∀ p ∈ roles.primary, p < roles.record.size
  softDelete_lt : ∀ s ∈ roles.softDelete, s < roles.record.size
  read_lt : ∀ i ∈ roles.read, i < roles.record.size
  write_lt : ∀ i ∈ roles.write, i < roles.record.size
  primary_not_written : ∀ p ∈ roles.primary, p ∉ roles.write
  softDelete_not_read : ∀ s ∈ roles.softDelete, s ∉ roles.read
  softDelete_not_written : ∀ s ∈ roles.softDelete, s ∉ roles.write
  read_ascending : roles.read.Pairwise (· < ·)
  write_ascending : roles.write.Pairwise (· < ·)

theorem wellFormed_ofRecord (record : Record) : (ofRecord record).WellFormed := by
  constructor <;> simp [ofRecord]

section Members
variable (roles : Roles) (set : FieldSet) (named : List Nat)

theorem mem_members {roles : Roles} {set : FieldSet} {named : List Nat} {i : Nat} :
    i ∈ roles.members set named ↔
      i < roles.record.size ∧ i ∈ named ∧ i ∉ roles.excluded set := by
  simp [members, Record.ordinals]

theorem members_ascending : (roles.members set named).Pairwise (· < ·) :=
  List.pairwise_lt_range.filter _

theorem mem_excluded_read {roles : Roles} {i : Nat} :
    i ∈ roles.excluded .read ↔ roles.softDelete = some i := by
  simp [excluded, Option.mem_toList]

theorem mem_excluded_write {roles : Roles} {i : Nat} :
    i ∈ roles.excluded .write ↔ roles.softDelete = some i ∨ roles.primary = some i := by
  simp [excluded]

end Members

namespace WellFormed
variable {roles : Roles}

/-- Putting what is named in place of a set keeps roles well formed. -/
theorem withSet (h : roles.WellFormed) (set : FieldSet) (named : List Nat) :
    (roles.withSet set (roles.members set named)).WellFormed := by
  have ascending := members_ascending roles set named
  cases set with
  | read =>
    have lt : ∀ i ∈ roles.members .read named, i < roles.record.size :=
      fun i hi => (mem_members.1 hi).1
    have fresh : ∀ s ∈ roles.softDelete, s ∉ roles.members .read named :=
      fun s hs hm => (mem_members.1 hm).2.2 (mem_excluded_read.2 hs)
    exact { h with read_lt := lt, softDelete_not_read := fresh, read_ascending := ascending }
  | write =>
    have lt : ∀ i ∈ roles.members .write named, i < roles.record.size :=
      fun i hi => (mem_members.1 hi).1
    have kept : ∀ i ∈ roles.members .write named,
        ¬(roles.softDelete = some i ∨ roles.primary = some i) :=
      fun i hi ho => (mem_members.1 hi).2.2 (mem_excluded_write.2 ho)
    exact { h with
      write_lt := lt
      primary_not_written := fun p hp hm => kept p hm (.inr hp)
      softDelete_not_written := fun s hs hm => kept s hm (.inl hs)
      write_ascending := ascending }

theorem setPrimary (h : roles.WellFormed) {name : String} {after : Roles}
    (hset : roles.setPrimary name = .ok after) : after.WellFormed := by
  unfold Roles.setPrimary at hset
  split at hset
  · simp at hset
  · next ordinal hordinal =>
    obtain rfl := Except.ok.inj hset
    have lt : ordinal < roles.record.size := position?_lt (resolve_eq_ok_iff.1 hordinal)
    exact { h with
      primary_lt := by simpa using lt
      write_lt := fun i hi => h.write_lt i (List.mem_filter.1 hi).1
      primary_not_written := by simp
      softDelete_not_written := fun s hs hm =>
        h.softDelete_not_written s hs (List.mem_filter.1 hm).1
      write_ascending := h.write_ascending.filter _ }

theorem setSoftDelete (h : roles.WellFormed) {name : String} {after : Roles}
    (hset : roles.setSoftDelete name = .ok after) : after.WellFormed := by
  unfold Roles.setSoftDelete at hset
  split at hset
  · simp at hset
  · next ordinal hordinal =>
    obtain rfl := Except.ok.inj hset
    have lt : ordinal < roles.record.size := position?_lt (resolve_eq_ok_iff.1 hordinal)
    exact { h with
      softDelete_lt := by simpa using lt
      read_lt := fun i hi => h.read_lt i (List.mem_filter.1 hi).1
      write_lt := fun i hi => h.write_lt i (List.mem_filter.1 hi).1
      primary_not_written := fun p hp hm => h.primary_not_written p hp (List.mem_filter.1 hm).1
      softDelete_not_read := by simp
      softDelete_not_written := by simp
      read_ascending := h.read_ascending.filter _
      write_ascending := h.write_ascending.filter _ }

theorem setFields (h : roles.WellFormed) {set : FieldSet} {names : List String}
    {after : Roles} {dropped : List Dropped}
    (hset : roles.setFields set names = .ok (after, dropped)) : after.WellFormed := by
  unfold Roles.setFields at hset
  split at hset
  · simp at hset
  · next named _ =>
    obtain ⟨rfl, _⟩ := Prod.mk.inj (Except.ok.inj hset)
    exact h.withSet set named

theorem resetSets (h : roles.WellFormed) : roles.resetSets.WellFormed :=
  (h.withSet .read roles.record.ordinals).withSet .write roles.record.ordinals

theorem setTable (h : roles.WellFormed) (table : String) : (roles.setTable table).WellFormed :=
  { h with }

theorem setSkipSuffix (h : roles.WellFormed) (skip : Bool) :
    (roles.setSkipSuffix skip).WellFormed :=
  { h with }

theorem apply (h : roles.WellFormed) {call : Call} {after : Roles} {dropped : List Dropped}
    (hcall : roles.apply call = .ok (after, dropped)) : after.WellFormed := by
  cases call with
  | setPrimary name =>
    cases hset : roles.setPrimary name with
    | error e => simp [Roles.apply, hset, Except.map] at hcall
    | ok changed =>
      simp only [Roles.apply, hset, Except.map, Except.ok.injEq, Prod.mk.injEq] at hcall
      exact hcall.1 ▸ h.setPrimary hset
  | setSoftDelete name =>
    cases hset : roles.setSoftDelete name with
    | error e => simp [Roles.apply, hset, Except.map] at hcall
    | ok changed =>
      simp only [Roles.apply, hset, Except.map, Except.ok.injEq, Prod.mk.injEq] at hcall
      exact hcall.1 ▸ h.setSoftDelete hset
  | setFields set names => exact h.setFields hcall
  | resetSets => exact (Prod.mk.inj (Except.ok.inj hcall)).1 ▸ h.resetSets
  | setTable table => exact (Prod.mk.inj (Except.ok.inj hcall)).1 ▸ h.setTable table
  | setSkipSuffix skip => exact (Prod.mk.inj (Except.ok.inj hcall)).1 ▸ h.setSkipSuffix skip

end WellFormed

theorem record_withSet (roles : Roles) (set : FieldSet) (ordinals : List Nat) :
    (roles.withSet set ordinals).record = roles.record := by
  cases set <;> rfl

/-- A call fails with the first of its names that matches no field, and if there is none it succeeds
and keeps the record. -/
theorem apply_outcome (roles : Roles) (call : Call) :
    match firstUnknown roles.record call.names with
    | some name => roles.apply call = .error (.fieldNotFound (Text.trimmed name) roles.model)
    | none => ∃ after dropped, roles.apply call = .ok (after, dropped) ∧
        after.record = roles.record := by
  cases call with
  | setPrimary name =>
    simp only [firstUnknown, Call.names, List.find?_singleton, Roles.apply, Roles.setPrimary, resolve]
    cases roles.record.position? name <;> simp [Except.map]
  | setSoftDelete name =>
    simp only [firstUnknown, Call.names, List.find?_singleton, Roles.apply, Roles.setSoftDelete, resolve]
    cases roles.record.position? name <;> simp [Except.map]
  | setFields set names =>
    simp only [Call.names, Roles.apply, Roles.setFields, resolveAll_eq]
    cases firstUnknown roles.record names with
    | some name => rfl
    | none => exact ⟨_, _, rfl, record_withSet _ _ _⟩
  | resetSets => exact ⟨_, _, rfl, rfl⟩
  | setTable table => exact ⟨_, _, rfl, rfl⟩
  | setSkipSuffix skip => exact ⟨_, _, rfl, rfl⟩

structure Step where
  call : Call
  before : Roles
  after : Roles
  dropped : List Dropped
  failure : Option GenerationError

def perform (roles : Roles) (call : Call) : Step :=
  match call.program.run ⟨roles, []⟩ with
  | .ok _ bench => ⟨call, roles, bench.roles, bench.dropped, none⟩
  | .error e bench => ⟨call, roles, bench.roles, bench.dropped, some e⟩

/-- What a row of calls did, call by call. A failure does not end the row. -/
def history (roles : Roles) : List Call → List Step
  | [] => []
  | call :: rest => roles.perform call :: history (roles.perform call).after rest

/-- What a call may do: it keeps roles well formed, fails exactly if one of its names matches no field,
and then leaves no trace. -/
structure Step.Sound (record : Record) (step : Step) : Prop where
  record_eq : step.after.record = record
  wellFormed : step.after.WellFormed
  failure_eq : step.failure = (firstUnknown record step.call.names).map
    fun name => .fieldNotFound (Text.trimmed name) record.name
  unchanged : step.failure.isSome → step.after = step.before
  nothing_dropped : step.failure.isSome → step.dropped = []

theorem WellFormed.perform {roles : Roles} (h : roles.WellFormed) (call : Call) :
    (roles.perform call).Sound roles.record := by
  have outcome := roles.apply_outcome call
  have run := call.program_run ⟨roles, []⟩
  simp only [Roles.perform]
  cases hunknown : firstUnknown roles.record call.names with
  | some name =>
    simp only [hunknown] at outcome
    simp only [outcome] at run
    rw [run]
    exact ⟨rfl, h, by simp [hunknown, model], fun _ => rfl, fun _ => rfl⟩
  | none =>
    simp only [hunknown] at outcome
    obtain ⟨after, dropped, hcall, hrecord⟩ := outcome
    simp only [hcall] at run
    rw [run]
    exact ⟨hrecord, h.apply hcall, by simp [hunknown], by simp, by simp⟩

theorem WellFormed.history {roles : Roles} (h : roles.WellFormed) (calls : List Call) :
    ∀ step ∈ roles.history calls, step.Sound roles.record := by
  induction calls generalizing roles with
  | nil => simp [Roles.history]
  | cons call rest ih =>
    intro step hstep
    have sound := h.perform call
    rcases List.mem_cons.1 hstep with rfl | hstep
    · exact sound
    · rw [← sound.record_eq]
      exact ih sound.wellFormed step hstep

theorem history_calls (roles : Roles) (calls : List Call) :
    (roles.history calls).map Step.call = calls := by
  have call_perform : ∀ (roles : Roles) (call : Call), (roles.perform call).call = call := by
    intro roles call
    unfold perform
    split <;> rfl
  induction calls generalizing roles with
  | nil => rfl
  | cons call rest ih => rw [history, List.map_cons, call_perform, ih]

/-- Whatever row of calls is made on the roles of a record, failing calls among them, the roles are well
formed after each call, and a call that fails names the first name that matches no field, leaves the
roles as they were and reports nothing as dropped. -/
theorem history_sound (record : Record) (calls : List Call) :
    (ofRecord record).WellFormed ∧ ((ofRecord record).history calls).map Step.call = calls ∧
      ∀ step ∈ (ofRecord record).history calls, step.Sound record :=
  ⟨wellFormed_ofRecord record, history_calls _ calls, (wellFormed_ofRecord record).history calls⟩

/-- A write set that names an unknown field after the primary one changes nothing. -/
theorem history_sound_unknown_field :
    let foo : Record := ⟨"Foo", [⟨"ID", none, "int", .basic⟩, ⟨"Name", none, "string", .basic⟩], by decide⟩
    let calls := [Call.setPrimary "ID", .setFields .write ["ID", " Missing ", "Gone"]]
    ∃ step ∈ (ofRecord foo).history calls, step.failure = some (.fieldNotFound "Missing" "Foo") ∧
      step.before.primary = some 0 ∧ step.after = step.before ∧ step.dropped = [] := by
  intro foo calls
  let marked := ((ofRecord foo).perform (.setPrimary "ID")).after
  have hmem : marked.perform (.setFields .write ["ID", " Missing ", "Gone"]) ∈
      (ofRecord foo).history calls := List.mem_cons_of_mem _ List.mem_cons_self
  have sound := (history_sound foo calls).2.2 _ hmem
  have failure : (marked.perform (.setFields .write ["ID", " Missing ", "Gone"])).failure =
      some (.fieldNotFound "Missing" "Foo") := by decide +kernel
  exact ⟨_, hmem, failure, by decide +kernel, sound.unchanged (by simp [failure]),
    sound.nothing_dropped (by simp [failure])⟩

end RecordAccess.Roles
