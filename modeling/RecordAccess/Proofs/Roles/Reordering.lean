import RecordAccess.Proofs.Classification.Verdict

/-!
# Setters in any order

Four setters give a record its two key roles and its two sets. Each set is kept free of the key roles twice: it
is filtered when it is set, and again when a role is given later. So setters that are each called at most once
lead to the same roles in every order, the failing ones among them, and what they lead to can be read off the
calls.
-/
namespace RecordAccess.Roles
open Record

/-- What one setter decides of the roles. -/
inductive Aspect where
  | primary
  | softDelete
  | members (set : FieldSet)
  deriving DecidableEq

/-- What a call decides, if it is one of the four setters. -/
def Call.aspect? : Call → Option Aspect
  | setPrimary _ => some .primary
  | setSoftDelete _ => some .softDelete
  | setFields set _ => some (.members set)
  | resetSets | setTable _ | setSkipSuffix _ => none

structure OneEach (calls : List Call) : Prop where
  setters : ∀ call ∈ calls, call.aspect?.isSome
  apart : (calls.map Call.aspect?).Nodup

/-- The roles after a row of calls. A failure does not end the row. -/
def afterAll (roles : Roles) : List Call → Roles
  | [] => roles
  | call :: rest => afterAll (roles.perform call).after rest

/-- A call gives a key role to the field at the ordinal, and succeeds. -/
def Given (record : Record) (calls : List Call) (setter : String → Call) (i : Nat) : Prop :=
  ∃ name, setter name ∈ calls ∧ record.Names name i

/-- A call names the field at the ordinal for a set, and succeeds. -/
def Chosen (record : Record) (calls : List Call) (set : FieldSet) (i : Nat) : Prop :=
  ∃ names, .setFields set names ∈ calls ∧ (∀ name ∈ names, ∃ j, record.Names name j) ∧
    ∃ name ∈ names, record.Names name i

/-- The roles are what the calls that succeed say, whatever their order. -/
structure SetBy (record : Record) (calls : List Call) (roles : Roles) : Prop where
  record_eq : roles.record = record
  table_eq : roles.table = record.name
  skipSuffix_eq : roles.skipSuffix = false
  primary_iff : ∀ i, roles.primary = some i ↔ Given record calls .setPrimary i
  softDelete_iff : ∀ i, roles.softDelete = some i ↔ Given record calls .setSoftDelete i
  mem_read_iff : ∀ i, i ∈ roles.read ↔ Chosen record calls .read i ∧ roles.softDelete ≠ some i
  mem_write_iff : ∀ i, i ∈ roles.write ↔
    Chosen record calls .write i ∧ roles.softDelete ≠ some i ∧ roles.primary ≠ some i
  read_ascending : roles.read.Pairwise (· < ·)
  write_ascending : roles.write.Pairwise (· < ·)

section Order
variable {record : Record} {calls order : List Call} {roles others : Roles}

theorem setBy_ofRecord (record : Record) : SetBy record [] (ofRecord record) := by
  constructor <;> simp [ofRecord, Given, Chosen]

theorem SetBy.unique (h : SetBy record calls roles) (h' : SetBy record calls others) : roles = others := by
  have primary : roles.primary = others.primary :=
    Option.ext fun i => (h.primary_iff i).trans (h'.primary_iff i).symm
  have softDelete : roles.softDelete = others.softDelete :=
    Option.ext fun i => (h.softDelete_iff i).trans (h'.softDelete_iff i).symm
  have read : roles.read = others.read := by
    refine h.read_ascending.eq_of_mem_iff h'.read_ascending ?_
    intro i
    rw [h.mem_read_iff, h'.mem_read_iff, softDelete]
  have write : roles.write = others.write := by
    refine h.write_ascending.eq_of_mem_iff h'.write_ascending ?_
    intro i
    rw [h.mem_write_iff, h'.mem_write_iff, softDelete, primary]
  have same := h.record_eq.trans h'.record_eq.symm
  have table := h.table_eq.trans h'.table_eq.symm
  have skip := h.skipSuffix_eq.trans h'.skipSuffix_eq.symm
  cases roles
  cases others
  simp_all only

theorem SetBy.reordered (h : SetBy record calls roles) (same : order.Perm calls) : SetBy record order roles := by
  have given : ∀ setter i, Given record order setter i ↔ Given record calls setter i := by
    intro setter i
    simp only [Given, same.mem_iff]
  have chosen : ∀ set i, Chosen record order set i ↔ Chosen record calls set i := by
    intro set i
    simp only [Chosen, same.mem_iff]
  exact { h with
    primary_iff := by simpa only [given] using h.primary_iff
    softDelete_iff := by simpa only [given] using h.softDelete_iff
    mem_read_iff := by simpa only [chosen] using h.mem_read_iff
    mem_write_iff := by simpa only [chosen] using h.mem_write_iff }

theorem OneEach.reordered (h : OneEach calls) (same : order.Perm calls) : OneEach order where
  setters call hcall := h.setters call (same.mem_iff.1 hcall)
  apart := (same.map Call.aspect?).nodup_iff.2 h.apart

end Order

section Step
variable {record : Record} {calls : List Call} {call : Call} {roles : Roles} {setter : String → Call}
  {set : FieldSet} {i : Nat}

theorem given_concat :
    Given record (calls ++ [call]) setter i ↔ Given record calls setter i ∨ Given record [call] setter i := by
  simp only [Given, List.mem_append, or_and_right, exists_or]

theorem chosen_concat :
    Chosen record (calls ++ [call]) set i ↔ Chosen record calls set i ∨ Chosen record [call] set i := by
  simp only [Chosen, List.mem_append, or_and_right, exists_or]

theorem given_singleton : Given record [call] setter i ↔ ∃ name, call = setter name ∧ record.Names name i := by
  simp only [Given, List.mem_singleton, eq_comm]

theorem chosen_singleton :
    Chosen record [call] set i ↔ ∃ names, call = .setFields set names ∧
      (∀ name ∈ names, ∃ j, record.Names name j) ∧ ∃ name ∈ names, record.Names name i := by
  simp only [Chosen, List.mem_singleton, eq_comm]

/-- A call that fails decides nothing. -/
theorem SetBy.failed (h : SetBy record calls roles) (unknown : (firstUnknown record call.names).isSome) :
    SetBy record (calls ++ [call]) roles := by
  have known : ∀ names, (∀ name ∈ names, ∃ i, record.Names name i) → call.names ≠ names := by
    rintro names hnames rfl
    rw [firstUnknown_eq_none_iff.2 hnames] at unknown
    simp at unknown
  have notPrimary : ∀ i, ¬Given record [call] .setPrimary i := by
    intro i hi
    obtain ⟨name, rfl, hname⟩ := given_singleton.1 hi
    exact known [name] (by simpa using ⟨i, hname⟩) rfl
  have notSoftDelete : ∀ i, ¬Given record [call] .setSoftDelete i := by
    intro i hi
    obtain ⟨name, rfl, hname⟩ := given_singleton.1 hi
    exact known [name] (by simpa using ⟨i, hname⟩) rfl
  have notChosen : ∀ set i, ¬Chosen record [call] set i := by
    intro set i hi
    obtain ⟨names, rfl, hnames, _⟩ := chosen_singleton.1 hi
    exact known names hnames rfl
  exact { h with
    primary_iff := by simpa only [given_concat, notPrimary, or_false] using h.primary_iff
    softDelete_iff := by simpa only [given_concat, notSoftDelete, or_false] using h.softDelete_iff
    mem_read_iff := by simpa only [chosen_concat, notChosen, or_false] using h.mem_read_iff
    mem_write_iff := by simpa only [chosen_concat, notChosen, or_false] using h.mem_write_iff }

/-- The first call of its kind gives the primary role, whatever was set before. -/
theorem SetBy.setPrimary (h : SetBy record calls roles) {name : String} {p : Nat} (hname : record.Names name p)
    (fresh : ∀ i, ¬Given record calls .setPrimary i) :
    SetBy record (calls ++ [.setPrimary name])
      { roles with primary := some p, write := roles.write.filter (· ≠ p) } := by
  have unset : roles.primary = none := by
    rw [Option.eq_none_iff_forall_ne_some]
    exact fun i hi => fresh i ((h.primary_iff i).1 hi)
  constructor
  case record_eq => exact h.record_eq
  case table_eq => exact h.table_eq
  case skipSuffix_eq => exact h.skipSuffix_eq
  case primary_iff =>
    intro i
    simp only [given_concat, fresh, false_or, given_singleton, Call.setPrimary.injEq, Option.some.injEq]
    constructor
    · rintro rfl
      exact ⟨name, rfl, hname⟩
    · rintro ⟨_, rfl, hi⟩
      exact hname.unique hi
  case softDelete_iff => simpa [given_concat, given_singleton] using h.softDelete_iff
  case mem_read_iff => simpa [chosen_concat, chosen_singleton] using h.mem_read_iff
  case mem_write_iff =>
    intro i
    have := h.mem_write_iff i
    simp only [unset] at this
    simp [chosen_concat, chosen_singleton, this, and_assoc, @eq_comm _ p i]
  case read_ascending => exact h.read_ascending
  case write_ascending => exact h.write_ascending.filter _

/-- The first call of its kind marks deletion, whatever was set before. -/
theorem SetBy.setSoftDelete (h : SetBy record calls roles) {name : String} {s : Nat}
    (hname : record.Names name s) (fresh : ∀ i, ¬Given record calls .setSoftDelete i) :
    SetBy record (calls ++ [.setSoftDelete name])
      { roles with
        softDelete := some s
        read := roles.read.filter (· ≠ s)
        write := roles.write.filter (· ≠ s) } := by
  have unset : roles.softDelete = none := by
    rw [Option.eq_none_iff_forall_ne_some]
    exact fun i hi => fresh i ((h.softDelete_iff i).1 hi)
  constructor
  case record_eq => exact h.record_eq
  case table_eq => exact h.table_eq
  case skipSuffix_eq => exact h.skipSuffix_eq
  case primary_iff => simpa [given_concat, given_singleton] using h.primary_iff
  case softDelete_iff =>
    intro i
    simp only [given_concat, fresh, false_or, given_singleton, Call.setSoftDelete.injEq, Option.some.injEq]
    constructor
    · rintro rfl
      exact ⟨name, rfl, hname⟩
    · rintro ⟨_, rfl, hi⟩
      exact hname.unique hi
  case mem_read_iff =>
    intro i
    have := h.mem_read_iff i
    simp only [unset] at this
    simp [chosen_concat, chosen_singleton, this, @eq_comm _ s i]
  case mem_write_iff =>
    intro i
    have := h.mem_write_iff i
    simp only [unset] at this
    simp [chosen_concat, chosen_singleton, this, @eq_comm _ s i, and_assoc, and_comm]
  case read_ascending => exact h.read_ascending.filter _
  case write_ascending => exact h.write_ascending.filter _

/-- The first call of its kind sets the members of a set, less the fields that have a role by then. -/
theorem SetBy.setFields (h : SetBy record calls roles) {names : List String}
    (known : ∀ name ∈ names, ∃ i, record.Names name i) (fresh : ∀ i, ¬Chosen record calls set i) :
    SetBy record (calls ++ [.setFields set names])
      (roles.withSet set (roles.members set (names.filterMap record.position?))) := by
  have size : roles.record.size = record.size := by rw [h.record_eq]
  have chosen : ∀ i, Chosen record (calls ++ [.setFields set names]) set i ↔
      i < roles.record.size ∧ i ∈ names.filterMap record.position? := by
    intro i
    simp only [chosen_concat, fresh, false_or, chosen_singleton, List.mem_filterMap, position?_eq_some_iff]
    constructor
    · rintro ⟨others, heq, _, name, hmem, hi⟩
      obtain ⟨_, rfl⟩ := Call.setFields.inj heq
      exact ⟨size ▸ position?_lt (position?_eq_some_iff.2 hi), name, hmem, hi⟩
    · rintro ⟨_, name, hmem, hi⟩
      exact ⟨names, rfl, known, name, hmem, hi⟩
  have apart : ∀ other i, other ≠ set →
      (Chosen record (calls ++ [.setFields set names]) other i ↔ Chosen record calls other i) := by
    intro other i hother
    simp [chosen_concat, chosen_singleton, hother.symm]
  have primary_iff : ∀ i, roles.primary = some i ↔
      Given record (calls ++ [.setFields set names]) .setPrimary i := by
    simpa [given_concat, given_singleton] using h.primary_iff
  have softDelete_iff : ∀ i, roles.softDelete = some i ↔
      Given record (calls ++ [.setFields set names]) .setSoftDelete i := by
    simpa [given_concat, given_singleton] using h.softDelete_iff
  cases set with
  | read => exact { h with
      primary_iff := primary_iff
      softDelete_iff := softDelete_iff
      mem_read_iff := by
        intro i
        rw [chosen, and_assoc]
        exact mem_members.trans (by rw [mem_excluded_read]; rfl)
      mem_write_iff := by
        intro i
        rw [apart .write i (by decide)]
        exact h.mem_write_iff i
      read_ascending := members_ascending _ _ _ }
  | write => exact { h with
      primary_iff := primary_iff
      softDelete_iff := softDelete_iff
      mem_read_iff := by
        intro i
        rw [apart .read i (by decide)]
        exact h.mem_read_iff i
      mem_write_iff := by
        intro i
        rw [chosen, and_assoc]
        exact mem_members.trans (by rw [mem_excluded_write, not_or]; rfl)
      write_ascending := members_ascending _ _ _ }

/-- What a call leaves behind is what the operation on values gives, and the roles as they were if it
fails. -/
theorem after_perform (roles : Roles) (call : Call) :
    (roles.perform call).after = match roles.apply call with
      | .ok (after, _) => after
      | .error _ => roles := by
  have run := call.program_run ⟨roles, []⟩
  unfold perform
  rw [run]
  cases roles.apply call <;> rfl

/-- A call of a new kind decides its aspect and leaves alone what other calls decided. -/
theorem SetBy.perform (h : SetBy record calls roles) (setter : call.aspect?.isSome)
    (fresh : ∀ earlier ∈ calls, earlier.aspect? ≠ call.aspect?) :
    SetBy record (calls ++ [call]) (roles.perform call).after := by
  have outcome := roles.apply_outcome call
  rw [h.record_eq] at outcome
  rw [after_perform]
  cases hunknown : firstUnknown record call.names with
  | some name =>
    simp only [hunknown] at outcome
    rw [outcome]
    exact h.failed (by rw [hunknown]; rfl)
  | none =>
    have known := firstUnknown_eq_none_iff.1 hunknown
    cases call with
    | setPrimary name =>
      obtain ⟨p, hname⟩ := known name List.mem_cons_self
      have resolved : roles.resolve name = .ok p := by
        rw [resolve_eq_ok_iff, h.record_eq, position?_eq_some_iff]
        exact hname
      simp only [Roles.apply, Roles.setPrimary, resolved, Except.map]
      refine h.setPrimary hname ?_
      rintro i ⟨other, hmem, _⟩
      exact fresh _ hmem rfl
    | setSoftDelete name =>
      obtain ⟨s, hname⟩ := known name List.mem_cons_self
      have resolved : roles.resolve name = .ok s := by
        rw [resolve_eq_ok_iff, h.record_eq, position?_eq_some_iff]
        exact hname
      simp only [Roles.apply, Roles.setSoftDelete, resolved, Except.map]
      refine h.setSoftDelete hname ?_
      rintro i ⟨other, hmem, _⟩
      exact fresh _ hmem rfl
    | setFields set names =>
      have resolved : roles.resolveAll names = .ok (names.filterMap record.position?) := by
        rw [resolveAll_eq, h.record_eq, show firstUnknown record names = none from hunknown]
      simp only [Roles.apply, Roles.setFields, resolved]
      refine h.setFields known ?_
      rintro i ⟨others, hmem, _⟩
      exact fresh _ hmem rfl
    | resetSets => simp [Call.aspect?] at setter
    | setTable table => simp [Call.aspect?] at setter
    | setSkipSuffix skip => simp [Call.aspect?] at setter

theorem SetBy.afterAll (h : SetBy record calls roles) {rest : List Call} (each : OneEach (calls ++ rest)) :
    SetBy record (calls ++ rest) (roles.afterAll rest) := by
  induction rest generalizing calls roles with
  | nil => simpa [Roles.afterAll] using h
  | cons call rest ih =>
    have apart := each.apart
    rw [List.map_append, List.map_cons, List.nodup_append] at apart
    have fresh : ∀ earlier ∈ calls, earlier.aspect? ≠ call.aspect? := fun earlier hmem =>
      apart.2.2 _ (List.mem_map_of_mem hmem) _ List.mem_cons_self
    have setter := each.setters call (List.mem_append_right _ List.mem_cons_self)
    rw [List.append_cons] at each ⊢
    exact ih (h.perform setter fresh) each

theorem setBy_afterAll (record : Record) (each : OneEach calls) :
    SetBy record calls ((ofRecord record).afterAll calls) :=
  (setBy_ofRecord record).afterAll each

theorem failure_of_mem_history {step : Step} (h : step ∈ (ofRecord record).history calls) :
    step.failure = (firstUnknown record step.call.names).map
      fun name => .fieldNotFound (Text.trimmed name) record.name :=
  ((wellFormed_ofRecord record).history calls step h).failure_eq

/-- If no call fails, every name in it stands for a field. -/
theorem known_of_history (h : ∀ step ∈ (ofRecord record).history calls, step.failure = none)
    (hcall : call ∈ calls) : ∀ name ∈ call.names, ∃ i, record.Names name i := by
  rw [← history_calls (ofRecord record) calls] at hcall
  obtain ⟨step, hstep, rfl⟩ := List.mem_map.1 hcall
  have failure := failure_of_mem_history hstep
  rw [h step hstep] at failure
  exact firstUnknown_eq_none_iff.1 (Option.map_eq_none_iff.1 failure.symm)

end Step

section Classified
open Classification
variable {record : Record} {calls : List Call}

def setters (primary softDelete : String) (read write : List String) : List Call :=
  [.setPrimary primary, .setSoftDelete softDelete, .setFields .read read, .setFields .write write]

/-- The one call that sets the members of a set says which they are. -/
theorem OneEach.chosen_iff (each : OneEach calls) {set : FieldSet} {names : List String}
    (hcall : .setFields set names ∈ calls) (known : ∀ name ∈ names, ∃ i, record.Names name i) (i : Nat) :
    Chosen record calls set i ↔ Wanted record (some names) i := by
  constructor
  · rintro ⟨others, hothers, _, hi⟩
    have same : Call.setFields set others = .setFields set names :=
      List.inj_on_of_nodup_map each.apart hothers hcall rfl
    exact (Call.setFields.inj same).2 ▸ hi
  · exact fun hi => ⟨names, hcall, known, hi⟩

/-- What the four setters say together is what the overrides of the same names say. -/
theorem SetBy.classified {roles : Roles} {primary softDelete : String} {read write : List String}
    (h : SetBy record calls roles) (each : OneEach calls) (four : setters primary softDelete read write ⊆ calls)
    (known : ∀ call ∈ calls, ∀ name ∈ call.names, ∃ i, record.Names name i)
    (apart : ¬∃ i, record.Names primary i ∧ record.Names softDelete i) (table : Option String) (skip : Bool) :
    Classified record ⟨table, some read, some write, some primary, some softDelete, skip⟩
      { roles with table := (table.map Text.trimmed).getD record.name, skipSuffix := skip } := by
  have hprimary : .setPrimary primary ∈ calls := four (by simp [setters])
  have hsoftDelete : .setSoftDelete softDelete ∈ calls := four (by simp [setters])
  have hread : .setFields .read read ∈ calls := four (by simp [setters])
  have hwrite : .setFields .write write ∈ calls := four (by simp [setters])
  obtain ⟨p, hp⟩ := known _ hprimary primary List.mem_cons_self
  obtain ⟨s, hs⟩ := known _ hsoftDelete softDelete List.mem_cons_self
  have primary_eq : roles.primary = some p := (h.primary_iff p).2 ⟨primary, hprimary, hp⟩
  have softDelete_eq : roles.softDelete = some s := (h.softDelete_iff s).2 ⟨softDelete, hsoftDelete, hs⟩
  constructor
  case record_eq => exact h.record_eq
  case table_eq => rfl
  case primary => exact primary_eq ▸ .named hp
  case softDelete => exact softDelete_eq ▸ .named hs
  case distinct =>
    rintro i hi _ hi' rfl
    have atPrimary : p = i := Option.some.inj (primary_eq.symm.trans hi)
    have atSoftDelete : s = i := Option.some.inj (softDelete_eq.symm.trans hi')
    exact apart ⟨i, atPrimary ▸ hp, atSoftDelete ▸ hs⟩
  case members_known =>
    intro name hname
    rcases List.mem_append.1 hname with hname | hname
    · exact known _ hread name hname
    · exact known _ hwrite name hname
  case mem_read_iff =>
    intro i
    rw [← each.chosen_iff hread (known _ hread)]
    exact h.mem_read_iff i
  case mem_write_iff =>
    intro i
    rw [← each.chosen_iff hwrite (known _ hwrite)]
    exact h.mem_write_iff i
  case read_ascending => exact h.read_ascending
  case write_ascending => exact h.write_ascending
  case skipSuffix_eq => rfl

theorem outcome_of_classified {overrides : Overrides} {roles : Roles}
    (h : Classified record overrides roles) : (classify record overrides).outcome = .ok roles := by
  have start := (Verdict.classified h).start_eq
  rw [Session.start] at start
  cases outcome : (classify record overrides).outcome with
  | error e => simp [outcome, Except.map] at start
  | ok others =>
    simp only [outcome, Except.map, Except.ok.injEq, Session.mk.injEq] at start
    rw [start.1]

end Classified

/-- Setters that are each called at most once on the roles of a record can be called in any order. The roles
come out the same, the same calls fail, and what comes out can be read off the calls that succeed. Where all
four are called and none fails, the two key roles going to two fields, the roles are those of a classification by
the same names, up to the table and the form of function names. -/
theorem setters_commute {record : Record} {calls order : List Call} (each : OneEach calls)
    (same : order.Perm calls) :
    (ofRecord record).afterAll order = (ofRecord record).afterAll calls ∧
    (∀ step ∈ (ofRecord record).history order, ∀ other ∈ (ofRecord record).history calls,
      step.call = other.call → step.failure = other.failure) ∧
    SetBy record calls ((ofRecord record).afterAll order) ∧
    ∀ primary softDelete read write, (setters primary softDelete read write).Perm calls →
      (∀ step ∈ (ofRecord record).history order, step.failure = none) →
      (¬∃ i, record.Names primary i ∧ record.Names softDelete i) →
      ∀ table skip,
        (Classification.classify record ⟨table, some read, some write, some primary, some softDelete, skip⟩).outcome =
          .ok { (ofRecord record).afterAll order with
            table := (table.map Text.trimmed).getD record.name
            skipSuffix := skip } := by
  have set := setBy_afterAll record each
  have reordered := (setBy_afterAll record (each.reordered same)).reordered same.symm
  refine ⟨reordered.unique set, ?_, reordered, ?_⟩
  · intro step hstep other hother heq
    rw [failure_of_mem_history hstep, failure_of_mem_history hother, heq]
  · intro primary softDelete read write four succeed apart table skip
    have known : ∀ call ∈ calls, ∀ name ∈ call.names, ∃ i, record.Names name i :=
      fun call hcall => known_of_history succeed (same.mem_iff.2 hcall)
    exact outcome_of_classified (reordered.classified each four.subset known apart table skip)

/-- The sets name the two key fields and are set first; the last call takes them out again. -/
theorem setters_commute_rolesLast :
    let foo : Record := ⟨"Foo", [⟨"ID", none, "int", .basic⟩, ⟨"Name", none, "string", .basic⟩,
      ⟨"DeletedAt", none, "time.Time", .named⟩], by decide⟩
    let order := [Call.setFields .write ["DeletedAt", "Name", "ID"], .setFields .read ["ID", " DeletedAt "],
      .setSoftDelete "DeletedAt", .setPrimary "ID "]
    ((ofRecord foo).afterAll order).read = [0] ∧ ((ofRecord foo).afterAll order).write = [1] ∧
      (Classification.classify foo {
          readFields := some ["ID", " DeletedAt "]
          writeFields := some ["DeletedAt", "Name", "ID"]
          primaryField := some "ID "
          softDeleteField := some "DeletedAt" }).outcome = .ok ((ofRecord foo).afterAll order) := by
  intro foo order
  let calls := setters "ID " "DeletedAt" ["ID", " DeletedAt "] ["DeletedAt", "Name", "ID"]
  have each : OneEach calls := by
    constructor <;> decide
  have same : order.Perm calls := by decide
  have commute := @setters_commute foo calls order each same
  have apart : ¬∃ i, foo.Names "ID " i ∧ foo.Names "DeletedAt" i := by
    rintro ⟨i, hp, hs⟩
    have first : foo.position? "ID " = some 0 := by decide +kernel
    have last : foo.position? "DeletedAt" = some 2 := by decide +kernel
    rw [position?_eq_some_iff] at first last
    have : 0 = 2 := (first.unique hp).trans (last.unique hs).symm
    omega
  have succeed : ∀ step ∈ (ofRecord foo).history order, step.failure = none := by decide +kernel
  exact ⟨by decide +kernel, by decide +kernel, commute.2.2.2 _ _ _ _ (List.Perm.refl calls) succeed apart none false⟩

end RecordAccess.Roles
