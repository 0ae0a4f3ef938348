import Mathlib.Data.List.Sort
import RecordAccess.Generation
import RecordAccess.Proofs.Classification.Naming
import RecordAccess.Proofs.Roles.WellFormed

/-!
# The verdict of a classification

A classification is settled by the record and the overrides alone, in four steps: a key name that
stands for no field, one field with both key roles, a member name that stands for no field, and else the
roles. The first step that applies decides, and the session that follows starts with nothing but the
roles.
-/
namespace RecordAccess
namespace Classification
open Record

structure Classified (record : Record) (overrides : Overrides) (roles : Roles) : Prop where
  record_eq : roles.record = record
  table_eq : roles.table = (overrides.table.map Text.trimmed).getD record.name
  primary : Gives record (primaryName record overrides) roles.primary
  softDelete : Gives record (softDeleteName record overrides) roles.softDelete
  distinct : ∀ p ∈ roles.primary, ∀ s ∈ roles.softDelete, p ≠ s
  members_known : ∀ name ∈ memberNames overrides, ∃ i, record.Names name i
  mem_read_iff : ∀ i, i ∈ roles.read ↔
    Wanted record overrides.readFields i ∧ roles.softDelete ≠ some i
  mem_write_iff : ∀ i, i ∈ roles.write ↔
    Wanted record overrides.writeFields i ∧ roles.softDelete ≠ some i ∧ roles.primary ≠ some i
  read_ascending : roles.read.Pairwise (· < ·)
  write_ascending : roles.write.Pairwise (· < ·)
  skipSuffix_eq : roles.skipSuffix = overrides.skipSuffix

/-- What comes of a record and overrides. The steps exclude one another, and the earlier goes before
the later. -/
inductive Verdict (record : Record) (overrides : Overrides) : Except GenerationError Session → Prop
  | unknownKey {name : String} (h : record.FirstUnknown (keyNames record overrides) name) :
      Verdict record overrides (.error (.fieldNotFound (Text.trimmed name) record.name))
  | conflict {i : Nat} {field : Field} (primary : Gives record (primaryName record overrides) (some i))
      (softDelete : Gives record (softDeleteName record overrides) (some i))
      (hfield : record.field? i = some field) :
      Verdict record overrides (.error (.conflictingRoles record.name field.name))
  | unknownMember {primary softDelete : Option Nat} {name : String}
      (hprimary : Gives record (primaryName record overrides) primary)
      (hsoftDelete : Gives record (softDeleteName record overrides) softDelete)
      (distinct : ∀ p ∈ primary, ∀ s ∈ softDelete, p ≠ s)
      (h : record.FirstUnknown (memberNames overrides) name) :
      Verdict record overrides (.error (.fieldNotFound (Text.trimmed name) record.name))
  | classified {roles : Roles} (h : Classified record overrides roles) :
      Verdict record overrides (.ok { roles, registry := {}, body := "" })

section Settled
variable {record : Record} {overrides : Overrides}

theorem Gives.unique {name : Option String} {first second : Option Nat} (hfirst : Gives record name first)
    (hsecond : Gives record name second) : first = second := by
  rw [(gives_iff.1 hfirst).2, (gives_iff.1 hsecond).2]

theorem Gives.exists_field {name : Option String} {i : Nat} (h : Gives record name (some i)) :
    ∃ field, record.field? i = some field := by
  cases h with
  | named names =>
    obtain ⟨field, hfield, _⟩ := names
    exact ⟨field, hfield⟩

theorem Classified.unique {first second : Roles} (hfirst : Classified record overrides first)
    (hsecond : Classified record overrides second) : first = second := by
  have primary : first.primary = second.primary := hfirst.primary.unique hsecond.primary
  have softDelete : first.softDelete = second.softDelete := hfirst.softDelete.unique hsecond.softDelete
  have read : first.read = second.read := by
    refine hfirst.read_ascending.eq_of_mem_iff hsecond.read_ascending ?_
    intro i
    rw [hfirst.mem_read_iff, hsecond.mem_read_iff, softDelete]
  have write : first.write = second.write := by
    refine hfirst.write_ascending.eq_of_mem_iff hsecond.write_ascending ?_
    intro i
    rw [hfirst.mem_write_iff, hsecond.mem_write_iff, softDelete, primary]
  have same := hfirst.record_eq.trans hsecond.record_eq.symm
  have table := hfirst.table_eq.trans hsecond.table_eq.symm
  have skip := hfirst.skipSuffix_eq.trans hsecond.skipSuffix_eq.symm
  cases first
  cases second
  simp_all only

theorem lt_of_wanted {names : Option (List String)} {i : Nat} (h : Wanted record names i) :
    i < record.size := by
  cases names with
  | none => exact h
  | some names =>
    obtain ⟨_, _, field, hfield, _⟩ := h
    exact (List.getElem?_eq_some_iff.1 hfield).1

theorem classified_settled {primary softDelete : Option Nat}
    (hprimary : Gives record (primaryName record overrides) primary)
    (hsoftDelete : Gives record (softDeleteName record overrides) softDelete)
    (distinct : ∀ p ∈ primary, ∀ s ∈ softDelete, p ≠ s)
    (known : ∀ name ∈ memberNames overrides, ∃ i, record.Names name i) :
    Classified record overrides (settled (marked record primary softDelete) overrides) := by
  have mem_set : ∀ (set : FieldSet) (names : Option (List String)) (i : Nat),
      i ∈ (marked record primary softDelete).members set (chosen record names) ↔
        Wanted record names i ∧ i ∉ (marked record primary softDelete).excluded set := by
    intro set names i
    rw [Roles.mem_members, mem_chosen_iff]
    constructor
    · rintro ⟨_, wanted, free⟩
      exact ⟨wanted, free⟩
    · rintro ⟨wanted, free⟩
      exact ⟨lt_of_wanted wanted, wanted, free⟩
  have settled_eq : settled (marked record primary softDelete) overrides =
      { marked record primary softDelete with
        table := (overrides.table.map Text.trimmed).getD record.name
        read := (marked record primary softDelete).members .read (chosen record overrides.readFields)
        write := (marked record primary softDelete).members .write (chosen record overrides.writeFields)
        skipSuffix := overrides.skipSuffix } := by
    unfold settled named
    cases overrides.table <;> rfl
  rw [settled_eq]
  constructor
  case record_eq => rfl
  case table_eq => rfl
  case primary => exact hprimary
  case softDelete => exact hsoftDelete
  case distinct => exact distinct
  case members_known => exact known
  case mem_read_iff =>
    intro i
    rw [mem_set, Roles.mem_excluded_read]
  case mem_write_iff =>
    intro i
    rw [mem_set, Roles.mem_excluded_write, not_or]
  case read_ascending => exact Roles.members_ascending _ _ _
  case write_ascending => exact Roles.members_ascending _ _ _
  case skipSuffix_eq => rfl

end Settled

section Verdict
variable {record : Record} {overrides : Overrides} {primary softDelete : Option Nat}

theorem firstUnknown_keyNames_eq_none_iff :
    Roles.firstUnknown record (keyNames record overrides) = none ↔
      ∃ primary softDelete, Gives record (primaryName record overrides) primary ∧
        Gives record (softDeleteName record overrides) softDelete := by
  rw [keyNames, firstUnknown_append, Option.or_eq_none_iff]
  constructor
  · rintro ⟨primary, softDelete⟩
    exact ⟨_, _, gives_iff.2 ⟨primary, rfl⟩, gives_iff.2 ⟨softDelete, rfl⟩⟩
  · rintro ⟨_, _, primary, softDelete⟩
    exact ⟨(gives_iff.1 primary).1, (gives_iff.1 softDelete).1⟩

theorem start_of_unknownKey {name : String} (h : record.FirstUnknown (keyNames record overrides) name) :
    Session.start record overrides = .error (.fieldNotFound (Text.trimmed name) record.name) := by
  have keys := keyRoles_eq record overrides
  rw [firstUnknown_eq_some_iff.2 h] at keys
  rw [Session.start, outcome_classify, keys]
  rfl

theorem start_of_conflict {i : Nat} {field : Field}
    (hprimary : Gives record (primaryName record overrides) (some i))
    (hsoftDelete : Gives record (softDeleteName record overrides) (some i))
    (hfield : record.field? i = some field) :
    Session.start record overrides = .error (.conflictingRoles record.name field.name) := by
  have keys := keyRoles_eq record overrides
  have nameAt : (marked record (some i) (some i)).nameAt i = field.name := by
    rw [Roles.nameAt, show (marked record (some i) (some i)).record.field? i = some field from hfield]
  rw [firstUnknown_keyNames_eq_none_iff.2 ⟨_, _, hprimary, hsoftDelete⟩, ← (gives_iff.1 hprimary).2,
    ← (gives_iff.1 hsoftDelete).2] at keys
  simp only [show (marked record (some i) (some i)).primary = some i from rfl,
    show (marked record (some i) (some i)).softDelete = some i from rfl, if_true, nameAt] at keys
  rw [Session.start, outcome_classify, keys]
  rfl

theorem start_of_distinct (hprimary : Gives record (primaryName record overrides) primary)
    (hsoftDelete : Gives record (softDeleteName record overrides) softDelete)
    (distinct : ∀ p ∈ primary, ∀ s ∈ softDelete, p ≠ s) :
    Session.start record overrides =
      match Roles.firstUnknown record (memberNames overrides) with
      | some name => .error (.fieldNotFound (Text.trimmed name) record.name)
      | none => .ok { roles := settled (marked record primary softDelete) overrides } := by
  have keys : keyRoles record overrides = .ok (marked record primary softDelete) := by
    rw [keyRoles_eq, firstUnknown_keyNames_eq_none_iff.2 ⟨_, _, hprimary, hsoftDelete⟩,
      ← (gives_iff.1 hprimary).2, ← (gives_iff.1 hsoftDelete).2]
    cases primary with
    | none => rfl
    | some p =>
      have apart : softDelete ≠ some p := fun hs => distinct p rfl p hs rfl
      exact if_neg apart
  rw [Session.start, outcome_classify, keys]
  simp only [show (marked record primary softDelete).record = record from rfl]
  cases Roles.firstUnknown record (memberNames overrides) <;> rfl

theorem verdict_start (record : Record) (overrides : Overrides) :
    Verdict record overrides (Session.start record overrides) := by
  cases hkeys : Roles.firstUnknown record (keyNames record overrides) with
  | some name =>
    have first := firstUnknown_eq_some_iff.1 hkeys
    rw [start_of_unknownKey first]
    exact .unknownKey first
  | none =>
    obtain ⟨primary, softDelete, hprimary, hsoftDelete⟩ := firstUnknown_keyNames_eq_none_iff.1 hkeys
    by_cases distinct : ∀ p ∈ primary, ∀ s ∈ softDelete, p ≠ s
    · have start := start_of_distinct hprimary hsoftDelete distinct
      cases hmembers : Roles.firstUnknown record (memberNames overrides) with
      | some name =>
        rw [start, hmembers]
        exact .unknownMember hprimary hsoftDelete distinct (firstUnknown_eq_some_iff.1 hmembers)
      | none =>
        rw [start, hmembers]
        exact .classified (classified_settled hprimary hsoftDelete distinct
          (firstUnknown_eq_none_iff.1 hmembers))
    · push Not at distinct
      obtain ⟨i, rfl, _, rfl, rfl⟩ := distinct
      obtain ⟨field, hfield⟩ := hprimary.exists_field
      rw [start_of_conflict hprimary hsoftDelete hfield]
      exact .conflict hprimary hsoftDelete hfield

theorem Verdict.start_eq {outcome : Except GenerationError Session}
    (h : Verdict record overrides outcome) : Session.start record overrides = outcome := by
  cases h with
  | unknownKey first => exact start_of_unknownKey first
  | conflict primary softDelete hfield => exact start_of_conflict primary softDelete hfield
  | unknownMember primary softDelete distinct first =>
    rw [start_of_distinct primary softDelete distinct, firstUnknown_eq_some_iff.2 first]
  | classified roles =>
    rw [start_of_distinct roles.primary roles.softDelete roles.distinct,
      firstUnknown_eq_none_iff.2 roles.members_known]
    -- What the calls settle is classified too, and no other roles are.
    have settled := classified_settled roles.primary roles.softDelete roles.distinct roles.members_known
    simp only [settled.unique roles]

/-- Every field is read or marks deletion, and every field is written, the primary one or marks
deletion; none is two of these. -/
structure Covering (roles : Roles) : Prop where
  read : (roles.softDelete.toList ++ roles.read).Perm roles.record.ordinals
  write : (roles.softDelete.toList ++ roles.primary.toList ++ roles.write).Perm roles.record.ordinals

theorem perm_ordinals {listed : List Nat} (hnodup : listed.Nodup)
    (hmem : ∀ i, i ∈ listed ↔ i < record.size) : listed.Perm record.ordinals := by
  refine (List.perm_ext_iff_of_nodup hnodup List.nodup_range).2 ?_
  intro i
  rw [hmem, List.mem_range]

theorem Classified.covering {roles : Roles} (h : Classified record overrides roles)
    (hread : overrides.readFields = none) (hwrite : overrides.writeFields = none) : Covering roles := by
  have lt : ∀ {name : Option String} {given : Option Nat}, Gives record name given →
      ∀ i, given = some i → i < record.size := by
    rintro name given gives i rfl
    obtain ⟨field, hfield⟩ := gives.exists_field
    exact (List.getElem?_eq_some_iff.1 hfield).1
  have mem_read : ∀ i, i ∈ roles.read ↔ i < record.size ∧ roles.softDelete ≠ some i := by
    intro i
    rw [h.mem_read_iff, hread]
    rfl
  have mem_write : ∀ i, i ∈ roles.write ↔
      i < record.size ∧ roles.softDelete ≠ some i ∧ roles.primary ≠ some i := by
    intro i
    rw [h.mem_write_iff, hwrite]
    rfl
  have fresh_primary := lt h.primary
  have fresh_softDelete := lt h.softDelete
  constructor
  case read =>
    rw [h.record_eq]
    apply perm_ordinals
    · refine (Option.toList_nodup _).append h.read_ascending.nodup ?_
      intro i hs hr
      exact ((mem_read i).1 hr).2 (Option.mem_toList.1 hs)
    · intro i
      rw [List.mem_append, Option.mem_toList, mem_read]
      have := fresh_softDelete i
      tauto
  case write =>
    rw [h.record_eq]
    apply perm_ordinals
    · refine ((Option.toList_nodup _).append (Option.toList_nodup _) ?_).append h.write_ascending.nodup ?_
      · intro i hs hp
        exact h.distinct i (Option.mem_toList.1 hp) i (Option.mem_toList.1 hs) rfl
      · intro i hk hw
        obtain ⟨_, unmarked, unkeyed⟩ := (mem_write i).1 hw
        rcases List.mem_append.1 hk with hs | hp
        · exact unmarked (Option.mem_toList.1 hs)
        · exact unkeyed (Option.mem_toList.1 hp)
    · intro i
      rw [List.mem_append, List.mem_append, Option.mem_toList, Option.mem_toList, mem_write]
      have := fresh_softDelete i
      have := fresh_primary i
      tauto

/-- A session starts as its verdict says, whatever the record and the overrides. Where no set is named,
the sets leave out no field but for its role. -/
theorem start_eq_iff (record : Record) (overrides : Overrides) :
    (∀ outcome, Session.start record overrides = outcome ↔ Verdict record overrides outcome) ∧
    (overrides.readFields = none → overrides.writeFields = none →
      ∀ session, Session.start record overrides = .ok session → Covering session.roles) := by
  constructor
  · intro outcome
    constructor
    · rintro rfl
      exact verdict_start record overrides
    · exact Verdict.start_eq
  · intro hread hwrite session hstart
    have verdict := verdict_start record overrides
    rw [hstart] at verdict
    cases verdict with
    | classified h => exact h.covering hread hwrite

/-- A padded override makes the mark of deletion the key as well; without it the sets cover the record. -/
theorem start_eq_iff_padded :
    let foo : Record := ⟨"Foo", [⟨"ID", some "id", "uint64", .basic⟩, ⟨"Name", none, "string", .basic⟩,
      ⟨"DeletedAt", some "deleted_at", "time.Time", .named⟩], by decide⟩
    Verdict foo { primaryField := some " DeletedAt ", readFields := some ["Missing"] }
        (.error (.conflictingRoles "Foo" "DeletedAt")) ∧
      ∃ session, Session.start foo {} = .ok session ∧ Covering session.roles ∧
        session.roles.read = [0, 1] ∧ session.roles.write = [1] := by
  intro foo
  have conflict : Session.start foo { primaryField := some " DeletedAt ", readFields := some ["Missing"] } =
      .error (.conflictingRoles "Foo" "DeletedAt") := by rfl
  have started : ∃ session, Session.start foo {} = .ok session ∧ session.roles.read = [0, 1] ∧
      session.roles.write = [1] := ⟨_, rfl, by decide +kernel, by decide +kernel⟩
  obtain ⟨session, hsession, hread, hwrite⟩ := started
  have covering := (start_eq_iff foo {}).2 rfl rfl session hsession
  exact ⟨((start_eq_iff foo _).1 _).1 conflict, session, hsession, covering, hread, hwrite⟩

end Verdict

end Classification
end RecordAccess
