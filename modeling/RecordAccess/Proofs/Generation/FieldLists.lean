import RecordAccess.Proofs.Generation.Outcome
import RecordAccess.Proofs.Roles.FieldLists

/-!
# Field lists in any spelling

Settings that name the same fields for the two sets generate the same, if every name is that of a field. If some
name is not, both runs fail for one, each for the first in its own lists, after they have reported the same
fields as dropped.
-/
namespace RecordAccess

/-- Two outcomes are the same, or each is the failure of the first name in its own list that stands for no field. -/
inductive Alike (record : Record) (names others : List String) {α : Type} :
    Except GenerationError α → Except GenerationError α → Prop
  | same (outcome : Except GenerationError α) : Alike record names others outcome outcome
  | unknown {name other : String} (first : record.FirstUnknown names name)
      (second : record.FirstUnknown others other) :
      Alike record names others (.error (.fieldNotFound (Text.trimmed name) record.name))
        (.error (.fieldNotFound (Text.trimmed other) record.name))

section Alike
variable {record : Record} {names others before beforeOthers after afterOthers : List String} {α : Type}
  {first second : Except GenerationError α}

theorem Alike.eq_of_known (h : Alike record names others first second)
    (known : ∀ name ∈ names, ∃ i, record.Names name i) : second = first := by
  cases h with
  | same => rfl
  | unknown unknown _ =>
    rw [← Record.firstUnknown_eq_some_iff, Record.firstUnknown_eq_none_iff.2 known] at unknown
    cases unknown

theorem Alike.append_right (h : Alike record names others first second) :
    Alike record (names ++ after) (others ++ afterOthers) first second := by
  cases h with
  | same => exact .same _
  | unknown unknown unknownOther =>
    rw [← Record.firstUnknown_eq_some_iff] at unknown unknownOther
    refine .unknown ?_ ?_
    · rw [← Record.firstUnknown_eq_some_iff, Record.firstUnknown_append, unknown, Option.some_or]
    · rw [← Record.firstUnknown_eq_some_iff, Record.firstUnknown_append, unknownOther, Option.some_or]

theorem Alike.append_left (h : Alike record names others first second)
    (known : ∀ name ∈ before, ∃ i, record.Names name i)
    (knownOthers : ∀ name ∈ beforeOthers, ∃ i, record.Names name i) :
    Alike record (before ++ names) (beforeOthers ++ others) first second := by
  cases h with
  | same => exact .same _
  | unknown unknown unknownOther =>
    rw [← Record.firstUnknown_eq_some_iff] at unknown unknownOther
    rw [← Record.firstUnknown_eq_none_iff] at known knownOthers
    refine .unknown ?_ ?_
    · rw [← Record.firstUnknown_eq_some_iff, Record.firstUnknown_append, known, Option.none_or, unknown]
    · rw [← Record.firstUnknown_eq_some_iff, Record.firstUnknown_append, knownOthers, Option.none_or,
        unknownOther]

end Alike

namespace Classification
variable {roles : Roles} {set : FieldSet} {names others : Option (List String)}

/-- Both settings name no fields for a set, or both name the same. -/
abbrev SameList : Option (List String) → Option (List String) → Prop := Option.Rel SameNames

theorem SameList.known {record : Record} (h : SameList names others)
    (known : ∀ name ∈ names.getD [], ∃ i, record.Names name i) :
    ∀ other ∈ others.getD [], ∃ i, record.Names other i := by
  cases h with
  | none => exact known
  | some same => exact same.known known

theorem exists_firstUnknown {record : Record} {names : List String}
    (h : ¬∀ name ∈ names, ∃ i, record.Names name i) : ∃ name, Roles.firstUnknown record names = some name := by
  rwa [← Record.firstUnknown_eq_none_iff, ← Ne, Option.ne_none_iff_exists'] at h

/-- Replacing a set by lists of the same names comes to the same, unless some name is unknown. -/
theorem override_alike (roles : Roles) (set : FieldSet) (h : SameList names others) :
    Alike roles.record (names.getD []) (others.getD []) (override roles set names) (override roles set others) := by
  cases h with
  | none => exact .same _
  | @some names others same =>
    by_cases known : ∀ name ∈ names, ∃ i, roles.record.Names name i
    · rw [override, override, Roles.setFields_congr same known]
      exact .same _
    · obtain ⟨name, first⟩ := exists_firstUnknown known
      obtain ⟨other, second⟩ := exists_firstUnknown fun h => known (same.symm.known h)
      simp only [override, Roles.setFields, Roles.resolveAll_eq, first, second]
      exact .unknown (Record.firstUnknown_eq_some_iff.1 first) (Record.firstUnknown_eq_some_iff.1 second)

theorem known_of_override {after : Roles} {dropped : List Dropped}
    (h : override roles set names = .ok (after, dropped)) :
    after.record = roles.record ∧ ∀ name ∈ names.getD [], ∃ i, roles.record.Names name i := by
  cases names with
  | none =>
    obtain ⟨rfl, _⟩ := Prod.mk.inj (Except.ok.inj h)
    exact ⟨rfl, List.forall_mem_nil _⟩
  | some names =>
    simp only [override, Roles.setFields, Roles.resolveAll_eq] at h
    cases hnames : Roles.firstUnknown roles.record names with
    | some name => simp [hnames] at h
    | none =>
      simp only [hnames, Except.ok.injEq, Prod.mk.injEq] at h
      exact ⟨h.1 ▸ Roles.record_withSet _ _ _, Record.firstUnknown_eq_none_iff.1 hnames⟩

variable {read write : Option (List String)}

/-- Overrides that differ in the spelling of the two lists at most report the same fields, and end alike. -/
theorem classify_alike (record : Record) (overrides : Overrides) (hread : SameList overrides.readFields read)
    (hwrite : SameList overrides.writeFields write) :
    let others : Overrides := { overrides with readFields := read, writeFields := write }
    (classify record others).dropped = (classify record overrides).dropped ∧
      Alike record (memberNames overrides) (memberNames others) (classify record overrides).outcome
        (classify record others).outcome := by
  intro others
  have keys : keyRoles record others = keyRoles record overrides := rfl
  unfold classify memberNames
  rw [keys]
  cases hkeys : keyRoles record overrides with
  | error e => exact ⟨rfl, .same _⟩
  | ok roles =>
    obtain rfl : roles.record = record := (Roles.reachable_of_keyRoles hkeys).record_eq
    have reads := override_alike roles.resetSets .read hread
    simp only [others]
    generalize hfirst : override roles.resetSets .read overrides.readFields = first at reads
    generalize override roles.resetSets .read read = second at reads
    cases reads with
    | unknown unknown unknownOther => exact ⟨rfl, (Alike.unknown unknown unknownOther).append_right⟩
    | same =>
      cases first with
      | error e => exact ⟨rfl, .same _⟩
      | ok settled =>
        obtain ⟨settled, droppedReads⟩ := settled
        obtain ⟨record_eq, known⟩ := known_of_override hfirst
        have writes := override_alike settled .write hwrite
        rw [record_eq] at writes
        dsimp only
        generalize override settled .write overrides.writeFields = first at writes
        generalize override settled .write write = second at writes
        cases writes with
        | unknown unknown unknownOther =>
          exact ⟨rfl, (Alike.unknown unknown unknownOther).append_left known (hread.known known)⟩
        | same => cases first <;> exact ⟨rfl, .same _⟩

end Classification

namespace Generator
open Classification

def withLists (generator : Generator) (read write : Option (List String)) : Generator :=
  { generator with settings := { generator.settings with readFields := read, writeFields := write } }

variable {generator : Generator} {read write : Option (List String)}

theorem runUnder_alike (record : Record) (hread : SameList generator.settings.readFields read)
    (hwrite : SameList generator.settings.writeFields write) (schedule : List Ticket) (package : String)
    (registry : Registry) :
    let other := generator.withLists read write
    (other.runUnder schedule record package registry).dropped =
        (generator.runUnder schedule record package registry).dropped ∧
      Alike record (memberNames generator.settings.overrides) (memberNames other.settings.overrides)
        (generator.runUnder schedule record package registry).outcome
        (other.runUnder schedule record package registry).outcome := by
  intro other
  obtain ⟨dropped, outcome⟩ := classify_alike record generator.settings.overrides hread hwrite
  have overrides_eq : other.settings.overrides =
    { generator.settings.overrides with readFields := read, writeFields := write } := rfl
  unfold runUnder
  rw [← overrides_eq] at dropped outcome
  generalize classify record other.settings.overrides = second at dropped outcome
  generalize classify record generator.settings.overrides = first at dropped outcome
  obtain ⟨first, reported⟩ := first
  obtain ⟨second, others⟩ := second
  obtain rfl : others = reported := dropped
  cases outcome with
  | unknown unknown unknownOther => exact ⟨rfl, .unknown unknown unknownOther⟩
  | same =>
    cases first with
    | error e => exact ⟨rfl, .same _⟩
    | ok roles => exact ⟨rfl, .same _⟩

/-- Lists of fields are sets. Whatever names that all stand for fields are given for a set, the fields that they
stand for are kept, ascending, or reported, once each and in the order of their roles; and other lists of the same
names come to the same. Every run reports and returns the same under other lists of the same names, unless it
fails because some name is unknown; then so does the other run, each for the first in its own lists. -/
theorem field_lists_are_sets :
    (∀ (roles : Roles) (set : FieldSet) (names : List String),
      (∀ name ∈ names, ∃ i, roles.record.Names name i) →
      ∃ kept gone, roles.Parts set names kept gone ∧
        roles.setFields set names =
          .ok (roles.withSet set kept, gone.map fun i => ⟨roles.nameAt i, set⟩) ∧
        (∀ lead, (roles.withSet set kept).columns lead set = kept.map fun i => lead ++ roles.columnAt i) ∧
        ∀ others, SameNames names others → roles.setFields set others = roles.setFields set names) ∧
    (∀ (record : Record) (roles : Roles), Roles.Reachable record roles →
      roles.read.Pairwise (· < ·) ∧ roles.write.Pairwise (· < ·)) ∧
    (∀ (generator : Generator) (read write : Option (List String)),
      SameList generator.settings.readFields read → SameList generator.settings.writeFields write →
      ∀ (record : Record) (package : String),
        let other := generator.withLists read write
        (other.generate record package).dropped = (generator.generate record package).dropped ∧
        Alike record (memberNames generator.settings.overrides) (memberNames other.settings.overrides)
          (generator.generate record package).outcome (other.generate record package).outcome ∧
        ((∀ name ∈ memberNames generator.settings.overrides, ∃ i, record.Names name i) →
          other.generate record package = generator.generate record package)) := by
  refine ⟨?_, ?_, ?_⟩
  · intro roles set names known
    refine ⟨_, _, Roles.parts roles set names, Roles.setFields_eq known, ?_, ?_⟩
    · intro lead
      cases set <;> rfl
    · intro others same
      exact Roles.setFields_congr same known
  · intro record roles reachable
    exact ⟨reachable.wellFormed.read_ascending, reachable.wellFormed.write_ascending⟩
  · intro generator read write hread hwrite record package other
    obtain ⟨dropped, outcome⟩ := runUnder_alike record hread hwrite generator.ownSchedule
      (generator.settings.package.getD package) {}
    refine ⟨dropped, outcome, ?_⟩
    intro known
    exact congrArg₂ Reported.mk (outcome.eq_of_known known) dropped

/-- A note's title is to be written. Named with its mark of deletion and its key, it is kept alone, the mark is
reported before the key, and a listing comes out the same from lists in another spelling. -/
theorem field_lists_are_sets_padded :
    let note : Record := ⟨"Note", [⟨"ID", some "id", "int", .basic⟩,
      ⟨"Title", some "title", "string", .basic⟩, ⟨"DeletedAt", some "deleted_at", "time.Time", .named⟩], by decide⟩
    let roles : Roles := { record := note, table := "Note", primary := some 0, softDelete := some 2 }
    let names := ["ID", " Title", "DeletedAt", "ID"]
    let settings : Settings := { operations := [.list], readFields := some ["Title", "ID"], writeFields := some names }
    let generator : Generator := { settings }
    let others := ["Title", "\tDeletedAt", "ID ", "Title"]
    roles.setFields .write others =
        .ok (roles.withSet .write [1], [⟨"DeletedAt", .write⟩, ⟨"ID", .write⟩]) ∧
      (generator.withLists (some ["ID", "Title", "ID"]) (some others)).generate note "notes" =
        generator.generate note "notes" := by
  intro note roles names settings generator others
  have known : ∀ name ∈ names, ∃ i, note.Names name i :=
    Record.firstUnknown_eq_none_iff.1 (by decide +kernel)
  have member : ∀ name ∈ memberNames settings.overrides, ∃ i, note.Names name i :=
    Record.firstUnknown_eq_none_iff.1 (by decide +kernel)
  have same : SameNames names others := by decide +kernel
  have reads : SameNames ["Title", "ID"] ["ID", "Title", "ID"] := by decide +kernel
  have written : roles.setFields .write names =
      .ok (roles.withSet .write [1], [⟨"DeletedAt", .write⟩, ⟨"ID", .write⟩]) := by decide +kernel
  obtain ⟨_, _, _, _, _, congr⟩ := field_lists_are_sets.1 roles .write names known
  obtain ⟨_, _, generates⟩ := field_lists_are_sets.2.2 generator (some ["ID", "Title", "ID"]) (some others)
    (.some reads) (.some same) note "notes"
  exact ⟨(congr others same).trans written, generates member⟩

/-- Where names are unknown, the order of a list decides which of them the error tells. -/
theorem unknown_names_told_apart :
    ¬∀ (generator : Generator) (read write : Option (List String)),
      SameList generator.settings.readFields read → SameList generator.settings.writeFields write →
      ∀ (record : Record) (package : String),
        (generator.withLists read write).generate record package = generator.generate record package := by
  let note : Record := ⟨"Note", [⟨"ID", some "id", "int", .basic⟩], by decide⟩
  let generator : Generator := { settings := { operations := [.get], readFields := some ["Y", "X"] } }
  have same : SameNames ["Y", "X"] ["X", "Y"] := by decide +kernel
  have first : (generator.generate note "notes").outcome = .error (.fieldNotFound "Y" "Note") :=
    (outcome_generate_iff _).2 (.unclassified (by decide +kernel))
  have second : ((generator.withLists (some ["X", "Y"]) none).generate note "notes").outcome =
      .error (.fieldNotFound "X" "Note") :=
    (outcome_generate_iff _).2 (.unclassified (by decide +kernel))
  intro h
  rw [h generator (some ["X", "Y"]) none (.some same) .none note "notes", first] at second
  simp at second

end Generator
end RecordAccess
