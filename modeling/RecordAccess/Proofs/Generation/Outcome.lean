import RecordAccess.Proofs.Classification.Verdict
import RecordAccess.Proofs.Generation.Schedules
import RecordAccess.Proofs.Roles.Reachable

/-!
# What a run comes to

A run fails in one of four steps or returns a source, and the first step that fails decides: the fields
cannot be classified, a keyed operation has no key, an update has nothing to assign, or the formatter
rejects the assembled text. The assembled text is that of the operations rendered in turn, whatever the
schedule. Rendering is no step of its own, because every template finds its variables.
-/
namespace RecordAccess

/-- The session that rendering operations in turn leaves. -/
def Session.rendered (roles : Roles) (existing : List String) (operations : List Operation) : Session where
  roles := roles
  registry := (Registry.ofExisting existing).run (Schedule.inTurn (Generator.ticketRows operations))
  body := bodyOf roles operations

theorem Session.renderFrom_eq_rendered (roles : Roles) (existing : List String)
    (operations : List Operation) :
    Session.renderFrom { roles, registry := Registry.ofExisting existing } 0 operations =
      .ok (rendered roles existing operations) := by
  rw [← Generator.renderUnder_inTurn, Generator.renderUnder_eq_ok, rendered]

namespace Generator

/-- Some operation finds its row by the primary key. -/
def Keyed (operations : List Operation) : Prop :=
  .get ∈ operations ∨ .update ∈ operations ∨ .delete ∈ operations

section Steps
variable (generator : Generator) (record : Record) (existing : List String)

/-- The roles that a run gives to the fields of a record. -/
def classified : Except GenerationError Roles :=
  (Classification.classify record generator.settings.overrides).outcome

structure Renders (session : Session) : Prop where
  classified : generator.classified record = .ok session.roles
  keyed : ¬(session.roles.primary = none ∧ Keyed generator.settings.operations)
  assigned : ¬(session.roles.write = [] ∧ .update ∈ generator.settings.operations)
  inTurn : Session.renderFrom { roles := session.roles, registry := Registry.ofExisting existing } 0
    generator.settings.uniqueOperations = .ok session

/-- What a run comes to. The steps exclude one another, and the earlier goes before the later. -/
inductive Outcome (package : String) : Except GenerationError GeneratedSource → Prop
  | unclassified {e : GenerationError} (h : generator.classified record = .error e) :
      Outcome package (.error e)
  | keyless {roles : Roles} (h : generator.classified record = .ok roles)
      (hkey : roles.primary = none ∧ Keyed generator.settings.operations) :
      Outcome package (.error (.missingPrimaryField record.name))
  | unassigned {roles : Roles} (h : generator.classified record = .ok roles)
      (hkey : ¬(roles.primary = none ∧ Keyed generator.settings.operations))
      (hwrite : roles.write = [] ∧ .update ∈ generator.settings.operations) :
      Outcome package (.error (.emptyWriteSet record.name))
  | rejected {session : Session} {diagnostic : String}
      (h : generator.Renders record existing session)
      (hformat : generator.finalStep (session.concat package) = .error diagnostic) :
      Outcome package (.error (.format diagnostic))
  | generated {session : Session} {text : String} (h : generator.Renders record existing session)
      (hformat : generator.finalStep (session.concat package) = .ok text) :
      Outcome package (.ok {
        package
        record := record.name
        text
        imports := session.registry.imports
        declarations := session.registry.declarations })

end Steps

section Permit
variable {roles : Roles} {operations : List Operation}

theorem any_needsPrimary : operations.any Operation.needsPrimary = true ↔ Keyed operations := by
  rw [List.any_eq_true]
  constructor
  · rintro ⟨operation, hmem, hneeds⟩
    cases operation with
    | create => simp [Operation.needsPrimary] at hneeds
    | get => exact .inl hmem
    | list => simp [Operation.needsPrimary] at hneeds
    | update => exact .inr (.inl hmem)
    | delete => exact .inr (.inr hmem)
  · rintro (h | h | h)
    · exact ⟨.get, h, rfl⟩
    · exact ⟨.update, h, rfl⟩
    · exact ⟨.delete, h, rfl⟩

theorem permit_of_keyless (h : roles.primary = none ∧ Keyed operations) :
    permit roles operations = .error (.missingPrimaryField roles.model) := by
  unfold permit
  rw [if_pos]
  rw [Bool.and_eq_true, Option.isNone_iff_eq_none, any_needsPrimary]
  exact h

theorem permit_of_keyed (h : ¬(roles.primary = none ∧ Keyed operations)) :
    permit roles operations =
      if roles.write = [] ∧ .update ∈ operations then .error (.emptyWriteSet roles.model)
      else .ok () := by
  unfold permit
  rw [if_neg]
  · simp only [Bool.and_eq_true, List.isEmpty_iff, List.contains_iff_mem]
  · rw [Bool.and_eq_true, Option.isNone_iff_eq_none, any_needsPrimary]
    exact h

theorem permit_eq_ok_iff : permit roles operations = .ok () ↔
    ¬(roles.primary = none ∧ Keyed operations) ∧ ¬(roles.write = [] ∧ .update ∈ operations) := by
  by_cases hkey : roles.primary = none ∧ Keyed operations
  · simp [permit_of_keyless hkey, hkey]
  · rw [permit_of_keyed hkey]
    by_cases hwrite : roles.write = [] ∧ .update ∈ operations
    · simp [hkey, hwrite]
    · simp [hkey, hwrite]

end Permit

theorem keyed_uniqueOperations (settings : Settings) :
    Keyed settings.uniqueOperations ↔ Keyed settings.operations := by
  simp only [Keyed, Settings.uniqueOperations, List.mem_eraseDups]

theorem update_mem_uniqueOperations (settings : Settings) :
    .update ∈ settings.uniqueOperations ↔ .update ∈ settings.operations := by
  rw [Settings.uniqueOperations, List.mem_eraseDups]

section Run
variable {generator : Generator} {schedule : List Ticket} {record : Record} {package : String}
  {existing : List String} {registry : Registry} {roles : Roles} {session : Session}

theorem outcome_runUnder_of_error {e : GenerationError} (h : generator.classified record = .error e) :
    (generator.runUnder schedule record package registry).outcome = .error e := by
  rw [classified] at h
  simp only [runUnder, h]

theorem outcome_runUnder_of_ok (h : generator.classified record = .ok roles) :
    (generator.runUnder schedule record package registry).outcome =
      generator.finishUnder schedule registry package roles := by
  rw [classified] at h
  simp only [runUnder, h]

theorem finishUnder_of_error {e : GenerationError}
    (h : permit roles generator.settings.uniqueOperations = .error e) :
    generator.finishUnder schedule registry package roles = .error e := by
  simp only [finishUnder, h]

theorem model_of_classified (h : generator.classified record = .ok roles) : roles.model = record.name := by
  rw [Roles.model, (Roles.reachable_of_classify h).record_eq]

theorem Renders.permit_eq (h : generator.Renders record existing session) :
    permit session.roles generator.settings.uniqueOperations = .ok () := by
  refine permit_eq_ok_iff.2 ⟨?_, ?_⟩
  · rw [keyed_uniqueOperations]
    exact h.keyed
  · rw [update_mem_uniqueOperations]
    exact h.assigned

/-- Under every schedule, the session that the operations leave is assembled. -/
theorem Renders.runUnder_eq (h : generator.Renders record existing session)
    (hschedule : Interleaves (ticketRows generator.settings.uniqueOperations) schedule) :
    (generator.runUnder schedule record package (Registry.ofExisting existing)).outcome =
      session.assemble generator.finalStep package := by
  have inTurn := Schedule.interleaves_inTurn (ticketRows generator.settings.uniqueOperations)
  rw [outcome_runUnder_of_ok h.classified, generator.finishUnder_eq_of_interleaves hschedule inTurn]
  simp only [finishUnder, h.permit_eq, renderUnder_inTurn, h.inTurn]

theorem Outcome.runUnder_eq {outcome : Except GenerationError GeneratedSource}
    (hschedule : Interleaves (ticketRows generator.settings.uniqueOperations) schedule)
    (h : Outcome generator record existing package outcome) :
    (generator.runUnder schedule record package (Registry.ofExisting existing)).outcome = outcome := by
  cases h with
  | unclassified h => exact outcome_runUnder_of_error h
  | keyless h hkey =>
    rw [← keyed_uniqueOperations] at hkey
    rw [outcome_runUnder_of_ok h, finishUnder_of_error (permit_of_keyless hkey), model_of_classified h]
  | unassigned h hkey hwrite =>
    rw [← keyed_uniqueOperations] at hkey
    rw [← update_mem_uniqueOperations] at hwrite
    have refused := permit_of_keyed hkey
    rw [if_pos hwrite] at refused
    rw [outcome_runUnder_of_ok h, finishUnder_of_error refused, model_of_classified h]
  | rejected h hformat =>
    rw [h.runUnder_eq hschedule]
    simp only [Session.assemble, hformat]
  | generated h hformat =>
    rw [h.runUnder_eq hschedule]
    simp only [Session.assemble, hformat, model_of_classified h.classified]

theorem renders_rendered (h : generator.classified record = .ok roles)
    (hkey : ¬(roles.primary = none ∧ Keyed generator.settings.operations))
    (hwrite : ¬(roles.write = [] ∧ .update ∈ generator.settings.operations)) :
    generator.Renders record existing
      (Session.rendered roles existing generator.settings.uniqueOperations) :=
  ⟨h, hkey, hwrite, Session.renderFrom_eq_rendered _ _ _⟩

theorem Renders.eq_rendered (h : generator.Renders record existing session) :
    session = Session.rendered session.roles existing generator.settings.uniqueOperations := by
  have rendered := h.inTurn
  rw [Session.renderFrom_eq_rendered, Except.ok.injEq] at rendered
  exact rendered.symm

theorem exists_outcome (generator : Generator) (record : Record) (existing : List String)
    (package : String) : ∃ outcome, Outcome generator record existing package outcome := by
  cases h : generator.classified record with
  | error e => exact ⟨_, .unclassified h⟩
  | ok roles =>
    by_cases hkey : roles.primary = none ∧ Keyed generator.settings.operations
    · exact ⟨_, .keyless h hkey⟩
    · by_cases hwrite : roles.write = [] ∧ .update ∈ generator.settings.operations
      · exact ⟨_, .unassigned h hkey hwrite⟩
      · have renders : generator.Renders record existing
            (Session.rendered roles existing generator.settings.uniqueOperations) :=
          renders_rendered h hkey hwrite
        cases hformat : generator.finalStep (Session.concat _ package) with
        | error diagnostic => exact ⟨_, .rejected renders hformat⟩
        | ok text => exact ⟨_, .generated renders hformat⟩

theorem outcome_runUnder_iff
    (hschedule : Interleaves (ticketRows generator.settings.uniqueOperations) schedule)
    (outcome : Except GenerationError GeneratedSource) :
    (generator.runUnder schedule record package (Registry.ofExisting existing)).outcome = outcome ↔
      Outcome generator record existing package outcome := by
  constructor
  · rintro rfl
    obtain ⟨outcome, h⟩ := exists_outcome generator record existing package
    rwa [h.runUnder_eq hschedule]
  · exact Outcome.runUnder_eq hschedule

theorem outcome_generate_iff (outcome : Except GenerationError GeneratedSource) :
    (generator.generate record package).outcome = outcome ↔
      Outcome generator record [] (generator.settings.package.getD package) outcome :=
  outcome_runUnder_iff generator.interleaves_ownSchedule outcome

theorem outcome_generateFrom_iff {origin : RecordSource} {name : String}
    (hlookup : origin.lookup name = .ok record) (outcome : Except GenerationError GeneratedSource) :
    (generator.generateFrom origin name).outcome = outcome ↔
      Outcome generator record origin.existing (generator.settings.package.getD origin.package)
        outcome := by
  rw [generateFrom, generateFromUnder, hlookup]
  exact outcome_runUnder_iff generator.interleaves_ownSchedule outcome

end Run

end Generator
end RecordAccess
