import RecordAccess.Proofs.Generation.Schedules
import RecordAccess.Proofs.Generation.SourceUnits
import RecordAccess.Proofs.Registry.Imports
import RecordAccess.Proofs.Roles.Reachable
import RecordAccess.Proofs.Template.Wholeness

/-!
# Generated sources pass the check

A run whose names are identifiers, and whose table and columns can be placed in a raw string, never
fails in its last step: the check accepts every unit that the renderers put together. The raw strings of
the source are the SQL texts that the operations build, in order.
-/
namespace RecordAccess

open Source Text

theorem Session.whole_bodyOf {roles : Roles} (h : Fragment.Names roles) (operations : List Operation) :
    Whole (bodyOf roles operations).toList
      ((operations.flatMap (Fragment.sqlTexts roles)).map String.toList) := by
  have whole := Whole.flatMap fun operation (_ : operation ∈ operations) =>
    Fragment.whole_text h operation
  rwa [← List.map_flatMap, ← List.flatMap_map, ← String.toList_join] at whole

/-- The check accepts the unit of a session whose body is whole. -/
theorem Session.exists_checked {session : Session} {package : String} {raws : List (List Char)}
    (hpackage : isIdentifier package.toList)
    (himports : ∀ path ∈ session.registry.imports, Only (Mode.literal doubleQuote).keeps path)
    (hbody : Whole session.body.toList raws) :
    ∃ text, Formatter.check (session.concat package) = .ok text ∧ checkBrackets text.toList = .ok () ∧
      rawStrings text.toList = raws := by
  have clause : checkClause (session.concat package).toList = .ok () := by
    rw [concat, SourceUnit.assemble, String.append_assoc, String.append_assoc,
      SourceUnit.toList_clause_append]
    exact checkClause_of_clause hpackage _
  exact Formatter.check_eq_ok clause (SourceUnit.whole_assemble hpackage himports session.registry hbody)

namespace Generator

/-- Every path that the operations require can stand in a string. -/
theorem only_imports {operations : List Operation} {schedule : List Ticket}
    (hschedule : Interleaves (ticketRows operations) schedule) {registry : Registry}
    (hempty : registry.imports = []) {path : String} (h : path ∈ (registry.run schedule).imports) :
    Only (Mode.literal doubleQuote).keeps path := by
  rcases Registry.mem_imports_run h with h | ⟨ticket, hticket, hpath⟩
  · simp [hempty] at h
  · obtain ⟨row, hrow, hrequest⟩ := request_mem_of_interleaves hschedule hticket
    obtain ⟨operation, _, rfl⟩ := List.mem_map.1 hrow
    have known : ∀ request ∈ Fragment.requests operation, ∀ path ∈ request.paths,
        Only (Mode.literal doubleQuote).keeps path := by
      cases operation <;> decide +kernel
    exact known ticket.request hrequest path hpath

section Run
variable {generator : Generator} {record : Record} {roles : Roles}

theorem runUnder_checked (hformatter : generator.formatter = none)
    (hformat : generator.settings.format = .check)
    (hclassify : (Classification.classify record generator.settings.overrides).outcome = .ok roles)
    (hpermit : permit roles generator.settings.uniqueOperations = .ok ())
    (hnames : Fragment.Names roles) {package : String} (hpackage : isIdentifier package.toList)
    {registry : Registry} (hempty : registry.imports = []) :
    ∃ source, (generator.runUnder generator.ownSchedule record package registry).outcome = .ok source ∧
      checkBrackets source.text.toList = .ok () ∧
      (rawStrings source.text.toList).map String.ofList =
        generator.settings.uniqueOperations.flatMap (Fragment.sqlTexts roles) := by
  let operations := generator.settings.uniqueOperations
  obtain ⟨session, hsession⟩ : ∃ session : Session, session = {
      roles
      registry := registry.run generator.ownSchedule
      body := Session.bodyOf roles operations } := ⟨_, rfl⟩
  have imports : ∀ path ∈ session.registry.imports, Only (Mode.literal doubleQuote).keeps path := by
    rw [hsession]
    exact fun path => only_imports generator.interleaves_ownSchedule hempty
  have body : Whole session.body.toList ((operations.flatMap (Fragment.sqlTexts roles)).map String.toList) := by
    rw [hsession]
    exact Session.whole_bodyOf hnames operations
  obtain ⟨text, hcheck, balanced, hraws⟩ := Session.exists_checked hpackage imports body
  have final : generator.finalStep = Formatter.check := by
    simp only [finalStep, hformatter, hformat]
  have outcome : (generator.runUnder generator.ownSchedule record package registry).outcome =
      session.assemble Formatter.check package := by
    simp only [runUnder, hclassify, finishUnder, hpermit, renderUnder_eq_ok, final, hsession]
    rfl
  have assembled : session.assemble Formatter.check package = .ok {
      package
      record := session.roles.model
      text
      imports := session.registry.imports
      declarations := session.registry.declarations } := by
    simp only [Session.assemble, hcheck]
  refine ⟨_, outcome.trans assembled, balanced, ?_⟩
  rw [hraws, List.map_map]
  simp [Function.comp_def, operations]

/-- If classification and the checks before rendering succeed, then the run does, from a record as from
a source that declares anything: the check rejects nothing that was generated. The raw strings of the
result are the SQL texts of the operations, in order. -/
theorem check_accepts_generated (hformatter : generator.formatter = none)
    (hformat : generator.settings.format = .check)
    (hmodel : isIdentifier record.name.toList)
    (hfields : ∀ field ∈ record.fields, isIdentifier field.name.toList)
    (hcolumns : ∀ field ∈ record.fields, Fragment.Placeable field.column)
    (hclassify : (Classification.classify record generator.settings.overrides).outcome = .ok roles)
    (htable : Fragment.Placeable roles.table)
    (hpermit : permit roles generator.settings.uniqueOperations = .ok ()) :
    (∀ package, isIdentifier (generator.settings.package.getD package).toList →
      ∃ source, (generator.generate record package).outcome = .ok source ∧
        checkBrackets source.text.toList = .ok () ∧
        (rawStrings source.text.toList).map String.ofList =
          generator.settings.uniqueOperations.flatMap (Fragment.sqlTexts roles)) ∧
    (∀ (origin : RecordSource) (name : String), origin.lookup name = .ok record →
      isIdentifier (generator.settings.package.getD origin.package).toList →
      ∃ source, (generator.generateFrom origin name).outcome = .ok source ∧
        checkBrackets source.text.toList = .ok () ∧
        (rawStrings source.text.toList).map String.ofList =
          generator.settings.uniqueOperations.flatMap (Fragment.sqlTexts roles)) := by
  have hrecord : roles.record = record := (Roles.reachable_of_classify hclassify).record_eq
  have names : Fragment.Names roles := by
    refine ⟨?_, ?_, htable, ?_⟩
    · rwa [Roles.model, hrecord]
    · rwa [hrecord]
    · rwa [hrecord]
  refine ⟨fun package hpackage => ?_, fun origin name hlookup hpackage => ?_⟩
  · exact runUnder_checked hformatter hformat hclassify hpermit names hpackage rfl
  · rw [generateFrom, generateFromUnder, hlookup]
    exact runUnder_checked hformatter hformat hclassify hpermit names hpackage rfl

end Run

/-- A listing that leaves deleted rows out holds two raw strings, and a deletion one. -/
theorem check_accepts_generated_listAndDelete :
    let note : Record := ⟨"Note", [⟨"ID", some "id", "int", .basic⟩,
      ⟨"DeletedAt", some "deleted_at", "*time.Time", .pointer⟩], by decide⟩
    ∃ source, (listAndDelete.generate note "notes").outcome = .ok source ∧
      checkBrackets source.text.toList = .ok () ∧
      (rawStrings source.text.toList).map String.ofList =
        ["SELECT id FROM Note", "WHERE deleted_at IS NULL",
          "UPDATE Note SET deleted_at = NOW() WHERE id = $1 AND deleted_at IS NULL"] := by
  intro note
  let roles : Roles := {
    record := note
    table := "Note"
    primary := some 0
    softDelete := some 1
    read := [0] }
  have classified : (Classification.classify note listAndDelete.settings.overrides).outcome =
      .ok roles := by decide +kernel
  have checked := @check_accepts_generated listAndDelete note roles rfl rfl (by decide +kernel)
    (by decide +kernel) (by decide +kernel) classified (by decide +kernel) (by decide +kernel)
  have texts : listAndDelete.settings.uniqueOperations.flatMap (Fragment.sqlTexts roles) =
      ["SELECT id FROM Note", "WHERE deleted_at IS NULL",
        "UPDATE Note SET deleted_at = NOW() WHERE id = $1 AND deleted_at IS NULL"] := by decide +kernel
  rw [← texts]
  exact checked.1 "notes" (by decide +kernel)

end Generator
end RecordAccess
