import Mathlib.Data.List.Sort
import Mathlib.Data.String.Basic
import RecordAccess.Proofs.Generation.Header

/-!
# Sources are composed of fragments

Without a formatter the text of a source is its clause, its imports, its declarations and then one fragment for
each of its operations, at the first place where the operation is requested. A fragment is what rendering its
operation alone adds to an empty body. So what is requested again shows nowhere, and the order of the requests
shows in the order of the fragments and declarations only.
-/
namespace RecordAccess

/-- The text is what rendering an operation alone leaves in the body, whatever the registry has served. -/
def Alone (roles : Roles) (operation : Operation) (text : String) : Prop :=
  ∀ registry sink, ∃ session : Session,
    Session.render { roles, registry } sink operation = .ok (text, session) ∧ session.body = text

theorem alone_text (roles : Roles) (operation : Operation) :
    Alone roles operation (Fragment.text operation roles) := by
  intro registry sink
  let session : Session :=
    { roles, registry := (registry.serveThrough sink (Fragment.requests operation)).2
      body := "" ++ Fragment.text operation roles }
  refine ⟨session, ?_, String.empty_append⟩
  simp only [Session.render, Fragment.render_eq_ok, session]

structure Composed (fragment : Operation → String) (operations : List Operation) (package : String)
    (source : GeneratedSource) : Prop where
  package_eq : source.package = package
  text_eq : source.text = "package " ++ package ++ "\n" ++
    (if source.imports = [] then ""
      else "\nimport (\n" ++ String.join (source.imports.map fun path => "\t\"" ++ path ++ "\"\n") ++ ")\n") ++
    String.join (source.declarations.map Declaration.text) ++
    String.join (operations.eraseDups.map fragment)

structure Reordered (first second : GeneratedSource) : Prop where
  package_eq : second.package = first.package
  record_eq : second.record = first.record
  imports_eq : second.imports = first.imports
  declarations_perm : second.declarations.Perm first.declarations

theorem Suits.reordered {first second : List Operation} {existing imports others : List String}
    {declarations shown : List Declaration} (h₁ : Suits first existing declarations imports)
    (h₂ : Suits second existing shown others) (h : ∀ operation, operation ∈ second ↔ operation ∈ first) :
    others = imports ∧ shown.Perm declarations := by
  have members : ∀ declaration, declaration ∈ shown ↔ declaration ∈ declarations := by
    intro declaration
    simp only [h₁.mem_declarations_iff, h₂.mem_declarations_iff, h]
  have paths : ∀ path, path ∈ others ↔ path ∈ imports := by
    intro path
    simp only [h₁.mem_imports_iff, h₂.mem_imports_iff, members, h]
  exact ⟨h₂.imports_ascending.eq_of_mem_iff h₁.imports_ascending paths,
    (List.perm_ext_iff_of_nodup h₂.nodup h₁.nodup).2 members⟩

theorem perm_eraseDups {first second : List Operation} (h : first.Perm second) :
    first.eraseDups.Perm second.eraseDups := by
  refine (List.perm_ext_iff_of_nodup (nodup_eraseDups first) (nodup_eraseDups second)).2 ?_
  intro operation
  rw [List.mem_eraseDups, List.mem_eraseDups, h.mem_iff]

namespace Generator

def withOperations (generator : Generator) (operations : List Operation) : Generator :=
  { generator with settings := { generator.settings with operations } }

/-- What a way to generate makes of the operations of a generator: a source composed of their fragments, the
same source for the same operations at their first places, and one that is reordered for operations that
are. -/
structure Composes (generate : Generator → Reported GeneratedSource) (fragment : Operation → String)
    (generator : Generator) (package : String) (source : GeneratedSource) : Prop where
  outcome_eq : (generate generator).outcome = .ok source
  composed : Composed fragment generator.settings.operations package source
  repeated : ∀ operations, operations.eraseDups = generator.settings.operations.eraseDups →
    generate (generator.withOperations operations) = generate generator
  permuted : ∀ operations, operations.Perm generator.settings.operations →
    (operations.eraseDups.map fragment).Perm (generator.settings.operations.eraseDups.map fragment) ∧
    ∃ other, (generate (generator.withOperations operations)).outcome = .ok other ∧
      Composed fragment operations package other ∧ Reordered source other

structure Passes (generator : Generator) (record : Record) (roles : Roles) : Prop where
  classified : generator.classified record = .ok roles
  permitted : permit roles generator.settings.uniqueOperations = .ok ()
  unformatted : generator.finalStep = Formatter.passthrough

section Runs
variable {generator : Generator} {record : Record} {roles : Roles} {existing : List String} {package : String}

theorem Passes.exists_composed (h : generator.Passes record roles) :
    ∃ source, Outcome generator record existing package (.ok source) ∧
      Composed (fun operation => Fragment.text operation roles) generator.settings.operations package source ∧
      Suits generator.settings.operations existing source.declarations source.imports := by
  have permitted := h.permitted
  rw [permit_eq_ok_iff, keyed_uniqueOperations, update_mem_uniqueOperations] at permitted
  have renders : generator.Renders record existing
      (Session.rendered roles existing generator.settings.uniqueOperations) :=
    renders_rendered h.classified permitted.1 permitted.2
  refine ⟨_, .generated renders (by rw [h.unformatted]; rfl), ⟨rfl, ?_⟩, renders.suits⟩
  simp only [Session.concat, SourceUnit.assemble, SourceUnit.clause, SourceUnit.importBlock,
    List.isEmpty_iff]
  rfl

theorem Passes.withOperations (h : generator.Passes record roles) {operations : List Operation}
    (hperm : operations.Perm generator.settings.operations) :
    (generator.withOperations operations).Passes record roles := by
  refine ⟨h.classified, ?_, h.unformatted⟩
  have permitted := h.permitted
  rw [permit_eq_ok_iff, keyed_uniqueOperations, update_mem_uniqueOperations] at permitted ⊢
  have members : ∀ operation, operation ∈ operations ↔ operation ∈ generator.settings.operations :=
    fun operation => hperm.mem_iff
  simpa only [Generator.withOperations, Keyed, members] using permitted

theorem ownSchedule_withOperations {operations : List Operation}
    (h : operations.eraseDups = generator.settings.operations.eraseDups) :
    (generator.withOperations operations).ownSchedule = generator.ownSchedule := by
  unfold ownSchedule schedule Settings.uniqueOperations Generator.withOperations
  rw [h]

theorem runUnder_withOperations {operations : List Operation} (schedule : List Ticket) (registry : Registry)
    (h : operations.eraseDups = generator.settings.operations.eraseDups) :
    (generator.withOperations operations).runUnder schedule record package registry =
      generator.runUnder schedule record package registry := by
  unfold runUnder finishUnder Settings.uniqueOperations Generator.withOperations
  dsimp only
  rw [h]
  rfl

theorem Outcome.record_eq {source : GeneratedSource}
    (h : Outcome generator record existing package (.ok source)) : source.record = record.name := by
  cases h
  rfl

/-- A run into a package that is named with a view to the settings has the roles' own fragments. -/
theorem Passes.exists_composes (h : generator.Passes record roles) (existing : List String)
    (named : Option String → String) :
    ∃ source, Composes (fun generator => generator.runUnder generator.ownSchedule record
        (named generator.settings.package) (Registry.ofExisting existing))
      (fun operation => Fragment.text operation roles) generator (named generator.settings.package)
      source := by
  obtain ⟨source, outcome, composed, suits⟩ :=
    @exists_composed generator record roles existing (named generator.settings.package) h
  refine ⟨source, outcome.runUnder_eq generator.interleaves_ownSchedule, composed, ?_, ?_⟩
  · intro operations hsame
    rw [ownSchedule_withOperations hsame, runUnder_withOperations _ _ hsame]
    rfl
  · intro operations hperm
    obtain ⟨other, otherOutcome, otherComposed, otherSuits⟩ :=
      @exists_composed _ record roles existing (named generator.settings.package) (h.withOperations hperm)
    have reached := otherOutcome.runUnder_eq (interleaves_ownSchedule _)
    obtain ⟨imports, declarations⟩ := suits.reordered otherSuits fun operation => hperm.mem_iff
    have reordered : Reordered source other :=
      ⟨otherComposed.package_eq.trans composed.package_eq.symm,
        otherOutcome.record_eq.trans outcome.record_eq.symm, imports, declarations⟩
    exact ⟨(perm_eraseDups hperm).map _, other, reached, otherComposed, reordered⟩

end Runs

/-- The roles of a record give every operation a fragment, the text that rendering the operation alone leaves in
the body. Every run that passes the checks for these roles, without a formatter and over anything that the
package declares, comes to a source composed of the fragments of its operations. -/
theorem compositional (record : Record) (roles : Roles) :
    ∃ fragment : Operation → String, (∀ operation, Alone roles operation (fragment operation)) ∧
      ∀ generator : Generator, generator.Passes record roles →
        (∀ package, ∃ source, Composes (fun generator => generator.generate record package) fragment
          generator (generator.settings.package.getD package) source) ∧
        (∀ (origin : RecordSource) (name : String), origin.lookup name = .ok record →
          ∃ source, Composes (fun generator => generator.generateFrom origin name) fragment generator
            (generator.settings.package.getD origin.package) source) := by
  refine ⟨fun operation => Fragment.text operation roles, alone_text roles, ?_⟩
  intro generator h
  refine ⟨?_, ?_⟩
  · intro package
    exact h.exists_composes [] fun named => named.getD package
  · intro origin name hlookup
    have run := h.exists_composes origin.existing fun named => named.getD origin.package
    simpa only [generateFrom, generateFromUnder, hlookup] using run

/-- A deletion, a listing and the deletion again: the text has each function once, the deletion first. Asked the
other way round, the functions change places. -/
theorem compositional_listAndDelete :
    let plain := { listAndDelete with formatter := some Formatter.passthrough }.withOperations
      [.delete, .list, .delete]
    let note : Record := ⟨"Note", [⟨"ID", some "id", "int", .basic⟩], by decide⟩
    ∃ (fragment : Operation → String) (source other : GeneratedSource) (first second : String),
      (plain.generate note "notes").outcome = .ok source ∧
      source.text = first ++ (fragment .delete ++ fragment .list) ∧
      ((plain.withOperations [.list, .delete, .delete]).generate note "notes").outcome = .ok other ∧
      other.text = second ++ (fragment .list ++ fragment .delete) ∧
      Reordered source other := by
  intro plain note
  let roles : Roles := { record := note, table := "Note", primary := some 0, read := [0] }
  have passes : plain.Passes note roles := ⟨by decide +kernel, by decide, rfl⟩
  obtain ⟨fragment, _, composes⟩ := compositional note roles
  obtain ⟨source, run⟩ := (composes plain passes).1 "notes"
  obtain ⟨_, other, outcome, composed, reordered⟩ := run.permuted [.list, .delete, .delete] (by decide)
  exact ⟨fragment, source, other, _, _, run.outcome_eq, run.composed.text_eq, outcome, composed.text_eq, reordered⟩

end Generator
end RecordAccess
