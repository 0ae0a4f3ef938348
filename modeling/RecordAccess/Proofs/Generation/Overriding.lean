import RecordAccess.Proofs.Generation.Composition
import RecordAccess.Proofs.Sql.Alignment

/-!
# Overrides touch what they name

Two runs over one record, under settings that differ in one override, share whatever the override does not name.
What an override names is one part of the roles, and the fragments tell which parts they are made of. The header
is made of no part of the roles at all. A source is returned for a record that is at hand, into a package
that declares nothing yet, or for one that an origin knows by a name.
-/
namespace RecordAccess

namespace Generator

/-- The source is returned for the record, in a package that declares these identifiers. -/
inductive Returns (generator : Generator) (record : Record) : List String → GeneratedSource → Prop
  | atHand {package : String} {source : GeneratedSource}
      (h : (generator.generate record package).outcome = .ok source) : Returns generator record [] source
  | known {origin : RecordSource} {name : String} {source : GeneratedSource}
      (hlookup : origin.lookup name = .ok record)
      (h : (generator.generateFrom origin name).outcome = .ok source) :
      Returns generator record origin.existing source

section Returns
variable {generator : Generator} {record : Record} {existing : List String} {source : GeneratedSource}

theorem Returns.exists_outcome (h : generator.Returns record existing source) :
    ∃ package, Outcome generator record existing package (.ok source) := by
  cases h with
  | atHand h => exact ⟨_, (outcome_generate_iff _).1 h⟩
  | known hlookup h => exact ⟨_, (outcome_generateFrom_iff hlookup _).1 h⟩

theorem Returns.exists_produces (h : generator.Returns record existing source) :
    ∃ session, generator.Produces record existing session source := by
  obtain ⟨_, outcome⟩ := h.exists_outcome
  exact outcome.exists_produces.2

theorem Returns.exists_composed (h : generator.Returns record existing source)
    (hplain : generator.finalStep = Formatter.passthrough) :
    ∃ roles, generator.classified record = .ok roles ∧
      Composed (fun operation => Fragment.text operation roles) generator.settings.operations
        source.package source ∧
      Suits generator.settings.operations existing source.declarations source.imports := by
  obtain ⟨package, outcome⟩ := h.exists_outcome
  obtain ⟨package_eq, session, produces⟩ := outcome.exists_produces
  have passes : generator.Passes record session.roles :=
    ⟨produces.renders.classified, produces.renders.permit_eq, hplain⟩
  obtain ⟨returned, comesTo, composed, suits⟩ :=
    @Passes.exists_composed generator record session.roles existing package passes
  have inTurn := generator.interleaves_ownSchedule
  have same : returned = source := by
    have first := comesTo.runUnder_eq inTurn
    rw [outcome.runUnder_eq inTurn, Except.ok.injEq] at first
    exact first.symm
  subst same
  exact ⟨session.roles, passes.classified, package_eq ▸ composed, suits⟩

end Returns
end Generator

namespace Classification
variable {record : Record} {first second : Overrides} {roles others : Roles}

theorem classified_of_outcome (h : (classify record first).outcome = .ok roles) :
    Classified record first roles := by
  have verdict := verdict_start record first
  rw [Session.start, h] at verdict
  cases verdict with
  | classified h => exact h

theorem Classified.primary_eq (h : Classified record first roles) (h' : Classified record second others)
    (same : second.primaryField = first.primaryField) : others.primary = roles.primary := by
  have name : primaryName record second = primaryName record first := by
    rw [primaryName, primaryName, same]
  exact (name ▸ h'.primary).unique h.primary

theorem Classified.softDelete_eq (h : Classified record first roles) (h' : Classified record second others)
    (same : second.softDeleteField = first.softDeleteField) : others.softDelete = roles.softDelete := by
  have name : softDeleteName record second = softDeleteName record first := by
    rw [softDeleteName, softDeleteName, same]
  exact (name ▸ h'.softDelete).unique h.softDelete

theorem Classified.read_eq (h : Classified record first roles) (h' : Classified record second others)
    (names : second.readFields = first.readFields) (mark : others.softDelete = roles.softDelete) :
    others.read = roles.read := by
  refine h'.read_ascending.eq_of_mem_iff h.read_ascending ?_
  intro i
  rw [h'.mem_read_iff, h.mem_read_iff, names, mark]

theorem Classified.write_eq (h : Classified record first roles) (h' : Classified record second others)
    (names : second.writeFields = first.writeFields) (mark : others.softDelete = roles.softDelete)
    (keys : ∀ i, Wanted record first.writeFields i → (others.primary = some i ↔ roles.primary = some i)) :
    others.write = roles.write := by
  refine h'.write_ascending.eq_of_mem_iff h.write_ascending ?_
  intro i
  rw [h'.mem_write_iff, h.mem_write_iff, names, mark]
  by_cases wanted : Wanted record first.writeFields i
  · rw [Ne, Ne, Ne, keys i wanted]
  · simp only [wanted, false_and]

/-- Classifications of one record under the same overrides of the key roles share the record, these roles and,
where the names for a set are the same, the set. -/
structure Shares (first second : Overrides) (roles others : Roles) : Prop where
  record_eq : others.record = roles.record
  primary_eq : second.primaryField = first.primaryField → others.primary = roles.primary
  softDelete_eq : others.softDelete = roles.softDelete
  read_eq : second.readFields = first.readFields → others.read = roles.read
  write_eq : second.primaryField = first.primaryField → second.writeFields = first.writeFields →
    others.write = roles.write
  table_eq : second.table = first.table → others.table = roles.table
  skipSuffix_eq : second.skipSuffix = first.skipSuffix → others.skipSuffix = roles.skipSuffix

theorem Classified.shares (h : Classified record first roles) (h' : Classified record second others)
    (mark : second.softDeleteField = first.softDeleteField) : Shares first second roles others where
  record_eq := h'.record_eq.trans h.record_eq.symm
  primary_eq := h.primary_eq h'
  softDelete_eq := h.softDelete_eq h' mark
  read_eq names := h.read_eq h' names (h.softDelete_eq h' mark)
  write_eq key names := by
    refine h.write_eq h' names (h.softDelete_eq h' mark) ?_
    intro i _
    rw [h.primary_eq h' key]
  table_eq same := by rw [h'.table_eq, h.table_eq, same]
  skipSuffix_eq same := by rw [h'.skipSuffix_eq, h.skipSuffix_eq, same]

theorem Shares.eq_with (h : Shares first second roles others) :
    others = { roles with
      table := others.table
      primary := others.primary
      read := others.read
      write := others.write
      skipSuffix := others.skipSuffix } := by
  have record_eq := h.record_eq
  have softDelete_eq := h.softDelete_eq
  cases others
  simp_all only

end Classification

theorem Suits.unique {operations : List Operation} {existing imports others : List String}
    {declarations shown : List Declaration} (h : Suits operations existing declarations imports)
    (h' : Suits operations existing shown others) : shown = declarations ∧ others = imports :=
  ⟨h'.declarations_eq.trans h.declarations_eq.symm, (h.reordered h' fun _ => Iff.rfl).1⟩

namespace Sql

def Statement.onTable (table : String) : Statement → Statement
  | select columns _ conditions => .select columns table conditions
  | insert _ columns returning => .insert table columns returning
  | update _ assignments conditions returning => .update table assignments conditions returning
  | delete _ conditions => .delete table conditions

end Sql

namespace Fragment
open Sql

/-- The operations have the same fragments for both. -/
def SameTexts (operations : List Operation) (roles others : Roles) : Prop :=
  ∀ operation ∈ operations, text operation others = text operation roles

/-- What writes a row is the same for both, up to the columns that it returns. -/
structure SameWrites (roles others : Roles) : Prop where
  insert_eq : ∃ table columns,
    statement .create roles = .insert table columns (roles.readColumns "") ∧
    statement .create others = .insert table columns (others.readColumns "")
  update_eq : ∃ table assignments conditions,
    statement .update roles = .update table assignments conditions (roles.readColumns "") ∧
    statement .update others = .update table assignments conditions (others.readColumns "")
  placeholders_eq : ∀ operation, operation = .create ∨ operation = .update →
    (statement operation others).placeholders = (statement operation roles).placeholders
  arguments_eq : ∀ operation, operation = .create ∨ operation = .update →
    arguments operation others = arguments operation roles

structure SameLists (roles others : Roles) : Prop where
  readColumns_eq : others.readColumns "" = roles.readColumns ""
  writeColumns_eq : others.writeColumns "" = roles.writeColumns ""
  arguments_eq : ∀ operation, arguments operation others = arguments operation roles
  targets_eq : ∀ operation, targets operation others = targets operation roles
  statement_eq : ∀ operation, statement operation others = (statement operation roles).onTable others.table

section Parts
variable (roles : Roles)

theorem sameTexts_withWrite (write : List Nat) :
    SameTexts [.get, .list, .delete] roles { roles with write } := by
  simp only [SameTexts, List.forall_mem_cons, List.not_mem_nil, false_implies, implies_true, and_true]
  exact ⟨rfl, rfl, rfl⟩

theorem sameTexts_withRead (read : List Nat) : SameTexts [.delete] roles { roles with read } := by
  simp only [SameTexts, List.forall_mem_singleton]
  rfl

theorem sameTexts_withPrimary (primary : Option Nat) :
    SameTexts [.create, .list] roles { roles with primary } := by
  simp only [SameTexts, List.forall_mem_cons, List.not_mem_nil, false_implies, implies_true, and_true]
  exact ⟨rfl, rfl⟩

theorem sameWrites_withRead (read : List Nat) : SameWrites roles { roles with read } where
  insert_eq := ⟨_, _, rfl, rfl⟩
  update_eq := ⟨_, _, _, rfl, rfl⟩
  placeholders_eq := by
    rintro operation (rfl | rfl) <;> rfl
  arguments_eq := by
    rintro operation (rfl | rfl) <;> rfl

theorem sameLists_withNames (table : String) (skipSuffix : Bool) :
    SameLists roles { roles with table, skipSuffix } where
  readColumns_eq := rfl
  writeColumns_eq := rfl
  arguments_eq operation := by cases operation <;> rfl
  targets_eq operation := by cases operation <;> rfl
  statement_eq operation := by
    cases operation with
    | delete =>
      have mark : Roles.softDeleteColumn? { roles with table, skipSuffix } = roles.softDeleteColumn? := rfl
      simp only [statement, mark]
      cases roles.softDeleteColumn? <;> rfl
    | create => rfl
    | get => rfl
    | list => rfl
    | update => rfl

end Parts
end Fragment

structure SameHeader (source other : GeneratedSource) : Prop where
  declarations_eq : other.declarations = source.declarations
  imports_eq : other.imports = source.imports

namespace Generator
open Classification Fragment

section Changes
variable {first second : Settings} {roles others : Roles}
  (h : Shares first.overrides second.overrides roles others)
include h

theorem sameTexts_of_writeFields {writeFields : Option (List String)}
    (hsettings : second = { first with writeFields }) : SameTexts [.get, .list, .delete] roles others := by
  subst hsettings
  have changed := h.eq_with
  rw [h.table_eq rfl, h.primary_eq rfl, h.read_eq rfl, h.skipSuffix_eq rfl] at changed
  rw [changed]
  exact sameTexts_withWrite roles _

theorem same_of_readFields {readFields : Option (List String)} (hsettings : second = { first with readFields }) :
    SameTexts [.delete] roles others ∧ SameWrites roles others := by
  subst hsettings
  have changed := h.eq_with
  rw [h.table_eq rfl, h.primary_eq rfl, h.write_eq rfl rfl, h.skipSuffix_eq rfl] at changed
  rw [changed]
  exact ⟨sameTexts_withRead roles _, sameWrites_withRead roles _⟩

theorem sameTexts_of_primaryField {primaryField : Option String}
    (hsettings : second = { first with primaryField }) (write_eq : others.write = roles.write) :
    SameTexts [.create, .list] roles others := by
  subst hsettings
  have changed := h.eq_with
  rw [h.table_eq rfl, h.read_eq rfl, write_eq, h.skipSuffix_eq rfl] at changed
  rw [changed]
  exact sameTexts_withPrimary roles _

theorem sameLists_of_names {table : Option String} {skipSuffix : Bool}
    (hsettings : second = { first with table, skipSuffix }) : SameLists roles others := by
  subst hsettings
  have changed := h.eq_with
  rw [h.primary_eq rfl, h.read_eq rfl, h.write_eq rfl rfl] at changed
  rw [changed]
  exact sameLists_withNames roles _ _

end Changes

/-- Two runs over one record, in packages that declare the same identifiers and without a formatter, whose settings
differ in one override. Other names to write leave the fragments that write nothing as they are. Other names to
read leave the deletion and all that insertions and updates write. Another primary field that is not named to be
written leaves insertions and listings. Another table, or form of names, leaves columns, arguments and targets.
Each leaves the header. -/
theorem overrides_touch_what_they_name {first second : Generator} {record : Record} {existing : List String}
    {source other : GeneratedSource} (h₁ : first.Returns record existing source)
    (h₂ : second.Returns record existing other) (plain₁ : first.finalStep = Formatter.passthrough)
    (plain₂ : second.finalStep = Formatter.passthrough) :
    ∃ roles others : Roles, first.classified record = .ok roles ∧ second.classified record = .ok others ∧
      Composed (fun operation => text operation roles) first.settings.operations source.package source ∧
      Composed (fun operation => text operation others) second.settings.operations other.package other ∧
      (∀ writeFields, second.settings = { first.settings with writeFields } →
        SameTexts [.get, .list, .delete] roles others ∧ SameHeader source other) ∧
      (∀ readFields, second.settings = { first.settings with readFields } →
        SameTexts [.delete] roles others ∧ SameWrites roles others ∧ SameHeader source other) ∧
      (∀ primaryField, second.settings = { first.settings with primaryField } →
        (∀ names, first.settings.writeFields = some names →
          (∀ name ∈ names, ∀ i, record.Names name i → roles.primary ≠ some i ∧ others.primary ≠ some i) →
          SameTexts [.create, .list] roles others) ∧ SameHeader source other) ∧
      (∀ table skipSuffix, second.settings = { first.settings with table, skipSuffix } →
        SameLists roles others ∧ SameHeader source other) := by
  obtain ⟨roles, classified₁, composed₁, suits₁⟩ := h₁.exists_composed plain₁
  obtain ⟨others, classified₂, composed₂, suits₂⟩ := h₂.exists_composed plain₂
  have roles_classified : Classified record first.settings.overrides roles := classified_of_outcome classified₁
  have others_classified : Classified record second.settings.overrides others :=
    classified_of_outcome classified₂
  have shares : second.settings.softDeleteField = first.settings.softDeleteField →
      Shares first.settings.overrides second.settings.overrides roles others :=
    roles_classified.shares others_classified
  have header : second.settings.operations = first.settings.operations → SameHeader source other := by
    intro operations_eq
    rw [operations_eq] at suits₂
    exact ⟨(suits₁.unique suits₂).1, (suits₁.unique suits₂).2⟩
  refine ⟨roles, others, classified₁, classified₂, composed₁, composed₂, ?_, ?_, ?_, ?_⟩
  · intro writeFields hsettings
    exact ⟨sameTexts_of_writeFields (shares (by rw [hsettings])) hsettings, header (by rw [hsettings])⟩
  · intro readFields hsettings
    obtain ⟨texts, writes⟩ := same_of_readFields (shares (by rw [hsettings])) hsettings
    exact ⟨texts, writes, header (by rw [hsettings])⟩
  · intro primaryField hsettings
    refine ⟨?_, header (by rw [hsettings])⟩
    intro names hnames unnamed
    have same := shares (by rw [hsettings])
    refine sameTexts_of_primaryField same hsettings ?_
    refine roles_classified.write_eq others_classified (by rw [hsettings]; rfl) same.softDelete_eq ?_
    -- A field that is named to be written is the primary field of neither run.
    intro i wanted
    obtain ⟨name, hname, stands⟩ : ∃ name ∈ names, record.Names name i := by
      rwa [show first.settings.overrides.writeFields = some names from hnames] at wanted
    simp only [(unnamed name hname i stands).1, (unnamed name hname i stands).2]
  · intro table skipSuffix hsettings
    exact ⟨sameLists_of_names (shares (by rw [hsettings])) hsettings, header (by rw [hsettings])⟩

/-- A listing and an update of the title: with the slug for a key instead of the number, the listing is the same;
without the slug among what is read, the update sets and asks for the same. -/
theorem overrides_touch_what_they_name_titled :
    let titled : Settings := { operations := [.list, .update], writeFields := some ["Title"] }
    let plain (settings : Settings) : Generator := { settings, formatter := some Formatter.passthrough }
    let note : Record := ⟨"Note", [⟨"ID", some "id", "int", .basic⟩, ⟨"Slug", some "slug", "string", .basic⟩,
      ⟨"Title", some "title", "string", .basic⟩], by decide⟩
    ∃ (source slugged unread : GeneratedSource) (roles others hidden : Roles),
      ((plain titled).generate note "notes").outcome = .ok source ∧
      ((plain { titled with primaryField := some " Slug" }).generate note "notes").outcome = .ok slugged ∧
      ((plain { titled with readFields := some ["ID"] }).generate note "notes").outcome = .ok unread ∧
      SameTexts [.create, .list] roles others ∧ SameHeader source slugged ∧
      SameWrites roles hidden ∧ SameHeader source unread := by
  intro titled plain note
  have returns : ∀ settings roles, (plain settings).classified note = .ok roles →
      roles.primary ≠ none → roles.write ≠ [] →
      ∃ source, ((plain settings).generate note "notes").outcome = .ok source := by
    intro settings roles classified keyed assigned
    have renders : (plain settings).Renders note []
        (Session.rendered roles [] (plain settings).settings.uniqueOperations) :=
      renders_rendered classified (fun h => keyed h.1) (fun h => assigned h.1)
    exact ⟨_, (outcome_generate_iff _).2 (.generated renders rfl)⟩
  let roles : Roles := { record := note, table := "Note", primary := some 0, read := [0, 1, 2], write := [2] }
  have classified : (plain titled).classified note = .ok roles := by decide +kernel
  have classifiedSlug : (plain { titled with primaryField := some " Slug" }).classified note =
      .ok { roles with primary := some 1 } := by decide +kernel
  have classifiedRead : (plain { titled with readFields := some ["ID"] }).classified note =
      .ok { roles with read := [0] } := by decide +kernel
  obtain ⟨source, h⟩ := returns titled roles classified (by decide) (by decide)
  obtain ⟨slugged, hslug⟩ := returns _ _ classifiedSlug (by decide) (by decide)
  obtain ⟨unread, hread⟩ := returns _ _ classifiedRead (by decide) (by decide)
  obtain ⟨keyed, others, keyedRoles, otherRoles, _, _, _, _, keys, _⟩ :=
    overrides_touch_what_they_name (.atHand h) (.atHand hslug) rfl rfl
  obtain ⟨known, hidden, knownRoles, hiddenRoles, _, _, _, reads, _⟩ :=
    overrides_touch_what_they_name (.atHand h) (.atHand hread) rfl rfl
  obtain rfl := Except.ok.inj (classified.symm.trans keyedRoles)
  obtain rfl := Except.ok.inj (classifiedSlug.symm.trans otherRoles)
  obtain rfl := Except.ok.inj (classified.symm.trans knownRoles)
  have unnamed : ∀ name ∈ ["Title"], ∀ i, note.Names name i →
      (some 0 : Option Nat) ≠ some i ∧ (some 1 : Option Nat) ≠ some i := by
    intro name hname i stands
    obtain rfl := List.mem_singleton.1 hname
    have third : note.Names "Title" 2 := ⟨_, rfl, by decide⟩
    obtain rfl := stands.unique third
    decide
  obtain ⟨texts, sluggedHeader⟩ := keys (some " Slug") rfl
  obtain ⟨_, writes, unreadHeader⟩ := reads (some ["ID"]) rfl
  exact ⟨source, slugged, unread, roles, _, hidden, h, hslug, hread, texts ["Title"] rfl unnamed, sluggedHeader,
    writes, unreadHeader⟩

end Generator
end RecordAccess
