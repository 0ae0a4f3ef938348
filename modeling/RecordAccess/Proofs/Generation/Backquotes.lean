import RecordAccess.Proofs.Generation.Checked
import RecordAccess.Proofs.Generation.Outcome
import RecordAccess.Proofs.Template.Backquotes

/-!
# Backquotes in names of tables and columns

Nothing escapes a backquote in the name of a table or a column, and nothing refuses it: in a source it ends the raw
string around the SQL. The check only sees what that makes of the brackets and of the end of the text. So it
refuses an odd number of such backquotes, and takes an even number of them if the brackets nest that are outside
of raw strings then.
-/
namespace RecordAccess

open Source Text

section Units
variable {package : String} {roles : Roles} {existing : List String} {operations : List Operation}

theorem SourceUnit.stands_clause (h : Only Fragment.isTame package) (next : Option Char) :
    (Reading.read {} next (clause package).toList).Stands .code := by
  have spelled : ∃ items, Spelled [.text "package ", .hole "package", .text "\n"] items ∧
      Mode.code.through (fun _ mode => mode = .code) items = some .code :=
    ⟨_, by repeat' constructor, by decide +kernel⟩
  obtain ⟨items, spelled, code⟩ := spelled
  have dwells : ∀ (name : String) (mode : Mode), decide (mode = .code) → ∀ c ∈ package.toList, mode.Dwells c :=
    fun _ _ hmode c hc => Fragment.dwells_of_isTame (h c hc) (.inl (by simpa using hmode))
  have start : Reading.Stands .code {} := ⟨rfl, fun _ => rfl, by simp⟩
  have stands := @Reading.Stands.read_filled _ (fun _ => package) _ _ _ code dwells _ start next
  rw [spelled.flatMap_filled] at stands
  simpa [clause, Part.filled] using stands

theorem Session.only_imports_rendered (roles : Roles) (existing : List String) (operations : List Operation) :
    ∀ path ∈ (rendered roles existing operations).registry.imports, Only (Mode.literal doubleQuote).keeps path :=
  fun _ => Generator.only_imports (Schedule.interleaves_inTurn _) rfl

theorem Session.alternates_bodyOf (h : Fragment.Lettered Fragment.isTame isQuiet roles) :
    Alternates (bodyOf roles operations).toList := by
  rw [bodyOf, String.toList_join, List.flatMap_map]
  exact Alternates.flatMap fun operation _ => Fragment.alternates_text operation h

/-- A unit ends in code or in a raw string, whichever it is after the backquotes of its functions. -/
theorem Session.stands_concat (h : Fragment.Lettered Fragment.isTame isQuiet roles)
    (hpackage : Only Fragment.isTame package) :
    (Reading.ofText ((rendered roles existing operations).concat package).toList).Stands
      (.turned ((bodyOf roles operations).toList.count backquote)) := by
  obtain ⟨_, block, _⟩ := SourceUnit.whole_importBlock (only_imports_rendered roles existing operations)
  obtain ⟨_, header, _⟩ := SourceUnit.whole_header (rendered roles existing operations).registry
  rw [concat, SourceUnit.assemble, Reading.ofText]
  simp only [String.toList_append, Reading.read_append]
  rw [← Nat.zero_add (List.count backquote _)]
  refine alternates_bodyOf h 0 _ none ?_
  exact ((SourceUnit.stands_clause hpackage _).read_of_spells block _).read_of_spells header _

/-- The names that the SQL of operations places, each as often as it is placed. -/
def Fragment.placedNames (roles : Roles) (operations : List Operation) : List String :=
  operations.flatMap fun operation => (statement operation roles).names

theorem Session.count_backquote_bodyOf (h : Fragment.Lettered Fragment.isTame isQuiet roles) :
    (bodyOf roles operations).toList.count backquote = 2 * (operations.flatMap (Fragment.sqlTexts roles)).length +
      Fragment.backquotes (Fragment.placedNames roles operations) := by
  induction operations with
  | nil => rfl
  | cons operation rest ih =>
    have first := Fragment.count_backquote_text operation h
    have body : bodyOf roles (operation :: rest) = Fragment.text operation roles ++ bodyOf roles rest := by
      rw [bodyOf, List.map_cons, String.join_cons, ← bodyOf]
    have names : Fragment.placedNames roles (operation :: rest) =
        (Fragment.statement operation roles).names ++ Fragment.placedNames roles rest := List.flatMap_cons
    rw [body, names, String.toList_append, List.count_append, first, ih, Fragment.backquotes_append,
      List.flatMap_cons, List.length_append]
    omega

/-- The check accepts a unit whose clause passes if backquotes are even in number and the brackets in code
nest. -/
theorem Session.check_concat_iff (h : Fragment.Lettered Fragment.isTame isQuiet roles)
    (hpackage : Only Fragment.isTame package) :
    let unit := ((rendered roles existing operations).concat package).toList
    checkClause unit = .ok () ∧ checkBrackets unit = .ok () ↔
      checkClause unit = .ok () ∧ Even (Fragment.backquotes (Fragment.placedNames roles operations)) ∧
        nest [] (Reading.ofText unit).brackets = some [] := by
  intro unit
  have even : Even ((bodyOf roles operations).toList.count backquote) ↔
      Even (Fragment.backquotes (Fragment.placedNames roles operations)) := by
    rw [count_backquote_bodyOf h, Nat.even_iff, Nat.even_iff]
    omega
  rw [checkBrackets_eq_ok_iff, (stands_concat h hpackage).accepted_iff, even]

end Units

theorem Formatter.exists_check_iff {source : String} : (∃ text, check source = .ok text) ↔
    checkClause source.toList = .ok () ∧ checkBrackets source.toList = .ok () := by
  constructor
  · rintro ⟨text, h⟩
    obtain ⟨clause, brackets, _⟩ := check_eq_ok_iff.1 h
    exact ⟨clause, brackets⟩
  · rintro ⟨clause, brackets⟩
    exact ⟨String.ofList (tidy source.toList), check_eq_ok_iff.2 ⟨clause, brackets, String.toList_ofList⟩⟩

namespace Generator

structure Backquoted (generator : Generator) (roles : Roles) (existing : List String) (package : String)
    (outcome : Except GenerationError GeneratedSource) : Prop where
  /-- An odd number of them fails. -/
  refused : ¬Even (Fragment.backquotes (Fragment.placedNames roles generator.settings.uniqueOperations)) →
    ∃ e, outcome = .error e
  /-- An even number of them does not, if the brackets nest that they leave in code. -/
  accepted_iff : permit roles generator.settings.uniqueOperations = .ok () →
    let unit := ((Session.rendered roles existing generator.settings.uniqueOperations).concat package).toList
    (∃ source, outcome = .ok source) ↔ checkClause unit = .ok () ∧
      Even (Fragment.backquotes (Fragment.placedNames roles generator.settings.uniqueOperations)) ∧
        nest [] (Reading.ofText unit).brackets = some []

section Run
variable {generator : Generator} {record : Record} {roles : Roles} {existing : List String} {package : String}

theorem Outcome.backquoted {outcome : Except GenerationError GeneratedSource}
    (h : Outcome generator record existing package outcome) (hcheck : generator.finalStep = Formatter.check)
    (hclassify : generator.classified record = .ok roles)
    (hnames : Fragment.Lettered Fragment.isTame isQuiet roles) (hpackage : Only Fragment.isTame package) :
    Backquoted generator roles existing package outcome := by
  have checked := Formatter.exists_check_iff.trans
    (@Session.check_concat_iff package roles existing generator.settings.uniqueOperations hnames hpackage)
  have rendered : ∀ {session}, generator.Renders record existing session →
      session = Session.rendered roles existing generator.settings.uniqueOperations := by
    intro session renders
    have same : session.roles = roles := Except.ok.inj (renders.classified.symm.trans hclassify)
    rw [renders.eq_rendered, same]
  cases h with
  | unclassified hfail => exact absurd (hfail.symm.trans hclassify) (by simp)
  | keyless hroles hkey =>
    obtain rfl : _ = roles := Except.ok.inj (hroles.symm.trans hclassify)
    refine ⟨fun _ => ⟨_, rfl⟩, fun hpermit => ?_⟩
    rw [permit_eq_ok_iff, keyed_uniqueOperations] at hpermit
    exact absurd hkey hpermit.1
  | unassigned hroles hkey hwrite =>
    obtain rfl : _ = roles := Except.ok.inj (hroles.symm.trans hclassify)
    refine ⟨fun _ => ⟨_, rfl⟩, fun hpermit => ?_⟩
    rw [permit_eq_ok_iff, update_mem_uniqueOperations] at hpermit
    exact absurd hwrite hpermit.2
  | rejected renders hformat =>
    rw [hcheck, rendered renders] at hformat
    refine ⟨fun _ => ⟨_, rfl⟩, fun _ => Iff.trans ?_ checked⟩
    simp [hformat]
  | generated renders hformat =>
    rw [hcheck, rendered renders] at hformat
    have accepted := checked.1 ⟨_, hformat⟩
    exact ⟨fun odd => absurd accepted.2.1 odd, fun _ => ⟨fun _ => accepted, fun _ => ⟨_, rfl⟩⟩⟩

/-- Where names have no other quotes and no slashes, a run whose text is checked refuses an odd number of backquotes
in the names that its SQL places. With an even number of them it returns a source exactly if the clause passes and
the brackets nest that the backquotes leave in code. Both hold from a record as from a source that declares
anything. -/
theorem refuses_odd_backquotes (hformatter : generator.formatter = none)
    (hformat : generator.settings.format = .check)
    (hmodel : Only Fragment.isTame record.name)
    (hfields : ∀ field ∈ record.fields, Only Fragment.isTame field.name)
    (hcolumns : ∀ field ∈ record.fields, Only isQuiet field.column)
    (hclassify : generator.classified record = .ok roles) (htable : Only isQuiet roles.table) :
    (∀ package, Only Fragment.isTame (generator.settings.package.getD package) →
      Backquoted generator roles [] (generator.settings.package.getD package)
        (generator.generate record package).outcome) ∧
    (∀ (origin : RecordSource) (name : String), origin.lookup name = .ok record →
      Only Fragment.isTame (generator.settings.package.getD origin.package) →
      Backquoted generator roles origin.existing (generator.settings.package.getD origin.package)
        (generator.generateFrom origin name).outcome) := by
  have hrecord : roles.record = record := (Roles.reachable_of_classify hclassify).record_eq
  have names : Fragment.Lettered Fragment.isTame isQuiet roles := by
    refine Fragment.lettered_of_tame ?_ ?_ htable ?_
    · rwa [model_of_classified hclassify]
    · rwa [hrecord]
    · rwa [hrecord]
  have check : generator.finalStep = Formatter.check := by simp only [finalStep, hformatter, hformat]
  refine ⟨fun package hpackage => ?_, fun origin name hlookup hpackage => ?_⟩
  · exact ((outcome_generate_iff _).1 rfl).backquoted check hclassify names hpackage
  · exact ((outcome_generateFrom_iff hlookup _).1 rfl).backquoted check hclassify names hpackage

end Run

/-- What deletes entries by a key. -/
def deleting : Generator := { settings := { operations := [.delete] } }

/-- One backquote in the column of the key leaves the end of the deletion in a raw string. -/
theorem refuses_odd_backquotes_single :
    let note : Record := ⟨"Note", [⟨"ID", some "i`d", "int", .basic⟩], by decide⟩
    ∃ e, (deleting.generate note "notes").outcome = .error e := by
  intro note
  let roles : Roles := { record := note, table := "Note", primary := some 0, read := [0] }
  have classified : deleting.classified note = .ok roles := by decide +kernel
  have refuses := @refuses_odd_backquotes deleting note roles rfl rfl (by decide +kernel) (by decide +kernel)
    (by decide +kernel) classified (by decide +kernel)
  exact (refuses.1 "notes" (by decide +kernel)).refused (by decide +kernel)

/-- A deletion is whole though the column of the key ends its raw string and starts another one. -/
theorem whole_cut_deletion {roles : Roles} (hsuffix : Only isPlain roles.suffix)
    (hquery : (Fragment.statement .delete roles).text = "DELETE FROM Note WHERE i`+`d = $1") :
    Whole (Fragment.text .delete roles).toList (["DELETE FROM Note WHERE i", "d = $1"].map String.toList) := by
  -- With its SQL in place the template is read as it stands, and only the suffix is left to fill.
  let place : Part → Part := fun part =>
    if part = .hole "query" then .text "DELETE FROM Note WHERE i`+`d = $1" else part
  have spelled : ∃ items, Spelled ((Template.variant false (Template.ofOperation .delete)).map place) items ∧
      (Outline.read {} items).any (Outline.isWhole (fun name mode => name = "suffix" && Fragment.suits name mode)
        (["DELETE FROM Note WHERE i", "d = $1"].map fun raw => raw.toList.map .char)) = true :=
    ⟨_, by repeat' constructor, by decide +kernel⟩
  obtain ⟨items, spelled, outline⟩ := spelled
  have keeps : ∀ name mode, (name = "suffix" && Fragment.suits name mode) = true →
      ∀ c ∈ (Fragment.valueOf .delete roles name).toList, mode.keeps c := by
    intro name mode hsuits c hc
    obtain ⟨rfl, hmode⟩ : name = "suffix" ∧ Fragment.suits name mode := by simpa using hsuits
    exact keeps_of_isPlain (hsuffix c hc) (by simpa [Fragment.suits, Fragment.isSql, or_assoc] using hmode)
  have filled : ((Template.variant false (Template.ofOperation .delete)).map place).map
      (Part.filled (Fragment.valueOf .delete roles)) =
        (Fragment.shown .delete roles).map (Part.filled (Fragment.valueOf .delete roles)) := by
    have query : Fragment.valueOf .delete roles "query" = (Fragment.statement .delete roles).text := rfl
    rw [Fragment.shown_eq_variant, List.map_map]
    refine List.map_congr_left fun part _ => ?_
    by_cases hpart : part = .hole "query"
    · simp [place, hpart, Part.filled, query, hquery]
    · simp [place, hpart]
  have whole := spelled.whole outline keeps
  rw [filled, List.map_map] at whole
  simpa [Fragment.text, Function.comp_def, flatMap_filled_map_char] using whole

/-- A column with two backquotes ends the raw string of its statement, and the check accepts the source. -/
theorem backquote_pair_is_accepted :
    let note : Record := ⟨"Note", [⟨"ID", some "i`+`d", "int", .basic⟩], by decide⟩
    deleting.formatter = none ∧ deleting.settings.format = .check ∧
      ∃ roles source, deleting.classified note = .ok roles ∧
        "i`+`d" ∈ (Fragment.statement .delete roles).names ∧
        (deleting.generate note "notes").outcome = .ok source ∧
        (rawStrings source.text.toList).map String.ofList = ["DELETE FROM Note WHERE i", "d = $1"] := by
  intro note
  let roles : Roles := { record := note, table := "Note", primary := some 0, read := [0] }
  have classified : deleting.classified note = .ok roles := by decide +kernel
  have renders : deleting.Renders note [] (Session.rendered roles [] [.delete]) :=
    renders_rendered classified (by simp [roles]) (by decide)
  have deletion := @whole_cut_deletion roles (by decide +kernel) (by decide +kernel)
  have body : Whole (Session.rendered roles [] [.delete]).body.toList
      (["DELETE FROM Note WHERE i", "d = $1"].map String.toList) := by
    simpa [Session.rendered, Session.bodyOf] using deletion
  obtain ⟨text, checked, _, raws⟩ := @Session.exists_checked _ "notes" _ (by decide +kernel)
    (Session.only_imports_rendered roles [] [.delete]) body
  have check : deleting.finalStep = Formatter.check := rfl
  rw [← check] at checked
  have generated := Outcome.generated renders checked
  refine ⟨rfl, rfl, roles, _, classified, by decide +kernel, (outcome_generate_iff _).2 generated, ?_⟩
  rw [raws]
  simp

end Generator
end RecordAccess
