import RecordAccess.Command.Decision
import RecordAccess.Proofs.Config.Loading

/-!
# What settings a command runs under

Key by key, an argument goes before the environment, the environment before the configuration file, and the file
before the default. Loading looks at the values that count only, so what they shadow cannot make it fail, and the
arguments are put over what was loaded.
-/
namespace RecordAccess
open Config

/-- The settings that a generation runs under. -/
def settingsFor (arguments : Arguments) (options : GenerateOptions) (host : Host) : Except Failure Settings :=
  match arguments.settings host with
  | .error failure => .error failure
  | .ok loaded =>
    match options.overrule loaded with
    | .error e => .error ⟨e.message, []⟩
    | .ok settings => .ok settings

def generatedUnder (arguments : Arguments) (options : GenerateOptions) (host : Host) (settings : Settings) :
    Except Failure Generated :=
  match arguments.description host with
  | .error failure => .error failure
  | .ok description =>
    let failed (cause : String) : Failure :=
      ⟨"Failed to generate CRUD functions for " ++ arguments.name, [cause]⟩
    match description.generate (options.generator host settings) arguments.name with
    | .error e => .error (failed e.message)
    | .ok run =>
      match run.outcome with
      | .error e => .error (failed e.message)
      | .ok source => .ok ⟨source, settings⟩

theorem generated_eq_bind (arguments : Arguments) (options : GenerateOptions) (host : Host) :
    generated arguments options host =
      settingsFor arguments options host >>= generatedUnder arguments options host := by
  unfold generated settingsFor
  cases arguments.settings host with
  | error failure => rfl
  | ok loaded =>
    dsimp only [bind, Except.bind]
    cases options.overrule loaded with
    | error e => rfl
    | ok settings =>
      unfold generatedUnder
      dsimp only
      cases arguments.description host <;> rfl

theorem generated_of_settingsFor_error {arguments : Arguments} {options : GenerateOptions} {host : Host}
    {failure : Failure} (h : settingsFor arguments options host = .error failure) :
    generated arguments options host = .error failure := by
  rw [generated_eq_bind, h]
  rfl

theorem settings_eq_of_generatedUnder {arguments : Arguments} {options : GenerateOptions} {host : Host}
    {settings : Settings} {result : Generated} (h : generatedUnder arguments options host settings = .ok result) :
    result.settings = settings := by
  unfold generatedUnder at h
  dsimp only at h
  split at h
  · cases h
  · split at h
    · cases h
    · split at h
      · cases h
      · exact Except.ok.inj h ▸ rfl

theorem settingsFor_of_generated {arguments : Arguments} {options : GenerateOptions} {host : Host}
    {result : Generated} (h : generated arguments options host = .ok result) :
    settingsFor arguments options host = .ok result.settings := by
  rw [generated_eq_bind, bind_eq_ok_iff] at h
  obtain ⟨settings, hsettings, under⟩ := h
  rw [hsettings, settings_eq_of_generatedUnder under]

/-- What holds at a key that an argument can set. -/
inductive Flagged {α : Type} (loaded : Option α) : Option α → Option α → Prop
  | given (value : α) : Flagged loaded (some value) (some value)
  | absent : Flagged loaded none loaded

/-- The operations that words ask for; without words, those that were loaded. -/
inductive Asked (loaded : List Operation) : List String → List Operation → Prop
  | absent : Asked loaded [] loaded
  | given {words : List String} {operations : List Operation} (hwords : words ≠ [])
      (h : List.Forall₂ (fun word operation => Operation.parse word = .ok operation) words operations) :
      Asked loaded words operations

structure Overruled (arguments : Arguments) (options : GenerateOptions) (loaded settings : Settings) : Prop where
  operations : Asked loaded.operations options.operations settings.operations
  table : Flagged loaded.table arguments.table settings.table
  readFields : Flagged loaded.readFields arguments.readFields settings.readFields
  writeFields : Flagged loaded.writeFields arguments.writeFields settings.writeFields
  primaryField : Flagged loaded.primaryField arguments.primaryField settings.primaryField
  softDeleteField : Flagged loaded.softDeleteField arguments.softDeleteField settings.softDeleteField
  package : Flagged loaded.package arguments.package settings.package
  skipSuffix : settings.skipSuffix = (arguments.skipSuffix || loaded.skipSuffix)
  parallel : settings.parallel = (options.parallel || loaded.parallel)
  format : settings.format = loaded.format

section Overruling
variable {arguments : Arguments} {options : GenerateOptions} {host : Host} {loaded settings : Settings}

theorem flagged_iff {α : Type} {loaded flag held : Option α} : Flagged loaded flag held ↔ held = flag.or loaded := by
  constructor
  · rintro (_ | _) <;> rfl
  · rintro rfl
    cases flag with
    | some value => exact .given value
    | none => exact .absent

theorem parseOperations_eq_ok_iff {words : List String} {operations : List Operation} :
    parseOperations words = .ok operations ↔
      List.Forall₂ (fun word operation => Operation.parse word = .ok operation) words operations := by
  induction words generalizing operations with
  | nil =>
    rw [List.forall₂_nil_left_iff, parseOperations, Except.ok.injEq]
    exact eq_comm
  | cons word rest ih =>
    rw [List.forall₂_cons_left_iff, parseOperations]
    constructor
    · intro parsed
      split at parsed
      · cases parsed
      · next first hfirst =>
        split at parsed
        · cases parsed
        · next others hothers =>
          obtain rfl := Except.ok.inj parsed
          exact ⟨first, others, hfirst, ih.1 hothers, rfl⟩
    · rintro ⟨first, others, hfirst, hothers, rfl⟩
      simp only [hfirst, ih.2 hothers]

theorem asked_iff {words : List String} {before after : List Operation} :
    Asked before words after ↔
      words = [] ∧ after = before ∨ words ≠ [] ∧ parseOperations words = .ok after := by
  constructor
  · rintro (_ | ⟨hwords, h⟩)
    · exact .inl ⟨rfl, rfl⟩
    · exact .inr ⟨hwords, parseOperations_eq_ok_iff.2 h⟩
  · rintro (⟨rfl, rfl⟩ | ⟨hwords, h⟩)
    · exact .absent
    · exact .given hwords (parseOperations_eq_ok_iff.1 h)

theorem overrule_eq_ok_iff : options.overrule loaded = .ok settings ↔
    Asked loaded.operations options.operations settings.operations ∧
      settings = { loaded with
        operations := settings.operations
        parallel := loaded.parallel || options.parallel } := by
  rw [asked_iff]
  unfold GenerateOptions.overrule
  cases hwords : options.operations with
  | nil =>
    rw [if_pos List.isEmpty_nil, Except.ok.injEq]
    constructor
    · rintro rfl
      exact ⟨.inl ⟨rfl, rfl⟩, rfl⟩
    · rintro ⟨⟨_, same⟩ | ⟨filled, _⟩, all⟩
      · rw [all, same]
      · exact absurd rfl filled
  | cons word rest =>
    rw [if_neg (by simp)]
    constructor
    · intro h
      split at h
      · cases h
      · next operations parsed =>
        obtain rfl := Except.ok.inj h
        exact ⟨.inr ⟨List.cons_ne_nil _ _, parsed⟩, rfl⟩
    · rintro ⟨⟨empty, _⟩ | ⟨_, parsed⟩, all⟩
      · cases empty
      · simp only [parsed]
        rw [← all]

/-- The arguments of both commands are put over what was loaded, and then those of generating. -/
theorem overrule_overrule_eq_ok_iff : options.overrule (arguments.overrule loaded) = .ok settings ↔
    Overruled arguments options loaded settings := by
  rw [overrule_eq_ok_iff]
  constructor
  · rintro ⟨asked, all⟩
    rw [all]
    exact {
      operations := asked
      table := flagged_iff.2 rfl
      readFields := flagged_iff.2 rfl
      writeFields := flagged_iff.2 rfl
      primaryField := flagged_iff.2 rfl
      softDeleteField := flagged_iff.2 rfl
      package := flagged_iff.2 rfl
      skipSuffix := Bool.or_comm _ _
      parallel := Bool.or_comm _ _
      format := rfl }
  · intro h
    refine ⟨h.operations, ?_⟩
    obtain ⟨operations, package, table, readFields, writeFields, primaryField, softDeleteField, skipSuffix, format,
      parallel⟩ := settings
    simp only [Arguments.overrule, Settings.mk.injEq, true_and]
    exact ⟨flagged_iff.1 h.package, flagged_iff.1 h.table, flagged_iff.1 h.readFields, flagged_iff.1 h.writeFields,
      flagged_iff.1 h.primaryField, flagged_iff.1 h.softDeleteField, h.skipSuffix.trans (Bool.or_comm _ _), h.format,
      h.parallel.trans (Bool.or_comm _ _)⟩

theorem settingsFor_eq_ok_iff : settingsFor arguments options host = .ok settings ↔
    ∃ loaded, Config.load host.view host.environment (arguments.config.map Path.parse) = .ok loaded ∧
      Overruled arguments options loaded settings := by
  unfold settingsFor Arguments.settings
  cases hload : Config.load host.view host.environment (arguments.config.map Path.parse) with
  | error e =>
    refine iff_of_false (fun h => nomatch h) ?_
    rintro ⟨_, h, _⟩
    cases h
  | ok loaded =>
    simp only [Except.ok.injEq, exists_eq_left']
    rw [← overrule_overrule_eq_ok_iff]
    cases options.overrule (arguments.overrule loaded) with
    | error e => exact iff_of_false (fun h => nomatch h) (fun h => nomatch h)
    | ok overruled => simp only [Except.ok.injEq]

end Overruling

section Precedence
variable {view : View} {path? : Option Path} {entries : List (String × Value)}

/-- Where the configuration file can be read, or there is none, loading comes to the settings that hold at each key
what is said by the value that counts there, and fails only if such a value has the wrong type. The last variable
that spells a key counts for it, and without one the file does. A generation runs under what was loaded with its
arguments over it, and fails if there is no such thing. -/
theorem settings_precedence (file : FileSays view path? entries) (environment : List Variable) :
    (∀ loaded, load view environment path? = .ok loaded ↔
      ∀ key : Key, key.Holds loaded (supplied environment entries key)) ∧
    ((∃ loaded, load view environment path? = .ok loaded) ↔
      ∀ key : Key, ∀ value ∈ supplied environment entries key, ∃ setting, key.Means value setting) ∧
    (∀ (key : Key) (var : Variable) (before after : List Variable), environment = before ++ var :: after →
      var.Spells key → Unsupplied after key → supplied environment entries key = some var.content) ∧
    (∀ key : Key, Unsupplied environment key → supplied environment entries key = lastOf entries key.name) ∧
    ∀ (arguments : Arguments) (options : GenerateOptions) (host : Host), host.view = view →
      host.environment = environment → arguments.config.map Path.parse = path? →
      (∀ settings, settingsFor arguments options host = .ok settings ↔
        ∃ loaded, load view environment path? = .ok loaded ∧ Overruled arguments options loaded settings) ∧
      (∀ failure, settingsFor arguments options host = .error failure →
        generated arguments options host = .error failure) ∧
      ∀ result, generated arguments options host = .ok result →
        settingsFor arguments options host = .ok result.settings := by
  refine ⟨fun loaded => load_eq_ok_iff file, exists_load_iff file, ?_, fun key h => h.supplied_eq, ?_⟩
  · rintro key var before after rfl spells unsupplied
    exact supplied_of_spells spells before unsupplied
  · rintro arguments options host rfl rfl rfl
    refine ⟨fun settings => settingsFor_eq_ok_iff, fun failure => generated_of_settingsFor_error,
      fun result => settingsFor_of_generated⟩

/-- The number that the file has for the suffix does no harm, and neither does the list that the first variable has
for the table: a later variable spells the same key. An argument goes before both. -/
theorem settings_precedence_shadowed :
    let text := "skip_suffix = 3\n"
    let view : View := View.ofSightings [] [⟨usualFile, some .file, .ok text⟩]
    let environment : List Variable := [⟨"CRUDGEN_TABLE", "[1]"⟩, ⟨"Crudgen_Table", "second"⟩,
      ⟨"CRUDGEN_SKIP_SUFFIX", "true"⟩]
    let loaded : Settings := { table := some "second", skipSuffix := true }
    load view environment none = .ok loaded ∧
      settingsFor { record := "Note", table := some "third" } { operations := [" Read "] } { view, environment } =
        .ok { loaded with table := some "third", operations := [.get] } := by
  intro text view environment loaded
  let entries := (Toml.parse text).getD []
  have parsed : Toml.parse text = some entries := by
    obtain ⟨found, hfound⟩ := Option.isSome_iff_exists.1 (by decide +kernel : (Toml.parse text).isSome)
    simp only [entries, hfound, Option.getD_some]
  have file : FileSays view none entries :=
    @FileSays.parsed view none usualFile usualFile text entries (by decide) (by decide) rfl parsed
  obtain ⟨loads, _, _, _, commands⟩ := settings_precedence file environment
  have reads : ∀ key : Key, ((supplied environment entries key).map fun value => (key.read value).toOption).getD
      (some (key.ofSettings {})) = some (key.ofSettings loaded) := by
    intro key
    cases key <;> decide +kernel
  have hload : load view environment none = .ok loaded := by
    refine (loads loaded).2 fun key => ?_
    have read := reads key
    cases hvalue : supplied environment entries key with
    | none =>
      rw [hvalue] at read
      exact (Option.some.inj read).symm
    | some value =>
      rw [hvalue] at read
      cases hread : key.read value with
      | error unfit =>
        rw [Option.map_some, hread] at read
        cases read
      | ok setting =>
        rw [Option.map_some, hread] at read
        rw [Key.Holds, ← key.finds_read, hread]
        exact congrArg Except.ok (Option.some.inj read)
  have overruled : Overruled { record := "Note", table := some "third" } { operations := [" Read "] } loaded
      { loaded with table := some "third", operations := [.get] } :=
    { operations := .given (by decide) (.cons (by decide +kernel) .nil)
      table := .given "third"
      readFields := .absent
      writeFields := .absent
      primaryField := .absent
      softDeleteField := .absent
      package := .absent
      skipSuffix := rfl
      parallel := rfl
      format := rfl }
  exact ⟨hload, ((commands _ _ ⟨view, environment, _⟩ rfl rfl rfl).1 _).2 ⟨loaded, hload, overruled⟩⟩

end Precedence
end RecordAccess
