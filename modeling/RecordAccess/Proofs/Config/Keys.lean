import Mathlib.Data.List.Forall2
import RecordAccess.Proofs.Config.Overlay

/-!
# The keys of settings

There are ten keys, each with what its values say and with what holds where no value is given. A value says at
most one thing, a map says nothing to any key, and reading a value finds what it says. Settings are those of
layers if at each key they hold what the last value for it says.
-/
namespace RecordAccess.Config

inductive IsText : Value → String → Prop
  | text (value : String) : IsText (.text value) value
  | character (value : Char) : IsText (.character value) (String.singleton value)

inductive IsBoolean : Value → Bool → Prop
  | boolean (value : Bool) : IsBoolean (.boolean value) value

inductive IsWord {α : Type} (name : α → String) : Value → α → Prop
  | text (thing : α) : IsWord name (.text (name thing)) thing

inductive IsList {α : Type} (isItem : Value → α → Prop) : Value → List α → Prop
  | list {items : List Value} {values : List α} (h : List.Forall₂ isItem items values) :
      IsList isItem (.list items) values

inductive IsGiven {α : Type} (isSuch : Value → α → Prop) : Value → Option α → Prop
  | given {value : Value} {thing : α} (h : isSuch value thing) : IsGiven isSuch value (some thing)

/-- The reader finds what a value says, and refuses values that say nothing. -/
def Finds {α : Type} (read : Reader α) (means : Value → α → Prop) : Prop :=
  ∀ value thing, read value = .ok thing ↔ means value thing

section Readers
variable {α : Type} {read : Reader α} {means : Value → α → Prop}

theorem finds_asText : Finds asText IsText := by
  intro value thing
  constructor
  · intro h
    cases value with
    | text value => exact Except.ok.inj h ▸ .text value
    | character value => exact Except.ok.inj h ▸ .character value
    | _ => cases h
  · rintro (_ | _) <;> rfl

theorem finds_asBoolean : Finds asBoolean IsBoolean := by
  intro value thing
  constructor
  · intro h
    cases value with
    | boolean value => exact Except.ok.inj h ▸ .boolean value
    | _ => cases h
  · rintro ⟨⟩
    rfl

theorem finds_asChoice {type : String} {choice : List String} {named? : String → Option α} {name : α → String}
    (hnamed : ∀ word thing, named? word = some thing ↔ word = name thing) :
    Finds (asChoice type choice named?) (IsWord name) := by
  intro value thing
  constructor
  · intro h
    cases value with
    | text word =>
      simp only [asChoice] at h
      split at h
      · next value found =>
        obtain rfl := Except.ok.inj h
        rw [(hnamed word value).1 found]
        exact .text value
      · cases h
    | map entries => cases entries <;> cases h
    | _ => cases h
  · rintro ⟨⟩
    simp only [asChoice, (hnamed (name thing) thing).2 rfl]

theorem named?_eq_some_iff (word : String) (operation : Operation) :
    Operation.named? word = some operation ↔ word = operation.name := by
  constructor
  · intro h
    have named := List.find?_some h
    exact (beq_iff_eq.1 named).symm
  · rintro rfl
    cases operation <;> decide

theorem formatMode_eq_some_iff (word : String) (mode : FormatMode) :
    (formatModes.find? fun mode => mode.name == word) = some mode ↔ word = mode.name := by
  constructor
  · intro h
    have named := List.find?_some h
    exact (beq_iff_eq.1 named).symm
  · rintro rfl
    cases mode <;> decide

theorem asItems_eq_ok_iff (h : Finds read means) {items : List Value} {index : Nat} {values : List α} :
    asItems read index items = .ok values ↔ List.Forall₂ means items values := by
  induction items generalizing index values with
  | nil =>
    rw [List.forall₂_nil_left_iff, asItems, Except.ok.injEq]
    exact eq_comm
  | cons item rest ih =>
    rw [List.forall₂_cons_left_iff, asItems]
    constructor
    · intro found
      split at found
      · cases found
      · next first hfirst =>
        split at found
        · cases found
        · next others hothers =>
          obtain rfl := Except.ok.inj found
          exact ⟨first, others, (h item first).1 hfirst, ih.1 hothers, rfl⟩
    · rintro ⟨first, others, hfirst, hothers, rfl⟩
      simp only [(h item first).2 hfirst, ih.2 hothers]

theorem Finds.asList (h : Finds read means) : Finds (Config.asList read) (IsList means) := by
  intro value values
  constructor
  · intro found
    cases value with
    | list items => exact .list ((asItems_eq_ok_iff h).1 found)
    | _ => cases found
  · rintro ⟨items⟩
    exact (asItems_eq_ok_iff h).2 items

theorem Finds.given (h : Finds read means) : Finds (Config.given read) (IsGiven means) := by
  intro value setting
  unfold Config.given
  cases hread : read value with
  | error unfit =>
    refine iff_of_false (fun found => nomatch found) ?_
    rintro ⟨said⟩
    rw [(h value _).2 said] at hread
    cases hread
  | ok thing =>
    constructor
    · intro found
      exact Except.ok.inj found ▸ .given ((h value thing).1 hread)
    · rintro ⟨said⟩
      rw [(h value _).2 said] at hread
      exact congrArg (Except.ok ∘ some) (Except.ok.inj hread).symm

end Readers

inductive Key where
  | format
  | operations
  | package
  | parallel
  | primaryField
  | readFields
  | skipSuffix
  | softDeleteField
  | table
  | writeFields
  deriving DecidableEq, Repr

namespace Key

def name : Key → String
  | format => "format"
  | operations => "operations"
  | package => "package"
  | parallel => "parallel"
  | primaryField => "primary_field"
  | readFields => "read_fields"
  | skipSuffix => "skip_suffix"
  | softDeleteField => "soft_delete_field"
  | table => "table"
  | writeFields => "write_fields"

/-- What is set at the key. -/
abbrev Setting : Key → Type
  | format => FormatMode
  | operations => List Operation
  | parallel | skipSuffix => Bool
  | package | primaryField | softDeleteField | table => Option String
  | readFields | writeFields => Option (List String)

/-- What settings hold at the key. -/
def ofSettings (settings : Settings) : (key : Key) → key.Setting
  | format => settings.format
  | operations => settings.operations
  | package => settings.package
  | parallel => settings.parallel
  | primaryField => settings.primaryField
  | readFields => settings.readFields
  | skipSuffix => settings.skipSuffix
  | softDeleteField => settings.softDeleteField
  | table => settings.table
  | writeFields => settings.writeFields

/-- The value has the right type for the key and says this. -/
def Means : (key : Key) → Value → key.Setting → Prop
  | format => IsWord FormatMode.name
  | operations => IsList (IsWord Operation.name)
  | parallel | skipSuffix => IsBoolean
  | package | primaryField | softDeleteField | table => IsGiven IsText
  | readFields | writeFields => IsGiven (IsList IsText)

def read : (key : Key) → Reader key.Setting
  | format => asFormatMode
  | operations => asList asOperation
  | parallel | skipSuffix => asBoolean
  | package | primaryField | softDeleteField | table => given asText
  | readFields | writeFields => given (asList asText)

theorem finds_read (key : Key) : Finds key.read key.Means := by
  cases key with
  | format => exact finds_asChoice formatMode_eq_some_iff
  | operations => exact (finds_asChoice named?_eq_some_iff).asList
  | parallel | skipSuffix => exact finds_asBoolean
  | package | primaryField | softDeleteField | table => exact finds_asText.given
  | readFields | writeFields => exact finds_asText.asList.given

theorem not_means_map (key : Key) (entries : List (String × Value)) (setting : key.Setting) :
    ¬key.Means (.map entries) setting := by
  intro h
  cases key with
  | format | operations | parallel | skipSuffix => cases h
  | package | primaryField | softDeleteField | table | readFields | writeFields =>
    obtain ⟨said⟩ := h
    cases said

/-- Settings hold at the key what the value says, and the default without a value. -/
def Holds (key : Key) (settings : Settings) : Option Value → Prop
  | none => key.ofSettings settings = key.ofSettings {}
  | some value => key.Means value (key.ofSettings settings)

/-- Whatever stands in a map, it says nothing to the key. -/
theorem holds_iff_of_flat_eq {key : Key} {settings : Settings} {first second : Option Value}
    (h : first.map Value.flat = second.map Value.flat) :
    key.Holds settings first ↔ key.Holds settings second := by
  have flattened : ∀ value : Value, key.Means value (key.ofSettings settings) ↔
      key.Means value.flat (key.ofSettings settings) := by
    intro value
    cases value with
    | map entries => exact iff_of_false (key.not_means_map _ _) (key.not_means_map _ _)
    | _ => exact Iff.rfl
  cases first with
  | none =>
    cases second with
    | none => exact Iff.rfl
    | some value => cases h
  | some value =>
    cases second with
    | none => cases h
    | some other =>
      have same : value.flat = other.flat := Option.some.inj h
      exact (flattened value).trans (same ▸ (flattened other).symm)

/-- Some settings hold at every key what its value says, if every value says something. -/
theorem exists_holds_iff (supplied : Key → Option Value) :
    (∃ settings, ∀ key : Key, key.Holds settings (supplied key)) ↔
      ∀ key : Key, ∀ value ∈ supplied key, ∃ setting, key.Means value setting := by
  constructor
  · rintro ⟨settings, holds⟩ key value hvalue
    have said := holds key
    rw [Option.mem_def.1 hvalue] at said
    exact ⟨_, said⟩
  · intro suits
    have settled : ∀ key : Key, ∃ setting : key.Setting, ∀ settings,
        key.ofSettings settings = setting → key.Holds settings (supplied key) := by
      intro key
      cases hvalue : supplied key with
      | none => exact ⟨key.ofSettings {}, fun settings same => same⟩
      | some value =>
        obtain ⟨setting, said⟩ := suits key value hvalue
        refine ⟨setting, fun settings same => ?_⟩
        rw [Holds, same]
        exact said
    choose setting holds using settled
    let settings : Settings :=
      { operations := setting .operations
        package := setting .package
        table := setting .table
        readFields := setting .readFields
        writeFields := setting .writeFields
        primaryField := setting .primaryField
        softDeleteField := setting .softDeleteField
        skipSuffix := setting .skipSuffix
        format := setting .format
        parallel := setting .parallel }
    refine ⟨settings, fun key => holds key settings ?_⟩
    cases key <;> rfl

end Key

section Settings
variable {layers : List Layer} {settings : Settings}

theorem bind_eq_ok_iff {ε α β : Type} {first : Except ε α} {next : α → Except ε β} {result : β} :
    first >>= next = .ok result ↔ ∃ value, first = .ok value ∧ next value = .ok result := by
  cases first with
  | error e =>
    refine iff_of_false (fun h => nomatch h) ?_
    rintro ⟨_, h, _⟩
    cases h
  | ok value =>
    constructor
    · exact fun h => ⟨value, rfl, h⟩
    · rintro ⟨_, h, rest⟩
      exact Except.ok.inj h ▸ rest

theorem readKey_eq_ok_iff (key : Key) :
    readKey layers key.name (key.ofSettings {}) key.read = .ok (key.ofSettings settings) ↔
      key.Holds settings ((combined layers).lookup key.name) := by
  unfold readKey
  cases (combined layers).lookup key.name with
  | none =>
    rw [Key.Holds, eq_comm]
    simp only [Except.ok.injEq]
  | some value =>
    rw [Key.Holds, ← key.finds_read]
    cases hread : key.read value with
    | error unfit =>
      simp only [hread]
      exact iff_of_false (fun h => nomatch h) (fun h => nomatch h)
    | ok setting => simp only [hread, Except.ok.injEq]

/-- Each key is read on its own. -/
theorem settingsOf_eq_ok_iff_readKey : settingsOf layers = .ok settings ↔
    ∀ key : Key, readKey layers key.name (key.ofSettings {}) key.read = .ok (key.ofSettings settings) := by
  unfold settingsOf
  simp only [bind_eq_ok_iff]
  constructor
  · rintro ⟨_, hformat, _, hoperations, _, hpackage, _, hparallel, _, hprimary, _, hread, _, hskip, _, hmark, _,
      htable, _, hwrite, hall⟩
    obtain rfl := Except.ok.inj hall
    intro key
    cases key <;> assumption
  · intro h
    exact ⟨_, h .format, _, h .operations, _, h .package, _, h .parallel, _, h .primaryField, _, h .readFields, _,
      h .skipSuffix, _, h .softDeleteField, _, h .table, _, h .writeFields, rfl⟩

theorem settingsOf_eq_ok_iff : settingsOf layers = .ok settings ↔
    ∀ key : Key, key.Holds settings (lastOf (layers.flatMap Layer.entries) key.name) := by
  rw [settingsOf_eq_ok_iff_readKey]
  refine forall_congr' fun key => ?_
  rw [readKey_eq_ok_iff]
  exact Key.holds_iff_of_flat_eq (flat_lookup_combined layers key.name)

end Settings

end RecordAccess.Config
