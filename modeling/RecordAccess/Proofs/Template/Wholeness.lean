import RecordAccess.Proofs.Template.Values

/-!
# The functions are whole

The function of an operation is whole wherever it stands: its brackets close one another, no literal
spans lines, and its raw strings are the texts of its statement. This takes names that are identifiers
and columns that leave a raw string open; the rest is read off the outlines of the templates.
-/
namespace RecordAccess.Fragment

open Source Sql Text

/-- Whether the value of a variable may stand in a mode. -/
def suits (name : String) (mode : Mode) : Bool :=
  if isSql name then mode = .raw
  else mode = .code || mode = .lineComment || mode = .literal doubleQuote

/-- The variables that the template of an operation places in raw strings, in order. -/
def sqlVariables (operation : Operation) (visible : Bool) : List String :=
  match operation with
  | .list => if visible then ["select", "soft_delete_where"] else ["select"]
  | .create | .get | .update | .delete => ["query"]

theorem exists_outline (operation : Operation) (visible : Bool) :
    ∃ items, Spelled (Template.variant visible (Template.ofOperation operation)) items ∧
      (Outline.read {} items).any (Outline.isWhole suits
        ((sqlVariables operation visible).map fun name => [.hole name])) = true := by
  cases operation <;> cases visible <;> exact ⟨_, by repeat' constructor, by decide +kernel⟩

theorem map_valueOf_sqlVariables (operation : Operation) (roles : Roles) :
    (sqlVariables operation (visible operation roles)).map (valueOf operation roles) =
      sqlTexts roles operation := by
  cases operation with
  | list =>
    unfold sqlVariables sqlTexts visible
    cases roles.softDelete.isSome <;> rfl
  | create => rfl
  | get => rfl
  | update => rfl
  | delete => rfl

/-- A name leaves a raw string open and does not end its line. -/
def Placeable (name : String) : Prop := backquote ∉ name.toList ∧ '\n' ∉ name.toList

instance (name : String) : Decidable (Placeable name) := inferInstanceAs (Decidable (_ ∧ _))

theorem only_staysRaw_of_placeable {name : String} (h : Placeable name) : Only staysRaw name := by
  intro c hc
  have quote : c ≠ backquote := fun hquote => h.1 (hquote ▸ hc)
  have newline : c ≠ '\n' := fun hnewline => h.2 (hnewline ▸ hc)
  simp [staysRaw, Mode.keeps, quote, newline]

structure Names (roles : Roles) : Prop where
  model : isIdentifier roles.model.toList
  fields : ∀ field ∈ roles.record.fields, isIdentifier field.name.toList
  table : Placeable roles.table
  columns : ∀ field ∈ roles.record.fields, Placeable field.column

theorem Names.lettered {roles : Roles} (h : Names roles) : Lettered isPlain staysRaw roles where
  plain_signs _ hc := isPlain_iff.2 (not_mem_of_all_not (by decide) hc)
  sql_signs _ hc := staysRaw_iff.2 (not_mem_of_all_not (by decide) hc)
  model := only_plain_of_isIdentifier h.model
  fields field hfield := only_plain_of_isIdentifier (h.fields field hfield)
  table := only_staysRaw_of_placeable h.table
  columns field hfield := only_staysRaw_of_placeable (h.columns field hfield)

/-- SQL stays raw, and every other value is plain. -/
def Fits (name value : String) : Prop :=
  if isSql name then Only staysRaw value else Only isPlain value

theorem fits_valueOf {roles : Roles} (h : Names roles) (operation : Operation) (name : String) :
    Fits name (valueOf operation roles name) :=
  h.lettered.valueOf operation name

/-- The values of variables suit the modes in which the templates place them. -/
theorem keeps_valueOf {roles : Roles} (h : Names roles) (operation : Operation) (name : String)
    (mode : Mode) (hsuits : suits name mode) :
    ∀ c ∈ (valueOf operation roles name).toList, mode.keeps c := by
  have fits := fits_valueOf h operation name
  unfold suits at hsuits
  unfold Fits at fits
  split at hsuits
  · next sql =>
    obtain rfl : mode = .raw := by simpa using hsuits
    rwa [if_pos sql] at fits
  · next plain =>
    rw [if_neg plain] at fits
    exact fun c hc => keeps_of_isPlain (fits c hc) (by simpa [or_assoc] using hsuits)

/-- The function of an operation is whole, and its raw strings are the SQL texts of the operation. -/
theorem whole_text {roles : Roles} (h : Names roles) (operation : Operation) :
    Whole (text operation roles).toList ((sqlTexts roles operation).map String.toList) := by
  obtain ⟨items, spelled, outline⟩ := exists_outline operation (visible operation roles)
  have whole := spelled.whole outline (keeps_valueOf h operation)
  rw [← shown_eq_variant] at whole
  rw [← map_valueOf_sqlVariables, List.map_map]
  simpa [text, Function.comp_def, Symbol.filled] using whole

end RecordAccess.Fragment
