import RecordAccess.Proofs.Source.Alternation
import RecordAccess.Proofs.Template.Wholeness

/-!
# The backquotes of the functions

The function of an operation alternates if its names have no character that bounds a literal of another kind,
starts a comment or ends a line. The templates set two backquotes around each of their SQL texts, so what decides
where the function ends is how many there are in the names of its statement.
-/
namespace RecordAccess.Fragment

open Source Sql Text

/-- Whether a character can stand in code, in line comments and in strings, and never changes how they go on. -/
def isTame (c : Char) : Bool := !(['/', doubleQuote, singleQuote, backquote, '\\', '\n'].contains c)

theorem isTame_iff {c : Char} :
    isTame c ↔ c ∉ ['/', doubleQuote, singleQuote, backquote, '\\', '\n'] := by simp [isTame]

theorem dwells_of_isTame {c : Char} (h : isTame c) {mode : Mode}
    (hmode : mode = .code ∨ mode = .lineComment ∨ mode = .literal doubleQuote) : mode.Dwells c := by
  rcases hmode with rfl | rfl | rfl <;> simp_all [isTame, Mode.Dwells, Mode.isCutBy, Mode.after]

theorem lettered_of_tame {roles : Roles} (hmodel : Only isTame roles.model)
    (hfields : ∀ field ∈ roles.record.fields, Only isTame field.name) (htable : Only isQuiet roles.table)
    (hcolumns : ∀ field ∈ roles.record.fields, Only isQuiet field.column) : Lettered isTame isQuiet roles where
  plain_signs _ hc := isTame_iff.2 (not_mem_of_all_not (by decide) hc)
  sql_signs _ hc := isQuiet_iff.2 (not_mem_of_all_not (by decide) hc)
  model := hmodel
  fields := hfields
  table := htable
  columns := hcolumns

/-- How many backquotes texts have in all. -/
def backquotes (texts : List String) : Nat := (texts.flatMap String.toList).count backquote

theorem backquotes_append (first second : List String) :
    backquotes (first ++ second) = backquotes first + backquotes second := by
  simp [backquotes]

/-- Between their backquotes the templates have code and SQL in turn. -/
theorem exists_pieces (operation : Operation) (visible : Bool) :
    ∃ items, Spelled (Template.variant visible (Template.ofOperation operation)) items ∧
      (∀ piece ∈ items.splitOn (.char backquote), isCode isSql suits piece ∨ isRawHole isSql piece) ∧
      items.count (.char backquote) = 2 * (sqlVariables operation visible).length ∧
      items.filterMap (rawHole? isSql) = sqlVariables operation visible := by
  cases operation <;> cases visible <;> exact ⟨_, by repeat' constructor, by decide +kernel⟩

section Text
variable {roles : Roles} (operation : Operation)

/-- The SQL texts of an operation have the backquotes of the names in its statement. -/
theorem backquotes_sqlTexts :
    backquotes (sqlTexts roles operation) = backquotes (statement operation roles).names := by
  have made : ∀ {names text}, Made names text → text.toList.count backquote = backquotes names :=
    fun made => made.count (by decide)
  cases operation with
  | list =>
    cases hsoft : roles.softDelete with
    | none =>
      simp [sqlTexts, backquotes, made (made_text _), statement, notDeleted, Roles.softDeleteColumn?, hsoft]
    | some i =>
      simp [sqlTexts, backquotes, made (made_text _), made (made_whereClause _), statement, Statement.names, hsoft]
      omega
  | create => simp [sqlTexts, backquotes, made (made_text _)]
  | get => simp [sqlTexts, backquotes, made (made_text _)]
  | update => simp [sqlTexts, backquotes, made (made_text _)]
  | delete => simp [sqlTexts, backquotes, made (made_text _)]

variable (h : Lettered isTame isQuiet roles)
include h

theorem quiet_valueOf {name : String} (hname : isSql name) :
    ∀ c ∈ (valueOf operation roles name).toList, isQuiet c := by
  have value := h.valueOf operation name
  rwa [if_pos hname] at value

theorem tame_valueOf {name : String} (hname : isSql name = false) :
    ∀ c ∈ (valueOf operation roles name).toList, isTame c := by
  have value := h.valueOf operation name
  rwa [if_neg (by simp [hname])] at value

theorem not_mem_valueOf {name : String} (hname : isSql name = false) :
    backquote ∉ (valueOf operation roles name).toList := fun hmem =>
  absurd (tame_valueOf operation h hname backquote hmem) (by decide)

theorem dwells_valueOf (name : String) (mode : Mode) (hname : isSql name = false) (hsuits : suits name mode) :
    ∀ c ∈ (valueOf operation roles name).toList, mode.Dwells c := by
  intro c hc
  refine dwells_of_isTame (tame_valueOf operation h hname c hc) ?_
  simpa [suits, hname, or_assoc] using hsuits

theorem alternates_text : Alternates (text operation roles).toList := by
  obtain ⟨items, spelled, pieces, _⟩ := exists_pieces operation (visible operation roles)
  rw [text, shown_eq_variant, ← spelled.flatMap_filled]
  exact alternates_filled (fun _ => quiet_valueOf operation h) (fun _ => not_mem_valueOf operation h)
    (dwells_valueOf operation h) pieces

theorem count_backquote_text : (text operation roles).toList.count backquote =
    2 * (sqlTexts roles operation).length + backquotes (statement operation roles).names := by
  obtain ⟨items, spelled, _, own, holes⟩ := exists_pieces operation (visible operation roles)
  have count := @count_backquote_filled isSql (valueOf operation roles) (fun _ => not_mem_valueOf operation h) items
  rw [own, holes] at count
  rw [text, shown_eq_variant, ← spelled.flatMap_filled, count, ← backquotes_sqlTexts, backquotes,
    ← map_valueOf_sqlVariables, List.flatMap_map, List.length_map]

end Text
end RecordAccess.Fragment
