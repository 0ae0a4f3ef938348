import RecordAccess.Generation
import RecordAccess.Proofs.Source.Clauses
import RecordAccess.Proofs.Source.Tidying

/-!
# Source units are whole

The package clause, the import block and the shared declarations are whole and hold no raw string. So a
source unit with a whole body is whole, has the raw strings of the body, and passes the check.
-/
namespace RecordAccess

open Source Text

namespace SourceUnit

theorem toList_clause_append (package rest : String) :
    (clause package ++ rest).toList = packageWord ++ package.toList ++ '\n' :: rest.toList := by
  have feed : "\n".toList ++ rest.toList = '\n' :: rest.toList :=
    congrArg (· ++ rest.toList) String.toList_ofList
  rw [clause, String.toList_append, String.toList_append, String.toList_append, List.append_assoc]
  exact congrArg (fun ending => "package ".toList ++ package.toList ++ ending) feed

theorem whole_clause {package : String} (h : isIdentifier package.toList) :
    Whole (clause package).toList [] := by
  have spelled : ∃ items, Spelled [.text "package ", .hole "package", .text "\n"] items ∧
      (Outline.read {} items).any (Outline.isWhole (fun _ mode => mode = .code) []) = true :=
    ⟨_, by repeat' constructor, by decide⟩
  obtain ⟨items, spelled, outline⟩ := spelled
  have whole := @Spelled.whole _ _ (fun _ => package) _ _ spelled outline fun _ mode hmode c hc =>
    keeps_of_isPlain (only_plain_of_isIdentifier h c hc) (.inl (by simpa using hmode))
  simpa [clause, Part.filled] using whole

theorem whole_declaration (declaration : Declaration) : Whole declaration.text.toList [] := by
  have spelled : ∃ items, Spelled [.text declaration.text] items ∧
      (Outline.read {} items).any (Outline.isWhole (fun _ _ => false) []) = true := by
    cases declaration <;> exact ⟨_, by repeat' constructor, by decide +kernel⟩
  obtain ⟨items, spelled, outline⟩ := spelled
  have whole := @Spelled.whole _ _ (fun _ => "") _ _ spelled outline (by simp)
  simpa [Part.filled] using whole

theorem whole_header (registry : Registry) : Whole registry.header.toList [] := by
  have whole := Whole.flatMap fun declaration (_ : declaration ∈ registry.declarations) =>
    whole_declaration declaration
  have noRaws : (registry.declarations.flatMap fun _ => ([] : List (List Char))) = [] := by simp
  rwa [noRaws, ← List.flatMap_map, ← String.toList_join] at whole

section Imports

/-- A text without holes spells what it is read as. -/
theorem spells_literal {literal : String} {brackets : List Char} {breaks : List Mode}
    {items : List Symbol} (spelled : Spelled [.text literal] items)
    (h : Outline.read {} items = some ⟨{ brackets, breaks }, []⟩)
    (hbreaks : ∀ mode ∈ breaks, mode.isClosed) : Spells literal.toList brackets [] := by
  have spells := @Spelled.spells _ _ (fun _ => "") _ spelled h rfl rfl hbreaks (by simp)
  simpa [Part.filled, Reading.raws] using spells

theorem spells_importOpening : Spells "\nimport (\n".toList ['('] [] := by
  have spelled : ∃ items, Spelled [.text "\nimport (\n"] items ∧
      Outline.read {} items = some ⟨{ brackets := ['('], breaks := [.code, .code] }, []⟩ :=
    ⟨_, by repeat' constructor, by decide⟩
  obtain ⟨items, spelled, outline⟩ := spelled
  exact spells_literal spelled outline (by simp [Mode.isClosed])

theorem spells_importClosing : Spells ")\n".toList [')'] [] := by
  have spelled : ∃ items, Spelled [.text ")\n"] items ∧
      Outline.read {} items = some ⟨{ brackets := [')'], breaks := [.code] }, []⟩ :=
    ⟨_, by repeat' constructor, by decide⟩
  obtain ⟨items, spelled, outline⟩ := spelled
  exact spells_literal spelled outline (by simp [Mode.isClosed])

theorem spells_importLine {path : String} (h : Only (Mode.literal doubleQuote).keeps path) :
    Spells ("\t\"" ++ path ++ "\"\n").toList [] [] := by
  have spelled : ∃ items, Spelled [.text "\t\"", .hole "path", .text "\"\n"] items ∧
      Outline.read {} items = some ⟨{
        literals := [⟨doubleQuote, [.hole "path"]⟩], breaks := [.code] },
        [("path", .literal doubleQuote)]⟩ :=
    ⟨_, by repeat' constructor, by decide⟩
  obtain ⟨items, spelled, outline⟩ := spelled
  have plain : ∀ use ∈ [("path", Mode.literal doubleQuote)], ∀ c ∈ path.toList, use.2.keeps c := by
    intro use huse
    rw [List.mem_singleton.1 huse]
    exact h
  have spells := @Spelled.spells _ _ (fun _ => path) _ spelled outline rfl rfl
    (by simp [Mode.isClosed]) plain
  simpa [Part.filled, Reading.raws, doubleQuote, backquote] using spells

theorem whole_importBlock {paths : List String}
    (h : ∀ path ∈ paths, Only (Mode.literal doubleQuote).keeps path) :
    Whole (importBlock paths).toList [] := by
  unfold importBlock
  split
  · exact whole_nil
  · have lines := Spells.flatMap fun path hpath => spells_importLine (h path hpath)
    have noBrackets : (paths.flatMap fun _ => ([] : List Char)) = [] := by simp
    have noRaws : (paths.flatMap fun _ => ([] : List (List Char))) = [] := by simp
    rw [noBrackets, noRaws] at lines
    rw [String.toList_append, String.toList_append, String.toList_join, List.flatMap_map]
    exact ⟨['(', ')'], (spells_importOpening.append lines).append spells_importClosing, rfl⟩

end Imports

/-- A source unit with a whole body is whole, and has the raw strings of the body. -/
theorem whole_assemble {package body : String} {imports : List String} {raws : List (List Char)}
    (hpackage : isIdentifier package.toList)
    (himports : ∀ path ∈ imports, Only (Mode.literal doubleQuote).keeps path) (registry : Registry)
    (hbody : Whole body.toList raws) :
    Whole (assemble package imports registry.header body).toList raws := by
  have whole := (((whole_clause hpackage).append (whole_importBlock himports)).append
    (whole_header registry)).append hbody
  simpa [assemble] using whole

end SourceUnit

/-- The contents of the raw strings of a text. -/
def Source.rawStrings (s : List Char) : List (List Char) := (Reading.ofText s).raws

namespace Formatter

/-- The check accepts a whole text with a package clause on its first line. The result has the same raw
strings, and its brackets balance. -/
theorem check_eq_ok {source : String} {raws : List (List Char)}
    (hclause : checkClause source.toList = .ok ()) (hwhole : Whole source.toList raws) :
    ∃ text, check source = .ok text ∧ checkBrackets text.toList = .ok () ∧
      rawStrings text.toList = raws := by
  obtain ⟨brackets, spells, nested⟩ := hwhole
  have reading : (Reading.ofText source.toList).Spells brackets raws := spells none
  have outside : ∀ mode ∈ (Reading.ofText source.toList).breaks, mode.quote? = none :=
    fun mode hmode => quote?_of_isClosed (reading.breaks_closed mode hmode)
  have complete : Complete source.toList := by
    refine ⟨by rw [reading.mode_eq]; rfl, ?_⟩
    rintro mode hmode quote rfl
    exact absurd (outside _ hmode) (by simp [Mode.quote?])
  have balanced : checkBrackets source.toList = .ok () :=
    (checkBrackets_eq_ok_iff _).2 ⟨complete.ends_closed, complete.no_cut, by rw [reading.brackets_eq, nested]⟩
  have tidied : (String.ofList (tidy source.toList)).toList = tidy source.toList := String.toList_ofList
  refine ⟨String.ofList (tidy source.toList), check_eq_ok_iff.2 ⟨hclause, balanced, tidied⟩, ?_, ?_⟩
  · rw [tidied]
    exact checkBrackets_tidy balanced
  · rw [tidied]
    exact (Reading.raws_congr (complete.literals_tidy outside)).trans reading.raws_eq

end Formatter
end RecordAccess
