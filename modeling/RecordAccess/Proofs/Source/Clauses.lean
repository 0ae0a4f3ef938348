import Mathlib.Data.List.Basic
import RecordAccess.Proofs.Text.Characters
import RecordAccess.Proofs.Text.Trimming
import RecordAccess.Source.Check

/-!
# Clauses that pass the check

A text whose first line starts with the word of a package clause passes the check of package clauses exactly if an
identifier follows, whatever the lines below it are.
-/
namespace RecordAccess.Source

open Text

theorem packageWord_eq : packageWord = ['p', 'a', 'c', 'k', 'a', 'g', 'e', ' '] :=
  String.toList_ofList

section FirstLine
variable {line : List Char}

theorem newline_not_mem_packageWord_append (newline : '\n' ∉ line) : '\n' ∉ packageWord ++ line := by
  rw [packageWord_eq, List.mem_append, not_or]
  exact ⟨by decide, newline⟩

theorem firstTelling_packageWord_append (newline : '\n' ∉ line) (rest : List Char) :
    firstTelling (packageWord ++ line ++ '\n' :: rest) = trimEnd (packageWord ++ line) := by
  obtain ⟨kept, hkept⟩ : ∃ kept, trimEnd (packageWord ++ line) = 'p' :: kept := by
    rw [packageWord_eq]
    exact exists_trimEnd_cons rfl _
  have trimmed : trim (dropReturn (packageWord ++ line)) = 'p' :: kept := by
    rw [← trim_trimEnd, trimEnd_dropReturn, hkept]
    exact (trim_append_cons (List.forall_mem_nil _) rfl kept).trans (by rw [← hkept, trimEnd_trimEnd])
  rw [firstTelling, lines_append_cons (newline_not_mem_packageWord_append newline), List.map_cons, trimmed,
    List.find?_cons_of_pos rfl, hkept]
  rfl

/-- The check of a package clause on the first line. -/
theorem checkClause_packageWord_append (newline : '\n' ∉ line) (rest : List Char) :
    checkClause (packageWord ++ line ++ '\n' :: rest) =
      if isIdentifier (trim line) then .ok ()
      else .error (if trim line = [] then .noPackageClause else .invalidPackageName (String.ofList (trim line))) := by
  rw [checkClause, firstTelling_packageWord_append newline]
  by_cases blank : trim line = []
  · rw [trimEnd_append_of_blank _ (blank_of_trim blank), blank, packageWord_eq]
    rfl
  · have filled : trimEnd line ≠ [] := fun h => blank (trim_of_trimEnd h)
    have word : packageWord.isPrefixOf (packageWord ++ trimEnd line) :=
      List.isPrefixOf_iff_prefix.2 (List.prefix_append _ _)
    simp only [trimEnd_append filled, word, List.drop_left, trim_trimEnd, blank, if_true, if_false]

end FirstLine

theorem newline_not_mem_of_isIdentifier {name : List Char} (h : isIdentifier name) : '\n' ∉ name := by
  intro hmem
  exact absurd (isPlain_of_continuesIdentifier (continuesIdentifier_of_mem h _ hmem)) (by decide)

theorem checkClause_of_clause {name : List Char} (h : isIdentifier name) (rest : List Char) :
    checkClause (packageWord ++ name ++ '\n' :: rest) = .ok () := by
  rw [checkClause_packageWord_append (newline_not_mem_of_isIdentifier h), trim_of_isIdentifier h, if_pos h]

end RecordAccess.Source
