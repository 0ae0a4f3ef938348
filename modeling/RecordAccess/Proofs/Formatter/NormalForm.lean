import RecordAccess.Formatter
import RecordAccess.Proofs.Source.Clauses
import RecordAccess.Proofs.Source.Tidying

/-!
# The normal form of a checked text

The checking formatter keeps the lines that say something and their order, and lays them out in one way only. What
it gives passes the check again and stays as it is.
-/
namespace RecordAccess
namespace Source

open Text

/-- The lines that are not blank, without the blanks at their ends, each with whether a blank one stands between it
and the line before. -/
def solidLines (after : Bool) : List (List Char) → List (Bool × List Char)
  | [] => []
  | line :: rest =>
    if trimEnd line = [] then solidLines true rest else (after, trimEnd line) :: solidLines false rest

section SolidLines
variable {after : Bool} {others : List (List Char)}

theorem solidLines_blank (line : List Char) (h : trimEnd line = []) :
    solidLines after (line :: others) = solidLines true others := by
  rw [solidLines, if_pos h]

theorem solidLines_cons {line : List Char} (h : trimEnd line ≠ []) :
    solidLines after (line :: others) = (after, trimEnd line) :: solidLines false others := by
  rw [solidLines, if_neg h]

theorem solidLines_map_trimEnd (others : List (List Char)) :
    solidLines after (others.map trimEnd) = solidLines after others := by
  induction others generalizing after with
  | nil => rfl
  | cons line rest ih => rw [List.map_cons, solidLines, solidLines, trimEnd_trimEnd, ih, ih]

theorem solidLines_append_empty {last : List (List Char)} (h : ∀ line ∈ last, line = []) :
    solidLines after (others ++ last) = solidLines after others := by
  induction others generalizing after with
  | nil =>
    induction last generalizing after with
    | nil => rfl
    | cons line rest ih =>
      rw [List.nil_append, h line List.mem_cons_self, solidLines_blank [] rfl]
      exact ih fun other hother => h other (List.mem_cons_of_mem line hother)
  | cons line rest ih => rw [List.cons_append, solidLines, solidLines, ih, ih]

theorem exists_solidLines_replicate (n : Nat) (others : List (List Char)) :
    ∃ blank, solidLines after (List.replicate n [] ++ others) = solidLines blank others := by
  induction n generalizing after with
  | zero => exact ⟨after, rfl⟩
  | succ n ih =>
    obtain ⟨blank, hblank⟩ := @ih true
    exact ⟨blank, by rw [List.replicate_succ, List.cons_append, solidLines_blank [] rfl, hblank]⟩

theorem solidLines_squeeze (others : List (List Char)) :
    solidLines after (squeeze others) = solidLines after others := by
  fun_induction squeeze others generalizing after with
  | case1 => rfl
  | case2 rest ih => rw [ih, solidLines_blank [] rfl, solidLines_blank [] rfl, solidLines_blank [] rfl]
  | case3 line rest _ ih => rw [solidLines, solidLines, ih, ih]

theorem solidLines_rows (s : List Char) : solidLines after (rows s) = solidLines after (lines s) := by
  obtain ⟨last, hrows, empty⟩ := map_trimEnd_lines s
  rw [rows, hrows, solidLines_append_empty empty, solidLines_map_trimEnd]

end SolidLines

section Tidy
variable {s : List Char}

theorem solidLines_tidy (after : Bool) : solidLines after (lines (tidy s)) = solidLines after (rows (trim s)) := by
  rw [lines_tidy, tidyLines, solidLines_squeeze, solidLines_map_trimEnd, solidLines_rows]

/-- Tidying keeps the lines that are not blank and the breaks between them, but for the blanks before the first. -/
theorem exists_solidLines (h : trim s ≠ []) : ∃ after first others,
    solidLines false (lines s) = (after, first) :: others ∧
      solidLines false (lines (tidy s)) = (false, trimStart first) :: others := by
  obtain ⟨before, blanks, hs, blankBefore, blankAfter⟩ := exists_trim s
  obtain ⟨c, rest, htrim, hc⟩ := exists_trim_cons h
  obtain ⟨line, others, hrows⟩ := exists_rows_cons hc rest
  rw [← htrim] at hrows
  obtain ⟨n, z, blank, hbefore⟩ := exists_rows_append blankBefore hrows (List.cons_ne_nil c line)
  obtain ⟨kept, hkept⟩ := exists_trimEnd_cons hc line
  have filled : trimEnd (c :: line) ≠ [] := by simp [hkept]
  obtain ⟨after, hafter⟩ := @exists_solidLines_replicate false n ((z ++ c :: line) :: others)
  refine ⟨after, z ++ trimEnd (c :: line), solidLines false others, ?_, ?_⟩
  · calc solidLines false (lines s)
      _ = solidLines false (rows (before ++ trim s ++ blanks)) := by rw [← solidLines_rows, List.append_assoc, ← hs]
      _ = solidLines false (rows (before ++ trim s)) := by
        rw [rows_append_blanks blankAfter, solidLines_append_empty fun _ => List.eq_of_mem_replicate]
      _ = solidLines after ((z ++ c :: line) :: others) := by rw [hbefore, hafter]
      _ = (after, z ++ trimEnd (c :: line)) :: solidLines false others := by
        rw [← trimEnd_append filled, solidLines_cons (by simp [trimEnd_append filled, filled])]
  · rw [solidLines_tidy, hrows, solidLines_cons filled, hkept, trimStart_append_cons blank hc]

end Tidy

section Clause
variable {s : List Char}

/-- The package clause is sought among the lines that are not blank. -/
theorem find?_solidLines (after : Bool) (others : List (List Char)) :
    (others.map trim).find? isTelling =
      ((solidLines after others).map fun line => trim line.2).find? isTelling := by
  induction others generalizing after with
  | nil => rfl
  | cons line rest ih =>
    by_cases blank : trimEnd line = []
    · rw [solidLines_blank line blank, List.map_cons, trim_of_trimEnd blank, ← ih true]
      rfl
    · rw [solidLines_cons blank, List.map_cons, List.map_cons, trim_trimEnd, List.find?_cons, List.find?_cons, ih false]

theorem checkClause_tidy (h : trim s ≠ []) : checkClause (tidy s) = checkClause s := by
  obtain ⟨after, first, others, hs, htidy⟩ := exists_solidLines h
  have told : firstTelling (tidy s) = firstTelling s := by
    rw [firstTelling, firstTelling, find?_solidLines false, find?_solidLines false (lines s), hs, htidy]
    simp only [List.map_cons, trim_trimStart]
  rw [checkClause, checkClause, told]

theorem trim_ne_nil_of_checkClause (h : checkClause s = .ok ()) : trim s ≠ [] := by
  intro blank
  obtain ⟨before, after, hs, blankBefore, blankAfter⟩ := exists_trim s
  have all : ∀ c ∈ s, isBlank c := by
    rw [hs, blank]
    intro c hc
    exact (List.mem_append.1 hc).elim (blankBefore c) (blankAfter c)
  have empty : rows s = [[]] ++ List.replicate (s.count '\n') [] := rows_append_blanks all []
  have untold : firstTelling s = [] := by
    rw [firstTelling, find?_solidLines false, ← solidLines_rows, empty,
      solidLines_append_empty fun _ => List.eq_of_mem_replicate]
    rfl
  rw [checkClause, untold, packageWord_eq] at h
  cases h

end Clause
end Source

namespace Formatter
open Source Text

structure NormalForm (t : List Char) : Prop where
  starts : ∃ c rest, t = c :: rest ∧ isBlank c = false
  ends : ∃ front c, t = front ++ [c, '\n'] ∧ isBlank c = false
  trimmed : ∀ line ∈ t.splitOn '\n', trimEnd line = line
  apart : ¬[[], []] <:+: lines t

theorem normalForm_tidy {s : List Char} (h : trim s ≠ []) : NormalForm (tidy s) where
  starts := by
    obtain ⟨c, rest, hstart, hc⟩ := exists_relaid_cons h
    exact ⟨c, rest ++ ['\n'], by rw [tidy_eq h, hstart]; rfl, hc⟩
  ends := by
    obtain ⟨front, c, hend, hc⟩ := exists_relaid_concat h
    exact ⟨front, c, by rw [tidy_eq h, hend, List.append_assoc]; rfl, hc⟩
  trimmed := by
    intro line hline
    rw [tidy, splitOn_unlines fun _ => newline_not_mem_of_mem_tidyLines] at hline
    rcases List.mem_append.1 hline with hline | hline
    · exact trimEnd_of_mem_tidyLines hline
    · rw [List.mem_singleton.1 hline]
      rfl
  apart := by
    rw [lines_tidy]
    exact squeeze_apart _

/-- What the check gives is in normal form. Its lines that are not blank are those of the source in their order,
without the blanks at their ends and without those before the first; a blank line stands between two of them exactly
if one did. The check accepts it again and leaves it as it is. -/
theorem check_normalizes {source text : String} (h : check source = .ok text) :
    NormalForm text.toList ∧
    (∃ after first others, solidLines false (lines source.toList) = (after, first) :: others ∧
      solidLines false (lines text.toList) = (false, trimStart first) :: others) ∧
    check text = .ok text := by
  obtain ⟨clause, brackets, htext⟩ := check_eq_ok_iff.1 h
  have solid := trim_ne_nil_of_checkClause clause
  have again : check text = .ok text := by
    rw [check_eq_ok_iff, htext, tidy_tidy, checkClause_tidy solid]
    exact ⟨clause, checkBrackets_tidy brackets, rfl⟩
  refine ⟨?_, ?_, again⟩
  · rw [htext]
    exact normalForm_tidy solid
  · rw [htext]
    exact exists_solidLines solid

/-- A carriage return, a line feed that a backslash takes, blanks around the text and at the end of a line, and a run
of blank lines. -/
theorem check_normalizes_corners :
    let source := "\n  package p \r\n\t\n \n// (\u00a0\nvar s = \"a \\\n\"\n\n"
    let text := "package p\n\n// (\nvar s = \"a \\\n\"\n"
    check source = .ok text ∧ NormalForm text.toList ∧
      solidLines false (lines source.toList) = [(true, "  package p".toList), (true, "// (".toList),
        (false, "var s = \"a \\".toList), (false, "\"".toList)] ∧
      solidLines false (lines text.toList) = [(false, "package p".toList), (true, "// (".toList),
        (false, "var s = \"a \\".toList), (false, "\"".toList)] ∧
      check text = .ok text := by
  intro source text
  have checked : check source = .ok text := by
    rw [check_eq_ok_iff]
    exact ⟨by decide +kernel, by decide +kernel, by decide +kernel⟩
  obtain ⟨normal, _, again⟩ := check_normalizes checked
  exact ⟨checked, normal, by decide +kernel, by decide +kernel, again⟩

end Formatter
end RecordAccess
