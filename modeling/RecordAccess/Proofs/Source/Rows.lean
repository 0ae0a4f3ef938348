import RecordAccess.Proofs.Source.Gaps
import RecordAccess.Source.Check

/-!
# Rows

Tidying works line by line: it takes the blanks at the end of each line and all but one of the empty lines in a row.
What that does to a text is told by its runs of blanks alone. Those at both ends go, and of the others their gaps
stay.
-/
namespace RecordAccess.Source

open Text

section Rows
variable {line first : List Char} {others : List (List Char)} {c : Char}

/-- The pieces of a text between its line feeds, without the blanks at their ends. -/
def rows (s : List Char) : List (List Char) := (s.splitOn '\n').map trimEnd

theorem rows_of_not_mem (h : '\n' ∉ line) : rows line = [trimEnd line] := by
  rw [rows, List.splitOn_eq_singleton h]
  rfl

theorem rows_append_cons (s t : List Char) : rows (s ++ '\n' :: t) = rows s ++ rows t := by
  rw [rows, List.splitOn_append_cons_self, List.map_append]
  rfl

theorem rows_concat (hc : isBlank c) (newline : c ≠ '\n') (s : List Char) : rows (s ++ [c]) = rows s := by
  rcases exists_last s '\n' with h | ⟨front, z, rfl, hz⟩
  · have outside : '\n' ∉ s ++ [c] := by simp [h, newline.symm]
    rw [rows_of_not_mem outside, rows_of_not_mem h, trimEnd_concat hc]
  · have outside : '\n' ∉ z ++ [c] := by simp [hz, newline.symm]
    rw [List.append_assoc, List.cons_append, rows_append_cons, rows_append_cons, rows_of_not_mem outside,
      rows_of_not_mem hz, trimEnd_concat hc]

/-- Blanks at the end of a text add no rows but empty ones. -/
theorem rows_append_blanks {blanks : List Char} (h : ∀ c ∈ blanks, isBlank c) (s : List Char) :
    rows (s ++ blanks) = rows s ++ List.replicate (blanks.count '\n') [] := by
  induction blanks generalizing s with
  | nil => simp
  | cons d rest ih =>
    have blank : ∀ c ∈ rest, isBlank c := fun c hc => h c (List.mem_cons_of_mem d hc)
    by_cases newline : d = '\n'
    · subst newline
      rw [rows_append_cons, ← List.nil_append rest, ih blank, List.nil_append, List.count_cons_self,
        List.replicate_succ]
      rfl
    · rw [List.append_cons, ih blank, rows_concat (h d List.mem_cons_self) newline, List.count_cons_of_ne newline]

theorem rows_singleton (hc : isBlank c = false) : rows [c] = [[c]] := by
  rw [rows_of_not_mem (by simpa using newline_ne hc), trimEnd_eq_self (by simpa using hc)]

/-- What stands before the first blank of a text is part of its first row. -/
theorem rows_append {s : List Char} (h : '\n' ∉ line) (hrows : rows s = first :: others) (filled : first ≠ []) :
    rows (line ++ s) = (line ++ first) :: others := by
  unfold rows at hrows ⊢
  rw [splitOn_append h]
  cases hpieces : s.splitOn '\n' with
  | nil => exact absurd hpieces (List.splitOn_ne_nil _ _)
  | cons piece pieces =>
    rw [hpieces, List.map_cons, List.cons.injEq] at hrows
    obtain ⟨rfl, rfl⟩ := hrows
    rw [List.modifyHead_cons, List.map_cons, trimEnd_append filled]

/-- Blanks before a text add empty rows, and stand at the start of its first row. -/
theorem exists_rows_append {blanks s : List Char} (h : ∀ c ∈ blanks, isBlank c) (hrows : rows s = first :: others)
    (filled : first ≠ []) : ∃ (n : Nat) (z : List Char), (∀ c ∈ z, isBlank c) ∧
      rows (blanks ++ s) = List.replicate n [] ++ (z ++ first) :: others := by
  rcases exists_last blanks '\n' with inside | ⟨front, z, rfl, hz⟩
  · exact ⟨0, blanks, h, rows_append inside hrows filled⟩
  · have before : rows front = List.replicate (front.count '\n' + 1) [] :=
      rows_append_blanks (fun c hc => h c (List.mem_append_left _ hc)) []
    refine ⟨front.count '\n' + 1, z, fun c hc => h c (by simp [hc]), ?_⟩
    rw [List.append_assoc, List.cons_append, rows_append_cons, before, rows_append hz hrows filled]

theorem exists_rows_cons (hc : isBlank c = false) (rest : List Char) :
    ∃ line others, rows (c :: rest) = (c :: line) :: others := by
  cases hpieces : rest.splitOn '\n' with
  | nil => exact absurd hpieces (List.splitOn_ne_nil _ _)
  | cons piece pieces =>
    obtain ⟨line, hline⟩ := exists_trimEnd_cons hc piece
    refine ⟨line, pieces.map trimEnd, ?_⟩
    rw [rows, List.splitOn_cons_eq_if_modifyHead, hpieces]
    simp [(newline_ne hc).symm, hline]

theorem squeeze_cons (h : line ≠ []) (others : List (List Char)) :
    squeeze (line :: others) = line :: squeeze others := by
  cases line with
  | nil => exact absurd rfl h
  | cons => rw [squeeze]; simp

theorem squeeze_replicate (h : first ≠ []) (n : Nat) :
    squeeze (List.replicate n [] ++ first :: others) =
      List.replicate (min 1 n) [] ++ squeeze (first :: others) := by
  induction n with
  | zero => rfl
  | succ n ih =>
    cases n with
    | zero => simp [squeeze, h]
    | succ n =>
      rw [List.replicate_succ, List.replicate_succ, List.cons_append, List.cons_append, squeeze,
        ← List.cons_append, ← List.replicate_succ, ih]
      simp

theorem head?_squeeze (others : List (List Char)) : (squeeze others).head? = others.head? := by
  fun_induction squeeze others with
  | case1 => rfl
  | case2 rest ih => exact ih
  | case3 => rfl

theorem squeeze_apart (others : List (List Char)) : ¬[[], []] <:+: squeeze others := by
  fun_induction squeeze others with
  | case1 => simp
  | case2 rest ih => exact ih
  | case3 line rest alone ih =>
    rw [List.infix_cons_iff, not_or]
    refine ⟨?_, ih⟩
    rintro ⟨after, hafter⟩
    obtain ⟨rfl, hrest⟩ := List.cons.inj hafter
    have second : rest.head? = some [] := by rw [← head?_squeeze, ← hrest]; rfl
    obtain ⟨tail, rfl⟩ := List.head?_eq_some_iff.1 second
    exact alone tail rfl rfl

theorem mem_of_mem_squeeze (h : line ∈ squeeze others) : line ∈ others := by
  fun_induction squeeze others with
  | case1 => exact h
  | case2 rest ih => exact List.mem_cons_of_mem _ (ih h)
  | case3 first rest _ ih =>
    rcases List.mem_cons.1 h with rfl | h
    · exact List.mem_cons_self
    · exact List.mem_cons_of_mem _ (ih h)

end Rows

section Tidy
variable {s blanks : List Char} {others : List (List Char)} {c d : Char}

/-- The text with a row on each line and one row of each run of empty ones. -/
def laid (s : List Char) : List Char := unlines (squeeze (rows s))

theorem unlines_cons (line : List Char) (others : List (List Char)) :
    unlines (line :: others) = line ++ '\n' :: unlines others := by
  simp [unlines]

theorem unlines_append (first second : List (List Char)) :
    unlines (first ++ second) = unlines first ++ unlines second :=
  List.flatMap_append

theorem unlines_replicate (n : Nat) : unlines (List.replicate n []) = List.replicate n '\n' := by
  induction n with
  | zero => rfl
  | succ n ih =>
    rw [List.replicate_succ, unlines_cons, ih]
    rfl

theorem splitOn_unlines (h : ∀ line ∈ others, '\n' ∉ line) : (unlines others).splitOn '\n' = others ++ [[]] := by
  induction others with
  | nil => rfl
  | cons line rest ih =>
    rw [unlines_cons, List.splitOn_append_cons_self_of_not_mem (h line List.mem_cons_self),
      ih fun other hother => h other (List.mem_cons_of_mem line hother)]
    rfl

theorem lines_unlines (h : ∀ line ∈ others, '\n' ∉ line) (trimmed : ∀ line ∈ others, trimEnd line = line) :
    lines (unlines others) = others := by
  induction others with
  | nil => rfl
  | cons line rest ih =>
    have kept : dropReturn line = line :=
      dropReturn_eq_self (trimmed line List.mem_cons_self ▸ getLast?_trimEnd line)
    rw [unlines_cons, lines_append_cons (h line List.mem_cons_self), kept,
      ih (fun other hother => h other (List.mem_cons_of_mem line hother))
        fun other hother => trimmed other (List.mem_cons_of_mem line hother)]

theorem laid_append (h : '\n' ∉ blanks) (hc : isBlank c = false) (rest : List Char) :
    laid (blanks ++ c :: rest) = blanks ++ laid (c :: rest) := by
  obtain ⟨line, others, hrows⟩ := exists_rows_cons hc rest
  rw [laid, rows_append h hrows (List.cons_ne_nil _ _), squeeze_cons (by simp), laid, hrows,
    squeeze_cons (List.cons_ne_nil _ _), unlines_cons, unlines_cons, List.append_assoc]

theorem laid_gap (hc : isBlank c = false) (hd : isBlank d = false) (hblank : ∀ e ∈ blanks, isBlank e)
    (rest : List Char) : laid (c :: (blanks ++ d :: rest)) = c :: (gap blanks ++ laid (d :: rest)) := by
  rcases exists_last blanks '\n' with h | ⟨front, z, rfl, hz⟩
  · have outside : '\n' ∉ c :: blanks := by simp [h, newline_ne hc]
    rw [gap_of_not_mem h]
    exact laid_append outside hd rest
  · obtain ⟨line, others, hrows⟩ := exists_rows_cons hd rest
    have after := rows_append hz hrows (List.cons_ne_nil _ _)
    have filled : z ++ d :: line ≠ [] := by simp
    have split : rows (c :: (front ++ '\n' :: z ++ d :: rest)) =
        [c] :: (List.replicate (front.count '\n') [] ++ (z ++ d :: line) :: others) := by
      have whole : c :: (front ++ '\n' :: z ++ d :: rest) = ([c] ++ front) ++ '\n' :: (z ++ d :: rest) := by simp
      rw [whole, rows_append_cons, rows_append_blanks fun e he => hblank e (List.mem_append_left _ he),
        rows_singleton hc, after]
      rfl
    calc laid (c :: (front ++ '\n' :: z ++ d :: rest))
      _ = c :: '\n' :: (List.replicate (min 1 (front.count '\n')) '\n' ++ (z ++ laid (d :: rest))) := by
        rw [← laid_append hz hd, laid, split, squeeze_cons (by simp), squeeze_replicate filled, unlines_cons,
          unlines_append, unlines_replicate, laid, after]
        rfl
      _ = c :: (gap (front ++ '\n' :: z) ++ laid (d :: rest)) := by
        have one : min 2 (front.count '\n' + 1) = min 1 (front.count '\n') + 1 := by omega
        rw [gap_append_cons front hz, one, List.replicate_succ, List.cons_append, List.cons_append, List.append_assoc]

theorem laid_relaidAfter {rest : List Char} (hc : isBlank c = false) (hblank : ∀ e ∈ blanks, isBlank e)
    (hlast : ∀ e ∈ (c :: (blanks ++ rest)).getLast?, isBlank e = false) :
    laid (c :: (blanks ++ rest)) = c :: (relaidAfter blanks rest ++ ['\n']) := by
  induction rest generalizing c blanks with
  | nil =>
    have none : blanks = [] := by
      rcases List.eq_nil_or_concat blanks with rfl | ⟨front, e, rfl⟩
      · rfl
      · have blank := hblank e (by simp)
        have solid := hlast e (by simp [List.getLast?_cons])
        simp [solid] at blank
    subst none
    rw [List.append_nil, laid, rows_singleton hc]
    rfl
  | cons d rest ih =>
    by_cases blank : isBlank d
    · have longer : blanks ++ d :: rest = blanks ++ [d] ++ rest := by simp
      rw [longer] at hlast ⊢
      rw [relaidAfter_blank d blank]
      exact ih hc (forall_blank_concat hblank blank) hlast
    · have hd : isBlank d = false := by simpa using blank
      rw [relaidAfter_solid hd]
      have ends : ∀ e ∈ (d :: ([] ++ rest)).getLast?, isBlank e = false := by
        intro e he
        refine hlast e ?_
        rw [← List.cons_append, List.getLast?_append_of_ne_nil _ (List.cons_ne_nil _ _)]
        exact he
      have onward : laid (d :: rest) = d :: (relaid rest ++ ['\n']) := ih hd (by simp) ends
      rw [laid_gap hc hd hblank, onward]
      simp

theorem getLast?_rows {s : List Char} (h : s ≠ []) (hlast : ∀ c ∈ s.getLast?, isBlank c = false) :
    ∀ line ∈ (rows s).getLast?, line ≠ [] := by
  rcases exists_last s '\n' with hs | ⟨front, z, rfl, hz⟩
  · simpa [rows_of_not_mem hs, trimEnd_eq_self hlast] using h
  · have filled : z ≠ [] := by
      rintro rfl
      exact absurd (hlast '\n' (by simp)) (by decide)
    rw [List.append_cons, List.getLast?_append_of_ne_nil _ filled] at hlast
    simpa [rows_append_cons, rows_of_not_mem hz, trimEnd_eq_self hlast] using filled

theorem map_trimEnd_lines_eq {s : List Char} (h : s ≠ []) (hlast : ∀ c ∈ s.getLast?, isBlank c = false) :
    (lines s).map trimEnd = rows s := by
  obtain ⟨last, hrows, empty⟩ := map_trimEnd_lines s
  change rows s = _ at hrows
  rcases List.eq_nil_or_concat last with rfl | ⟨earlier, line, rfl⟩
  · rw [hrows, List.append_nil]
  · have ends : line ∈ (rows s).getLast? := by simp [hrows]
    exact absurd (empty line (by simp)) (getLast?_rows h hlast line ends)

theorem tidy_of_trim {s : List Char} (h : trim s = []) : tidy s = [] := by
  rw [tidy, tidyLines, h]
  rfl

/-- Tidying leaves the text between its outer blanks, with its runs of blanks tidied, and a line feed. -/
theorem tidy_eq {s : List Char} (h : trim s ≠ []) : tidy s = relaid (trim s) ++ ['\n'] := by
  have lined : tidy s = laid (trim s) := by
    rw [tidy, tidyLines, map_trimEnd_lines_eq h (getLast?_trim s)]
    rfl
  rw [lined]
  obtain ⟨c, rest, htrim, hc⟩ := exists_trim_cons h
  have whole : laid (c :: rest) = c :: (relaid rest ++ ['\n']) :=
    laid_relaidAfter hc (List.forall_mem_nil _) (htrim ▸ getLast?_trim s)
  rw [htrim, whole, relaid_cons hc]
  rfl

theorem exists_of_mem_tidyLines {line : List Char} (h : line ∈ tidyLines s) :
    ∃ piece ∈ (trim s).splitOn '\n', line = trimEnd piece := by
  obtain ⟨last, hlast, _⟩ := map_trimEnd_lines (trim s)
  have hmem : line ∈ ((trim s).splitOn '\n').map trimEnd := by
    rw [hlast]
    exact List.mem_append_left _ (mem_of_mem_squeeze h)
  obtain ⟨piece, hpiece, rfl⟩ := List.mem_map.1 hmem
  exact ⟨piece, hpiece, rfl⟩

theorem newline_not_mem_of_mem_tidyLines {line : List Char} (h : line ∈ tidyLines s) : '\n' ∉ line := by
  obtain ⟨piece, hpiece, rfl⟩ := exists_of_mem_tidyLines h
  obtain ⟨blanks, hblanks, _⟩ := exists_trimEnd piece
  intro newline
  exact not_mem_of_mem_splitOn hpiece (by rw [hblanks]; exact List.mem_append_left _ newline)

theorem trimEnd_of_mem_tidyLines {line : List Char} (h : line ∈ tidyLines s) : trimEnd line = line := by
  obtain ⟨piece, _, rfl⟩ := exists_of_mem_tidyLines h
  exact trimEnd_trimEnd piece

theorem lines_tidy (s : List Char) : lines (tidy s) = tidyLines s :=
  lines_unlines (fun _ => newline_not_mem_of_mem_tidyLines) fun _ => trimEnd_of_mem_tidyLines

theorem exists_relaid_cons (h : trim s ≠ []) : ∃ c rest, relaid (trim s) = c :: rest ∧ isBlank c = false := by
  obtain ⟨c, rest, htrim, hc⟩ := exists_trim_cons h
  exact ⟨c, relaid rest, by rw [htrim, relaid_cons hc], hc⟩

theorem exists_relaid_concat (h : trim s ≠ []) : ∃ front c, relaid (trim s) = front ++ [c] ∧ isBlank c = false := by
  rcases List.eq_nil_or_concat (trim s) with empty | ⟨front, c, hconcat⟩
  · exact absurd empty h
  · have hc : isBlank c = false := getLast?_trim s c (by rw [hconcat]; simp)
    exact ⟨relaid front, c, by rw [hconcat, List.concat_eq_append]; exact relaidAfter_append_cons hc front [], hc⟩

theorem trim_tidy (s : List Char) : trim (tidy s) = relaid (trim s) := by
  by_cases blank : trim s = []
  · rw [tidy_of_trim blank, blank]
    rfl
  · obtain ⟨c, rest, hstart, hc⟩ := exists_relaid_cons blank
    obtain ⟨front, d, hend, hd⟩ := exists_relaid_concat blank
    calc trim (tidy s)
      _ = trim ([] ++ c :: (rest ++ ['\n'])) := by rw [tidy_eq blank, hstart]; rfl
      _ = trimEnd (relaid (trim s) ++ ['\n']) := by rw [trim_append_cons (by simp) hc, hstart]; rfl
      _ = relaid (trim s) := by rw [trimEnd_concat (by decide), hend, trimEnd_of_last hd]

theorem tidy_tidy (s : List Char) : tidy (tidy s) = tidy s := by
  by_cases blank : trim s = []
  · rw [tidy_of_trim blank]
    rfl
  · obtain ⟨c, rest, hstart, _⟩ := exists_relaid_cons blank
    have solid : trim (tidy s) ≠ [] := by
      rw [trim_tidy, hstart]
      exact List.cons_ne_nil c rest
    have again : relaid (relaid (trim s)) = relaid (trim s) := relaid_relaidAfter (by simp) (trim s)
    rw [tidy_eq solid, trim_tidy, again, tidy_eq blank]

end Tidy
end RecordAccess.Source
