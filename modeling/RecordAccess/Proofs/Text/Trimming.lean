import Mathlib.Data.List.DropRight
import RecordAccess.Text.Blank

/-!
# What trimming and splitting into lines leave

Trimming takes blanks from the ends only. The lines of a text, their trailing blanks set aside, are the
pieces between its line feeds, less an empty last one.
-/
namespace RecordAccess.Text

/-- What passes is dropped up to a character that does not. -/
theorem dropWhile_append_eq {passes : Char → Bool} {front s : List Char} (h : ∀ c ∈ front, passes c)
    (stop : ∀ c ∈ s.head?, passes c = false) : (front ++ s).dropWhile passes = s := by
  rw [List.dropWhile_append_of_pos h]
  cases s with
  | nil => rfl
  | cons c s => exact List.dropWhile_cons_of_neg (by simp [stop c rfl])

theorem exists_trimStart (s : List Char) :
    ∃ blanks, s = blanks ++ trimStart s ∧ ∀ c ∈ blanks, isBlank c := by
  refine ⟨s.takeWhile isBlank, List.takeWhile_append_dropWhile.symm, ?_⟩
  intro c hc
  exact List.all_eq_true.1 List.all_takeWhile c hc

theorem exists_trimEnd (s : List Char) :
    ∃ blanks, s = trimEnd s ++ blanks ∧ ∀ c ∈ blanks, isBlank c := by
  refine ⟨(s.reverse.takeWhile isBlank).reverse, ?_, ?_⟩
  · rw [trimEnd, ← List.reverse_append, List.takeWhile_append_dropWhile, List.reverse_reverse]
  · intro c hc
    exact List.all_eq_true.1 List.all_takeWhile c (List.mem_reverse.1 hc)

theorem exists_trim (s : List Char) : ∃ before after, s = before ++ (trim s ++ after) ∧
    (∀ c ∈ before, isBlank c) ∧ ∀ c ∈ after, isBlank c := by
  obtain ⟨before, hbefore, blankBefore⟩ := exists_trimStart s
  obtain ⟨after, hafter, blankAfter⟩ := exists_trimEnd (trimStart s)
  exact ⟨before, after, by rw [trim, ← hafter, ← hbefore], blankBefore, blankAfter⟩

theorem trimEnd_concat {s : List Char} {c : Char} (hc : isBlank c) : trimEnd (s ++ [c]) = trimEnd s := by
  simp [trimEnd, hc]

theorem trimEnd_of_last {s : List Char} {c : Char} (hc : isBlank c = false) :
    trimEnd (s ++ [c]) = s ++ [c] := by
  simp [trimEnd, hc]

theorem getLast?_trimEnd (s : List Char) : ∀ c ∈ (trimEnd s).getLast?, isBlank c = false := by
  intro c hc
  rw [trimEnd, List.getLast?_reverse] at hc
  have := List.head?_dropWhile_not isBlank s.reverse
  rw [hc] at this
  exact this

theorem trimEnd_eq_self {s : List Char} (h : ∀ c ∈ s.getLast?, isBlank c = false) : trimEnd s = s := by
  rcases List.eq_nil_or_concat s with rfl | ⟨front, c, rfl⟩
  · rfl
  · rw [List.concat_eq_append] at h ⊢
    exact trimEnd_of_last (h c (by simp))

theorem trimEnd_trimEnd (s : List Char) : trimEnd (trimEnd s) = trimEnd s := trimEnd_eq_self (getLast?_trimEnd s)

theorem trimEnd_append {s t : List Char} (h : trimEnd t ≠ []) : trimEnd (s ++ t) = s ++ trimEnd t := by
  have left : t.reverse.dropWhile isBlank ≠ [] := fun empty => h (by rw [trimEnd, empty]; rfl)
  rw [trimEnd, List.reverse_append, List.dropWhile_append]
  simp [trimEnd, left]

theorem trimEnd_append_of_blank {blanks : List Char} (s : List Char) (h : ∀ c ∈ blanks, isBlank c) :
    trimEnd (s ++ blanks) = trimEnd s := by
  induction blanks using List.reverseRecOn with
  | nil => rw [List.append_nil]
  | append_singleton front c ih =>
    rw [← List.append_assoc, trimEnd_concat (h c (by simp))]
    exact ih fun d hd => h d (List.mem_append_left _ hd)

theorem trimEnd_of_blank {s : List Char} (h : ∀ c ∈ s, isBlank c) : trimEnd s = [] := trimEnd_append_of_blank [] h

theorem trim_trimStart (s : List Char) : trim (trimStart s) = trim s :=
  congrArg trimEnd (List.dropWhile_idempotent isBlank s)

theorem trimStart_append_cons {blanks : List Char} {c : Char} (h : ∀ c ∈ blanks, isBlank c) (hc : isBlank c = false)
    (s : List Char) : trimStart (blanks ++ c :: s) = c :: s := by
  rw [trimStart, List.dropWhile_append_of_pos h, List.dropWhile_cons_of_neg (by simp [hc])]

theorem exists_trimEnd_cons {c : Char} (hc : isBlank c = false) (s : List Char) :
    ∃ line, trimEnd (c :: s) = c :: line := by
  obtain ⟨blanks, hs, blank⟩ := exists_trimEnd (c :: s)
  cases hline : trimEnd (c :: s) with
  | nil =>
    rw [hline, List.nil_append] at hs
    have := blank c (hs ▸ List.mem_cons_self)
    simp [hc] at this
  | cons d line =>
    rw [hline] at hs
    obtain ⟨rfl, _⟩ := List.cons.inj hs
    exact ⟨line, rfl⟩

/-- A text is blank, or its leading blanks end before some character. -/
theorem blank_or_exists (s : List Char) : (∀ c ∈ s, isBlank c) ∨
    ∃ blanks c rest, s = blanks ++ c :: rest ∧ (∀ d ∈ blanks, isBlank d) ∧ isBlank c = false := by
  obtain ⟨blanks, hs, blank⟩ := exists_trimStart s
  cases hstart : trimStart s with
  | nil =>
    rw [hstart, List.append_nil] at hs
    exact .inl (hs ▸ blank)
  | cons c rest =>
    have first := List.head?_dropWhile_not isBlank s
    rw [show s.dropWhile isBlank = c :: rest from hstart] at first
    exact .inr ⟨blanks, c, rest, hstart ▸ hs, blank, by simpa using first⟩

theorem trim_of_blank {s : List Char} (h : ∀ c ∈ s, isBlank c) : trim s = [] := by
  rw [trim, show trimStart s = [] from List.dropWhile_eq_nil_iff.2 h]
  rfl

theorem trim_append_cons {blanks : List Char} {c : Char} (h : ∀ d ∈ blanks, isBlank d) (hc : isBlank c = false)
    (s : List Char) : trim (blanks ++ c :: s) = trimEnd (c :: s) := by
  rw [trim, trimStart_append_cons h hc]

theorem trim_trimEnd (s : List Char) : trim (trimEnd s) = trim s := by
  rcases blank_or_exists s with blank | ⟨blanks, c, rest, rfl, blank, hc⟩
  · rw [trimEnd_of_blank blank, trim_of_blank blank]
    rfl
  · obtain ⟨line, hline⟩ := exists_trimEnd_cons hc rest
    have filled : trimEnd (c :: rest) ≠ [] := by simp [hline]
    rw [trimEnd_append filled, trim_append_cons blank hc, hline, trim_append_cons blank hc, ← hline, trimEnd_trimEnd]

theorem trim_of_trimEnd {line : List Char} (h : trimEnd line = []) : trim line = [] := by
  rw [← trim_trimEnd, h]
  rfl

theorem blank_of_trim {s : List Char} (h : trim s = []) : ∀ c ∈ s, isBlank c := by
  rcases blank_or_exists s with blank | ⟨blanks, c, others, rfl, blank, hc⟩
  · exact blank
  · obtain ⟨kept, hkept⟩ := exists_trimEnd_cons hc others
    rw [trim_append_cons blank hc, hkept] at h
    cases h

theorem trim_append_blanks {blanks : List Char} (h : ∀ c ∈ blanks, isBlank c) (s : List Char) :
    trim (s ++ blanks) = trim s := by
  rw [← trim_trimEnd, trimEnd_append_of_blank s h, trim_trimEnd]

theorem exists_trimEnd_eq {s : List Char} (h : trim s ≠ []) :
    ∃ blanks, trimEnd s = blanks ++ trim s ∧ ∀ c ∈ blanks, isBlank c := by
  rcases blank_or_exists s with blank | ⟨blanks, c, others, rfl, blank, hc⟩
  · exact absurd (trim_of_blank blank) h
  · obtain ⟨kept, hkept⟩ := exists_trimEnd_cons hc others
    refine ⟨blanks, ?_, blank⟩
    rw [trim_append_cons blank hc, trimEnd_append (by simp [hkept])]

/-- A text that goes on after a line feed has it inside, whatever its outer blanks are. -/
theorem newline_mem_trim {line rest : List Char} (hline : trim line ≠ []) (hrest : trimEnd rest ≠ []) :
    '\n' ∈ trim (line ++ '\n' :: rest) := by
  rcases blank_or_exists line with blank | ⟨blanks, c, others, rfl, blank, hc⟩
  · exact absurd (trim_of_blank blank) hline
  · have later : trimEnd ((c :: others ++ ['\n']) ++ rest) = (c :: others ++ ['\n']) ++ trimEnd rest :=
      trimEnd_append hrest
    have whole : trim (blanks ++ c :: others ++ '\n' :: rest) = (c :: others ++ ['\n']) ++ trimEnd rest := by
      rw [← later, List.append_assoc, List.cons_append, trim_append_cons blank hc]
      simp
    rw [whole]
    simp

theorem head?_trim (s : List Char) : ∀ c ∈ (trim s).head?, isBlank c = false := by
  rcases blank_or_exists s with blank | ⟨blanks, c, rest, rfl, blank, hc⟩
  · simp [trim_of_blank blank]
  · obtain ⟨line, hline⟩ := exists_trimEnd_cons hc rest
    simp [trim_append_cons blank hc, hline, hc]

theorem exists_trim_cons {s : List Char} (h : trim s ≠ []) : ∃ c rest, trim s = c :: rest ∧ isBlank c = false := by
  obtain ⟨c, rest, htrim⟩ := List.exists_cons_of_ne_nil h
  exact ⟨c, rest, htrim, head?_trim s c (by rw [htrim]; rfl)⟩

theorem getLast?_trim (s : List Char) : ∀ c ∈ (trim s).getLast?, isBlank c = false := getLast?_trimEnd (trimStart s)

theorem trim_eq_self {s : List Char} (hfirst : ∀ c ∈ s.head?, isBlank c = false)
    (hlast : ∀ c ∈ s.getLast?, isBlank c = false) : trim s = s := by
  have start : trimStart s = s := by
    cases s with
    | nil => rfl
    | cons c rest => exact List.dropWhile_cons_of_neg (by simp [hfirst c rfl])
  rw [trim, start, trimEnd_eq_self hlast]

theorem trim_trim (s : List Char) : trim (trim s) = trim s := trim_eq_self (head?_trim s) (getLast?_trim s)

theorem not_mem_trim {s : List Char} {c : Char} (h : c ∉ s) : c ∉ trim s := by
  obtain ⟨before, after, hs, _⟩ := exists_trim s
  intro kept
  rw [hs] at h
  exact h (List.mem_append_right _ (List.mem_append_left _ kept))

theorem dropReturn_eq_self {line : List Char} (h : ∀ c ∈ line.getLast?, isBlank c = false) :
    dropReturn line = line := by
  unfold dropReturn
  split
  · next last => exact absurd (h '\r' last) (by decide)
  · rfl

theorem trimEnd_dropReturn (line : List Char) : trimEnd (dropReturn line) = trimEnd line := by
  unfold dropReturn
  split
  · next last =>
    obtain ⟨front, rfl⟩ := List.getLast?_eq_some_iff.1 last
    rw [List.dropLast_concat, trimEnd_concat rfl]
  · rfl

theorem splitOn_append {z : List Char} {c : Char} (h : c ∉ z) (s : List Char) :
    (z ++ s).splitOn c = (s.splitOn c).modifyHead (z ++ ·) := by
  induction z with
  | nil =>
    change s.splitOn c = _
    cases s.splitOn c <;> rfl
  | cons d rest ih =>
    rw [List.mem_cons, not_or] at h
    rw [List.cons_append, List.splitOn_cons_eq_if_modifyHead, ih h.2]
    simp [Ne.symm h.1, Function.comp_def]

theorem exists_last (s : List Char) (c : Char) : c ∉ s ∨ ∃ front z, s = front ++ c :: z ∧ c ∉ z := by
  by_cases h : c ∈ s
  · obtain ⟨z, front, hs, hz⟩ := List.eq_append_cons_of_mem (List.mem_reverse.2 h)
    refine .inr ⟨front.reverse, z.reverse, ?_, by simpa using hz⟩
    rw [← List.reverse_reverse s, hs]
    simp
  · exact .inl h

theorem not_mem_of_mem_splitOn {s piece : List Char} {c : Char} (h : piece ∈ s.splitOn c) :
    c ∉ piece := by
  induction s generalizing piece with
  | nil => simp_all
  | cons first rest ih =>
    rw [List.splitOn_cons_eq_if_modifyHead] at h
    split at h
    · rcases List.mem_cons.1 h with rfl | h
      · simp
      · exact ih h
    · next hne =>
      cases hrest : rest.splitOn c with
      | nil => simp [hrest] at h
      | cons head tail =>
        rw [hrest, List.modifyHead_cons] at h
        rcases List.mem_cons.1 h with rfl | h
        · have hhead : c ∉ head := ih (hrest ▸ List.mem_cons_self)
          have hfirst : first ≠ c := by simpa using hne
          rw [List.mem_cons, not_or]
          exact ⟨hfirst.symm, hhead⟩
        · exact ih (hrest ▸ List.mem_cons_of_mem _ h)

theorem lines_append_cons {line : List Char} (h : '\n' ∉ line) (rest : List Char) :
    lines (line ++ '\n' :: rest) = dropReturn line :: lines rest := by
  rw [lines, List.splitOn_append_cons_self_of_not_mem h, lines]
  cases hrest : rest.splitOn '\n' with
  | nil => exact absurd hrest (List.splitOn_ne_nil _ _)
  | cons next others => rfl

theorem map_trimEnd_linesOfPieces (pieces : List (List Char)) :
    ∃ last : List (List Char), pieces.map trimEnd = (linesOfPieces pieces).map trimEnd ++ last ∧
      ∀ line ∈ last, line = [] := by
  induction pieces using linesOfPieces.induct with
  | case1 => exact ⟨[], rfl, by simp⟩
  | case2 last empty => exact ⟨[[]], by simp_all [linesOfPieces, trimEnd], by simp⟩
  | case3 last full => exact ⟨[], by simp_all [linesOfPieces], by simp⟩
  | case4 piece next rest ih =>
    obtain ⟨last, hlast, hempty⟩ := ih
    refine ⟨last, ?_, hempty⟩
    rw [List.map_cons, hlast, linesOfPieces, List.map_cons, trimEnd_dropReturn, List.cons_append]

theorem map_trimEnd_lines (s : List Char) :
    ∃ last : List (List Char), (s.splitOn '\n').map trimEnd = (lines s).map trimEnd ++ last ∧
      ∀ line ∈ last, line = [] :=
  map_trimEnd_linesOfPieces (s.splitOn '\n')

end RecordAccess.Text
