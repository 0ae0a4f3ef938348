import Mathlib.Data.List.Infix
import RecordAccess.Proofs.Text.Trimming

/-!
# Gaps

A tidied text keeps of each run of blanks its line feeds, two at most, and the blanks after the last of them. This
says what becomes of any part of a text, wherever it starts and ends. A part stays as it is exactly if no line of it
ends with a blank and no two empty lines follow one another.
-/
namespace RecordAccess.Source

open Text

/-- What stays of a run of blanks inside a text. -/
def gap (blanks : List Char) : List Char :=
  List.replicate (min 2 (blanks.count '\n')) '\n' ++ blanks.rtakeWhile (· ≠ '\n')

/-- The text with its runs of blanks tidied, the blanks given going before it. -/
def relaidAfter (blanks : List Char) : List Char → List Char
  | [] => gap blanks
  | c :: rest =>
    if isBlank c then relaidAfter (blanks ++ [c]) rest else gap blanks ++ c :: relaidAfter [] rest

/-- The text with its runs of blanks tidied, also those at its ends. -/
def relaid (s : List Char) : List Char := relaidAfter [] s

section Gap
variable {blanks z : List Char} {c : Char}

theorem newline_ne (hc : isBlank c = false) : '\n' ≠ c := by
  rintro rfl
  exact absurd hc (by decide)

theorem forall_blank_concat (h : ∀ d ∈ blanks, isBlank d) (hc : isBlank c) : ∀ d ∈ blanks ++ [c], isBlank d := by
  intro d hd
  rcases List.mem_append.1 hd with hd | hd
  · exact h d hd
  · rwa [List.mem_singleton.1 hd]

theorem gap_of_not_mem (h : '\n' ∉ blanks) : gap blanks = blanks := by
  have all : blanks.rtakeWhile (· ≠ '\n') = blanks := by
    rw [List.rtakeWhile_eq_self_iff]
    intro d hd
    simpa using fun hnewline : d = '\n' => h (hnewline ▸ hd)
  rw [gap, all, List.count_eq_zero_of_not_mem h]
  rfl

theorem gap_append_cons (blanks : List Char) (h : '\n' ∉ z) :
    gap (blanks ++ '\n' :: z) = List.replicate (min 2 (blanks.count '\n' + 1)) '\n' ++ z := by
  have last : (blanks ++ '\n' :: z).rtakeWhile (· ≠ '\n') = z := by
    induction z using List.reverseRecOn with
    | nil => exact List.rtakeWhile_concat_neg _ _ _ (by simp)
    | append_singleton z d ih =>
      rw [List.mem_append, not_or, List.mem_singleton] at h
      rw [← List.cons_append, ← List.append_assoc, List.rtakeWhile_concat_pos _ _ _ (by simpa using Ne.symm h.2),
        ih h.1]
  rw [gap, last]
  simp [List.count_eq_zero_of_not_mem h]

theorem gap_cons_of_not_mem (c : Char) (h : '\n' ∉ blanks) : gap (c :: blanks) = c :: blanks := by
  by_cases newline : c = '\n'
  · subst newline
    exact gap_append_cons [] h
  · exact gap_of_not_mem (by simp [h, Ne.symm newline])

theorem newline_mem_gap_iff : '\n' ∈ gap blanks ↔ '\n' ∈ blanks := by
  rcases exists_last blanks '\n' with h | ⟨front, z, rfl, hz⟩
  · rw [gap_of_not_mem h]
  · rw [gap_append_cons front hz]
    simp

theorem gap_subset : gap blanks ⊆ blanks := by
  rcases exists_last blanks '\n' with h | ⟨front, z, rfl, hz⟩
  · rw [gap_of_not_mem h]
    exact fun _ => id
  · rw [gap_append_cons front hz]
    intro c hc
    rcases List.mem_append.1 hc with hc | hc
    · rw [List.eq_of_mem_replicate hc]
      simp
    · simp [hc]

theorem gap_eq_nil_iff : gap blanks = [] ↔ blanks = [] := by
  constructor
  · intro h
    have inside : '\n' ∉ blanks := by
      rw [← newline_mem_gap_iff, h]
      exact List.not_mem_nil
    rwa [gap_of_not_mem inside] at h
  · rintro rfl
    rfl

theorem relaidAfter_of_blank {s : List Char} (h : ∀ c ∈ s, isBlank c) : relaidAfter blanks s = gap (blanks ++ s) := by
  induction s generalizing blanks with
  | nil => simp [relaidAfter]
  | cons c rest ih =>
    rw [relaidAfter, if_pos (h c List.mem_cons_self), ih fun d hd => h d (List.mem_cons_of_mem c hd)]
    simp

/-- What stands on both sides of a character that is no blank is tidied apart. -/
theorem relaidAfter_append_cons (hc : isBlank c = false) (s t : List Char) :
    relaidAfter blanks (s ++ c :: t) = relaidAfter blanks s ++ c :: relaid t := by
  induction s generalizing blanks with
  | nil => simp [relaidAfter, hc, relaid]
  | cons d rest ih =>
    rw [List.cons_append, relaidAfter, relaidAfter]
    split
    · exact ih
    · rw [ih]
      simp

theorem relaid_append {s : List Char} (h : ∀ c ∈ s.getLast?, isBlank c = false) (t : List Char) :
    relaid (s ++ t) = relaid s ++ relaid t := by
  rcases List.eq_nil_or_concat s with rfl | ⟨front, c, rfl⟩
  · rfl
  · have hc : isBlank c = false := h c (by simp)
    have whole : relaid (front ++ [c]) = relaid front ++ [c] := relaidAfter_append_cons hc front []
    rw [List.concat_eq_append, List.append_assoc, whole, List.append_assoc]
    exact relaidAfter_append_cons hc front t

theorem relaid_of_blank (h : ∀ c ∈ blanks, isBlank c) : relaid blanks = gap blanks := relaidAfter_of_blank h

theorem relaidAfter_blank (c : Char) (hc : isBlank c) (rest : List Char) :
    relaidAfter blanks (c :: rest) = relaidAfter (blanks ++ [c]) rest := by
  rw [relaidAfter, if_pos hc]

theorem relaidAfter_solid (hc : isBlank c = false) (rest : List Char) :
    relaidAfter blanks (c :: rest) = gap blanks ++ c :: relaid rest := by
  rw [relaidAfter, if_neg (by simp [hc]), relaid]

theorem relaid_cons (hc : isBlank c = false) (rest : List Char) : relaid (c :: rest) = c :: relaid rest :=
  relaidAfter_solid hc rest

theorem exists_blank_of_gap (h : blanks ≠ []) (hblank : ∀ c ∈ blanks, isBlank c) :
    ∃ c, (gap blanks).head? = some c ∧ isBlank c := by
  obtain ⟨c, rest, hgap⟩ := List.exists_cons_of_ne_nil (mt gap_eq_nil_iff.1 h)
  exact ⟨c, by rw [hgap]; rfl, hblank c (gap_subset (hgap ▸ List.mem_cons_self))⟩

/-- A tidied text starts with a blank if the text does. -/
theorem exists_blank_of_relaidAfter (h : blanks ≠ []) (hblank : ∀ c ∈ blanks, isBlank c) (s : List Char) :
    ∃ c, (relaidAfter blanks s).head? = some c ∧ isBlank c := by
  induction s generalizing blanks with
  | nil => exact exists_blank_of_gap h hblank
  | cons d rest ih =>
    by_cases hd : isBlank d
    · rw [relaidAfter_blank d hd]
      exact ih (by simp) (forall_blank_concat hblank hd)
    · obtain ⟨c, hhead, hc⟩ := exists_blank_of_gap h hblank
      exact ⟨c, by rw [relaidAfter_solid (by simpa using hd), List.head?_append, hhead]; rfl, hc⟩

theorem gap_gap (blanks : List Char) : gap (gap blanks) = gap blanks := by
  rcases exists_last blanks '\n' with h | ⟨front, z, rfl, hz⟩
  · rw [gap_of_not_mem h, gap_of_not_mem h]
  · have feeds : List.replicate (min 2 (front.count '\n' + 1)) '\n' =
        List.replicate (min 1 (front.count '\n')) '\n' ++ ['\n'] := by
      rw [← List.replicate_succ']
      congr 1
      omega
    rw [gap_append_cons front hz, feeds, List.append_assoc, List.singleton_append, gap_append_cons _ hz,
      List.count_replicate_self, ← List.singleton_append, ← List.append_assoc, ← feeds]
    congr 2
    omega

theorem relaid_gap (h : ∀ c ∈ blanks, isBlank c) : relaid (gap blanks) = gap blanks := by
  rw [relaid_of_blank fun c hc => h c (gap_subset hc), gap_gap]

theorem relaid_relaidAfter (h : ∀ c ∈ blanks, isBlank c) (s : List Char) :
    relaid (relaidAfter blanks s) = relaidAfter blanks s := by
  induction s generalizing blanks with
  | nil => exact relaid_gap h
  | cons c rest ih =>
    by_cases hc : isBlank c
    · rw [relaidAfter_blank c hc]
      exact ih (forall_blank_concat h hc)
    · have solid : isBlank c = false := by simpa using hc
      have onward : relaid (relaid rest) = relaid rest := ih (by simp)
      rw [relaidAfter_solid solid, relaid, relaidAfter_append_cons solid, onward]
      exact congrArg (· ++ c :: relaid rest) (relaid_gap h)

end Gap

/-- No line that another follows ends with a blank, and no two empty lines follow one another. -/
structure LaidOut (s : List Char) : Prop where
  trimmed : ∀ c, isBlank c → [c, '\n'] <:+: s → c = '\n'
  apart : ¬['\n', '\n', '\n'] <:+: s

section LaidOut
variable {blanks s t : List Char} {c : Char}

theorem infix_append_cons_iff {word : List Char} (h : c ∉ word) :
    word <:+: s ++ c :: t ↔ word <:+: s ∨ word <:+: t := by
  have starts : ∀ {front : List Char}, c ∉ front → front <+: c :: t → front = [] := by
    intro front hfront hstart
    cases front with
    | nil => rfl
    | cons d rest => exact absurd (by simp [(List.cons_prefix_cons.1 hstart).1]) hfront
  constructor
  · intro hword
    rcases List.infix_append_iff.1 hword with first | second | ⟨left, right, rfl, hleft, hright⟩
    · exact .inl first
    · rcases List.infix_cons_iff.1 second with early | late
      · exact .inl (starts h early ▸ List.nil_infix)
      · exact .inr late
    · rw [starts (fun hmem => h (List.mem_append_right _ hmem)) hright, List.append_nil]
      exact .inl hleft.isInfix
  · rintro (first | second)
    · exact first.trans (List.prefix_append _ _).isInfix
    · exact second.trans (List.infix_append_of_infix_right (List.infix_cons (List.infix_refl t)))

theorem laidOut_append_cons (hc : isBlank c = false) : LaidOut (s ++ c :: t) ↔ LaidOut s ∧ LaidOut t := by
  have feed := (newline_ne hc).symm
  have apart := @infix_append_cons_iff s t c ['\n', '\n', '\n'] (by simp [feed])
  have pair : ∀ d, isBlank d → ([d, '\n'] <:+: s ++ c :: t ↔ [d, '\n'] <:+: s ∨ [d, '\n'] <:+: t) := by
    intro d hd
    refine infix_append_cons_iff ?_
    rintro hmem
    simp only [List.mem_cons, List.not_mem_nil, or_false, feed] at hmem
    rw [← hmem, hc] at hd
    cases hd
  constructor
  · rintro ⟨trimmed, whole⟩
    rw [apart, not_or] at whole
    exact ⟨⟨fun d hd h => trimmed d hd ((pair d hd).2 (.inl h)), whole.1⟩,
      ⟨fun d hd h => trimmed d hd ((pair d hd).2 (.inr h)), whole.2⟩⟩
  · rintro ⟨first, second⟩
    refine ⟨fun d hd h => ?_, ?_⟩
    · exact ((pair d hd).1 h).elim (first.trimmed d hd) (second.trimmed d hd)
    · rw [apart, not_or]
      exact ⟨first.apart, second.apart⟩

theorem laidOut_of_not_mem (h : '\n' ∉ s) : LaidOut s := by
  have apart : ∀ {word : List Char}, word <:+: s → '\n' ∉ word := fun hword hmem => h (hword.subset hmem)
  exact ⟨fun c _ hword => absurd (by simp) (apart hword), fun hword => apart hword (by simp)⟩

theorem laidOut_newline_cons (h : LaidOut s) (apart : ¬['\n', '\n'] <+: s) : LaidOut ('\n' :: s) := by
  refine ⟨fun c hc hword => ?_, fun hword => ?_⟩
  · rcases List.infix_cons_iff.1 hword with early | late
    · exact (List.cons_prefix_cons.1 early).1
    · exact h.trimmed c hc late
  · rcases List.infix_cons_iff.1 hword with early | late
    · exact apart (List.cons_prefix_cons.1 early).2
    · exact h.apart late

theorem laidOut_blanks_iff (h : ∀ c ∈ blanks, isBlank c) {z : List Char} (hz : '\n' ∉ z) :
    LaidOut (blanks ++ '\n' :: z) ↔ blanks = [] ∨ blanks = ['\n'] := by
  constructor
  · rintro ⟨trimmed, apart⟩
    rcases List.eq_nil_or_concat blanks with rfl | ⟨front, c, rfl⟩
    · exact .inl rfl
    obtain rfl : c = '\n' := trimmed c (h c (by simp)) ⟨front, z, by simp⟩
    rcases List.eq_nil_or_concat front with rfl | ⟨earlier, d, rfl⟩
    · exact .inr rfl
    · obtain rfl : d = '\n' := trimmed d (h d (by simp)) ⟨earlier, '\n' :: z, by simp⟩
      exact absurd ⟨earlier, z, by simp⟩ apart
  · have last : LaidOut ('\n' :: z) :=
      laidOut_newline_cons (laidOut_of_not_mem hz) fun hstart => hz (hstart.subset (by simp))
    rintro (rfl | rfl)
    · exact last
    · refine laidOut_newline_cons last fun hstart => hz ?_
      exact (List.cons_prefix_cons.1 hstart).2.subset List.mem_cons_self

theorem gap_eq_self_iff (h : ∀ c ∈ blanks, isBlank c) : gap blanks = blanks ↔ LaidOut blanks := by
  rcases exists_last blanks '\n' with inside | ⟨front, z, rfl, hz⟩
  · exact iff_of_true (gap_of_not_mem inside) (laidOut_of_not_mem inside)
  rw [laidOut_blanks_iff (fun c hc => h c (List.mem_append_left _ hc)) hz, gap_append_cons front hz]
  constructor
  · intro same
    rw [List.append_cons, List.append_cancel_right_eq] at same
    match front with
    | [] => exact .inl rfl
    | [c] =>
      have feed : c = '\n' := List.eq_of_mem_replicate (by rw [same]; exact List.mem_cons_self)
      exact .inr (by rw [feed])
    | c :: d :: rest =>
      have shorter := congrArg List.length same
      simp only [List.length_replicate, List.length_append, List.length_cons] at shorter
      omega
  · rintro (rfl | rfl) <;> rfl

theorem relaidAfter_eq_self_iff (h : ∀ c ∈ blanks, isBlank c) (s : List Char) :
    relaidAfter blanks s = blanks ++ s ↔ LaidOut (blanks ++ s) := by
  induction s generalizing blanks with
  | nil => rw [List.append_nil]; exact gap_eq_self_iff h
  | cons c rest ih =>
    by_cases hc : isBlank c
    · have longer : blanks ++ c :: rest = blanks ++ [c] ++ rest := by simp
      rw [relaidAfter_blank c hc, longer]
      exact ih (forall_blank_concat h hc)
    · have solid : isBlank c = false := by simpa using hc
      have onward : relaid rest = rest ↔ LaidOut rest := ih (List.forall_mem_nil _)
      rw [relaidAfter_solid solid, laidOut_append_cons solid, ← gap_eq_self_iff h, ← onward]
      constructor
      · intro same
        have after := congrArg trimStart same
        rw [trimStart_append_cons (fun d hd => h d (gap_subset hd)) solid, trimStart_append_cons h solid,
          List.cons.injEq] at after
        rw [after.2] at same
        exact ⟨List.append_cancel_right same, after.2⟩
      · rintro ⟨hgap, hrest⟩
        rw [hgap, hrest]

theorem relaid_eq_self_iff (s : List Char) : relaid s = s ↔ LaidOut s :=
  relaidAfter_eq_self_iff (List.forall_mem_nil _) s

end LaidOut
end RecordAccess.Source
