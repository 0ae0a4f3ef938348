import RecordAccess.Proofs.Source.Tokens
import RecordAccess.Text.Blank

/-!
# Blanks in a reading

No blank but the line feed is told from another one, so blanks open nothing and close nothing but a line comment.
Where a blank follows a character, the character is read as at the end of the text.
-/
namespace RecordAccess.Source

open Text

theorem Mode.quote?_after {mode : Mode} {c : Char} {next : Option Char} {quote : Char}
    (h : (mode.after c next).quote? = some quote) : mode.quote? = some quote ∨ quote ∈ quotes := by
  cases mode with
  | code =>
    simp only [Mode.after] at h
    split at h
    · simp [Mode.quote?] at h
    · split at h
      · simp [Mode.quote?] at h
      · split at h
        · next opens =>
          obtain rfl : c = quote := Option.some.inj h
          rcases opens with rfl | rfl <;> exact .inr (by decide)
        · split at h
          · exact .inr (by rw [← Option.some.inj h]; decide)
          · simp [Mode.quote?] at h
  | lineComment => simp only [Mode.after] at h; split at h <;> simp [Mode.quote?] at h
  | commentStart => simp [Mode.after, Mode.quote?] at h
  | blockComment => simp only [Mode.after] at h; split at h <;> simp [Mode.quote?] at h
  | commentEnd => simp [Mode.after, Mode.quote?] at h
  | literal bound =>
    simp only [Mode.after] at h
    split at h
    · exact .inl h
    · split at h
      · simp [Mode.quote?] at h
      · exact .inl h
  | escaped bound => exact .inl h
  | raw =>
    simp only [Mode.after] at h
    split at h
    · simp [Mode.quote?] at h
    · exact .inl h

namespace Reading

structure Coherent (reading : Reading Char) : Prop where
  held_eq_nil : reading.mode.quote? = none → reading.held = []
  quote_mem : ∀ quote, reading.mode.quote? = some quote → quote ∈ quotes

theorem coherent_start : Coherent {} := ⟨fun _ => rfl, by simp [Mode.quote?]⟩

theorem Coherent.step {reading : Reading Char} (h : reading.Coherent) (item c : Char)
    (next : Option Char) : (reading.step item c next).Coherent := by
  refine ⟨?_, ?_⟩
  · intro hquote
    simp only [Reading.step] at hquote ⊢
    rw [hquote]
    cases hmode : reading.mode.quote? with
    | none => exact h.held_eq_nil hmode
    | some quote => rfl
  · intro quote hquote
    rcases Mode.quote?_after hquote with hquote | hquote
    · exact h.quote_mem quote hquote
    · exact hquote

theorem Coherent.read {reading : Reading Char} (h : reading.Coherent) (next : Option Char)
    (s : List Char) : (reading.read next s).Coherent := by
  induction s generalizing reading with
  | nil => exact h
  | cons c rest ih => exact ih (h.step c c _)

end Reading

/-- Whether a line may end in the mode whatever stands before. -/
def Mode.isFree : Mode → Bool
  | .literal _ | .escaped _ => false
  | .code | .lineComment | .commentStart | .blockComment | .commentEnd | .raw => true

section Blank
variable {mode : Mode} {next : Option Char} {c : Char}

theorem not_mem_specials_of_blank (h : isBlank c) : c ∉ specials := by
  have printed : specials.all fun d => !isBlank d := by decide
  intro hmem
  have := List.all_eq_true.1 printed c hmem
  simp [h] at this

/-- A blank opens nothing and closes nothing but a line comment. -/
theorem after_blank (hquote : ∀ quote, mode.quote? = some quote → quote ∈ quotes) (hc : isBlank c) :
    (mode.after c next).quote? = mode.quote? ∧ (mode.after c next).isClosed = mode.isClosed ∧
      (mode.after c next).isFree = mode.isFree := by
  have special := not_mem_specials_of_blank hc
  simp only [specials, quotes, List.mem_append, List.mem_cons, not_or] at special
  cases mode with
  | literal quote =>
    have inside : c ≠ quote := by
      have := hquote quote rfl
      rintro rfl
      simp_all [quotes]
    simp [Mode.after, special, inside]
  | lineComment => by_cases newline : c = '\n' <;> simp [Mode.after, newline, Mode.quote?, Mode.isClosed, Mode.isFree]
  | _ => simp [Mode.after, special, Mode.quote?, Mode.isClosed, Mode.isFree]

theorem leads_blank (hquote : ∀ quote, mode.quote? = some quote → quote ∈ quotes) (hc : isBlank c) :
    mode.Leads next [c] (mode.after c next) (if c = '\n' then [mode] else []) := by
  have special := not_mem_specials_of_blank hc
  refine leads_singleton ?_ (after_blank hquote hc).1
  rintro ⟨_, bracket⟩
  simp_all [specials, isOpener, isCloser]

theorem after_newline_eq (mode : Mode) (next : Option Char) : mode.after '\n' next = mode.after '\n' none := by
  cases mode <;> simp [Mode.after]

theorem after_newline_after (hfree : mode.isFree) (hc : isBlank c) (next : Option Char) :
    (mode.after c next).after '\n' none = mode.after '\n' none := by
  have special := not_mem_specials_of_blank hc
  simp only [specials, quotes, List.mem_append, List.mem_cons, not_or] at special
  cases mode with
  | literal | escaped => cases hfree
  | lineComment => by_cases newline : c = '\n' <;> simp +decide [Mode.after, newline]
  | commentEnd => rfl
  | _ => simp_all [Mode.after]

theorem quotes_of_isFree (hfree : mode.isFree) : ∀ quote, mode.quote? = some quote → quote ∈ quotes := by
  intro quote hquote
  cases mode <;> simp_all [Mode.isFree, Mode.quote?, quotes]

theorem quote?_of_isClosed (h : mode.isClosed) : mode.quote? = none := by
  cases mode <;> simp_all [Mode.isClosed, Mode.quote?]

theorem isFree_of_isClosed (h : mode.isClosed) : mode.isFree := by
  cases mode <;> simp_all [Mode.isClosed, Mode.isFree]

theorem uncut_of_isFree (hfree : mode.isFree) : Uncut (if c = '\n' then [mode] else []) := by
  intro other hmem quote hother
  split at hmem
  · rw [← List.mem_singleton.1 hmem, hother] at hfree
    cases hfree
  · cases hmem

end Blank

section Blanks
variable {mode : Mode} {blanks : List Char}

/-- What has been read stays as it is over blanks, and a text may end after them exactly if it may end before. -/
theorem exists_leads_blanks (hquote : ∀ quote, mode.quote? = some quote → quote ∈ quotes)
    (hblank : ∀ c ∈ blanks, isBlank c) (next : Option Char) : ∃ after breaks, mode.Leads next blanks after breaks ∧
      after.isClosed = mode.isClosed ∧ (mode.isFree → Uncut breaks) := by
  induction blanks generalizing mode with
  | nil => exact ⟨mode, [], leads_nil, rfl, fun _ => by simp [Uncut]⟩
  | cons c rest ih =>
    have hc := hblank c List.mem_cons_self
    obtain ⟨quote?, closed, free⟩ := @after_blank mode (rest.head?.or next) c hquote hc
    obtain ⟨after, breaks, onward, closed', uncut⟩ := @ih (mode.after c (rest.head?.or next))
      (fun quote h => hquote quote (quote? ▸ h)) fun d hd => hblank d (List.mem_cons_of_mem c hd)
    refine ⟨after, _, (leads_blank hquote hc).append onward, closed'.trans closed, fun hfree => ?_⟩
    exact uncut_append_iff.2 ⟨uncut_of_isFree hfree, uncut (free.trans hfree)⟩

/-- A mode that a line feed leaves as it is stays over all blanks. -/
theorem spans_blanks (hfree : mode.isFree) (rests : mode.after '\n' none = mode) (hblank : ∀ c ∈ blanks, isBlank c)
    (next : Option Char) : mode.Spans next blanks := by
  induction blanks with
  | nil => exact spans_nil
  | cons c rest ih =>
    have hc := hblank c List.mem_cons_self
    have stays : mode.after c (rest.head?.or next) = mode := by
      have special := not_mem_specials_of_blank hc
      simp only [specials, quotes, List.mem_append, List.mem_cons, not_or] at special
      cases mode with
      | literal | escaped => cases hfree
      | lineComment | commentStart | commentEnd => cases rests
      | _ => simp_all [Mode.after]
    have step := @leads_blank mode (rest.head?.or next) c (quotes_of_isFree hfree) hc
    rw [stays] at step
    exact Mode.Spans.append (s := [c]) ⟨_, uncut_of_isFree hfree, step⟩
      (ih fun d hd => hblank d (List.mem_cons_of_mem c hd))

/-- Blanks with a line feed among them lead where the line feed alone leads. -/
theorem exists_leads_newline (hfree : mode.isFree) (newline : '\n' ∈ blanks) (hblank : ∀ c ∈ blanks, isBlank c)
    (next : Option Char) : ∃ breaks, Uncut breaks ∧ mode.Leads next blanks (mode.after '\n' none) breaks := by
  induction blanks generalizing mode with
  | nil => cases newline
  | cons c rest ih =>
    have hc := hblank c List.mem_cons_self
    have blank : ∀ d ∈ rest, isBlank d := fun d hd => hblank d (List.mem_cons_of_mem c hd)
    have step := @leads_blank mode (rest.head?.or next) c (quotes_of_isFree hfree) hc
    have free := (@after_blank mode (rest.head?.or next) c (quotes_of_isFree hfree) hc).2.2.trans hfree
    have rests := after_newline_after hfree hc (rest.head?.or next)
    rcases List.mem_cons.1 newline with rfl | later
    · rw [after_newline_eq] at step free rests
      obtain ⟨breaks, uncut, onward⟩ := spans_blanks free rests blank next
      exact ⟨_, uncut_append_iff.2 ⟨uncut_of_isFree hfree, uncut⟩, step.append onward⟩
    · obtain ⟨breaks, uncut, onward⟩ := ih free later blank
      rw [rests] at onward
      exact ⟨_, uncut_append_iff.2 ⟨uncut_of_isFree hfree, uncut⟩, step.append onward⟩

end Blanks

section Lookahead

/-- Of what follows a text, only a slash or a star is seen. -/
def Unseen (next : Option Char) : Prop := next ≠ some '/' ∧ next ≠ some '*'

theorem unseen_of_blank {c : Char} (h : isBlank c) : Unseen (some c) := by
  have := not_mem_specials_of_blank h
  simp_all [Unseen, specials]

theorem unseen_none : Unseen none := by simp [Unseen]

theorem unseen_head? {blanks : List Char} (h : ∀ c ∈ blanks, isBlank c) : Unseen (blanks.head?.or none) := by
  cases blanks with
  | nil => exact unseen_none
  | cons c rest => exact unseen_of_blank (h c List.mem_cons_self)

theorem after_congr_next {first second : Option Char} (h₁ : Unseen first) (h₂ : Unseen second) (mode : Mode)
    (c : Char) : mode.after c first = mode.after c second := by
  unfold Unseen at h₁ h₂
  unfold Mode.after
  simp [h₁, h₂]

theorem read_congr_next {first second : Option Char} (h₁ : Unseen first) (h₂ : Unseen second)
    (reading : Reading Char) (s : List Char) : reading.read first s = reading.read second s := by
  induction s generalizing reading with
  | nil => rfl
  | cons c rest ih =>
    have hstep : reading.step c c (rest.head?.or first) = reading.step c c (rest.head?.or second) := by
      cases rest with
      | cons d _ => rfl
      | nil =>
        simp only [Reading.step, List.head?_nil, Option.none_or, after_congr_next h₁ h₂]
    rw [Reading.read, Reading.read, hstep, ih]

end Lookahead

end RecordAccess.Source
