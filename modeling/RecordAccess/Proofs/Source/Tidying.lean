import RecordAccess.Proofs.Source.Blanks
import RecordAccess.Proofs.Source.Rows

/-!
# Reading a tidied text

A text and its tidy layout are read side by side: after each run of blanks and each other character both readings
are in the same mode. Blanks matter in two places. In a literal on one line no line may end, so a run of blanks
there loses nothing. A raw string loses what any text loses, so its content is tidied with the text.
-/
namespace RecordAccess.Source

open Text

/-- The literal in the tidied text. -/
def Literal.relaid (item : Literal Char) : Literal Char :=
  if item.quote = backquote then { item with content := Source.relaid item.content } else item

theorem Mode.quote?_after_eq {mode : Mode} {quote : Char} (h : mode.quote? = some quote) (c : Char)
    (next : Option Char) : (mode.after c next).quote? = none ∨ (mode.after c next).quote? = some quote := by
  cases mode <;> simp_all [Mode.after, Mode.quote?] <;> grind

section Bound
variable {reading : Reading Char} {next : Option Char} {blanks : List Char} {quote : Char}

theorem newline_not_mem_of_uncut (hmode : reading.mode = .literal quote) (hquote : quote ∈ quotes)
    (hblank : ∀ c ∈ blanks, isBlank c) (uncut : Uncut (reading.read next blanks).breaks) : '\n' ∉ blanks := by
  intro newline
  obtain ⟨front, rest, rfl, first⟩ := List.eq_append_cons_of_mem newline
  have content : Content quote front := by
    refine content_of_plain fun c hc => ?_
    have special := not_mem_specials_of_blank (hblank c (List.mem_append_left _ hc))
    rw [specials, List.mem_append, not_or] at special
    simp only [List.mem_cons, List.not_mem_nil, or_false, not_or]
    refine ⟨?_, ?_, ?_⟩
    · rintro rfl
      exact special.1 hquote
    · rintro rfl
      exact special.2 (by decide)
    · rintro rfl
      exact first hc
  obtain ⟨breaks, _, leads⟩ := @Content.spans (some '\n') _ _ content
  rw [Reading.read_append] at uncut
  refine uncut _ (mode_mem_breaks _ next rest) quote ?_
  rw [List.head?_cons, Option.some_or, leads.read_eq reading hmode]

/-- In a literal on one line nothing is lost. -/
theorem gap_eq_self (h : reading.Coherent) (hbound : reading.mode.isFree = false)
    (hblank : ∀ c ∈ blanks, isBlank c) (uncut : Uncut (reading.read next blanks).breaks) : gap blanks = blanks := by
  cases hmode : reading.mode with
  | literal quote =>
    exact gap_of_not_mem (newline_not_mem_of_uncut hmode (h.quote_mem quote (by rw [hmode]; rfl)) hblank uncut)
  | escaped quote =>
    cases blanks with
    | nil => rfl
    | cons c rest =>
      have taken : (reading.step c c (rest.head?.or next)).mode = .literal quote := by
        simp [Reading.step, hmode, Mode.after]
      exact gap_cons_of_not_mem c <| newline_not_mem_of_uncut taken (h.quote_mem quote (by rw [hmode]; rfl))
        (fun d hd => hblank d (List.mem_cons_of_mem c hd)) uncut
  | _ => simp [hmode, Mode.isFree] at hbound

end Bound

namespace Reading

structure Alike (first second : Reading Char) : Prop where
  mode_eq : second.mode = first.mode
  held_eq : second.held = if first.mode.quote? = some backquote then Source.relaid first.held else first.held
  brackets_eq : second.brackets = first.brackets
  literals_eq : second.literals = first.literals.map Literal.relaid
  no_cut : Uncut second.breaks

/-- What is held of a literal that is open does not end with a blank. -/
def Settled (reading : Reading Char) : Prop := ∀ c ∈ reading.held.getLast?, isBlank c = false

section Alike
variable {first second : Reading Char} {c : Char} {next other : Option Char} {blanks : List Char}

theorem Alike.leads {after : Mode} {breaks others : List Mode} (h : first.Alike second) (settled : first.Settled)
    (hblank : ∀ c ∈ blanks, isBlank c) (leads : first.mode.Leads next blanks after breaks)
    (leads' : first.mode.Leads next (gap blanks) after others) (uncut : Uncut others)
    (kept : ∀ quote, first.mode.quote? = some quote → quote = backquote ∨ gap blanks = blanks) :
    (first.read next blanks).Alike (second.read next (gap blanks)) := by
  rw [leads.read_eq first rfl, leads'.read_eq second h.mode_eq]
  refine ⟨rfl, ?_, h.brackets_eq, h.literals_eq, uncut_append_iff.2 ⟨h.no_cut, uncut⟩⟩
  simp only [hold, h.mode_eq, h.held_eq, leads.quote?_eq]
  cases hquote : first.mode.quote? with
  | none => rfl
  | some quote =>
    by_cases raw : quote = backquote
    · simp only [raw, if_true, Option.isSome_some]
      rw [relaid_append settled, relaid_of_blank hblank]
    · have same : gap blanks = blanks := (kept quote hquote).resolve_left raw
      simp [raw, same]

/-- A run of blanks and what stays of it lead to the same mode. -/
theorem Alike.read_blanks (h : first.Alike second) (coherent : first.Coherent) (settled : first.Settled)
    (hblank : ∀ c ∈ blanks, isBlank c) (uncut : Uncut (first.read next blanks).breaks) :
    (first.read next blanks).Alike (second.read next (gap blanks)) := by
  by_cases newline : first.mode.isFree ∧ '\n' ∈ blanks
  · obtain ⟨breaks, _, leads⟩ := exists_leads_newline newline.1 newline.2 hblank next
    obtain ⟨others, uncut', leads'⟩ := exists_leads_newline newline.1
      (newline_mem_gap_iff.2 newline.2) (fun c hc => hblank c (gap_subset hc)) next
    refine h.leads settled hblank leads leads' uncut' fun quote hquote => .inl ?_
    have free := newline.1
    cases hmode : first.mode <;> simp_all [Mode.isFree, Mode.quote?]
  · have same : gap blanks = blanks := by
      rw [not_and_or] at newline
      rcases newline with bound | inside
      · exact gap_eq_self coherent (by simpa using bound) hblank uncut
      · exact gap_of_not_mem inside
    obtain ⟨after, breaks, leads, _⟩ := exists_leads_blanks coherent.quote_mem hblank next
    have kept : Uncut breaks := by
      rw [leads.read_eq first rfl] at uncut
      exact (uncut_append_iff.1 uncut).2
    exact h.leads settled hblank leads (same.symm ▸ leads) kept fun _ _ => .inr same

theorem settled_step (coherent : first.Coherent) (hc : isBlank c = false) (next : Option Char) :
    (first.step c c next).Settled := by
  cases hquote : first.mode.quote? with
  | none => simp [Settled, Reading.step, hquote, coherent.held_eq_nil hquote]
  | some quote => cases hafter : (first.mode.after c next).quote? <;> simp [Settled, Reading.step, hquote, hafter, hc]

/-- A character that is no blank is read alike if the mode after it is the same. -/
theorem Alike.step (h : first.Alike second) (coherent : first.Coherent) (hc : isBlank c = false)
    (hnext : first.mode.after c other = first.mode.after c next) :
    (first.step c c next).Alike (second.step c c other) where
  mode_eq := by simp only [Reading.step, h.mode_eq, hnext]
  held_eq := by
    simp only [Reading.step, h.mode_eq, hnext, h.held_eq]
    cases hquote : first.mode.quote? with
    | none => simp [coherent.held_eq_nil hquote, Source.relaid, relaidAfter, gap]
    | some quote =>
      rcases Mode.quote?_after_eq hquote c next with hafter | hafter
      · simp [hafter]
      · have content : Source.relaid (first.held ++ [c]) = Source.relaid first.held ++ [c] :=
          relaidAfter_append_cons hc first.held []
        by_cases raw : quote = backquote <;> simp [hafter, raw, content]
  brackets_eq := by simp only [Reading.step, h.mode_eq, h.brackets_eq]
  literals_eq := by
    simp only [Reading.step, h.mode_eq, hnext, h.literals_eq, h.held_eq]
    cases hquote : first.mode.quote? with
    | none => rfl
    | some quote =>
      rcases Mode.quote?_after_eq hquote c next with hafter | hafter
      · by_cases raw : quote = backquote <;> simp [hafter, raw, Literal.relaid]
      · simp [hafter]
  no_cut := by
    have newline : c ≠ '\n' := (newline_ne hc).symm
    simpa [Reading.step, newline] using h.no_cut

/-- Of what follows a character, the tidied text shows what the text shows. -/
theorem after_head?_relaid (mode : Mode) (c : Char) (next : Option Char) (rest : List Char) :
    mode.after c ((Source.relaid rest).head?.or next) = mode.after c (rest.head?.or next) := by
  cases rest with
  | nil => rfl
  | cons d rest =>
    by_cases blank : isBlank d
    · obtain ⟨e, hhead, hblank⟩ := @exists_blank_of_relaidAfter [d] (by simp) (by simpa using blank) rest
      rw [Source.relaid, relaidAfter_blank d blank, List.nil_append, hhead]
      exact after_congr_next (unseen_of_blank hblank) (unseen_of_blank blank) mode c
    · rw [relaid_cons (by simpa using blank)]
      rfl

/-- A text that cuts no literal short and the tidied text, read from alike readings on, are read alike. -/
theorem Alike.read (h : first.Alike second) (coherent : first.Coherent) (settled : first.Settled)
    (hblank : ∀ c ∈ blanks, isBlank c) {s : List Char} (uncut : Uncut (first.read next (blanks ++ s)).breaks) :
    (first.read next (blanks ++ s)).Alike (second.read next (relaidAfter blanks s)) := by
  -- The blanks are those since the last other character; what stays of them shows at the next one.
  induction s generalizing first second blanks with
  | nil =>
    rw [List.append_nil] at uncut ⊢
    exact h.read_blanks coherent settled hblank uncut
  | cons c rest ih =>
    by_cases hc : isBlank c
    · have longer : blanks ++ c :: rest = blanks ++ [c] ++ rest := by simp
      rw [longer] at uncut ⊢
      rw [relaidAfter_blank c hc]
      exact ih h coherent settled (forall_blank_concat hblank hc) uncut
    · have solid : isBlank c = false := by simpa using hc
      rw [Reading.read_append] at uncut ⊢
      rw [relaidAfter_solid solid, Reading.read_append]
      let between := first.read (some c) blanks
      have alike := h.read_blanks coherent settled hblank (uncut_of_read (s := c :: rest) uncut)
      have coherent' := coherent.read (some c) blanks
      have onward := alike.step coherent' solid (after_head?_relaid between.mode c next rest)
      exact @ih _ _ [] onward (coherent'.step _ _ _) (settled_step coherent' solid _) (by simp) uncut

end Alike
end Reading

section Tidy
variable {s : List Char}

/-- A text reads as without the blanks at its start. -/
theorem Complete.of_blanks_append {blanks : List Char} (h : ∀ c ∈ blanks, isBlank c)
    (complete : Complete (blanks ++ s)) : Complete s ∧
      (Reading.ofText (blanks ++ s)).brackets = (Reading.ofText s).brackets ∧
      (Reading.ofText (blanks ++ s)).literals = (Reading.ofText s).literals := by
  obtain ⟨breaks, _, leads⟩ := @spans_blanks .code blanks rfl rfl h (s.head?.or none)
  have whole : Reading.ofText (blanks ++ s) = Reading.followedBy { breaks } (Reading.ofText s) := by
    rw [Reading.ofText, Reading.read_append, leads.read_eq {} rfl, Reading.ofText, ← Reading.read_followedBy,
      Reading.followedBy_self rfl rfl]
    rfl
  obtain ⟨ends_closed, no_cut⟩ := complete
  rw [whole] at ends_closed no_cut ⊢
  exact ⟨⟨ends_closed, (uncut_append_iff.1 no_cut).2⟩, rfl, rfl⟩

/-- A text reads as without the blanks at its end. -/
theorem complete_append_blanks_iff {blanks : List Char} (h : ∀ c ∈ blanks, isBlank c) (s : List Char) :
    (Complete (s ++ blanks) ↔ Complete s) ∧
      (Reading.ofText (s ++ blanks)).brackets = (Reading.ofText s).brackets ∧
      (Reading.ofText (s ++ blanks)).literals = (Reading.ofText s).literals := by
  have coherent := Reading.coherent_start.read none s
  obtain ⟨after, breaks, leads, closed, uncut⟩ := exists_leads_blanks coherent.quote_mem h none
  have whole : Reading.ofText (s ++ blanks) = (Reading.ofText s).read none blanks := by
    rw [Reading.ofText, Reading.read_append, read_congr_next (unseen_head? h) unseen_none]
    rfl
  rw [leads.read_eq (Reading.ofText s) rfl] at whole
  refine ⟨⟨fun complete => ?_, fun complete => ?_⟩, by rw [whole]; rfl, by rw [whole]; rfl⟩
  · obtain ⟨ends_closed, no_cut⟩ := complete
    rw [whole] at ends_closed no_cut
    exact ⟨closed.symm.trans ends_closed, (uncut_append_iff.1 no_cut).1⟩
  · refine ⟨?_, ?_⟩ <;> rw [whole]
    · exact closed.trans complete.ends_closed
    · exact uncut_append_iff.2 ⟨complete.no_cut, uncut (isFree_of_isClosed complete.ends_closed)⟩

/-- Tidying runs of blanks leaves a text whole, keeps the brackets in its code, and tidies its raw strings. -/
theorem Complete.relaid (h : Complete s) : Complete (Source.relaid s) ∧
    (Reading.ofText (Source.relaid s)).brackets = (Reading.ofText s).brackets ∧
    (Reading.ofText (Source.relaid s)).literals = (Reading.ofText s).literals.map Literal.relaid := by
  have start : Reading.Alike {} {} := ⟨rfl, rfl, rfl, rfl, by simp [Uncut]⟩
  have alike : (Reading.ofText s).Alike (Reading.ofText (Source.relaid s)) :=
    start.read Reading.coherent_start (by simp [Reading.Settled]) (List.forall_mem_nil _) h.no_cut
  exact ⟨⟨by rw [alike.mode_eq]; exact h.ends_closed, alike.no_cut⟩, alike.brackets_eq, alike.literals_eq⟩

/-- Tidying a text leaves it whole, keeps the brackets in its code, and tidies its raw strings with it. -/
theorem Complete.tidy (h : Complete s) : Complete (Source.tidy s) ∧
    (Reading.ofText (Source.tidy s)).brackets = (Reading.ofText s).brackets ∧
    (Reading.ofText (Source.tidy s)).literals = (Reading.ofText s).literals.map Literal.relaid := by
  obtain ⟨before, after, hs, blankBefore, blankAfter⟩ := exists_trim s
  rw [hs] at h
  obtain ⟨onward, brackets, literals⟩ := h.of_blanks_append blankBefore
  rw [← hs] at brackets literals
  obtain ⟨ends, brackets', literals'⟩ := complete_append_blanks_iff blankAfter (trim s)
  rw [brackets, brackets', literals, literals']
  obtain ⟨inner, kept, tidied⟩ := (ends.1 onward).relaid
  by_cases blank : trim s = []
  · rw [blank] at inner ⊢
    rw [tidy_of_trim blank]
    exact ⟨inner, rfl, rfl⟩
  · have feed : ∀ c ∈ ['\n'], isBlank c := by
      intro c hc
      rw [List.mem_singleton.1 hc]
      rfl
    obtain ⟨ended, kept', tidied'⟩ := complete_append_blanks_iff feed (Source.relaid (trim s))
    rw [tidy_eq blank]
    exact ⟨ended.2 inner, kept'.trans kept, tidied'.trans tidied⟩

/-- Where no line ends in a literal, no literal holds a line feed. -/
theorem newline_not_mem_content {reading : Reading Char} {next : Option Char} (held : '\n' ∉ reading.held)
    (earlier : ∀ item ∈ reading.literals, '\n' ∉ item.content)
    (h : ∀ mode ∈ (reading.read next s).breaks, mode.quote? = none) :
    ∀ item ∈ (reading.read next s).literals, '\n' ∉ item.content := by
  induction s generalizing reading with
  | nil => exact earlier
  | cons c rest ih =>
    have outside : c = '\n' → reading.mode.quote? = none := by
      rintro rfl
      exact h reading.mode (mode_mem_breaks reading next rest)
    refine ih ?_ ?_ h
    · cases hquote : reading.mode.quote? with
      | none => simpa [Reading.step, hquote] using held
      | some quote =>
        have inside : '\n' ≠ c := fun newline => by simp [outside newline.symm] at hquote
        cases hafter : (reading.mode.after c (rest.head?.or next)).quote? <;>
          simp [Reading.step, hquote, hafter, held, inside]
    · intro item hitem
      simp only [Reading.step] at hitem
      split at hitem
      · rcases List.mem_append.1 hitem with hitem | hitem
        · exact earlier item hitem
        · rw [List.mem_singleton.1 hitem]
          exact held
      · exact earlier item hitem

/-- A text in which no line ends in a literal keeps all its literals. -/
theorem Complete.literals_tidy (h : Complete s) (hbreaks : ∀ mode ∈ (Reading.ofText s).breaks, mode.quote? = none) :
    (Reading.ofText (Source.tidy s)).literals = (Reading.ofText s).literals := by
  have inside := @newline_not_mem_content s {} none (by simp) (by simp) hbreaks
  have kept : ∀ item ∈ (Reading.ofText s).literals, item.relaid = item := by
    intro item hitem
    rw [Literal.relaid, (relaid_eq_self_iff _).2 (laidOut_of_not_mem (inside item hitem))]
    split <;> rfl
  rw [h.tidy.2.2, List.map_congr_left kept, List.map_id']

theorem checkBrackets_tidy (h : checkBrackets s = .ok ()) : checkBrackets (tidy s) = .ok () := by
  obtain ⟨complete, brackets, _⟩ := (complete_of_checkBrackets h).tidy
  rw [checkBrackets_eq_ok_iff] at h ⊢
  exact ⟨complete.ends_closed, complete.no_cut, by rw [brackets, h.nested]⟩

end Tidy
end RecordAccess.Source
