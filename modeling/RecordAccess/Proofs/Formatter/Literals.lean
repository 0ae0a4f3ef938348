import RecordAccess.Proofs.Formatter.NormalForm

/-!
# Literals in a checked text

The checking formatter alters blanks only, and those in literals only where a raw string spans lines. There a run of
blanks is laid out as anywhere else in the text, and the value of the string changes with it.
-/
namespace RecordAccess

namespace Source
open Text

theorem filter_of_blank {s : List Char} (h : ∀ c ∈ s, isBlank c) : s.filter (!isBlank ·) = [] := by
  rw [List.filter_eq_nil_iff]
  intro c hc
  simp [h c hc]

theorem filter_gap {blanks : List Char} (h : ∀ c ∈ blanks, isBlank c) : (gap blanks).filter (!isBlank ·) = [] :=
  filter_of_blank fun c hc => h c (gap_subset hc)

theorem filter_relaidAfter {blanks : List Char} (h : ∀ c ∈ blanks, isBlank c) (s : List Char) :
    (relaidAfter blanks s).filter (!isBlank ·) = s.filter (!isBlank ·) := by
  induction s generalizing blanks with
  | nil => exact filter_gap h
  | cons c rest ih =>
    by_cases hc : isBlank c
    · rw [relaidAfter_blank c hc, ih (forall_blank_concat h hc), List.filter_cons_of_neg (by simp [hc])]
    · have solid : isBlank c = false := by simpa using hc
      have onward : (relaid rest).filter (!isBlank ·) = rest.filter (!isBlank ·) := ih (List.forall_mem_nil _)
      rw [relaidAfter_solid solid, List.filter_append, filter_gap h, List.filter_cons_of_pos (by simp [solid]),
        List.filter_cons_of_pos (by simp [solid]), onward, List.nil_append]

theorem filter_tidy (s : List Char) : (tidy s).filter (!isBlank ·) = s.filter (!isBlank ·) := by
  obtain ⟨before, after, hs, blankBefore, blankAfter⟩ := exists_trim s
  have outside : s.filter (!isBlank ·) = (trim s).filter (!isBlank ·) := by
    conv => lhs; rw [hs]
    rw [List.filter_append, List.filter_append, filter_of_blank blankBefore, filter_of_blank blankAfter,
      List.nil_append, List.append_nil]
  rw [outside]
  by_cases blank : trim s = []
  · rw [tidy_of_trim blank, blank]
  · have inside : (relaid (trim s)).filter (!isBlank ·) = (trim s).filter (!isBlank ·) :=
      filter_relaidAfter (by simp) (trim s)
    rw [tidy_eq blank, List.filter_append, inside]
    exact List.append_nil _

/-- Tidying keeps the literals exactly if each raw string is laid out. -/
theorem map_relaid_eq_iff (items : List (Literal Char)) :
    items.map Literal.relaid = items ↔ ∀ item ∈ items, item.quote = backquote → LaidOut item.content := by
  have kept : ∀ item : Literal Char, item.relaid = item ↔ (item.quote = backquote → LaidOut item.content) := by
    intro item
    rw [← relaid_eq_self_iff]
    by_cases raw : item.quote = backquote
    · obtain ⟨quote, text⟩ := item
      obtain rfl : quote = backquote := raw
      simp [Literal.relaid]
    · simp [Literal.relaid, raw]
  induction items with
  | nil => simp
  | cons item rest ih => simp only [List.map_cons, List.cons.injEq, kept, ih, List.forall_mem_cons]

end Source

namespace Formatter
open Source Text

/-- What the check gives splits into tokens as the source does. Their literals are the same in their order, but that
in raw strings a run of blanks with a line feed is left with at most two line feeds and the blanks after the last;
so they are the same altogether exactly if each raw string is laid out like this. Of all other characters only
blanks come and go. -/
theorem check_keeps_literals {source text : String} (h : check source = .ok text) :
    (∃ tokens, Splits source.toList tokens) ∧ (∃ tokens, Splits text.toList tokens) ∧
    (∀ tokens others, Splits source.toList tokens → Splits text.toList others →
      others.filterMap Token.literal? = (tokens.filterMap Token.literal?).map Literal.relaid ∧
      (others.filterMap Token.literal? = tokens.filterMap Token.literal? ↔
        ∀ item ∈ tokens.filterMap Token.literal?, item.quote = backquote → LaidOut item.content)) ∧
    text.toList.filter (!isBlank ·) = source.toList.filter (!isBlank ·) := by
  obtain ⟨_, brackets, htext⟩ := check_eq_ok_iff.1 h
  have complete := complete_of_checkBrackets brackets
  obtain ⟨tidied, _, literals⟩ := complete.tidy
  rw [← htext] at tidied literals
  refine ⟨complete.exists_splits, tidied.exists_splits, fun tokens others splits splits' => ?_, ?_⟩
  · have mapped : others.filterMap Token.literal? = (tokens.filterMap Token.literal?).map Literal.relaid := by
      rw [← splits.reads.literals_eq, ← splits'.reads.literals_eq, literals]
    exact ⟨mapped, by rw [mapped]; exact map_relaid_eq_iff _⟩
  · rw [htext, filter_tidy]

/-- The string keeps its line feed, which a backslash takes; the raw string loses blanks and an empty line. -/
theorem check_keeps_literals_corners :
    let source := "package p\nvar a = \"x  \\\n \" \nvar b = \x60x \u00a0\n\t\r\n\n\n  y\x60\n"
    let text := "package p\nvar a = \"x  \\\n \"\nvar b = \x60x\n\n  y\x60\n"
    check source = .ok text ∧ ∃ tokens others, Splits source.toList tokens ∧ Splits text.toList others ∧
      tokens.filterMap Token.literal? =
        [⟨doubleQuote, "x  \\\n ".toList⟩, ⟨backquote, "x \u00a0\n\t\r\n\n\n  y".toList⟩] ∧
      others.filterMap Token.literal? = [⟨doubleQuote, "x  \\\n ".toList⟩, ⟨backquote, "x\n\n  y".toList⟩] := by
  intro source text
  have checked : check source = .ok text := by
    rw [check_eq_ok_iff]
    exact ⟨by decide +kernel, by decide +kernel, by decide +kernel⟩
  obtain ⟨⟨tokens, splits⟩, ⟨others, splits'⟩, kept, _⟩ := check_keeps_literals checked
  have read : tokens.filterMap Token.literal? =
      [⟨doubleQuote, "x  \\\n ".toList⟩, ⟨backquote, "x \u00a0\n\t\r\n\n\n  y".toList⟩] := by
    rw [← splits.reads.literals_eq]
    decide +kernel
  refine ⟨checked, tokens, others, splits, splits', read, ?_⟩
  rw [(kept tokens others splits splits').1, read]
  decide +kernel

/-- A raw string loses the blanks at the end of a line, and empty lines. -/
theorem check_alters_raw_string :
    let source := "package p\nvar a = \x60x  \n\n\ny\x60\n"
    let text := "package p\nvar a = \x60x\n\ny\x60\n"
    check source = .ok text ∧ ∃ tokens others, Splits source.toList tokens ∧ Splits text.toList others ∧
      tokens.filterMap Token.literal? = [⟨backquote, "x  \n\n\ny".toList⟩] ∧
      others.filterMap Token.literal? = [⟨backquote, "x\n\ny".toList⟩] ∧
      others.filterMap Token.literal? ≠ tokens.filterMap Token.literal? := by
  intro source text
  have balanced : checkBrackets source.toList = .ok () := by decide +kernel
  have kept : checkBrackets text.toList = .ok () := by decide +kernel
  obtain ⟨tokens, splits⟩ := (complete_of_checkBrackets balanced).exists_splits
  obtain ⟨others, splits'⟩ := (complete_of_checkBrackets kept).exists_splits
  have checked : check source = .ok text := check_eq_ok_iff.2 ⟨by decide +kernel, balanced, by decide +kernel⟩
  refine ⟨checked, tokens, others, splits, splits', ?_⟩
  rw [← splits.reads.literals_eq, ← splits'.reads.literals_eq]
  exact ⟨by decide +kernel, by decide +kernel, by decide +kernel⟩

end Formatter
end RecordAccess
