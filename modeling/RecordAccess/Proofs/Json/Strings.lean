import RecordAccess.Json.Literal
import RecordAccess.Proofs.Json.Grammar

/-!
# Strings are read in every spelling

A reader that meets a spelling of a string gives the string and what stands after the closing quote. To pass
over a string, its escapes need not stand for characters.
-/
namespace RecordAccess.Json

theorem isGap_iff {c : Char} : isGap c ↔ c ∈ [' ', '\t', '\n', '\r'] := by
  simp only [isGap, Bool.or_eq_true, beq_iff_eq, List.mem_cons, List.not_mem_nil, or_false]
  tauto

theorem Gap.skipGap_append {gap : List Char} (h : Gap gap) (s : List Char) :
    skipGap (gap ++ s) = skipGap s :=
  List.dropWhile_append_of_pos fun c hc => isGap_iff.2 (h c hc)

theorem gap_nil : Gap [] := by simp [Gap]

section Escapes

theorem HexDigit.digitIn?_eq {c : Char} {n : Nat} (h : HexDigit c n) : Number.digitIn? 16 c = some n := by
  have table : ∀ row ∈ ["0123456789abcdef".toList, "0123456789ABCDEF".toList], ∀ n < 16,
      row[n]?.all (fun c => Number.digitIn? 16 c = some n) := by decide
  have found : ∀ row ∈ ["0123456789abcdef".toList, "0123456789ABCDEF".toList],
      row[n]? = some c → Number.digitIn? 16 c = some n := by
    intro row hrow hc
    have short : n < 16 := by
      have := (List.getElem?_eq_some_iff.1 hc).choose
      rcases List.mem_pair.1 hrow with rfl | rfl <;> exact this
    simpa [hc] using table row hrow n short
  rcases h with h | h
  · exact found _ (by simp) h
  · exact found _ (by simp) h

theorem UnitText.readUnit_append {n : Nat} {digits : List Char} (h : UnitText n digits) (s : List Char) :
    readUnit (digits ++ s) = .ok (n, s) := by
  cases h with
  | digits ha hb hc hd =>
    simp only [readUnit, List.cons_append, List.nil_append, hexNumber?, ha.digitIn?_eq, hb.digitIn?_eq,
      hc.digitIn?_eq, hd.digitIn?_eq, Option.bind_some]
    congr 2
    omega

theorem escaped?_of_mem {letter c : Char} (h : (letter, c) ∈ shortEscapes) :
    escaped? letter = some c ∧ letter ≠ 'u' := by
  have table : ∀ entry ∈ shortEscapes, escaped? entry.1 = some entry.2 ∧ entry.1 ≠ 'u' := by decide
  exact table _ h

theorem readEscape_short {letter c : Char} (h : (letter, c) ∈ shortEscapes) (s : List Char) :
    readEscape (letter :: s) = .ok (c, s) := by
  obtain ⟨escaped, other⟩ := escaped?_of_mem h
  unfold readEscape
  split
  · next heq => simp at heq
  · next heq => exact absurd (List.cons.inj heq).1 other
  · next heq =>
    obtain ⟨rfl, rfl⟩ := List.cons.inj heq
    rw [escaped]

/-- No character has the number of a half. -/
theorem not_isHalf_toNat (c : Char) : isLowHalf c.toNat = false ∧ isHighHalf c.toNat = false := by
  have valid : c.toNat < 0xD800 ∨ 0xDFFF < c.toNat ∧ c.toNat < 0x110000 := c.valid
  simp only [isLowHalf, isHighHalf, Bool.and_eq_false_iff, decide_eq_false_iff_not]
  omega

theorem readEscape_unit {c : Char} {digits : List Char} (h : UnitText c.toNat digits) (s : List Char) :
    readEscape ('u' :: digits ++ s) = .ok (c, s) := by
  obtain ⟨low, high⟩ := not_isHalf_toNat c
  simp only [readEscape, List.cons_append, h.readUnit_append, low, high, Bool.false_eq_true, if_false,
    Char.ofNat_toNat]

theorem readEscape_halves {c : Char} {high low : Nat} {first second : List Char}
    (hhigh : 0xD800 ≤ high ∧ high ≤ 0xDBFF) (hlow : 0xDC00 ≤ low ∧ low ≤ 0xDFFF)
    (hfirst : UnitText high first) (hsecond : UnitText low second)
    (h : c.toNat = 0x10000 + (high - 0xD800) * 0x400 + (low - 0xDC00)) (s : List Char) :
    readEscape ('u' :: first ++ '\\' :: 'u' :: second ++ s) = .ok (c, s) := by
  have lowHigh : isLowHalf high = false := by
    simp only [isLowHalf, Bool.and_eq_false_iff, decide_eq_false_iff_not]
    omega
  have highHigh : isHighHalf high = true := by simp [isHighHalf, hhigh]
  have lowLow : isLowHalf low = true := by simp [isLowHalf, hlow]
  have joined : joinHalves high low = c := by rw [joinHalves, ← h, Char.ofNat_toNat]
  simp only [readEscape, List.cons_append, List.append_assoc, hfirst.readUnit_append, lowHigh, highHigh,
    readLowHalf, hsecond.readUnit_append, lowLow, joined, Bool.false_eq_true, if_false, if_true]

end Escapes

section Bodies

theorem Plain.isControl_eq {c : Char} (h : Plain c) : isControl c = false := by
  have := h.1
  simp only [isControl, decide_eq_false_iff_not]
  omega

theorem readBody_plain {c : Char} (h : Plain c) (s : List Char) :
    readBody (c :: s) = (readBody s).map fun (body, rest) => (c :: body, rest) := by
  rw [readBody, h.isControl_eq]
  · rfl
  · exact h.2.1
  · exact h.2.2

theorem readBody_escape {c : Char} {s rest : List Char} (h : readEscape s = .ok (c, rest)) :
    readBody ('\\' :: s) = (readBody rest).map fun (body, rest) => (c :: body, rest) := by
  rw [readBody]
  split
  · next hstop => simp [h] at hstop
  · next hread =>
    rw [h, Except.ok.injEq, Prod.mk.injEq] at hread
    rw [hread.1, hread.2]

theorem CharText.readBody_append {c : Char} {part : List Char} (h : CharText c part) (s : List Char) :
    readBody (part ++ s) = (readBody s).map fun (body, rest) => (c :: body, rest) := by
  cases h with
  | plain h => exact readBody_plain h s
  | short h => exact readBody_escape (readEscape_short h s)
  | unit h => exact readBody_escape (readEscape_unit h s)
  | halves hhigh hlow hfirst hsecond h =>
    exact readBody_escape (readEscape_halves hhigh hlow hfirst hsecond h s)

theorem BodyText.readBody_append {chars text : List Char} (h : BodyText chars text) (rest : List Char) :
    readBody (text ++ '"' :: rest) = .ok (chars, rest) := by
  induction h with
  | nil => rw [List.nil_append, readBody]
  | cons h _ ih =>
    rw [List.append_assoc, h.readBody_append, ih]
    rfl

theorem BodyText.readString_append {s : String} {text : List Char} (h : BodyText s.toList text)
    (rest : List Char) : readString (text ++ '"' :: rest) = .ok (s, rest) := by
  rw [readString, h.readBody_append]
  simp [Except.map]

theorem skipString_plain {c : Char} (h : Plain c) (s : List Char) : skipString (c :: s) = skipString s := by
  rw [skipString, h.isControl_eq]
  · rfl
  · exact h.2.1
  · exact h.2.2

theorem skipString_escape {s rest : List Char} (h : skipEscape s = .ok rest) :
    skipString ('\\' :: s) = skipString rest := by
  rw [skipString]
  split
  · next hstop => simp [h] at hstop
  · next hskip =>
    rw [h, Except.ok.injEq] at hskip
    rw [hskip]

theorem skipEscape_short {letter c : Char} (h : (letter, c) ∈ shortEscapes) (s : List Char) :
    skipEscape (letter :: s) = .ok s := by
  obtain ⟨escaped, other⟩ := escaped?_of_mem h
  unfold skipEscape
  split
  · next heq => simp at heq
  · next heq => exact absurd (List.cons.inj heq).1 other
  · next heq =>
    obtain ⟨rfl, rfl⟩ := List.cons.inj heq
    rw [escaped]
    rfl

theorem skipEscape_unit {n : Nat} {digits : List Char} (h : UnitText n digits) (s : List Char) :
    skipEscape ('u' :: (digits ++ s)) = .ok s := by
  rw [skipEscape, h.readUnit_append]
  rfl

theorem LooseBody.skipString_append {text : List Char} (h : LooseBody text) (rest : List Char) :
    skipString (text ++ '"' :: rest) = .ok rest := by
  induction h with
  | nil => rw [List.nil_append, skipString]
  | plain h _ ih => rw [List.cons_append, skipString_plain h, ih]
  | short h _ ih => rw [List.cons_append, List.cons_append, skipString_escape (skipEscape_short h _), ih]
  | unit h _ ih =>
    rw [List.cons_append, List.cons_append, List.append_assoc, List.cons_append,
      skipString_escape (skipEscape_unit h _), ih]

end Bodies

end RecordAccess.Json
