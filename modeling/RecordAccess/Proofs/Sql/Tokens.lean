import RecordAccess.Proofs.Text.Characters

/-!
# The tokens of statements

A statement is read as words and marks. A word is as long as its characters reach, blanks only set
words apart, and every other character is a mark of its own. Texts that a blank or a mark sets apart
have their tokens one after the other.
-/
namespace RecordAccess.Sql

open Text

inductive Token where
  | word (text : String)
  | mark (c : Char)
  deriving DecidableEq, Repr

/-- Whether the character can stand in a word: a name, a keyword or a placeholder. -/
def inWord (c : Char) : Bool := continuesIdentifier c || c == '$'

/-- The tokens after the characters of a word, which they end. -/
def closed : List Char × List Token → List Token
  | ([], rest) => rest
  | (letters, rest) => .word (String.ofList letters) :: rest

/-- Reads from the right: the characters of the word at the start, and the tokens after it. -/
def scan : List Char → List Char × List Token
  | [] => ([], [])
  | c :: rest =>
    if inWord c then (c :: (scan rest).1, (scan rest).2)
    else ([], if isBlank c then closed (scan rest) else .mark c :: closed (scan rest))

def tokens (s : String) : List Token := closed (scan s.toList)

/-- The text starts with no character of a word. -/
def Loose (s : String) : Prop := s.toList.head?.all fun c => !inWord c

/-- The text has something at both ends that is in no word. -/
def Separates (s : String) : Prop :=
  (s.toList.head?.any fun c => !inWord c) ∧ (s.toList.getLast?.any fun c => !inWord c)

instance (s : String) : Decidable (Loose s) := inferInstanceAs (Decidable (_ = true))

instance (s : String) : Decidable (Separates s) := inferInstanceAs (Decidable (_ ∧ _))

theorem closed_append (letters : List Char) (first rest : List Token) :
    closed (letters, first ++ rest) = closed (letters, first) ++ rest := by
  cases letters <;> rfl

theorem scan_append (first : List Char) {rest : List Char} (h : (scan rest).1 = []) :
    scan (first ++ rest) = ((scan first).1, (scan first).2 ++ closed (scan rest)) := by
  induction first with
  | nil =>
    cases hscan : scan rest with
    | mk letters after =>
      rw [hscan] at h
      simp only at h
      rw [List.nil_append, hscan, h]
      rfl
  | cons c first ih =>
    simp only [List.cons_append, scan, ih]
    by_cases hc : inWord c
    · simp only [if_pos hc]
    · simp only [if_neg hc, closed_append]
      split <;> rfl

theorem tokens_append_of_loose (s : String) {t : String} (h : Loose t) :
    tokens (s ++ t) = tokens s ++ tokens t := by
  have start : (scan t.toList).1 = [] := by
    unfold Loose at h
    cases hlist : t.toList with
    | nil => rfl
    | cons c rest =>
      rw [hlist] at h
      have hc : inWord c = false := by simpa using h
      simp [scan, hc]
  rw [tokens, String.toList_append, scan_append _ start, closed_append]
  rfl

theorem tokens_append_of_last {s : String} (h : s.toList.getLast?.any fun c => !inWord c) (t : String) :
    tokens (s ++ t) = tokens s ++ tokens t := by
  -- The last character is split off: no word goes across it, so it is loose after what is before it.
  obtain ⟨front, c, hs⟩ : ∃ front c, s.toList = front ++ [c] := by
    rcases List.eq_nil_or_concat s.toList with hnil | ⟨front, c, hs⟩
    · simp [hnil] at h
    · exact ⟨front, c, by rw [hs, List.concat_eq_append]⟩
  have hc : inWord c = false := by simpa [hs] using h
  have start : ∀ rest, (scan (c :: rest)).1 = [] := by simp [scan, hc]
  have after : ∀ rest, closed (scan (c :: rest)) = closed (scan [c]) ++ closed (scan rest) := by
    intro rest
    cases hblank : isBlank c <;> simp [scan, hc, hblank, closed]
  simp only [tokens, String.toList_append, hs, List.append_assoc, List.singleton_append]
  rw [scan_append _ (start _), scan_append _ (start _), closed_append, closed_append, after,
    List.append_assoc]

theorem Separates.loose_append {s : String} (h : Separates s) (t : String) : Loose (s ++ t) := by
  unfold Loose
  cases hlist : s.toList with
  | nil => simp [Separates, hlist] at h
  | cons c rest => simpa [Separates, hlist] using h.1

theorem tokens_separated {separator : String} (h : Separates separator) (s t : String) :
    tokens (s ++ (separator ++ t)) = tokens s ++ (tokens separator ++ tokens t) := by
  rw [tokens_append_of_loose s (h.loose_append t), tokens_append_of_last h.2]

theorem tokens_intercalate {separator : String} (h : Separates separator) (items : List String) :
    tokens (String.intercalate separator items) =
      List.intercalate (tokens separator) (items.map tokens) := by
  induction items with
  | nil => rfl
  | cons first rest ih =>
    cases rest with
    | nil => simp
    | cons second rest =>
      rw [String.intercalate_cons_cons, String.append_assoc, tokens_separated h, ih]
      simp

theorem tokens_of_word {s : String} (hne : s ≠ "") (h : Only inWord s) : tokens s = [.word s] := by
  have scanned : ∀ letters : List Char, (∀ c ∈ letters, inWord c) → scan letters = (letters, []) := by
    intro letters hletters
    induction letters with
    | nil => rfl
    | cons c rest ih =>
      have hc := hletters c List.mem_cons_self
      simp [scan, hc, ih fun d hd => hletters d (List.mem_cons_of_mem _ hd)]
  rw [tokens, scanned _ h]
  cases hlist : s.toList with
  | nil => exact absurd (String.toList_eq_nil_iff.1 hlist) hne
  | cons c rest =>
    have word : closed (c :: rest, []) = [.word (String.ofList (c :: rest))] := rfl
    rw [word, ← hlist, String.ofList_toList]

end RecordAccess.Sql
