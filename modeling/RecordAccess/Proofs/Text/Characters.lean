import RecordAccess.Proofs.Source.Outline
import RecordAccess.Proofs.Text.Trimming
import RecordAccess.Sql.Statement
import RecordAccess.Text.Letters

/-!
# The characters of texts

A text that is put together from texts of certain characters has only those. The characters of
identifiers are plain: none of them is a blank, and none means something to the bracket check.
-/
namespace RecordAccess.Text

open Source

/-- Every character of the text passes. -/
def Only (passes : Char → Bool) (s : String) : Prop := ∀ c ∈ s.toList, passes c

instance (passes : Char → Bool) (s : String) : Decidable (Only passes s) :=
  decidable_of_iff (s.toList.all passes = true) List.all_eq_true

section Only
variable {passes : Char → Bool}

theorem only_append {s t : String} : Only passes (s ++ t) ↔ Only passes s ∧ Only passes t := by
  simp [Only, or_imp, forall_and]

theorem only_empty : Only passes "" := by simp [Only]

theorem only_intercalate {separator : String} {items : List String} (hsep : Only passes separator)
    (h : ∀ item ∈ items, Only passes item) : Only passes (String.intercalate separator items) := by
  induction items with
  | nil => simpa using only_empty
  | cons first rest ih =>
    have hrest := ih fun item hitem => h item (List.mem_cons_of_mem _ hitem)
    have hfirst := h first List.mem_cons_self
    cases rest with
    | nil => simpa using hfirst
    | cons second rest =>
      rw [String.intercalate_cons_cons, only_append, only_append]
      exact ⟨⟨hfirst, hsep⟩, hrest⟩

theorem only_toString (hdigit : ∀ c : Char, c.isDigit → passes c) (n : Nat) :
    Only passes (toString n) := by
  intro c hc
  rw [Nat.toString_eq_repr, Nat.toList_repr] at hc
  exact hdigit c (Nat.isDigit_of_mem_toDigits (by decide) (by decide) hc)

end Only

/-- Whether the bracket check reads the character as any other, in code, line comments and literals. -/
def isPlain (c : Char) : Bool := c ≠ '\n' && !specials.contains c

/-- Whether the character leaves a raw string open and does not end its line. -/
def staysRaw (c : Char) : Bool := Mode.raw.keeps c

/-- A character that passes is none of some that do not. -/
theorem not_mem_of_all_not {passes : Char → Bool} {others : List Char} (h : others.all fun d => !passes d) {c : Char}
    (hc : passes c) : c ∉ others := by
  intro hmem
  have := List.all_eq_true.1 h c hmem
  simp [hc] at this

theorem isPlain_iff {c : Char} : isPlain c ↔ c ∉ '\n' :: specials := by simp [isPlain]

theorem staysRaw_iff {c : Char} : staysRaw c ↔ c ∉ ['\n', backquote] := by simp [staysRaw, Mode.keeps]

theorem keeps_of_isPlain {c : Char} (h : isPlain c) {mode : Mode}
    (hmode : mode = .code ∨ mode = .lineComment ∨ mode = .literal doubleQuote) : mode.keeps c := by
  rcases hmode with rfl | rfl | rfl <;> simp_all [isPlain, Mode.keeps, specials, quotes]

section Identifiers

theorem isPlain_of_continuesIdentifier {c : Char} (h : continuesIdentifier c) : isPlain c :=
  isPlain_iff.2 (not_mem_of_all_not (by decide) h)

theorem continuesIdentifier_of_mem {name : List Char} (h : isIdentifier name) :
    ∀ c ∈ name, continuesIdentifier c := by
  cases name with
  | nil => simp
  | cons first rest =>
    obtain ⟨starts, continues⟩ := (isIdentifier_cons first rest).1 h
    intro c hc
    rcases List.mem_cons.1 hc with rfl | hc
    · simp only [startsIdentifier, Bool.or_eq_true] at starts
      rcases starts with letter | underscore
      · simp [continuesIdentifier, letter]
      · simp [continuesIdentifier, underscore]
    · exact continues c hc

theorem only_plain_of_isIdentifier {name : String} (h : isIdentifier name.toList) : Only isPlain name :=
  fun c hc => isPlain_of_continuesIdentifier (continuesIdentifier_of_mem h c hc)

def blankPoints : List Nat :=
  [9, 10, 11, 12, 13, 32, 0x85, 0xA0, 0x1680, 0x2000, 0x2001, 0x2002, 0x2003, 0x2004, 0x2005, 0x2006,
    0x2007, 0x2008, 0x2009, 0x200A, 0x2028, 0x2029, 0x202F, 0x205F, 0x3000]

theorem toNat_mem_blankPoints {c : Char} (h : isBlank c) : c.toNat ∈ blankPoints := by
  simp only [isBlank, Bool.or_eq_true, Bool.and_eq_true, decide_eq_true_eq, beq_iff_eq] at h
  simp only [blankPoints, List.mem_cons, List.not_mem_nil, or_false]
  omega

theorem not_isBlank_of_continuesIdentifier {c : Char} (h : continuesIdentifier c) :
    isBlank c = false := by
  have others : ∀ n ∈ blankPoints, continuesIdentifier (Char.ofNat n) = false := by decide +kernel
  rw [Bool.eq_false_iff]
  intro blank
  have := others c.toNat (toNat_mem_blankPoints blank)
  rw [Char.ofNat_toNat] at this
  simp [this] at h

theorem trim_of_isIdentifier {name : List Char} (h : isIdentifier name) : trim name = name := by
  have visible : ∀ c ∈ name, isBlank c = false := fun c hc =>
    not_isBlank_of_continuesIdentifier (continuesIdentifier_of_mem h c hc)
  exact trim_eq_self (fun c hc => visible c (List.mem_of_mem_head? hc))
    fun c hc => visible c (List.mem_of_getLast? hc)

end Identifiers

end RecordAccess.Text
