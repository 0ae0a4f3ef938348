import Mathlib.Data.List.Chain
import RecordAccess.Proofs.Text.Characters

/-!
# Predicates and how they are read

Conditions put together with `AND`, `OR`, `NOT` and parentheses. In a predicate as it is read, `NOT`
binds closer than `AND` and `AND` closer than `OR`: there is one kind of tree for each level, and a tree
of a level has trees of closer levels below it. So the words of a predicate are read in one way only.
Truth has three values, as a condition on a missing value is neither true nor false.
-/
namespace RecordAccess.Sql

inductive Truth where
  | no
  | unknown
  | yes
  deriving DecidableEq, Repr

namespace Truth

def not : Truth → Truth
  | no => yes
  | unknown => unknown
  | yes => no

def and : Truth → Truth → Truth
  | no, _ => no
  | yes, other => other
  | unknown, no => no
  | unknown, _ => unknown

def or : Truth → Truth → Truth
  | yes, _ => yes
  | no, other => other
  | unknown, yes => yes
  | unknown, _ => unknown

end Truth

/-- A word of a predicate. A condition is one word, whatever its text. -/
inductive Word where
  | condition (text : String)
  | and
  | or
  | not
  | opening
  | closing
  deriving DecidableEq, Repr

def Word.text : Word → String
  | condition text => text
  | and => "AND"
  | or => "OR"
  | not => "NOT"
  | opening => "("
  | closing => ")"

/-- How close the parts of a predicate are bound, the closest first. -/
inductive Level where
  | primary
  | negation
  | conjunction
  | disjunction

inductive Reading : Level → Type where
  | condition (text : String) : Reading .primary
  | group (inner : Reading .disjunction) : Reading .primary
  | primary (read : Reading .primary) : Reading .negation
  | not (read : Reading .negation) : Reading .negation
  | negation (read : Reading .negation) : Reading .conjunction
  | and (first : Reading .negation) (others : Reading .conjunction) : Reading .conjunction
  | conjunction (read : Reading .conjunction) : Reading .disjunction
  | or (first : Reading .conjunction) (others : Reading .disjunction) : Reading .disjunction

/-- A predicate as it is read. -/
abbrev Predicate := Reading .disjunction

namespace Reading

/-- The words of what is read, from left to right. -/
@[simp] def words {level : Level} : Reading level → List Word
  | condition text => [.condition text]
  | group inner => .opening :: (inner.words ++ [.closing])
  | primary read => read.words
  | not read => .not :: read.words
  | negation read => read.words
  | and first others => first.words ++ .and :: others.words
  | conjunction read => read.words
  | or first others => first.words ++ .or :: others.words

/-- The truth of what is read when the conditions have the given truths. -/
def value (truth : String → Truth) {level : Level} : Reading level → Truth
  | condition text => truth text
  | group inner => inner.value truth
  | primary read => read.value truth
  | not read => (read.value truth).not
  | negation read => read.value truth
  | and first others => (first.value truth).and (others.value truth)
  | conjunction read => read.value truth
  | or first others => (first.value truth).or (others.value truth)

/-- The words do not go on with what is read at the level. -/
@[simp] def Stops : Level → List Word → Prop
  | .primary, _ | .negation, _ => True
  | .conjunction, rest => rest.head? ≠ some .and
  | .disjunction, rest => rest.head? ≠ some .and ∧ rest.head? ≠ some .or

theorem words_primary_ne_not (read : Reading .primary) (rest others : List Word) :
    read.words ++ rest ≠ .not :: others := by
  cases read <;> simp

/-- Words that start with this reading start with no other one, if both end where no word goes on. -/
def Unmistaken {level : Level} (first : Reading level) : Prop :=
  ∀ (second : Reading level) (after after' : List Word), Stops level after → Stops level after' →
    first.words ++ after = second.words ++ after' → first = second ∧ after = after'

section Parts

theorem unmistaken_condition (text : String) : (condition text).Unmistaken := by
  intro second after after' _ _ h
  cases second with
  | condition other =>
    simp only [words, List.singleton_append, List.cons.injEq, Word.condition.injEq] at h
    exact ⟨by rw [h.1], h.2⟩
  | group inner => simp at h

theorem unmistaken_group {inner : Predicate} (ih : inner.Unmistaken) : (group inner).Unmistaken := by
  intro second after after' _ _ h
  cases second with
  | condition other => simp at h
  | group other =>
    simp only [words, List.cons_append, List.append_assoc, List.cons.injEq, true_and,
      List.nil_append] at h
    -- The closing parenthesis ends what is inside.
    obtain ⟨rfl, hafter⟩ := ih other (.closing :: after) (.closing :: after') (by simp) (by simp) h
    exact ⟨rfl, (List.cons.inj hafter).2⟩

variable {closest : Reading .primary} {first : Reading .negation} {others : Reading .conjunction}

theorem unmistaken_primary (ih : closest.Unmistaken) : (primary closest).Unmistaken := by
  intro second after after' _ _ h
  cases second with
  | primary other =>
    obtain ⟨rfl, hafter⟩ := ih other after after' trivial trivial h
    exact ⟨rfl, hafter⟩
  | not other => exact absurd h (words_primary_ne_not closest _ _)

theorem unmistaken_not (ih : first.Unmistaken) : (not first).Unmistaken := by
  intro second after after' _ _ h
  cases second with
  | primary other => exact absurd h.symm (words_primary_ne_not other _ _)
  | not other =>
    obtain ⟨rfl, hafter⟩ := ih other after after' trivial trivial (List.cons.inj h).2
    exact ⟨rfl, hafter⟩

theorem unmistaken_negation (ih : first.Unmistaken) : (negation first).Unmistaken := by
  intro second after after' stops _ h
  cases second with
  | negation other =>
    obtain ⟨rfl, hafter⟩ := ih other after after' trivial trivial h
    exact ⟨rfl, hafter⟩
  | and other others =>
    rw [words, words, List.append_assoc] at h
    obtain ⟨_, rfl⟩ := ih other after _ trivial trivial h
    exact absurd rfl stops

theorem unmistaken_and (ih : first.Unmistaken) (ihOthers : others.Unmistaken) :
    (and first others).Unmistaken := by
  intro second after after' stops stops' h
  cases second with
  | negation other =>
    rw [words, words, List.append_assoc] at h
    obtain ⟨_, rfl⟩ := ih other _ after' trivial trivial h
    exact absurd rfl stops'
  | and other others' =>
    rw [words, words, List.append_assoc, List.append_assoc] at h
    obtain ⟨rfl, hrest⟩ := ih other _ _ trivial trivial h
    obtain ⟨rfl, hafter⟩ := ihOthers others' after after' stops stops' (List.cons.inj hrest).2
    exact ⟨rfl, hafter⟩

variable {alternatives : Predicate}

theorem unmistaken_conjunction (ih : others.Unmistaken) : (conjunction others).Unmistaken := by
  intro second after after' stops stops' h
  cases second with
  | conjunction other =>
    obtain ⟨rfl, hafter⟩ := ih other after after' stops.1 stops'.1 h
    exact ⟨rfl, hafter⟩
  | or other alternatives =>
    rw [words, words, List.append_assoc] at h
    obtain ⟨_, rfl⟩ := ih other after _ stops.1 (by simp) h
    exact absurd rfl stops.2

theorem unmistaken_or (ih : others.Unmistaken) (ihAlternatives : alternatives.Unmistaken) :
    (or others alternatives).Unmistaken := by
  intro second after after' stops stops' h
  cases second with
  | conjunction other =>
    rw [words, words, List.append_assoc] at h
    obtain ⟨_, rfl⟩ := ih other _ after' (by simp) stops'.1 h
    exact absurd rfl stops'.2
  | or other alternatives' =>
    rw [words, words, List.append_assoc, List.append_assoc] at h
    obtain ⟨rfl, hrest⟩ := ih other _ _ (by simp) (by simp) h
    obtain ⟨rfl, hafter⟩ :=
      ihAlternatives alternatives' after after' stops stops' (List.cons.inj hrest).2
    exact ⟨rfl, hafter⟩

end Parts

/-- Words start with one reading at most, if it ends where no word goes on with it. -/
theorem unmistaken {level : Level} (first : Reading level) : first.Unmistaken := by
  induction first with
  | condition text => exact unmistaken_condition text
  | group inner ih => exact unmistaken_group ih
  | primary read ih => exact unmistaken_primary ih
  | not read ih => exact unmistaken_not ih
  | negation read ih => exact unmistaken_negation ih
  | and first others ih ihOthers => exact unmistaken_and ih ihOthers
  | conjunction read ih => exact unmistaken_conjunction ih
  | or first others ih ihOthers => exact unmistaken_or ih ihOthers

theorem words_injective {first second : Predicate} (h : first.words = second.words) :
    first = second := by
  have stops : Stops .disjunction [] := by simp
  exact (unmistaken first second [] [] stops stops (by rw [h])).1

theorem words_ne_nil {level : Level} (read : Reading level) : read.words ≠ [] := by
  induction read <;> simp [*]

section Guarded
variable {guard : String} {filter : Predicate} {truth : String → Truth}

/-- The reading of a predicate after a condition and `AND`. The condition joins what stands before the
first `OR`. -/
def guarded (guard : String) : Predicate → Predicate
  | conjunction read => .conjunction (.and (.primary (.condition guard)) read)
  | or first others => .or (.and (.primary (.condition guard)) first) others

/-- What stands after the first `OR` that is in no parentheses. -/
def others : Predicate → Option Predicate
  | conjunction _ => none
  | or _ others => some others

theorem words_guarded : (guarded guard filter).words = .condition guard :: .and :: filter.words := by
  cases filter <;> rfl

theorem value_guarded_of_yes (h : truth guard = .yes) :
    (guarded guard filter).value truth = filter.value truth := by
  cases filter <;> simp only [guarded, value, h, Truth.and]

theorem value_guarded_of_no (h : truth guard = .no) :
    (guarded guard filter).value truth = (filter.others.map (value truth)).getD .no := by
  cases filter <;> simp only [guarded, value, h, Truth.and, Truth.or, others, Option.map_none,
    Option.map_some, Option.getD_none, Option.getD_some]

end Guarded

end Reading

section Spelling
open Text

/-- The second of two words can stand right after the first, or there are blanks before it. -/
def Apart (first second : String × Word) : Prop :=
  second.1 ≠ "" ∨ first.2 ∈ [.opening, .closing] ∨ second.2 ∈ [.opening, .closing]

/-- The text spells the words: each after blanks, which set it apart from the word before it. -/
def Spells (words : List Word) (text : String) : Prop :=
  ∃ (layout : List (String × Word)) (last : String), layout.map Prod.snd = words ∧
    (∀ item ∈ layout, Only Char.isWhitespace item.1) ∧ Only Char.isWhitespace last ∧
    layout.IsChain Apart ∧
    text = String.join (layout.map fun item => item.1 ++ item.2.text) ++ last

/-- A condition joined by `AND` to the words that a text spells. -/
theorem Spells.guarded {words : List Word} {text : String} (h : Spells words text) (hwords : words ≠ [])
    (guard : String) :
    Spells (.condition guard :: .and :: words) (guard ++ " " ++ ("AND" ++ " " ++ text)) := by
  obtain ⟨layout, last, rfl, blanks, blank_last, chain, rfl⟩ := h
  cases layout with
  | nil => simp at hwords
  | cons item layout =>
    obtain ⟨before, word⟩ := item
    refine ⟨("", .condition guard) :: (" ", .and) :: (" " ++ before, word) :: layout, last, ?_⟩
    have space : Only Char.isWhitespace " " := by decide
    have first : Only Char.isWhitespace before := blanks _ List.mem_cons_self
    refine ⟨rfl, ?_, blank_last, ?_, ?_⟩
    · intro item hitem
      rcases List.mem_cons.1 hitem with rfl | hitem
      · exact only_empty
      rcases List.mem_cons.1 hitem with rfl | hitem
      · exact space
      rcases List.mem_cons.1 hitem with rfl | hitem
      · exact only_append.2 ⟨space, first⟩
      · exact blanks item (List.mem_cons_of_mem _ hitem)
    · have later : ((" " ++ before, word) :: layout).IsChain Apart := by
        cases layout with
        | nil => exact .singleton _
        | cons second layout =>
          rw [List.isChain_cons_cons] at chain ⊢
          exact chain
      refine .cons_cons ?_ (.cons_cons ?_ later)
      · exact .inl (by decide)
      · exact .inl (by simp)
    · simp only [List.map_cons, String.join_cons, String.append_assoc, String.empty_append]
      rfl

end Spelling
end RecordAccess.Sql
