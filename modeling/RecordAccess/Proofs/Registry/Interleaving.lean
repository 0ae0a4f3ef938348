import Mathlib.Data.List.MinMax
import Mathlib.Order.Nat
import RecordAccess.Proofs.Registry.Confluence
import RecordAccess.Registry

/-!
# Schedules that interleave

An interleaving holds the items of its lists and nothing else, so all interleavings of the same lists
are permutations of one another, and a registry cannot tell them apart. Serving the lists in turn is one of
them, and so is serving their first items, then their second items, and so on.
-/
namespace RecordAccess

namespace Interleaves
variable {α : Type}

theorem perm {rows : List (List α)} {items : List α} (h : Interleaves rows items) :
    items.Perm rows.flatten := by
  induction h with
  | done empty => rw [List.flatten_eq_nil_iff.2 empty]
  | @step before after item row items _ ih =>
    have front : (before ++ (item :: row) :: after).flatten.Perm
        (item :: (before ++ row :: after).flatten) := by
      simp
    exact (ih.cons item).trans front.symm

/-- A row may be taken to its end before the others are looked at. -/
theorem append_row {before after : List (List α)} {items : List α} (row : List α)
    (h : Interleaves (before ++ [] :: after) items) :
    Interleaves (before ++ row :: after) (row ++ items) := by
  induction row with
  | nil => exact h
  | cons item row ih => exact .step ih

/-- The first items of all rows may be taken before their rests are looked at. -/
theorem heads_append {done rows : List (List α)} {items : List α}
    (h : Interleaves (done ++ rows.map List.tail) items) :
    Interleaves (done ++ rows) (rows.filterMap List.head? ++ items) := by
  induction rows generalizing done with
  | nil => simpa using h
  | cons row rows ih =>
    cases row with
    | nil =>
      have rest := @ih (done ++ [[]]) (by simpa using h)
      rw [List.append_assoc] at rest
      exact rest
    | cons item row =>
      have rest := @ih (done ++ [row]) (by simpa using h)
      rw [List.append_assoc] at rest
      exact .step rest

end Interleaves

namespace Schedule
variable {α : Type}

theorem interleaves_inTurn (rows : List (List α)) : Interleaves rows (inTurn rows) := by
  suffices h : ∀ done : List (List α), (∀ row ∈ done, row = []) →
      Interleaves (done ++ rows) rows.flatten from h [] (by simp)
  induction rows with
  | nil =>
    intro done empty
    exact .done (by simpa using empty)
  | cons row rows ih =>
    intro done empty
    apply Interleaves.append_row
    have rest := ih (done ++ [[]]) (by simpa [or_imp, forall_and] using empty)
    simpa using rest

/-- The items at the places before `n`, place by place. -/
def rounds (n : Nat) (rows : List (List α)) : List α :=
  (List.range n).flatMap fun i => rows.filterMap fun row => row[i]?

theorem rounds_succ (n : Nat) (rows : List (List α)) :
    rounds (n + 1) rows = rows.filterMap List.head? ++ rounds n (rows.map List.tail) := by
  simp only [rounds, List.range_succ_eq_map, List.flatMap_cons, List.flatMap_map, List.filterMap_map]
  congr 1
  · simp [List.head?_eq_getElem?]
  · congr 1
    funext i
    congr 1
    funext row
    simp

theorem interleaves_rounds {n : Nat} {rows : List (List α)} (h : ∀ row ∈ rows, row.length ≤ n) :
    Interleaves rows (rounds n rows) := by
  induction n generalizing rows with
  | zero => exact .done fun row hrow => List.eq_nil_of_length_eq_zero (Nat.le_zero.1 (h row hrow))
  | succ n ih =>
    rw [rounds_succ]
    refine @Interleaves.heads_append _ [] _ _ (ih ?_)
    intro tail htail
    obtain ⟨row, hrow, rfl⟩ := List.mem_map.1 htail
    have := h row hrow
    rw [List.length_tail]
    omega

theorem interleaves_roundRobin (rows : List (List α)) : Interleaves rows (roundRobin rows) :=
  interleaves_rounds fun _ h => List.le_max_of_le' 0 (List.mem_map_of_mem h) le_rfl

end Schedule

/-- All ways to interleave the same rows leave the same registry. -/
theorem Registry.run_eq_of_interleaves (registry : Registry) {rows : List (List Ticket)}
    {first second : List Ticket} (h₁ : Interleaves rows first) (h₂ : Interleaves rows second) :
    registry.run first = registry.run second :=
  registry.run_perm (h₁.perm.trans h₂.perm.symm)

end RecordAccess
