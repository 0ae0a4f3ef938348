import Mathlib.Data.List.Induction
import RecordAccess.Proofs.Registry.Imports

/-!
# What a registry holds after its requests

The order of tickets leaves no trace in the registry, so what it holds is said by the tickets alone. A
declaration is scheduled exactly if some ticket requests it and the package lacks it, at the lowest rank
of those tickets; the imports are the paths that were asked for and those of the scheduled declarations.
The order shows only in the answers: the first request for a scheduled declaration takes it up, and no
other request takes anything up.
-/
namespace RecordAccess

namespace Rank

theorem le_refl (a : Rank) : a ≤ a := .inr ⟨rfl, Nat.le_refl _⟩

theorem le_trans {a b c : Rank} (hab : a ≤ b) (hbc : b ≤ c) : a ≤ c := by
  rw [le_def] at hab hbc ⊢
  omega

theorem le_total (a b : Rank) : a ≤ b ∨ b ≤ a := by
  rw [le_def, le_def]
  omega

theorem le_antisymm {a b : Rank} (hab : a ≤ b) (hba : b ≤ a) : a = b := by
  rw [le_def] at hab hba
  rw [eq_iff]
  omega

theorem min_eq_or (a b : Rank) : min a b = a ∨ min a b = b := by
  rw [min_def]
  split_ifs
  · exact .inl rfl
  · exact .inr rfl

theorem le_min_iff {a b c : Rank} : c ≤ min a b ↔ c ≤ a ∧ c ≤ b := by
  rw [min_def]
  split_ifs with h
  · constructor
    · intro hc
      exact ⟨hc, le_trans hc h⟩
    · exact And.left
  · have hba : b ≤ a := (le_total a b).resolve_left h
    constructor
    · intro hc
      exact ⟨le_trans hc hba, hc⟩
    · exact And.right

theorem min_le_left (a b : Rank) : min a b ≤ a := (le_min_iff.1 (le_refl _)).1

theorem min_le_right (a b : Rank) : min a b ≤ b := (le_min_iff.1 (le_refl _)).2

end Rank

section Ascending

/-- Adding a path keeps a list of paths ascending. -/
theorem insertPath_ascending {paths : List String} (h : paths.Pairwise (· < ·)) (path : String) :
    (insertPath path paths).Pairwise (· < ·) := by
  induction paths with
  | nil => simp [insertPath]
  | cons first rest ih =>
    obtain ⟨above, hrest⟩ := List.pairwise_cons.1 h
    rcases lt_trichotomy path first with hlt | rfl | hgt
    · rw [insertPath_cons_of_lt rest hlt]
      refine List.pairwise_cons.2 ⟨?_, h⟩
      intro other hother
      rcases List.mem_cons.1 hother with rfl | hother
      · exact hlt
      · exact hlt.trans (above other hother)
    · rwa [insertPath_cons_self]
    · rw [insertPath_cons_of_gt rest hgt]
      refine List.pairwise_cons.2 ⟨?_, ih hrest⟩
      intro other hother
      rcases mem_insertPath.1 hother with rfl | hother
      · exact hgt
      · exact above other hother

theorem Registry.imports_ascending_foldl_require {registry : Registry}
    (h : registry.imports.Pairwise (· < ·)) (paths : List String) :
    (paths.foldl Registry.require registry).imports.Pairwise (· < ·) := by
  induction paths generalizing registry with
  | nil => exact h
  | cons first rest ih => exact ih (insertPath_ascending h first)

end Ascending

/-- One of the tickets requests the declaration at the rank. -/
def Requested (tickets : List Ticket) (declaration : Declaration) (rank : Rank) : Prop :=
  ⟨rank, .declaration declaration⟩ ∈ tickets

/-- The header has to show the declaration: the package lacks it and one of the tickets requests it. -/
def Due (existing : List String) (tickets : List Ticket) (declaration : Declaration) : Prop :=
  declaration.identifier ∉ existing ∧ ∃ rank, Requested tickets declaration rank

section Concat
variable {existing : List String} {tickets : List Ticket} {declaration : Declaration} {rank : Rank}

theorem requested_concat {ticket : Ticket} : Requested (tickets ++ [ticket]) declaration rank ↔
    Requested tickets declaration rank ∨ ticket = ⟨rank, .declaration declaration⟩ := by
  unfold Requested
  rw [List.mem_append, List.mem_singleton, eq_comm (a := ticket)]

theorem requested_concat_importPath {at' : Rank} {path : String} :
    Requested (tickets ++ [⟨at', .importPath path⟩]) declaration rank ↔
      Requested tickets declaration rank := by
  simp [requested_concat]

theorem requested_concat_declaration {at' : Rank} {other : Declaration} :
    Requested (tickets ++ [⟨at', .declaration other⟩]) declaration rank ↔
      Requested tickets declaration rank ∨ at' = rank ∧ other = declaration := by
  simp [requested_concat]

theorem due_concat_declaration {at' : Rank} {other : Declaration} :
    Due existing (tickets ++ [⟨at', .declaration other⟩]) declaration ↔
      Due existing tickets declaration ∨ other.identifier ∉ existing ∧ declaration = other := by
  simp only [Due, requested_concat_declaration, exists_or]
  constructor
  · rintro ⟨lacking, requested | ⟨_, _, rfl⟩⟩
    · exact .inl ⟨lacking, requested⟩
    · exact .inr ⟨lacking, rfl⟩
  · rintro (⟨lacking, requested⟩ | ⟨lacking, rfl⟩)
    · exact ⟨lacking, .inl requested⟩
    · exact ⟨lacking, .inr ⟨at', rfl, rfl⟩⟩

end Concat

namespace Registry

structure Holds (existing : List String) (tickets : List Ticket) (registry : Registry) : Prop where
  existing_eq : registry.existing = existing
  isDeclared_iff : ∀ declaration, registry.isDeclared declaration ↔ Due existing tickets declaration
  /-- The rank of a declaration is the lowest one at which it was requested. -/
  lowest : ∀ declaration rank, registry.rank? declaration = some rank →
    Requested tickets declaration rank ∧ ∀ other, Requested tickets declaration other → rank ≤ other
  mem_imports_iff : ∀ path, path ∈ registry.imports ↔
    (∃ rank, ⟨rank, .importPath path⟩ ∈ tickets) ∨
      ∃ declaration, Due existing tickets declaration ∧ path ∈ declaration.imports
  imports_ascending : registry.imports.Pairwise (· < ·)

namespace Holds
variable {existing : List String} {tickets : List Ticket} {registry : Registry}

theorem ofExisting (existing : List String) : Holds existing [] (ofExisting existing) where
  existing_eq := rfl
  isDeclared_iff := by simp [isDeclared, Registry.ofExisting, Due, Requested]
  lowest := by simp [Registry.ofExisting]
  mem_imports_iff := by simp [Registry.ofExisting, Due, Requested]
  imports_ascending := List.Pairwise.nil

theorem require (h : Holds existing tickets registry) (rank : Rank) (path : String) :
    Holds existing (tickets ++ [⟨rank, .importPath path⟩]) (registry.require path) where
  existing_eq := h.existing_eq
  isDeclared_iff declaration := by
    have same : (registry.require path).isDeclared declaration ↔ Due existing tickets declaration :=
      h.isDeclared_iff declaration
    simpa only [Due, requested_concat_importPath] using same
  lowest declaration lowest hlowest := by
    simpa only [requested_concat_importPath] using h.lowest declaration lowest hlowest
  mem_imports_iff other := by
    have before := h.mem_imports_iff other
    simp only [Due, requested_concat_importPath, List.mem_append, List.mem_singleton,
      Ticket.mk.injEq, Request.importPath.injEq, exists_or] at before ⊢
    rw [Registry.require, mem_insertPath, before]
    have asked : (∃ at', at' = rank ∧ other = path) ↔ other = path := by simp
    rw [asked]
    tauto
  imports_ascending := insertPath_ascending h.imports_ascending path

/-- A request for a declaration leaves the lowest rank of another one. -/
theorem lowest_of_ne (h : Holds existing tickets registry) {declaration other : Declaration}
    (ne : other ≠ declaration) (rank : Rank) {lowest : Rank}
    (hlowest : registry.rank? other = some lowest) :
    Requested (tickets ++ [⟨rank, .declaration declaration⟩]) other lowest ∧
      ∀ later, Requested (tickets ++ [⟨rank, .declaration declaration⟩]) other later →
        lowest ≤ later := by
  simpa only [requested_concat_declaration, ne.symm, and_false, or_false] using
    h.lowest other lowest hlowest

/-- A request for a declaration that the package has changes nothing. -/
theorem declareAt_of_existing (h : Holds existing tickets registry) {declaration : Declaration}
    (hex : declaration.identifier ∈ existing) (rank : Rank) :
    Holds existing (tickets ++ [⟨rank, .declaration declaration⟩]) registry := by
  have due : ∀ other, Due existing (tickets ++ [⟨rank, .declaration declaration⟩]) other ↔
      Due existing tickets other := by
    simp [due_concat_declaration, hex]
  constructor
  case existing_eq => exact h.existing_eq
  case isDeclared_iff =>
    intro other
    rw [h.isDeclared_iff, due]
  case lowest =>
    intro other lowest hlowest
    have lacking := ((h.isDeclared_iff other).1 (by simp [isDeclared, hlowest])).1
    have ne : other ≠ declaration := by
      rintro rfl
      exact lacking hex
    exact h.lowest_of_ne ne rank hlowest
  case mem_imports_iff =>
    intro path
    simpa [due] using h.mem_imports_iff path
  case imports_ascending => exact h.imports_ascending

section Lacking
variable {declaration : Declaration}

theorem not_requested_of_rank?_eq_none (h : Holds existing tickets registry)
    (hlacking : declaration.identifier ∉ existing) (hnone : registry.rank? declaration = none)
    (rank : Rank) : ¬Requested tickets declaration rank := by
  intro requested
  have declared := (h.isDeclared_iff declaration).2 ⟨hlacking, rank, requested⟩
  simp [isDeclared, hnone] at declared

theorem lowest_rankAfter (h : Holds existing tickets registry)
    (hlacking : declaration.identifier ∉ existing) (rank : Rank) :
    Requested (tickets ++ [⟨rank, .declaration declaration⟩]) declaration
        (registry.rankAfter declaration rank) ∧
      ∀ later, Requested (tickets ++ [⟨rank, .declaration declaration⟩]) declaration later →
        registry.rankAfter declaration rank ≤ later := by
  simp only [requested_concat_declaration, and_true]
  cases hrank : registry.rank? declaration with
  | some current =>
    obtain ⟨requested, least⟩ := h.lowest declaration current hrank
    have after : registry.rankAfter declaration rank = min current rank := by
      simp only [rankAfter, hrank]
    rw [after]
    constructor
    · rcases Rank.min_eq_or current rank with heq | heq
      · rw [heq]
        exact .inl requested
      · exact .inr heq.symm
    · rintro later (hlater | rfl)
      · exact Rank.le_trans (Rank.min_le_left _ _) (least later hlater)
      · exact Rank.min_le_right _ _
  | none =>
    have after : registry.rankAfter declaration rank = rank := by
      simp only [rankAfter, hrank]
    rw [after]
    constructor
    · exact .inr rfl
    · rintro later (hlater | rfl)
      · exact absurd hlater (h.not_requested_of_rank?_eq_none hlacking hrank later)
      · exact Rank.le_refl _

theorem mem_brought_iff (h : Holds existing tickets registry) {path : String} :
    path ∈ registry.brought declaration ↔
      ¬Due existing tickets declaration ∧ path ∈ declaration.imports := by
  rw [← h.isDeclared_iff]
  unfold Registry.brought
  split_ifs with declared <;> simp [declared]

/-- The imports of a declaration that is requested are there, whether this request brought them or one
before it. -/
theorem mem_imports_taken_iff (h : Holds existing tickets registry) {rank : Rank} {path : String} :
    path ∈ (registry.taken declaration rank).imports ↔
      path ∈ registry.imports ∨ path ∈ declaration.imports := by
  have kept : (registry.setRank declaration (registry.rankAfter declaration rank)).imports =
      registry.imports := rfl
  rw [Registry.taken, mem_imports_foldl_require, kept, h.mem_brought_iff]
  constructor
  · rintro (shown | ⟨_, hpath⟩)
    · exact .inl shown
    · exact .inr hpath
  · rintro (shown | hpath)
    · exact .inl shown
    · by_cases already : Due existing tickets declaration
      · exact .inl ((h.mem_imports_iff path).2 (.inr ⟨declaration, already, hpath⟩))
      · exact .inr ⟨already, hpath⟩

/-- A request for a declaration that the package lacks schedules it. -/
theorem taken (h : Holds existing tickets registry) (hlacking : declaration.identifier ∉ existing)
    (rank : Rank) :
    Holds existing (tickets ++ [⟨rank, .declaration declaration⟩])
      (registry.taken declaration rank) := by
  have due : ∀ other, Due existing (tickets ++ [⟨rank, .declaration declaration⟩]) other ↔
      Due existing tickets other ∨ other = declaration := by
    simp [due_concat_declaration, hlacking]
  constructor
  case existing_eq => rw [existing_taken, h.existing_eq]
  case isDeclared_iff =>
    intro other
    rw [due, ← h.isDeclared_iff]
    by_cases same : other = declaration
    · subst same
      simp [isDeclared, rank?_taken_self]
    · simp [isDeclared, rank?_taken_of_ne _ _ _ same, same]
  case lowest =>
    intro other lowest hlowest
    by_cases same : other = declaration
    · subst same
      rw [rank?_taken_self, Option.some_inj] at hlowest
      subst hlowest
      exact h.lowest_rankAfter hlacking rank
    · rw [rank?_taken_of_ne _ _ _ same] at hlowest
      exact h.lowest_of_ne same rank hlowest
  case mem_imports_iff =>
    intro path
    rw [h.mem_imports_taken_iff, h.mem_imports_iff]
    simp [due, or_and_right, exists_or, or_assoc]
  case imports_ascending =>
    have before : (registry.setRank declaration
        (registry.rankAfter declaration rank)).imports.Pairwise (· < ·) := h.imports_ascending
    exact imports_ascending_foldl_require before _

end Lacking

theorem serve (h : Holds existing tickets registry) (ticket : Ticket) :
    Holds existing (tickets ++ [ticket]) (registry.serve ticket).2 := by
  obtain ⟨rank, request⟩ := ticket
  cases request with
  | importPath path => exact h.require rank path
  | declaration declaration =>
    show Holds existing _ (registry.declareAt declaration rank).2
    by_cases hex : declaration.identifier ∈ existing
    · rw [Registry.declareAt_of_existing (h.existing_eq ▸ hex)]
      exact h.declareAt_of_existing hex rank
    · rw [declareAt_of_lacking (h.existing_eq ▸ hex)]
      exact h.taken hex rank

end Holds

theorem holds_run (existing : List String) (tickets : List Ticket) :
    Holds existing tickets ((ofExisting existing).run tickets) := by
  -- From the end: what a registry holds is said of the tickets that were served before.
  induction tickets using List.reverseRecOn with
  | nil => exact Holds.ofExisting existing
  | append_singleton before ticket ih =>
    rw [run_append]
    exact ih.serve ticket

end Registry
end RecordAccess
