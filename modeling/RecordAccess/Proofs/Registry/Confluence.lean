import Mathlib.Data.String.Basic
import RecordAccess.Registry

/-!
# The order of requests leaves no trace

Two tickets that are served one right after the other leave the same registry in both orders. So a
registry depends only on which tickets it served: each declaration keeps the lowest rank at which it
was requested, and the imports are those of all requests, whoever came first.
-/
namespace RecordAccess

namespace Rank

theorem min_def {a b : Rank} : min a b = if a ≤ b then a else b := rfl

theorem eq_iff {a b : Rank} : a = b ↔ a.operation = b.operation ∧ a.request = b.request := by
  cases a
  cases b
  simp

theorem min_comm (a b : Rank) : min a b = min b a := by
  simp only [min_def]
  split_ifs <;> simp only [le_def, eq_iff] at * <;> omega

/-- Whichever of two ranks comes last, the lowest of the three is the same. -/
theorem min_right_comm (a b c : Rank) : min (min a b) c = min (min a c) b := by
  simp only [min_def]
  split_ifs <;> simp only [le_def, eq_iff] at * <;> omega

end Rank

section Paths
variable {path first : String} (rest : List String)

theorem insertPath_cons_of_lt (h : path < first) :
    insertPath path (first :: rest) = path :: first :: rest := by
  simp [insertPath, h]

theorem insertPath_cons_of_gt (h : first < path) :
    insertPath path (first :: rest) = first :: insertPath path rest := by
  simp [insertPath, h.not_gt, h.ne']

@[simp] theorem insertPath_cons_self : insertPath first (first :: rest) = first :: rest := by
  simp [insertPath]

end Paths

/-- The lower of two paths finds its place whether the higher one is there already or not. -/
theorem insertPath_comm_of_lt {a b : String} (hab : a < b) (paths : List String) :
    insertPath a (insertPath b paths) = insertPath b (insertPath a paths) := by
  induction paths with
  | nil => simp [insertPath, hab, hab.not_gt, hab.ne']
  | cons first rest ih =>
    rcases lt_trichotomy a first with ha | rfl | ha
    · rw [insertPath_cons_of_lt rest ha, insertPath_cons_of_gt _ hab]
      rcases lt_trichotomy b first with hb | rfl | hb
      · rw [insertPath_cons_of_lt rest hb, insertPath_cons_of_lt _ hab]
      · rw [insertPath_cons_self, insertPath_cons_of_lt rest hab]
      · rw [insertPath_cons_of_gt rest hb, insertPath_cons_of_lt _ ha]
    · rw [insertPath_cons_self, insertPath_cons_of_gt rest hab, insertPath_cons_self]
    · have hb : first < b := ha.trans hab
      rw [insertPath_cons_of_gt rest hb, insertPath_cons_of_gt _ ha, ih,
        insertPath_cons_of_gt rest ha, insertPath_cons_of_gt _ hb]

/-- Where a path goes does not depend on whether another one is there already. -/
theorem insertPath_comm (a b : String) (paths : List String) :
    insertPath a (insertPath b paths) = insertPath b (insertPath a paths) := by
  rcases lt_trichotomy a b with h | rfl | h
  · exact insertPath_comm_of_lt h paths
  · rfl
  · exact (insertPath_comm_of_lt h paths).symm

namespace Registry

theorem ext {a b : Registry} (rank : a.rank? = b.rank?) (existing : a.existing = b.existing)
    (imports : a.imports = b.imports) (arrivals : a.arrivals = b.arrivals) : a = b := by
  cases a
  cases b
  simp_all

theorem require_comm (registry : Registry) (a b : String) :
    (registry.require a).require b = (registry.require b).require a := by
  simp only [require, insertPath_comm]

theorem foldl_require_require (registry : Registry) (path : String) (paths : List String) :
    paths.foldl require (registry.require path) = (paths.foldl require registry).require path := by
  induction paths generalizing registry with
  | nil => rfl
  | cons first rest ih => rw [List.foldl_cons, require_comm, ih, List.foldl_cons]

theorem foldl_require_comm (registry : Registry) (a b : List String) :
    b.foldl require (a.foldl require registry) = a.foldl require (b.foldl require registry) := by
  induction a generalizing registry with
  | nil => rfl
  | cons first rest ih => rw [List.foldl_cons, List.foldl_cons, ih, foldl_require_require]

section Required
variable (registry : Registry) (paths : List String)

@[simp] theorem rank?_foldl_require : (paths.foldl require registry).rank? = registry.rank? := by
  induction paths generalizing registry with
  | nil => rfl
  | cons first rest ih => rw [List.foldl_cons, ih, require]

@[simp] theorem existing_foldl_require :
    (paths.foldl require registry).existing = registry.existing := by
  induction paths generalizing registry with
  | nil => rfl
  | cons first rest ih => rw [List.foldl_cons, ih, require]

@[simp] theorem setRank_foldl_require (declaration : Declaration) (rank : Rank) :
    (paths.foldl require registry).setRank declaration rank =
      paths.foldl require (registry.setRank declaration rank) := by
  induction paths generalizing registry with
  | nil => rfl
  | cons first rest ih =>
    rw [List.foldl_cons, ih, List.foldl_cons]
    rfl

end Required

/-- The rank that a declaration has after a request for it. -/
def rankAfter (registry : Registry) (declaration : Declaration) (rank : Rank) : Rank :=
  match registry.rank? declaration with
  | some current => min current rank
  | none => rank

/-- The imports that a request for a declaration brings along. -/
def brought (registry : Registry) (declaration : Declaration) : List String :=
  if registry.isDeclared declaration then [] else declaration.imports

/-- The registry in which a declaration that the package lacks has been requested. -/
def taken (registry : Registry) (declaration : Declaration) (rank : Rank) : Registry :=
  (registry.brought declaration).foldl require
    (registry.setRank declaration (registry.rankAfter declaration rank))

theorem rankAfter_congr {a b : Registry} {declaration : Declaration}
    (h : a.rank? declaration = b.rank? declaration) (rank : Rank) :
    a.rankAfter declaration rank = b.rankAfter declaration rank := by
  unfold rankAfter
  rw [h]

theorem brought_congr {a b : Registry} {declaration : Declaration}
    (h : a.rank? declaration = b.rank? declaration) :
    a.brought declaration = b.brought declaration := by
  unfold brought isDeclared
  rw [h]

theorem declareAt_snd (registry : Registry) (declaration : Declaration) (rank : Rank) :
    (registry.declareAt declaration rank).2 =
      if registry.existing.contains declaration.identifier then registry
      else registry.taken declaration rank := by
  unfold declareAt
  split_ifs
  · rfl
  · cases h : registry.rank? declaration <;> simp [taken, brought, rankAfter, isDeclared, h]

theorem declareAt_of_existing {registry : Registry} {declaration : Declaration}
    (h : declaration.identifier ∈ registry.existing) (rank : Rank) :
    (registry.declareAt declaration rank).2 = registry := by
  rw [declareAt_snd, if_pos (by simpa using h)]

theorem declareAt_of_lacking {registry : Registry} {declaration : Declaration}
    (h : declaration.identifier ∉ registry.existing) (rank : Rank) :
    (registry.declareAt declaration rank).2 = registry.taken declaration rank := by
  rw [declareAt_snd, if_neg (by simpa using h)]

section Taken
variable (registry : Registry) (declaration : Declaration) (rank : Rank)

@[simp] theorem existing_taken : (registry.taken declaration rank).existing = registry.existing :=
  existing_foldl_require _ _

@[simp] theorem existing_declareAt :
    (registry.declareAt declaration rank).2.existing = registry.existing := by
  rw [declareAt_snd]
  split_ifs <;> simp

@[simp] theorem existing_require (path : String) :
    (registry.require path).existing = registry.existing := rfl

theorem rank?_taken_self :
    (registry.taken declaration rank).rank? declaration =
      some (registry.rankAfter declaration rank) := by
  simp [taken, setRank]

theorem rank?_taken_of_ne {other : Declaration} (h : other ≠ declaration) :
    (registry.taken declaration rank).rank? other = registry.rank? other := by
  simp [taken, setRank, h]

/-- An import that is asked for on the way comes to the same as one asked for afterwards. -/
theorem taken_require (path : String) :
    (registry.require path).taken declaration rank =
      (registry.taken declaration rank).require path :=
  foldl_require_require (registry.setRank declaration (registry.rankAfter declaration rank)) path _

/-- A second request for a declaration changes its rank and nothing else. -/
theorem taken_taken_self (later : Rank) :
    (registry.taken declaration rank).taken declaration later =
      (registry.brought declaration).foldl require
        (registry.setRank declaration (min (registry.rankAfter declaration rank) later)) := by
  have hb : (registry.taken declaration rank).brought declaration = [] := by
    simp [brought, isDeclared, rank?_taken_self]
  have hr : (registry.taken declaration rank).rankAfter declaration later =
      min (registry.rankAfter declaration rank) later := by
    simp [rankAfter, rank?_taken_self]
  rw [taken, hb, hr, List.foldl_nil, taken, setRank_foldl_require]
  congr 1
  exact ext (funext fun other => by simp only [setRank]; split_ifs <;> rfl) rfl rfl rfl

theorem rankAfter_min_comm (later : Rank) :
    min (registry.rankAfter declaration rank) later =
      min (registry.rankAfter declaration later) rank := by
  unfold rankAfter
  split
  · exact Rank.min_right_comm _ _ _
  · exact Rank.min_comm _ _

end Taken

/-- Requests for two declarations commute, whether they are the same or not. -/
theorem taken_comm (registry : Registry) (a b : Declaration) (first second : Rank) :
    (registry.taken a first).taken b second = (registry.taken b second).taken a first := by
  by_cases h : a = b
  · subst h
    rw [taken_taken_self, taken_taken_self, rankAfter_min_comm]
  · have expanded : ∀ {a b : Declaration} (first second : Rank), a ≠ b →
        (registry.taken a first).taken b second =
          (registry.brought b).foldl require ((registry.brought a).foldl require
            ((registry.setRank a (registry.rankAfter a first)).setRank b
              (registry.rankAfter b second))) := by
      intro a b first second hab
      have hr : (registry.taken a first).rank? b = registry.rank? b :=
        rank?_taken_of_ne _ _ _ hab.symm
      rw [taken, brought_congr hr, rankAfter_congr hr, taken, setRank_foldl_require]
    rw [expanded first second h, expanded second first (Ne.symm h), foldl_require_comm]
    congr 2
    refine ext (funext fun other => ?_) rfl rfl rfl
    simp only [setRank]
    split_ifs <;> simp_all

theorem declareAt_comm (registry : Registry) (a b : Declaration) (first second : Rank) :
    ((registry.declareAt a first).2.declareAt b second).2 =
      ((registry.declareAt b second).2.declareAt a first).2 := by
  by_cases ha : a.identifier ∈ registry.existing <;> by_cases hb : b.identifier ∈ registry.existing
  · rw [declareAt_of_existing ha, declareAt_of_existing hb, declareAt_of_existing ha]
  · rw [declareAt_of_existing ha, declareAt_of_lacking hb, declareAt_of_existing (by simpa)]
  · rw [declareAt_of_existing hb, declareAt_of_lacking ha, declareAt_of_existing (by simpa)]
  · rw [declareAt_of_lacking ha, declareAt_of_lacking hb, declareAt_of_lacking (by simpa),
      declareAt_of_lacking (by simpa), taken_comm]

theorem declareAt_require_comm (registry : Registry) (declaration : Declaration) (rank : Rank)
    (path : String) :
    ((registry.require path).declareAt declaration rank).2 =
      (registry.declareAt declaration rank).2.require path := by
  by_cases h : declaration.identifier ∈ registry.existing
  · rw [declareAt_of_existing h, declareAt_of_existing (by simpa)]
  · rw [declareAt_of_lacking h, declareAt_of_lacking (by simpa), taken_require]

/-- Two tickets leave the same registry in both orders. -/
theorem serve_comm (registry : Registry) (a b : Ticket) :
    ((registry.serve a).2.serve b).2 = ((registry.serve b).2.serve a).2 := by
  obtain ⟨first, request⟩ := a
  obtain ⟨second, other⟩ := b
  cases request <;> cases other <;> simp only [serve]
  · exact declareAt_comm _ _ _ _ _
  · exact (declareAt_require_comm _ _ _ _).symm
  · exact declareAt_require_comm _ _ _ _
  · exact require_comm _ _ _

theorem run_append (registry : Registry) (first second : List Ticket) :
    registry.run (first ++ second) = (registry.run first).run second :=
  List.foldl_append

theorem serveAll_serve_snd (registry : Registry) (tickets : List Ticket) :
    (registry.serveAll serve tickets).2 = registry.run tickets := by
  induction tickets generalizing registry with
  | nil => rfl
  | cons ticket rest ih => exact ih (registry.serve ticket).2

/-- A registry depends on which tickets it served and not on their order. -/
theorem run_perm (registry : Registry) {first second : List Ticket} (h : first.Perm second) :
    registry.run first = registry.run second :=
  h.foldl_eq' (fun a _ b _ registry => serve_comm registry a b) registry

end Registry
end RecordAccess
