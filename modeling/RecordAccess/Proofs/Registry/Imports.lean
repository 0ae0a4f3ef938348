import RecordAccess.Proofs.Registry.Interleaving

/-!
# Where imports come from

A registry requires no path but those that some request asked for or brought along.
-/
namespace RecordAccess

def Request.paths : Request → List String
  | .declaration shared => shared.imports
  | .importPath path => [path]

theorem mem_insertPath {path other : String} {paths : List String} :
    path ∈ insertPath other paths ↔ path = other ∨ path ∈ paths := by
  induction paths with
  | nil => simp [insertPath]
  | cons first rest ih =>
    unfold insertPath
    split_ifs with before same
    · simp
    · simp [same]
    · rw [List.mem_cons, ih, List.mem_cons, or_left_comm]

namespace Registry

theorem mem_imports_foldl_require {registry : Registry} {paths : List String} {path : String} :
    path ∈ (paths.foldl require registry).imports ↔ path ∈ registry.imports ∨ path ∈ paths := by
  induction paths generalizing registry with
  | nil => simp
  | cons first rest ih =>
    rw [List.foldl_cons, ih, require, mem_insertPath, List.mem_cons]
    tauto

theorem mem_imports_serve {registry : Registry} {ticket : Ticket} {path : String}
    (h : path ∈ (registry.serve ticket).2.imports) :
    path ∈ registry.imports ∨ path ∈ ticket.request.paths := by
  obtain ⟨rank, request⟩ := ticket
  cases request with
  | declaration declaration =>
    simp only [serve, declareAt_snd] at h
    split_ifs at h
    · exact .inl h
    · rcases mem_imports_foldl_require.1 h with h | h
      · exact .inl h
      · unfold brought at h
        split_ifs at h
        · simp at h
        · exact .inr h
  | importPath other =>
    rcases mem_insertPath.1 h with rfl | h
    · exact .inr List.mem_cons_self
    · exact .inl h

theorem mem_imports_run {registry : Registry} {schedule : List Ticket} {path : String}
    (h : path ∈ (registry.run schedule).imports) :
    path ∈ registry.imports ∨ ∃ ticket ∈ schedule, path ∈ ticket.request.paths := by
  induction schedule generalizing registry with
  | nil => exact .inl h
  | cons ticket rest ih =>
    rcases ih h with h | ⟨other, hother, h⟩
    · rcases mem_imports_serve h with h | h
      · exact .inl h
      · exact .inr ⟨ticket, List.mem_cons_self, h⟩
    · exact .inr ⟨other, List.mem_cons_of_mem _ hother, h⟩

end Registry

theorem request_mem_of_mem_ticketsFrom {operation next : Nat} {requests : List Request}
    {ticket : Ticket} (h : ticket ∈ ticketsFrom operation next requests) :
    ticket.request ∈ requests := by
  induction requests generalizing next with
  | nil => simp [ticketsFrom] at h
  | cons request rest ih =>
    cases request with
    | declaration declaration =>
      rcases List.mem_cons.1 h with rfl | h
      · exact List.mem_cons_self
      · exact List.mem_cons_of_mem _ (ih h)
    | importPath path =>
      rcases List.mem_cons.1 h with rfl | h
      · exact List.mem_cons_self
      · exact List.mem_cons_of_mem _ (ih h)

/-- Every ticket of a schedule makes a request of some row. -/
theorem request_mem_of_interleaves {rows : List (List Request)} {schedule : List Ticket}
    (h : Interleaves (Schedule.rows rows) schedule) {ticket : Ticket} (hticket : ticket ∈ schedule) :
    ∃ row ∈ rows, ticket.request ∈ row := by
  obtain ⟨tickets, htickets, hmem⟩ := List.mem_flatten.1 (h.perm.mem_iff.1 hticket)
  obtain ⟨⟨row, operation⟩, hrow, rfl⟩ := List.mem_map.1 htickets
  exact ⟨row, List.fst_mem_of_mem_zipIdx hrow, request_mem_of_mem_ticketsFrom hmem⟩

end RecordAccess
