import Mathlib.Data.List.Sort
import RecordAccess.Proofs.Registry.FirstRequests

/-!
# Requests in order of arrival

Requests that come with no rank are ranked as they arrive. The requests before a request number its rank, those that
add nothing among them. So the header goes by first requests, and a request made again leaves no trace in it, though
it moves up the ranks of all that come later.
-/
namespace RecordAccess

section FirstOccurrences
variable {α : Type} [BEq α] [LawfulBEq α]

/-- An item that occurs before counts for nothing. -/
theorem eraseDups_append_cons_of_mem {before after : List α} {a : α} (h : a ∈ before) :
    (before ++ a :: after).eraseDups = (before ++ after).eraseDups := by
  have known : (a :: after).removeAll before = after.removeAll before := by simp [List.cons_removeAll, h]
  rw [List.eraseDups_append, known, ← List.eraseDups_append]

end FirstOccurrences

/-- The second list makes the requests of the first, and in between requests that were made before. -/
inductive Repeating (requests : List Request) : List Request → Prop
  | same : Repeating requests requests
  | again {before after : List Request} {request : Request} (h : Repeating requests (before ++ after))
      (known : request ∈ before) : Repeating requests (before ++ request :: after)

/-- The declarations that are requested of a package that declares some identifiers, less those that it has, in the
order of their first requests. -/
def firstRequested (existing : List String) (requests : List Request) : List Declaration :=
  (requests.filterMap Request.declaration?).eraseDups.filter fun declaration =>
    !existing.contains declaration.identifier

section Repeating
variable {requests longer : List Request}

theorem Repeating.mem_iff (h : Repeating requests longer) (request : Request) :
    request ∈ longer ↔ request ∈ requests := by
  induction h with
  | same => rfl
  | @again before after repeated _ known ih =>
    rw [← ih]
    simp only [List.mem_append, List.mem_cons]
    constructor
    · rintro (hbefore | rfl | hafter)
      · exact .inl hbefore
      · exact .inl known
      · exact .inr hafter
    · rintro (hbefore | hafter)
      · exact .inl hbefore
      · exact .inr (.inr hafter)

theorem Repeating.firstRequested_eq (h : Repeating requests longer) (existing : List String) :
    firstRequested existing longer = firstRequested existing requests := by
  induction h with
  | same => rfl
  | @again before after request _ known ih =>
    rw [← ih]
    unfold firstRequested
    cases hrequest : request.declaration? with
    | none => simp [List.filterMap_append, hrequest]
    | some declaration =>
      have before_mem : declaration ∈ before.filterMap Request.declaration? :=
        List.mem_filterMap.2 ⟨request, known, hrequest⟩
      rw [List.filterMap_append, List.filterMap_cons_some hrequest, eraseDups_append_cons_of_mem before_mem,
        List.filterMap_append]

end Repeating

namespace Registry

/-- The registry after another number of arrivals. -/
def arrived (registry : Registry) (n : Nat) : Registry := { registry with arrivals := n }

section Arrived
variable (registry : Registry) (n : Nat)

@[simp] theorem rank?_arrived : (registry.arrived n).rank? = registry.rank? := rfl

@[simp] theorem existing_arrived : (registry.arrived n).existing = registry.existing := rfl

@[simp] theorem imports_arrived : (registry.arrived n).imports = registry.imports := rfl

@[simp] theorem declarations_arrived : (registry.arrived n).declarations = registry.declarations := rfl

theorem foldl_require_arrived (paths : List String) :
    paths.foldl require (registry.arrived n) = (paths.foldl require registry).arrived n := by
  induction paths generalizing registry with
  | nil => rfl
  | cons path rest ih => exact ih (registry.require path)

/-- The number of arrivals is of no account to a request with a rank of its own. -/
theorem serve_arrived (ticket : Ticket) :
    (registry.arrived n).serve ticket = ((registry.serve ticket).1, (registry.serve ticket).2.arrived n) := by
  obtain ⟨rank, request⟩ := ticket
  cases request with
  | importPath path => rfl
  | declaration declaration =>
    have outcome : (registry.arrived n).declareAt declaration rank =
        ((registry.declareAt declaration rank).1, (registry.declareAt declaration rank).2.arrived n) := by
      unfold declareAt
      rw [existing_arrived, rank?_arrived]
      split_ifs
      · rfl
      · cases registry.rank? declaration with
        | some current => rfl
        | none => exact Prod.ext rfl (foldl_require_arrived (registry.setRank declaration rank) n _)
    simp only [serve, outcome]

/-- Requests are ranked as they arrive. -/
theorem serveAll_serveNext (requests : List Request) :
    (registry.arrived n).serveAll serveNext requests =
      ((registry.serveAll serve (ticketsFrom 0 n requests)).1,
        (registry.run (ticketsFrom 0 n requests)).arrived
          (n + (requests.filterMap Request.declaration?).length)) := by
  induction requests generalizing registry n with
  | nil => rfl
  | cons request rest ih =>
    cases request with
    | importPath path =>
      have first : (registry.arrived n).serveNext (.importPath path) = (none, (registry.require path).arrived n) := rfl
      rw [serveAll, first]
      dsimp only
      rw [ih]
      rfl
    | declaration declaration =>
      have first : (registry.arrived n).serveNext (.declaration declaration) =
          (registry.arrived (n + 1)).serve ⟨⟨0, n⟩, .declaration declaration⟩ := rfl
      rw [serveAll, first, serve_arrived]
      dsimp only
      rw [ih, Nat.add_assoc, Nat.add_comm 1]
      rfl

end Arrived

section Tickets
variable {operation next : Nat} {requests : List Request}

theorem getElem?_ticketsFrom (i : Nat) :
    (ticketsFrom operation next requests)[i]?.map Ticket.request = requests[i]? := by
  rw [← List.getElem?_map, map_request_ticketsFrom]

theorem exists_mem_ticketsFrom {request : Request} :
    (∃ rank, ⟨rank, request⟩ ∈ ticketsFrom operation next requests) ↔ request ∈ requests := by
  constructor
  · rintro ⟨rank, hmem⟩
    exact request_mem_of_mem_ticketsFrom hmem
  · intro hmem
    rw [← map_request_ticketsFrom operation next requests] at hmem
    obtain ⟨⟨rank, _⟩, hticket, rfl⟩ := List.mem_map.1 hmem
    exact ⟨rank, hticket⟩

theorem askedAt_ticketsFrom {declaration : Declaration} {i : Nat} :
    AskedAt (ticketsFrom operation next requests) declaration i ↔ requests[i]? = some (.declaration declaration) := by
  rw [← @getElem?_ticketsFrom operation next requests i, Option.map_eq_some_iff]
  constructor
  · rintro ⟨rank, hticket⟩
    exact ⟨_, hticket, rfl⟩
  · rintro ⟨⟨rank, _⟩, hticket, rfl⟩
    exact ⟨rank, hticket⟩

theorem firstAt_ticketsFrom {declaration : Declaration} {i : Nat}
    (asked : requests[i]? = some (.declaration declaration)) :
    FirstAt (ticketsFrom operation next requests) declaration i ↔ .declaration declaration ∉ requests.take i := by
  have later : .declaration declaration ∈ requests.take i ↔
      ∃ j < i, AskedAt (ticketsFrom operation next requests) declaration j := by
    simp only [askedAt_ticketsFrom, List.mem_take_iff_getElem, List.getElem?_eq_some_iff]
    constructor
    · rintro ⟨j, hj, same⟩
      exact ⟨j, by omega, by omega, same⟩
    · rintro ⟨j, hj, hlength, same⟩
      exact ⟨j, by omega, same⟩
  rw [FirstAt, askedAt_ticketsFrom, later]
  simp [asked]

end Tickets

structure Told (existing : List String) (requests : List Request) (flags : List (Option Bool)) : Prop where
  length_eq : flags.length = requests.length
  importPath : ∀ (i : Nat) path, requests[i]? = some (.importPath path) → flags[i]? = some none
  declaration : ∀ (i : Nat) declaration, requests[i]? = some (.declaration declaration) →
    ∃ taken, flags[i]? = some (some taken) ∧
      (taken = true ↔ declaration.identifier ∉ existing ∧ .declaration declaration ∉ requests.take i)

theorem Answers.told {existing : List String} {requests : List Request} {flags : List (Option Bool)}
    (h : Answers existing (ticketsFrom 0 0 requests) flags) : Told existing requests flags where
  length_eq := by rw [h.length_eq, ← List.length_map Ticket.request, map_request_ticketsFrom]
  importPath i path hrequest := by
    rw [← @getElem?_ticketsFrom 0 0 requests i, Option.map_eq_some_iff] at hrequest
    obtain ⟨⟨rank, _⟩, hticket, rfl⟩ := hrequest
    exact h.importPath i rank path hticket
  declaration i declaration hrequest := by
    obtain ⟨taken, hflag, first⟩ := h.declaration i declaration (askedAt_ticketsFrom.2 hrequest)
    exact ⟨taken, hflag, by rw [first, firstAt_ticketsFrom hrequest]⟩

section Arriving
variable (existing : List String) {requests longer : List Request}

/-- The flags and the registry after requests that come with no rank. -/
def arriving (requests : List Request) : List (Option Bool) × Registry :=
  (ofExisting existing).serveAll serveNext requests

theorem arriving_eq (requests : List Request) :
    arriving existing requests = (((ofExisting existing).serveAll serve (ticketsFrom 0 0 requests)).1,
      ((ofExisting existing).run (ticketsFrom 0 0 requests)).arrived
        (0 + (requests.filterMap Request.declaration?).length)) :=
  serveAll_serveNext (ofExisting existing) 0 requests

theorem told_arriving (requests : List Request) : Told existing requests (arriving existing requests).1 := by
  rw [arriving_eq]
  exact (answers_serveAll existing _).told

theorem declarations_arriving (requests : List Request) :
    (arriving existing requests).2.declarations = firstRequested existing requests := by
  rw [arriving_eq, declarations_arrived, (rising_ticketsFrom 0 0 requests).declarations_run existing,
    requestedBy_eq_filterMap, map_request_ticketsFrom]
  rfl

theorem mem_imports_arriving {path : String} : path ∈ (arriving existing requests).2.imports ↔
    .importPath path ∈ requests ∨ ∃ declaration : Declaration,
      (declaration.identifier ∉ existing ∧ .declaration declaration ∈ requests) ∧ path ∈ declaration.imports := by
  have holds := holds_run existing (ticketsFrom 0 0 requests)
  rw [arriving_eq, imports_arrived, holds.mem_imports_iff, exists_mem_ticketsFrom]
  simp only [Due, Requested, exists_mem_ticketsFrom]

theorem imports_arriving_ascending (requests : List Request) :
    (arriving existing requests).2.imports.Pairwise (· < ·) := by
  rw [arriving_eq, imports_arrived]
  exact (holds_run existing _).imports_ascending

theorem imports_eq_of_repeating (h : Repeating requests longer) :
    (arriving existing longer).2.imports = (arriving existing requests).2.imports := by
  refine (imports_arriving_ascending existing longer).eq_of_mem_iff (imports_arriving_ascending existing requests) ?_
  intro path
  simp only [mem_imports_arriving, h.mem_iff]

end Arriving

/-- Requests that come with no rank leave a header that goes by first requests. The first request for a declaration
that the package lacks is told that it took it up, and no other request is. Requests that are made again change
neither the header nor the imports. -/
theorem first_arrivals (existing : List String) (requests : List Request) :
    let served := arriving existing requests
    served.2.declarations = firstRequested existing requests ∧
    served.2.header = String.join ((firstRequested existing requests).map Declaration.text) ∧
    Told existing requests served.1 ∧
    ∀ longer, Repeating requests longer →
      let again := arriving existing longer
      again.2.declarations = served.2.declarations ∧ again.2.header = served.2.header ∧
        again.2.imports = served.2.imports := by
  intro served
  have declarations : served.2.declarations = firstRequested existing requests :=
    declarations_arriving existing requests
  refine ⟨declarations, ?_, told_arriving existing requests, ?_⟩
  · rw [header, declarations]
  · intro longer h again
    have same : again.2.declarations = served.2.declarations := by
      rw [declarations, ← h.firstRequested_eq]
      exact declarations_arriving existing longer
    refine ⟨same, ?_, imports_eq_of_repeating existing h⟩
    rw [header, header, same]

/-- The error is requested again before the filter is, and this leaves no trace. The queryer, which the package has, is
never taken up. -/
theorem first_arrivals_repeated :
    let requests : List Request := [.declaration .queryer, .declaration .noRowsAffected, .declaration .execer,
      .importPath "fmt", .declaration .sqlFilter]
    let longer : List Request := [.declaration .queryer, .declaration .noRowsAffected, .declaration .execer,
      .importPath "fmt", .declaration .noRowsAffected, .declaration .sqlFilter]
    let served := arriving ["cruderQueryer"] requests
    let again := arriving ["cruderQueryer"] longer
    Repeating requests longer ∧ served.2.declarations = [.noRowsAffected, .execer, .sqlFilter] ∧
      again.2.declarations = [.noRowsAffected, .execer, .sqlFilter] ∧ again.2.header = served.2.header ∧
      again.2.imports = ["database/sql", "errors", "fmt"] ∧
      again.1 = [some false, some true, some true, none, some false, some true] := by
  intro requests longer served again
  have repeating : Repeating requests longer :=
    @Repeating.again requests [.declaration .queryer, .declaration .noRowsAffected, .declaration .execer,
      .importPath "fmt"] [.declaration .sqlFilter] (.declaration .noRowsAffected) .same (by decide)
  obtain ⟨declarations, _, _, unchanged⟩ := first_arrivals ["cruderQueryer"] requests
  obtain ⟨same, header_eq, imports_eq⟩ := unchanged longer repeating
  have shown : firstRequested ["cruderQueryer"] requests = [.noRowsAffected, .execer, .sqlFilter] := by decide +kernel
  refine ⟨repeating, declarations.trans shown, same.trans (declarations.trans shown), header_eq,
    imports_eq.trans ?_, ?_⟩
  · decide +kernel
  · decide +kernel

end Registry
end RecordAccess
