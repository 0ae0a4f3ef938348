import RecordAccess.Registry.Declaration

/-!
# The registry of a generation run

The registry collects what the generated functions share: the declarations for the header, each with
the lowest rank at which it was requested, and the import paths. A declaration that the package
already has is never taken up. The header lists the declarations by rank, so its order depends on
which requests were served and not on when.

A rank is the place of a request in a generation run: first the place of its operation in the
requested list, then its place among the requests of that operation. Ranks are compared in that
order, so they do not depend on when a request is served.
-/
namespace RecordAccess

structure Rank where
  operation : Nat
  request : Nat
  deriving DecidableEq, Repr

namespace Rank

instance : LE Rank where
  le a b := a.operation < b.operation ∨ (a.operation = b.operation ∧ a.request ≤ b.request)

theorem le_def {a b : Rank} :
    a ≤ b ↔ a.operation < b.operation ∨ (a.operation = b.operation ∧ a.request ≤ b.request) :=
  Iff.rfl

instance (a b : Rank) : Decidable (a ≤ b) := decidable_of_iff' _ le_def

instance : Min Rank where
  min a b := if a ≤ b then a else b

end Rank

/-- Something a generated function needs outside its own text. -/
inductive Request where
  | declaration (declaration : Declaration)
  | importPath (path : String)
  deriving DecidableEq, Repr

/-- A request together with the rank at which it is made; an import has no use for it. -/
structure Ticket where
  rank : Rank
  request : Request
  deriving DecidableEq, Repr

/-- The requests of one operation with their ranks, from the request numbered `next` on. Only
declarations count as requests. -/
def ticketsFrom (operation next : Nat) : List Request → List Ticket
  | [] => []
  | .declaration declaration :: rest =>
    ⟨⟨operation, next⟩, .declaration declaration⟩ :: ticketsFrom operation (next + 1) rest
  | .importPath path :: rest =>
    ⟨⟨operation, next⟩, .importPath path⟩ :: ticketsFrom operation next rest

/-- The requests of the operation at a position, with their ranks. -/
def tickets (operation : Nat) (requests : List Request) : List Ticket :=
  ticketsFrom operation 0 requests

/-- Adds a path to an ascending list of paths. -/
def insertPath (path : String) : List String → List String
  | [] => [path]
  | first :: rest =>
    if path < first then path :: first :: rest
    else if path = first then first :: rest
    else first :: insertPath path rest

structure Registry where
  /-- The rank of each declaration taken up for the header. -/
  rank? : Declaration → Option Rank := fun _ => none
  /-- The identifiers that the package already declares. -/
  existing : List String := []
  /-- The import paths, ascending. -/
  imports : List String := []
  /-- The number of declarations requested without a rank of their own. -/
  arrivals : Nat := 0

namespace Registry

def ofExisting (identifiers : List String) : Registry := { existing := identifiers }

def require (registry : Registry) (path : String) : Registry :=
  { registry with imports := insertPath path registry.imports }

def setRank (registry : Registry) (declaration : Declaration) (rank : Rank) : Registry :=
  { registry with rank? := fun other => if other = declaration then some rank else registry.rank? other }

/-- Requests a declaration at a rank. The flag says whether this took it up: an existing one is left
alone, one taken up before keeps the lower rank, and a new one brings its imports. -/
def declareAt (registry : Registry) (declaration : Declaration) (rank : Rank) : Bool × Registry :=
  if registry.existing.contains declaration.identifier then (false, registry)
  else
    match registry.rank? declaration with
    | some current => (false, registry.setRank declaration (min current rank))
    | none => (true, declaration.imports.foldl require (registry.setRank declaration rank))

/-- Requests a declaration in order of arrival. -/
def declareNext (registry : Registry) (declaration : Declaration) : Bool × Registry :=
  { registry with arrivals := registry.arrivals + 1 }.declareAt declaration ⟨0, registry.arrivals⟩

/-- Serves a request with its rank. The flag is that of a declaration. -/
def serve (registry : Registry) (ticket : Ticket) : Option Bool × Registry :=
  match ticket.request with
  | .declaration declaration =>
    let (taken, registry) := registry.declareAt declaration ticket.rank
    (some taken, registry)
  | .importPath path => (none, registry.require path)

/-- Serves a request in order of arrival. -/
def serveNext (registry : Registry) (request : Request) : Option Bool × Registry :=
  match request with
  | .declaration declaration =>
    let (taken, registry) := registry.declareNext declaration
    (some taken, registry)
  | .importPath path => (none, registry.require path)

def serveAll {α : Type} (serveOne : Registry → α → Option Bool × Registry) (registry : Registry) :
    List α → List (Option Bool) × Registry
  | [] => ([], registry)
  | request :: rest =>
    let (flag, registry) := serveOne registry request
    let (flags, registry) := serveAll serveOne registry rest
    (flag :: flags, registry)

def run (registry : Registry) (schedule : List Ticket) : Registry :=
  schedule.foldl (fun registry ticket => (registry.serve ticket).2) registry

def isDeclared (registry : Registry) (declaration : Declaration) : Bool :=
  (registry.rank? declaration).isSome

/-- Whether one ranked declaration stands before another in the header, or is the same. -/
def precedes (a b : Rank × Declaration) : Bool :=
  if a.1 = b.1 then a.2.index ≤ b.2.index else a.1 ≤ b.1

/-- The declarations taken up, with their ranks. -/
def ranked (registry : Registry) : List (Rank × Declaration) :=
  Declaration.all.filterMap fun declaration =>
    (registry.rank? declaration).map fun rank => (rank, declaration)

def declarations (registry : Registry) : List Declaration :=
  (registry.ranked.mergeSort precedes).map Prod.snd

/-- The text of the header: each declaration once. -/
def header (registry : Registry) : String := String.join (registry.declarations.map Declaration.text)

end Registry

/-! ## Schedules

Operations that are rendered side by side send their tickets to one registry, each in its own order
and one ticket at a time. A schedule is the order in which the registry serves them: any interleaving
of the operations' tickets. -/

/-- The list interleaves the given lists: it takes their items one by one, each list from its start. -/
inductive Interleaves {α : Type} : List (List α) → List α → Prop
  /-- No list has an item left. -/
  | done {rows : List (List α)} (empty : ∀ row ∈ rows, row = []) : Interleaves rows []
  /-- The next item is the first one of some list. -/
  | step {before after : List (List α)} {item : α} {row items : List α}
      (rest : Interleaves (before ++ row :: after) items) :
      Interleaves (before ++ (item :: row) :: after) (item :: items)

namespace Schedule

def inTurn {α : Type} (rows : List (List α)) : List α := rows.flatten

/-- The first items of all lists, then their second items, and so on. -/
def roundRobin {α : Type} (rows : List (List α)) : List α :=
  (List.range ((rows.map List.length).foldr max 0)).flatMap fun i => rows.filterMap fun row => row[i]?

/-- The tickets of operations in a requested list, by operation. -/
def rows (requests : List (List Request)) : List (List Ticket) :=
  requests.zipIdx.map fun (row, operation) => tickets operation row

end Schedule

end RecordAccess
