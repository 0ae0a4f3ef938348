import RecordAccess.Proofs.Registry.Answers

/-!
# The header goes by first requests

If every request for a declaration has a higher rank than those before it, then the header lists the
declarations in the order in which they were first requested, less those that the package has. The
tickets of operations that are served in turn are ranked so.
-/
namespace RecordAccess

section FirstOccurrences
variable {α β : Type} [BEq α] [LawfulBEq α] [BEq β] [LawfulBEq β]

theorem eraseDups_concat (l : List α) (a : α) :
    (l ++ [a]).eraseDups = l.eraseDups ++ if a ∈ l then [] else [a] := by
  rw [List.eraseDups_append]
  by_cases h : a ∈ l
  · simp [List.removeAll, h]
  · simp [List.removeAll, h, List.eraseDups_cons]

theorem nodup_eraseDups (l : List α) : l.eraseDups.Nodup := by
  induction l using List.reverseRecOn with
  | nil => exact List.nodup_nil
  | append_singleton l a ih =>
    rw [eraseDups_concat]
    split_ifs with h
    · simpa using ih
    · refine ih.append (List.nodup_singleton a) ?_
      intro b hb hsame
      rw [List.mem_singleton] at hsame
      subst hsame
      exact h (List.mem_eraseDups.1 hb)

theorem eraseDups_sublist (l : List α) : l.eraseDups.Sublist l := by
  induction l using List.reverseRecOn with
  | nil => exact List.nil_sublist []
  | append_singleton l a ih =>
    rw [eraseDups_concat]
    split_ifs with h
    · rw [List.append_nil]
      exact ih.trans (List.sublist_append_left l [a])
    · exact ih.append (List.Sublist.refl [a])

theorem removeAll_congr {l first second : List α} (h : ∀ a, a ∈ first ↔ a ∈ second) :
    l.removeAll first = l.removeAll second := by
  unfold List.removeAll
  refine List.filter_congr ?_
  intro a _
  rw [Bool.eq_iff_iff]
  simp [h]

/-- Repeated items bring nothing that their first occurrences do not bring. -/
theorem eraseDups_flatMap_eraseDups (f : α → List β) (l : List α) :
    (l.eraseDups.flatMap f).eraseDups = (l.flatMap f).eraseDups := by
  induction l using List.reverseRecOn with
  | nil => rfl
  | append_singleton l a ih =>
    have members : ∀ b, b ∈ l.eraseDups.flatMap f ↔ b ∈ l.flatMap f := by
      intro b
      simp only [List.mem_flatMap, List.mem_eraseDups]
    rw [eraseDups_concat, List.flatMap_append, List.flatMap_append, List.flatMap_singleton,
      List.eraseDups_append, List.eraseDups_append, ih]
    split_ifs with h
    · have known : (f a).removeAll (l.flatMap f) = [] := by
        refine List.filter_eq_nil_iff.2 ?_
        intro b hb
        have : b ∈ l.flatMap f := List.mem_flatMap.2 ⟨a, h, hb⟩
        simpa using this
      rw [known]
      simp
    · rw [List.flatMap_singleton, removeAll_congr members]

end FirstOccurrences

/-- The declaration that a request asks for. -/
def Request.declaration? : Request → Option Declaration
  | .declaration shared => some shared
  | .importPath _ => none

theorem Request.declaration?_eq_some_iff {request : Request} {declaration : Declaration} :
    request.declaration? = some declaration ↔ request = .declaration declaration := by
  cases request with
  | declaration other => simp [Request.declaration?]
  | importPath path => simp [Request.declaration?]

/-- The declarations that tickets request, in order. -/
def requestedBy (tickets : List Ticket) : List Declaration :=
  tickets.filterMap fun ticket => ticket.request.declaration?

theorem mem_requestedBy {tickets : List Ticket} {declaration : Declaration} :
    declaration ∈ requestedBy tickets ↔ ∃ rank, Requested tickets declaration rank := by
  unfold requestedBy Requested
  rw [List.mem_filterMap]
  constructor
  · rintro ⟨⟨rank, request⟩, hmem, hrequest⟩
    obtain rfl := Request.declaration?_eq_some_iff.1 hrequest
    exact ⟨rank, hmem⟩
  · rintro ⟨rank, hmem⟩
    exact ⟨_, hmem, rfl⟩

/-- The second ticket does not request a declaration at a rank up to that of the first. -/
def Ticket.Before (a b : Ticket) : Prop :=
  a.request.declaration?.isSome → b.request.declaration?.isSome → ¬b.rank ≤ a.rank

/-- Every request for a declaration has a higher rank than those before it. -/
def Rising (tickets : List Ticket) : Prop := tickets.Pairwise Ticket.Before

namespace Rising
variable {existing : List String} {tickets : List Ticket}

/-- Each request for a declaration comes after some request for every declaration that was first
requested earlier. -/
theorem pairwise_eraseDups (h : Rising tickets) : (requestedBy tickets).eraseDups.Pairwise fun a b =>
    ∀ later, Requested tickets b later → ∃ rank, Requested tickets a rank ∧ ¬later ≤ rank := by
  induction tickets using List.reverseRecOn with
  | nil => exact List.Pairwise.nil
  | append_singleton tickets ticket ih =>
    obtain ⟨hbefore, _, hlast⟩ := List.pairwise_append.1 h
    obtain ⟨at', request⟩ := ticket
    cases request with
    | importPath path =>
      have same : requestedBy (tickets ++ [⟨at', .importPath path⟩]) = requestedBy tickets := by
        simp [requestedBy, Request.declaration?]
      rw [same]
      simpa only [requested_concat_importPath] using ih hbefore
    | declaration declaration =>
      -- The new ticket comes after all the others, so it has a place behind every declaration.
      have last : ∀ other ∈ requestedBy tickets, ∃ rank, Requested tickets other rank ∧ ¬at' ≤ rank := by
        intro other hother
        obtain ⟨rank, hrank⟩ := mem_requestedBy.1 hother
        exact ⟨rank, hrank, hlast _ hrank _ (List.mem_singleton.2 rfl) rfl rfl⟩
      have concat : requestedBy (tickets ++ [⟨at', .declaration declaration⟩]) =
          requestedBy tickets ++ [declaration] := by
        simp [requestedBy, Request.declaration?]
      rw [concat, eraseDups_concat, List.pairwise_append]
      simp only [requested_concat_declaration]
      refine ⟨?_, ?_, ?_⟩
      · refine (ih hbefore).imp_of_mem ?_
        rintro a b ha _ hab later (hlater | ⟨rfl, rfl⟩)
        · obtain ⟨rank, hrank, hlt⟩ := hab later hlater
          exact ⟨rank, .inl hrank, hlt⟩
        · obtain ⟨rank, hrank, hlt⟩ := last a (List.mem_eraseDups.1 ha)
          exact ⟨rank, .inl hrank, hlt⟩
      · split_ifs
        · exact List.Pairwise.nil
        · exact List.pairwise_singleton _ _
      · intro a ha b hb later hlater
        split_ifs at hb with known
        · simp at hb
        · obtain rfl := List.mem_singleton.1 hb
          obtain ⟨rank, hrank, hlt⟩ := last a (List.mem_eraseDups.1 ha)
          rcases hlater with hlater | ⟨rfl, _⟩
          · exact absurd (mem_requestedBy.2 ⟨later, hlater⟩) known
          · exact ⟨rank, .inl hrank, hlt⟩

/-- The header lists the declarations that the package lacks in the order of their first requests. -/
theorem declarations_run (existing : List String) (h : Rising tickets) :
    ((Registry.ofExisting existing).run tickets).declarations =
      (requestedBy tickets).eraseDups.filter fun declaration =>
        !existing.contains declaration.identifier := by
  let registry := (Registry.ofExisting existing).run tickets
  have holds : Registry.Holds existing tickets registry := Registry.holds_run existing tickets
  have members : ∀ declaration, declaration ∈ registry.declarations ↔
      declaration ∈ (requestedBy tickets).eraseDups.filter fun declaration =>
        !existing.contains declaration.identifier := by
    intro declaration
    rw [registry.mem_declarations, holds.isDeclared_iff, List.mem_filter, List.mem_eraseDups,
      mem_requestedBy, Due]
    simp [and_comm]
  have perm := (List.perm_ext_iff_of_nodup registry.nodup_declarations
    ((nodup_eraseDups (requestedBy tickets)).filter _)).2 members
  have firsts := (h.pairwise_eraseDups).filter fun declaration =>
    !existing.contains declaration.identifier
  -- Both lists go by rank, and no two declarations can each come before the other.
  refine List.Perm.eq_of_pairwise ?_ registry.declarations_ascending ?_ perm
  · intro a b ha hb hab hba
    rw [registry.mem_declarations, Registry.isDeclared, Option.isSome_iff_exists] at ha
    rw [← members, registry.mem_declarations, Registry.isDeclared, Option.isSome_iff_exists] at hb
    obtain ⟨first, hfirst⟩ := ha
    obtain ⟨second, hsecond⟩ := hb
    obtain ⟨hle, htie⟩ := hab first second hfirst hsecond
    obtain ⟨hge, hback⟩ := hba second first hsecond hfirst
    have same := Rank.le_antisymm hle hge
    have lt := htie same
    have gt := hback same.symm
    omega
  · refine firsts.imp ?_
    intro a b hab first second hfirst hsecond
    obtain ⟨hrequested, _⟩ := holds.lowest b second hsecond
    obtain ⟨rank, hrank, hlt⟩ := hab second hrequested
    have hle : first ≤ rank := (holds.lowest a first hfirst).2 rank hrank
    have below : ¬second ≤ first := fun hge => hlt (Rank.le_trans hge hle)
    refine ⟨(Rank.le_total first second).resolve_right below, ?_⟩
    intro heq
    exact absurd (heq ▸ Rank.le_refl _) below

end Rising

section InTurn

theorem rank_of_mem_ticketsFrom {operation next : Nat} {requests : List Request} {ticket : Ticket}
    (h : ticket ∈ ticketsFrom operation next requests) :
    ticket.rank.operation = operation ∧ next ≤ ticket.rank.request := by
  induction requests generalizing next with
  | nil => simp [ticketsFrom] at h
  | cons request rest ih =>
    cases request with
    | declaration declaration =>
      rcases List.mem_cons.1 h with rfl | h
      · exact ⟨rfl, Nat.le_refl _⟩
      · obtain ⟨hoperation, hnext⟩ := ih h
        exact ⟨hoperation, Nat.le_of_succ_le hnext⟩
    | importPath path =>
      rcases List.mem_cons.1 h with rfl | h
      · exact ⟨rfl, Nat.le_refl _⟩
      · exact ih h

theorem rising_ticketsFrom (operation next : Nat) (requests : List Request) :
    Rising (ticketsFrom operation next requests) := by
  induction requests generalizing next with
  | nil => exact List.Pairwise.nil
  | cons request rest ih =>
    cases request with
    | declaration declaration =>
      refine List.Pairwise.cons ?_ (ih _)
      intro ticket hticket _ _ hle
      obtain ⟨hoperation, hnext⟩ := rank_of_mem_ticketsFrom hticket
      rw [Rank.le_def] at hle
      dsimp only at hle
      omega
    | importPath path =>
      refine List.Pairwise.cons ?_ (ih _)
      intro ticket _ hfirst
      simp [Request.declaration?] at hfirst

/-- Operations that are served in turn have rising ranks, and so have those after the first few. -/
theorem rising_rows (rows : List (List Request)) (start : Nat) :
    Rising (((rows.zipIdx start).map fun (row, operation) => tickets operation row).flatten) := by
  induction rows generalizing start with
  | nil => exact List.Pairwise.nil
  | cons row rows ih =>
    rw [List.zipIdx_cons, List.map_cons, List.flatten_cons]
    refine List.pairwise_append.2 ⟨rising_ticketsFrom start 0 row, ih (start + 1), ?_⟩
    intro a ha b hb _ _ hle
    obtain ⟨tickets, htickets, hb⟩ := List.mem_flatten.1 hb
    obtain ⟨⟨other, operation⟩, hother, rfl⟩ := List.mem_map.1 htickets
    have hstart := List.le_snd_of_mem_zipIdx hother
    have hfirst := (rank_of_mem_ticketsFrom ha).1
    have hlater := (rank_of_mem_ticketsFrom hb).1
    rw [Rank.le_def] at hle
    simp only at hlater hstart
    omega

theorem rising_inTurn (rows : List (List Request)) : Rising (Schedule.inTurn (Schedule.rows rows)) :=
  rising_rows rows 0

theorem map_request_ticketsFrom (operation next : Nat) (requests : List Request) :
    (ticketsFrom operation next requests).map Ticket.request = requests := by
  induction requests generalizing next with
  | nil => rfl
  | cons request rest ih =>
    cases request with
    | declaration declaration => exact congrArg (.declaration declaration :: ·) (ih (next + 1))
    | importPath path => exact congrArg (.importPath path :: ·) (ih next)

theorem map_request_inTurn (rows : List (List Request)) :
    (Schedule.inTurn (Schedule.rows rows)).map Ticket.request = rows.flatten := by
  suffices h : ∀ start, ((rows.zipIdx start).map fun (row, operation) =>
      tickets operation row).flatten.map Ticket.request = rows.flatten from h 0
  induction rows with
  | nil => intro start; rfl
  | cons row rows ih =>
    intro start
    rw [List.zipIdx_cons, List.map_cons, List.flatten_cons, List.flatten_cons, List.map_append,
      ih (start + 1)]
    exact congrArg (· ++ _) (map_request_ticketsFrom start 0 row)

theorem requestedBy_eq_filterMap (tickets : List Ticket) :
    requestedBy tickets = (tickets.map Ticket.request).filterMap Request.declaration? := by
  rw [List.filterMap_map]
  rfl

theorem requested_path_inTurn_iff {rows : List (List Request)} {path : String} :
    (∃ rank, ⟨rank, .importPath path⟩ ∈ Schedule.inTurn (Schedule.rows rows)) ↔
      ∃ row ∈ rows, .importPath path ∈ row := by
  rw [← List.mem_flatten, ← map_request_inTurn, List.mem_map]
  constructor
  · rintro ⟨rank, hmem⟩
    exact ⟨_, hmem, rfl⟩
  · rintro ⟨⟨rank, request⟩, hmem, rfl⟩
    exact ⟨rank, hmem⟩

end InTurn

end RecordAccess
