import Mathlib.Data.List.Nodup
import Mathlib.Data.Nat.Find
import Mathlib.Logic.ExistsUnique
import RecordAccess.Proofs.Registry.Scheduled

/-!
# The header and the answers to requests

The header shows the scheduled declarations by ascending rank, and those of one rank in their fixed
order, each once. Tickets that are served in whatever order leave one and the same registry. Their
answers differ, but in every order just one request for each scheduled declaration is told that it
took the declaration up, and that is the first one.
-/
namespace RecordAccess

namespace Declaration

theorem mem_all (declaration : Declaration) : declaration ∈ all := by
  cases declaration <;> decide

theorem index_injective {a b : Declaration} (h : a.index = b.index) : a = b := by
  cases a <;> cases b <;> first | rfl | simp [index] at h

theorem text_injective {a b : Declaration} (h : a.text = b.text) : a = b := by
  have distinct : ∀ a ∈ all, ∀ b ∈ all, a.text = b.text → a = b := by decide +kernel
  exact distinct a (mem_all a) b (mem_all b) h

end Declaration

namespace Registry

section Order
variable (registry : Registry)

theorem precedes_iff {a b : Rank × Declaration} :
    precedes a b ↔ a.1 ≤ b.1 ∧ (a.1 = b.1 → a.2.index ≤ b.2.index) := by
  unfold precedes
  split_ifs with h
  · simp [h, Rank.le_refl]
  · simp [h]

theorem precedes_trans (a b c : Rank × Declaration) (hab : precedes a b) (hbc : precedes b c) :
    precedes a c := by
  rw [precedes_iff] at hab hbc ⊢
  refine ⟨Rank.le_trans hab.1 hbc.1, ?_⟩
  intro heq
  have hba : b.1 ≤ a.1 := heq ▸ hbc.1
  have same : a.1 = b.1 := Rank.le_antisymm hab.1 hba
  exact (hab.2 same).trans (hbc.2 (same ▸ heq))

theorem precedes_total (a b : Rank × Declaration) : precedes a b || precedes b a := by
  rw [Bool.or_eq_true, precedes_iff, precedes_iff]
  by_cases same : a.1 = b.1
  · rcases Nat.le_total a.2.index b.2.index with h | h
    · exact .inl ⟨same ▸ Rank.le_refl _, fun _ => h⟩
    · exact .inr ⟨same ▸ Rank.le_refl _, fun _ => h⟩
  · rcases Rank.le_total a.1 b.1 with h | h
    · exact .inl ⟨h, fun heq => absurd heq same⟩
    · exact .inr ⟨h, fun heq => absurd heq.symm same⟩

theorem mem_ranked {entry : Rank × Declaration} :
    entry ∈ registry.ranked ↔ registry.rank? entry.2 = some entry.1 := by
  obtain ⟨rank, declaration⟩ := entry
  unfold ranked
  rw [List.mem_filterMap]
  constructor
  · rintro ⟨other, _, hother⟩
    obtain ⟨found, hfound, heq⟩ := Option.map_eq_some_iff.1 hother
    obtain ⟨rfl, rfl⟩ := Prod.mk.inj heq
    exact hfound
  · intro h
    exact ⟨declaration, Declaration.mem_all declaration, by simp only [h, Option.map_some]⟩

theorem nodup_ranked : (registry.ranked.map Prod.snd).Nodup := by
  have shown : registry.ranked.map Prod.snd = Declaration.all.filter registry.isDeclared := by
    unfold ranked
    rw [List.map_filterMap]
    induction Declaration.all with
    | nil => rfl
    | cons first rest ih =>
      rw [List.filterMap_cons, List.filter_cons, ih]
      unfold isDeclared
      cases registry.rank? first <;> simp
  rw [shown]
  exact List.Nodup.filter _ (by decide)

theorem nodup_declarations : registry.declarations.Nodup := by
  have perm := (List.mergeSort_perm registry.ranked precedes).map Prod.snd
  exact perm.nodup_iff.2 registry.nodup_ranked

theorem mem_declarations {declaration : Declaration} :
    declaration ∈ registry.declarations ↔ registry.isDeclared declaration := by
  have perm := (List.mergeSort_perm registry.ranked precedes).map Prod.snd
  unfold declarations isDeclared
  rw [perm.mem_iff, List.mem_map, Option.isSome_iff_exists]
  constructor
  · rintro ⟨⟨rank, _⟩, hmem, rfl⟩
    exact ⟨rank, registry.mem_ranked.1 hmem⟩
  · rintro ⟨rank, hrank⟩
    exact ⟨(rank, declaration), registry.mem_ranked.2 hrank, rfl⟩

/-- The header goes by ascending rank, and by the fixed order among declarations of one rank. -/
theorem declarations_ascending : registry.declarations.Pairwise fun a b => ∀ first second,
    registry.rank? a = some first → registry.rank? b = some second →
      first ≤ second ∧ (first = second → a.index < b.index) := by
  have sorted : (registry.ranked.mergeSort precedes).Pairwise fun a b => precedes a b :=
    List.pairwise_mergeSort precedes_trans precedes_total registry.ranked
  have distinct : (registry.ranked.mergeSort precedes).Pairwise fun a b => a.2 ≠ b.2 :=
    List.pairwise_map.1 registry.nodup_declarations
  unfold declarations
  rw [List.pairwise_map]
  refine (sorted.and distinct).imp_of_mem ?_
  rintro ⟨rank, a⟩ ⟨later, b⟩ ha hb ⟨hprecedes, hne⟩ first second hfirst hsecond
  have hrank := registry.mem_ranked.1 (List.mem_mergeSort.1 ha)
  have hlater := registry.mem_ranked.1 (List.mem_mergeSort.1 hb)
  obtain rfl : rank = first := Option.some.inj (hrank.symm.trans hfirst)
  obtain rfl : later = second := Option.some.inj (hlater.symm.trans hsecond)
  obtain ⟨hle, htie⟩ := precedes_iff.1 hprecedes
  refine ⟨hle, ?_⟩
  intro heq
  have apart : a.index ≠ b.index := fun hindex => hne (Declaration.index_injective hindex)
  exact Nat.lt_of_le_of_ne (htie heq) apart

end Order

section Flags
variable {existing : List String} {tickets : List Ticket}

theorem declareAt_fst (registry : Registry) (declaration : Declaration) (rank : Rank) :
    (registry.declareAt declaration rank).1 =
      (!registry.existing.contains declaration.identifier && !registry.isDeclared declaration) := by
  unfold declareAt isDeclared
  split_ifs with h
  · simp only [h, Bool.not_true, Bool.false_and]
  · rw [Bool.not_eq_true] at h
    rw [h]
    cases registry.rank? declaration <;> rfl

theorem length_flags (registry : Registry) (tickets : List Ticket) :
    (registry.serveAll serve tickets).1.length = tickets.length := by
  induction tickets generalizing registry with
  | nil => rfl
  | cons ticket rest ih => exact congrArg (· + 1) (ih (registry.serve ticket).2)

/-- A ticket is answered by the registry that the tickets before it leave. -/
theorem getElem?_flags (registry : Registry) (tickets : List Ticket) (i : Nat) :
    (registry.serveAll serve tickets).1[i]? =
      tickets[i]?.map fun ticket => ((registry.run (tickets.take i)).serve ticket).1 := by
  induction tickets generalizing registry i with
  | nil => simp [serveAll]
  | cons ticket rest ih =>
    cases i with
    | zero => rfl
    | succ i => exact ih (registry.serve ticket).2 i

/-- The ticket at the place requests the declaration. -/
def AskedAt (tickets : List Ticket) (declaration : Declaration) (i : Nat) : Prop :=
  ∃ rank, tickets[i]? = some ⟨rank, .declaration declaration⟩

/-- The ticket at the place is the first one that requests the declaration. -/
def FirstAt (tickets : List Ticket) (declaration : Declaration) (i : Nat) : Prop :=
  AskedAt tickets declaration i ∧ ∀ j < i, ¬AskedAt tickets declaration j

theorem exists_askedAt {declaration : Declaration} {rank : Rank}
    (h : Requested tickets declaration rank) : ∃ i, AskedAt tickets declaration i := by
  obtain ⟨i, hi⟩ := List.mem_iff_getElem?.1 h
  exact ⟨i, rank, hi⟩

theorem requested_take {declaration : Declaration} {i : Nat} :
    (∃ rank, Requested (tickets.take i) declaration rank) ↔
      ∃ j < i, AskedAt tickets declaration j := by
  constructor
  · rintro ⟨rank, h⟩
    obtain ⟨j, hj, heq⟩ := List.mem_take_iff_getElem.1 h
    exact ⟨j, by omega, rank, List.getElem?_eq_some_iff.2 ⟨by omega, heq⟩⟩
  · rintro ⟨j, hj, rank, heq⟩
    obtain ⟨hlen, heq⟩ := List.getElem?_eq_some_iff.1 heq
    exact ⟨rank, List.mem_take_iff_getElem.2 ⟨j, by omega, heq⟩⟩

theorem exists_firstAt {declaration : Declaration} {rank : Rank}
    (h : Requested tickets declaration rank) : ∃ i, FirstAt tickets declaration i := by
  classical
  have asked := exists_askedAt h
  exact ⟨Nat.find asked, Nat.find_spec asked, fun _ hj => Nat.find_min asked hj⟩

theorem firstAt_unique {declaration : Declaration} {i j : Nat} (hi : FirstAt tickets declaration i)
    (hj : FirstAt tickets declaration j) : i = j := by
  rcases lt_trichotomy i j with h | h | h
  · exact absurd hi.1 (hj.2 i h)
  · exact h
  · exact absurd hj.1 (hi.2 j h)

/-- What tickets are told, in their order: a request for a declaration whether it took it up. -/
structure Answers (existing : List String) (tickets : List Ticket) (flags : List (Option Bool)) :
    Prop where
  length_eq : flags.length = tickets.length
  importPath : ∀ (i : Nat) rank path, tickets[i]? = some ⟨rank, .importPath path⟩ →
    flags[i]? = some none
  declaration : ∀ i declaration, AskedAt tickets declaration i →
    ∃ taken, flags[i]? = some (some taken) ∧
      (taken = true ↔ declaration.identifier ∉ existing ∧ FirstAt tickets declaration i)

theorem answers_serveAll (existing : List String) (tickets : List Ticket) :
    Answers existing tickets ((ofExisting existing).serveAll serve tickets).1 where
  length_eq := length_flags _ _
  importPath i rank path h := by
    rw [getElem?_flags, h]
    rfl
  declaration i declaration h := by
    -- The answer is given by the registry that the tickets before this one leave.
    have holds := holds_run existing (tickets.take i)
    obtain ⟨rank, hrank⟩ := id h
    refine ⟨(((ofExisting existing).run (tickets.take i)).declareAt declaration rank).1, ?_, ?_⟩
    · rw [getElem?_flags, hrank]
      rfl
    · rw [declareAt_fst, holds.existing_eq, Bool.and_eq_true, Bool.not_eq_true', Bool.not_eq_true',
        Bool.eq_false_iff, Bool.eq_false_iff, ne_eq, ne_eq, holds.isDeclared_iff,
        List.contains_iff_mem, Due, requested_take]
      constructor
      · rintro ⟨lacking, unasked⟩
        refine ⟨lacking, h, ?_⟩
        intro j hj asked
        exact unasked ⟨lacking, j, hj, asked⟩
      · rintro ⟨lacking, _, unasked⟩
        refine ⟨lacking, ?_⟩
        rintro ⟨_, j, hj, asked⟩
        exact unasked j hj asked

/-- One request for a declaration that is due takes it up, and that is the first. -/
theorem Answers.existsUnique {flags : List (Option Bool)} (h : Answers existing tickets flags)
    {declaration : Declaration} (hdue : Due existing tickets declaration) :
    ∃! i : Nat, AskedAt tickets declaration i ∧ flags[i]? = some (some true) := by
  obtain ⟨lacking, rank, hrank⟩ := hdue
  obtain ⟨i, hi⟩ := exists_firstAt hrank
  obtain ⟨taken, htaken, hiff⟩ := h.declaration i declaration hi.1
  refine ⟨i, ⟨hi.1, by rw [htaken, hiff.2 ⟨lacking, hi⟩]⟩, ?_⟩
  rintro j ⟨asked, hflag⟩
  obtain ⟨other, hother, hfirst⟩ := h.declaration j declaration asked
  obtain rfl : other = true := by simpa [hother] using hflag
  exact firstAt_unique (hfirst.1 rfl).2 hi

end Flags

structure Shows (registry : Registry) (shown : Declaration → Prop) : Prop where
  mem_iff : ∀ declaration, declaration ∈ registry.declarations ↔ shown declaration
  ascending : registry.declarations.Pairwise fun a b => ∀ first second,
    registry.rank? a = some first → registry.rank? b = some second →
      first ≤ second ∧ (first = second → a.index < b.index)
  header_eq : registry.header = String.join (registry.declarations.map Declaration.text)
  texts_nodup : (registry.declarations.map Declaration.text).Nodup

theorem Holds.shows {existing : List String} {tickets : List Ticket} {registry : Registry}
    (h : Holds existing tickets registry) : Shows registry (Due existing tickets) where
  mem_iff declaration := by rw [mem_declarations, h.isDeclared_iff]
  ascending := registry.declarations_ascending
  header_eq := rfl
  texts_nodup := by
    have distinct : Function.Injective Declaration.text := fun _ _ => Declaration.text_injective
    exact registry.nodup_declarations.map distinct

/-- Tickets leave the same registry in every order, with the same header. It holds the declarations that
are due, each at the lowest of its ranks, and the imports that were asked for or come with those. In
every order exactly one request for each of them takes it up, the first one, and no request for a
declaration that the package has takes it up. -/
theorem confluent (existing : List String) {tickets order : List Ticket} (h : order.Perm tickets) :
    ((ofExisting existing).serveAll serve order).2 = (ofExisting existing).run tickets ∧
    Holds existing tickets ((ofExisting existing).run tickets) ∧
    Shows ((ofExisting existing).run tickets) (Due existing tickets) ∧
    Answers existing order ((ofExisting existing).serveAll serve order).1 ∧
    (∀ declaration, Due existing tickets declaration → ∃! i : Nat, AskedAt order declaration i ∧
      ((ofExisting existing).serveAll serve order).1[i]? = some (some true)) := by
  have holds := holds_run existing tickets
  have answers := answers_serveAll existing order
  refine ⟨?_, holds, holds.shows, answers, ?_⟩
  · rw [serveAll_serve_snd]
    exact run_perm _ h
  · rintro declaration ⟨lacking, rank, hrank⟩
    exact answers.existsUnique ⟨lacking, rank, h.mem_iff.2 hrank⟩

/-- Two requests for the executor in falling ranks around one for a declaration that the package has: the
reverse order leaves the same registry, and there too the first request takes the executor up. -/
theorem confluent_execer :
    let late : Ticket := ⟨⟨3, 0⟩, .declaration .execer⟩
    let early : Ticket := ⟨⟨1, 2⟩, .declaration .execer⟩
    let lacked : Ticket := ⟨⟨0, 0⟩, .declaration .queryer⟩
    let package := ofExisting ["cruderQueryer"]
    [early, lacked, late].Perm [late, lacked, early] ∧
      (package.serveAll serve [early, lacked, late]).2 = package.run [late, lacked, early] ∧
      (package.run [late, lacked, early]).rank? .execer = some ⟨1, 2⟩ ∧
      (package.run [late, lacked, early]).declarations = [.execer] ∧
      (package.serveAll serve [early, lacked, late]).1 = [some true, some false, some false] := by
  intro late early lacked package
  have perm : [early, lacked, late].Perm [late, lacked, early] := by decide
  exact ⟨perm, (confluent ["cruderQueryer"] perm).1, by decide, by decide +kernel, by decide⟩

end Registry
end RecordAccess
