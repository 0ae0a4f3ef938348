import Mathlib.Data.String.Basic
import RecordAccess.Config.Variable

/-!
# Layers over one another

Of the values that layers give to a key, the last one stands, up to what is inside a map: maps are joined. The
environment is such a layer, and of its variables the last one for a key stands as well.
-/
namespace RecordAccess.Config

/-- The value, less what stands in it if it is a map. -/
def Value.flat : Value → Value
  | .map _ => .map []
  | value => value

/-- The value that entries give to a key: of several, the last one. -/
def lastOf (entries : List (String × Value)) (key : String) : Option Value := entries.reverse.lookup key

section Lookup
variable {entries newer older : List (String × Value)} {key : String}

theorem Value.flat_over (newer older : Value) : (newer.over older).flat = newer.flat := by
  cases newer with
  | map entries => cases older <;> simp only [Value.over, Value.flat]
  | _ => simp only [Value.over]

theorem lastOf_append : lastOf (older ++ newer) key = (lastOf newer key).or (lastOf older key) := by
  rw [lastOf, List.reverse_append, List.lookup_append]
  rfl

theorem lastOf_singleton (first key : String) (value : Value) :
    lastOf [(first, value)] key = if key = first then some value else none := by
  by_cases h : key = first
  · rw [if_pos h, h]
    exact List.lookup_cons_self
  · rw [if_neg h, lastOf, List.reverse_singleton, List.lookup_cons, beq_false_of_ne h]
    rfl

theorem lastOf_cons (first : String) (value : Value) :
    lastOf ((first, value) :: entries) key = (lastOf entries key).or (if key = first then some value else none) := by
  rw [← List.singleton_append, lastOf_append, lastOf_singleton]

theorem map_flat_or {first second third : Option Value} (h : second.map Value.flat = third.map Value.flat) :
    (first.or second).map Value.flat = (first.or third).map Value.flat := by
  cases first with
  | some value => rfl
  | none => exact h

/-- What is put over older entries decides, and the older ones count where it says nothing. -/
theorem flat_lookup_joined (newer older : List (String × Value)) (key : String) :
    ((joined newer older).lookup key).map Value.flat =
      ((lastOf newer key).or (older.lookup key)).map Value.flat := by
  induction newer generalizing older with
  | nil => rfl
  | cons entry rest ih =>
    obtain ⟨first, value⟩ := entry
    have merged : ((older.lookup first).elim value value.over).flat = value.flat := by
      cases older.lookup first with
      | none => rfl
      | some old => exact value.flat_over old
    rw [joined, ih, lastOf_cons, Option.or_assoc, lookup_put]
    refine map_flat_or ?_
    by_cases h : key = first
    · rw [if_pos h, if_pos h]
      exact congrArg some merged
    · rw [if_neg h, if_neg h]
      rfl

theorem flat_lookup_combined (layers : List Layer) (key : String) :
    ((combined layers).lookup key).map Value.flat =
      (lastOf (layers.flatMap Layer.entries) key).map Value.flat := by
  have folded : ∀ older, ((layers.foldl (fun entries layer => joined layer.entries entries) older).lookup
      key).map Value.flat =
        ((lastOf (layers.flatMap Layer.entries) key).or (older.lookup key)).map Value.flat := by
    induction layers with
    | nil => exact fun older => rfl
    | cons layer rest ih =>
      intro older
      rw [List.foldl_cons, ih, List.flatMap_cons, lastOf_append, Option.or_assoc]
      exact map_flat_or (flat_lookup_joined layer.entries older key)
  rw [combined, folded]
  cases lastOf (layers.flatMap Layer.entries) key <;> rfl

end Lookup

/-- Each key stands once, in order. -/
def Ascending (entries : List (String × Value)) : Prop := (entries.map Prod.fst).Pairwise (· < ·)

section Ascending
variable {entries newer older : List (String × Value)} {key : String} {value : Value}

theorem mem_keys_put {other : String} (h : other ∈ (put key value entries).map Prod.fst) :
    other = key ∨ other ∈ entries.map Prod.fst := by
  induction entries with
  | nil => exact .inl (List.mem_singleton.1 h)
  | cons entry rest ih =>
    unfold put at h
    split at h
    · exact List.mem_cons.1 h
    · split at h
      · exact (List.mem_cons.1 h).imp_right (List.mem_cons_of_mem _)
      · rcases List.mem_cons.1 h with rfl | h
        · exact .inr List.mem_cons_self
        · exact (ih h).imp_right (List.mem_cons_of_mem _)

theorem Ascending.put (h : Ascending entries) : Ascending (Config.put key value entries) := by
  induction entries with
  | nil => exact List.pairwise_singleton _ _
  | cons entry rest ih =>
    obtain ⟨first, old⟩ := entry
    obtain ⟨below, ascending⟩ := List.pairwise_cons.1 h
    unfold Config.put
    split
    · next before =>
      refine List.pairwise_cons.2 ⟨?_, h⟩
      intro other hother
      rcases List.mem_cons.1 hother with rfl | hother
      · exact before
      · exact before.trans (below other hother)
    · next notBefore =>
      split
      · next same =>
        subst same
        exact List.pairwise_cons.2 ⟨below, ascending⟩
      · next other =>
        have after : first < key := lt_of_le_of_ne (not_lt.1 notBefore) (Ne.symm other)
        refine List.pairwise_cons.2 ⟨?_, ih ascending⟩
        intro later hlater
        rcases mem_keys_put hlater with rfl | hlater
        · exact after
        · exact below later hlater

theorem Ascending.joined (h : Ascending older) : Ascending (Config.joined newer older) := by
  induction newer generalizing older with
  | nil => exact h
  | cons entry rest ih => exact ih h.put

/-- Where each key stands once, its first value is its last one. -/
theorem Ascending.lastOf_eq (h : Ascending entries) : lastOf entries key = entries.lookup key := by
  induction entries with
  | nil => rfl
  | cons entry rest ih =>
    obtain ⟨first, value⟩ := entry
    obtain ⟨below, ascending⟩ := List.pairwise_cons.1 h
    rw [lastOf_cons, ih ascending]
    by_cases hkey : key = first
    · subst hkey
      have absent : rest.lookup key = none := by
        rw [List.lookup_eq_none_iff]
        intro entry hentry
        exact bne_iff_ne.2 (below entry.1 (List.mem_map_of_mem hentry)).ne
      rw [absent, List.lookup_cons_self, if_pos rfl]
      rfl
    · rw [if_neg hkey, Option.or_none, List.lookup_cons, beq_false_of_ne hkey]

theorem ascending_combined (layers : List Layer) : Ascending (combined layers) := by
  have folded : ∀ older, Ascending older →
      Ascending (layers.foldl (fun entries layer => Config.joined layer.entries entries) older) := by
    induction layers with
    | nil => exact fun older h => h
    | cons layer rest ih => exact fun older h => ih _ h.joined
  exact folded [] List.Pairwise.nil

end Ascending

section Environment
variable (environment : List Variable) (key : String)

/-- The variables are put over one another as if each were a layer. -/
theorem entries_variableLayer : (variableLayer environment).entries =
    combined ((environment.filterMap Variable.entry).map fun entry => ⟨.environment, [entry]⟩) := by
  rw [combined, List.foldl_map]
  rfl

theorem flat_lastOf_variableLayer :
    (lastOf (variableLayer environment).entries key).map Value.flat =
      (lastOf (environment.filterMap Variable.entry) key).map Value.flat := by
  have given : ((environment.filterMap Variable.entry).map fun entry => (⟨.environment, [entry]⟩ : Layer)).flatMap
      Layer.entries = environment.filterMap Variable.entry := by
    rw [List.flatMap_map]
    exact List.flatMap_singleton' _
  rw [entries_variableLayer, (ascending_combined _).lastOf_eq, flat_lookup_combined, given]

end Environment

end RecordAccess.Config
