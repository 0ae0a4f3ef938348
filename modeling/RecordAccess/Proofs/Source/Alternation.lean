import Mathlib.Algebra.Group.Nat.Even
import RecordAccess.Proofs.Source.Outline

/-!
# Code and raw strings in turn

A text alternates if it is read by its backquotes alone: each of them takes code into a raw string or a raw string
back to code, wherever the text starts. Names without quotes and slashes alternate, and so does a template filled
with them. The check accepts a text that alternates only if its backquotes are even in number.
-/
namespace RecordAccess.Source

/-- Code or a raw string, whichever it is after so many backquotes. -/
def Mode.turned (n : Nat) : Mode := if Even n then .code else .raw

/-- The reading is in a mode, and no line has ended inside a literal that cannot span lines. -/
structure Reading.Stands (mode : Mode) (reading : Reading Char) : Prop where
  mode_eq : reading.mode = mode
  held_eq : mode.quote? = none → reading.held = []
  no_cut : ∀ mode ∈ reading.breaks, ∀ quote, mode ≠ .literal quote

/-- Whether a character bounds no literal on one line and starts no comment. -/
def isQuiet (c : Char) : Bool := !(['/', doubleQuote, singleQuote].contains c)

theorem isQuiet_iff {c : Char} : isQuiet c ↔ c ∉ ['/', doubleQuote, singleQuote] := by simp [isQuiet]

/-- The mode stays the same over a character whatever follows it, and the character ends no literal. -/
def Mode.Dwells (mode : Mode) (c : Char) : Prop := mode.isCutBy c = false ∧ ∀ next, mode.after c next = mode

theorem dwells_raw {c : Char} (h : c ≠ backquote) : Mode.raw.Dwells c := by
  simp [Mode.Dwells, Mode.isCutBy, Mode.after, h]

namespace Reading.Stands
variable {mode : Mode} {reading : Reading Char} {s : List Char} {n : Nat}

theorem step (h : reading.Stands mode) {c : Char} (hcut : mode.isCutBy c = false) (next : Option Char) :
    (reading.step c c next).Stands (mode.after c next) where
  mode_eq := congrArg (fun mode : Mode => mode.after c next) h.mode_eq
  held_eq hnone := by
    have held := h.held_eq
    rw [← h.mode_eq] at held hnone
    simp only [Reading.step, hnone]
    cases hquote : reading.mode.quote? with
    | none => exact held hquote
    | some quote => rfl
  no_cut := no_cut_step h.no_cut (by simp [h.mode_eq, hcut]) next

theorem read_of_dwells (h : reading.Stands mode) (hs : ∀ c ∈ s, mode.Dwells c) (next : Option Char) :
    (reading.read next s).Stands mode := by
  induction s generalizing reading with
  | nil => exact h
  | cons c rest ih =>
    obtain ⟨cut, dwells⟩ := hs c List.mem_cons_self
    have first := h.step cut (rest.head?.or next)
    rw [dwells] at first
    exact ih first fun d hd => hs d (List.mem_cons_of_mem c hd)

/-- A text that spells something leads from code to code. -/
theorem read_of_spells (h : reading.Stands .code) {brackets : List Char} {raws : List (List Char)}
    (hs : Source.Spells s brackets raws) (next : Option Char) : (reading.read next s).Stands .code := by
  have later := hs next
  rw [← followedBy_self h.mode_eq (h.held_eq rfl), read_followedBy]
  refine ⟨later.mode_eq, fun _ => later.held_eq, ?_⟩
  rintro mode hmem quote rfl
  rcases List.mem_append.1 hmem with hmem | hmem
  · exact h.no_cut _ hmem quote rfl
  · exact absurd (later.breaks_closed _ hmem) (by simp [Mode.isClosed])

/-- A text that ends in code or in a raw string is accepted if it is in code, and its brackets nest. -/
theorem accepted_iff (h : reading.Stands (.turned n)) :
    reading.Accepted ↔ Even n ∧ nest [] reading.brackets = some [] := by
  have closed : reading.mode.isClosed ↔ Even n := by
    rw [h.mode_eq, Mode.turned]
    split
    · simp_all [Mode.isClosed]
    · simp_all [Mode.isClosed]
  exact ⟨fun accepted => ⟨closed.1 accepted.ends_closed, accepted.nested⟩,
    fun nests => ⟨closed.2 nests.1, h.no_cut, nests.2⟩⟩

end Reading.Stands

/-- The text takes code into raw strings and back at each of its backquotes, and nowhere else. -/
def Alternates (s : List Char) : Prop :=
  ∀ n (reading : Reading Char) next, reading.Stands (.turned n) →
    (reading.read next s).Stands (.turned (n + s.count backquote))

section Alternates
variable {s t : List Char}

theorem alternates_nil : Alternates [] := fun _ _ _ h => h

theorem Alternates.append (hs : Alternates s) (ht : Alternates t) : Alternates (s ++ t) := by
  intro n reading next h
  rw [Reading.read_append, List.count_append, ← Nat.add_assoc]
  exact ht _ _ next (hs n reading _ h)

theorem Alternates.flatMap {α : Type} {items : List α} {text : α → List Char}
    (h : ∀ item ∈ items, Alternates (text item)) : Alternates (items.flatMap text) := by
  induction items with
  | nil => exact alternates_nil
  | cons item rest ih =>
    rw [List.flatMap_cons]
    exact (h item List.mem_cons_self).append (ih fun other hother => h other (List.mem_cons_of_mem _ hother))

theorem alternates_singleton {c : Char} (h : isQuiet c) : Alternates [c] := by
  have quiet : c ≠ '/' ∧ c ≠ doubleQuote ∧ c ≠ singleQuote := by simpa [isQuiet] using h
  intro n reading next stands
  have cut : (Mode.turned n).isCutBy c = false := by
    unfold Mode.turned
    split <;> rfl
  have after : (Mode.turned n).after c next = .turned (n + [c].count backquote) := by
    by_cases hquote : c = backquote
    · by_cases even : Even n <;>
        simp [Mode.turned, Mode.after, hquote, even, Nat.even_add_one, doubleQuote, singleQuote, backquote]
    · by_cases even : Even n <;> simp [Mode.turned, Mode.after, hquote, even, quiet]
  exact after ▸ stands.step cut next

theorem alternates_of_quiet (h : ∀ c ∈ s, isQuiet c) : Alternates s := by
  induction s with
  | nil => exact alternates_nil
  | cons c rest ih =>
    exact (alternates_singleton (h c List.mem_cons_self)).append
      (ih fun d hd => h d (List.mem_cons_of_mem c hd))

/-- A text without backquotes alternates if it leads from code to code. Inside a raw string nothing else ends
it. -/
theorem alternates_of_returns (hquote : backquote ∉ s)
    (h : ∀ (reading : Reading Char) next, reading.Stands .code → (reading.read next s).Stands .code) :
    Alternates s := by
  intro n reading next stands
  rw [List.count_eq_zero_of_not_mem hquote, Nat.add_zero]
  unfold Mode.turned at stands ⊢
  split
  · next even =>
    rw [if_pos even] at stands
    exact h reading next stands
  · next odd =>
    rw [if_neg odd] at stands
    exact stands.read_of_dwells (fun c hc => dwells_raw fun hq => hquote (hq ▸ hc)) next

end Alternates

section Filled
variable {suits : String → Mode → Bool} {isRaw : String → Bool} {value : String → String}

/-- The mode to which symbols lead; none if a hole stands where it does not suit, a literal is cut, or a
character has to be read together with what a hole is filled with. -/
def Mode.through (suits : String → Mode → Bool) (mode : Mode) : List Symbol → Option Mode
  | [] => some mode
  | .hole name :: rest => if suits name mode then mode.through suits rest else none
  | .char c :: .char d :: rest =>
    if mode.isCutBy c then none else (mode.after c (some d)).through suits (.char d :: rest)
  | .char c :: rest =>
    if mode.isCutBy c || mode.looksAhead c then none else (mode.after c none).through suits rest

/-- Values that dwell where their holes stand do not change the mode to which symbols lead. -/
theorem Reading.Stands.read_filled {mode after : Mode} {items : List Symbol}
    (h : mode.through suits items = some after)
    (hvalue : ∀ name mode, suits name mode → ∀ c ∈ (value name).toList, mode.Dwells c)
    {reading : Reading Char} (hreading : reading.Stands mode) (next : Option Char) :
    (reading.read next (items.flatMap (Symbol.filled value))).Stands after := by
  fun_induction Mode.through suits mode items generalizing reading with
  | case1 mode => exact Option.some.inj h ▸ hreading
  | case2 mode name rest fits ih =>
    rw [List.flatMap_cons, Reading.read_append]
    exact ih h (hreading.read_of_dwells (hvalue name mode fits) _)
  | case3 mode name rest misfits => simp at h
  | case4 mode c d rest cut => simp at h
  | case5 mode c d rest cut ih => exact ih h (hreading.step (by simpa using cut) _)
  | case6 mode c rest _ stuck => simp at h
  | case7 mode c rest _ goes ih =>
    have goes : mode.isCutBy c = false ∧ mode.looksAhead c = false := by simpa using goes
    refine ih h ?_
    rw [after_eq_of_not_looksAhead goes.2 none]
    exact hreading.step goes.1 _

/-- Whether symbols have no backquote and no hole for a raw string, and lead from code to code. -/
def isCode (isRaw : String → Bool) (suits : String → Mode → Bool) (items : List Symbol) : Bool :=
  Mode.code.through (fun name mode => !isRaw name && suits name mode) items = some .code && items.all fun
    | .char c => c ≠ backquote
    | .hole name => !isRaw name

/-- Whether symbols are a hole for a raw string. -/
def isRawHole (isRaw : String → Bool) : List Symbol → Bool
  | [.hole name] => isRaw name
  | _ => false

/-- Pieces that alternate do so as a whole with a backquote between each two of them. -/
theorem alternates_intercalate {pieces : List (List Symbol)}
    (h : ∀ piece ∈ pieces, Alternates (piece.flatMap (Symbol.filled value))) :
    Alternates (([Symbol.char backquote].intercalate pieces).flatMap (Symbol.filled value)) := by
  induction pieces with
  | nil => exact alternates_nil
  | cons first rest ih =>
    have hfirst := h first List.mem_cons_self
    have hrest := ih fun other hother => h other (List.mem_cons_of_mem _ hother)
    cases rest with
    | nil => simpa using hfirst
    | cons second rest =>
      rw [List.intercalate_cons_cons, List.flatMap_append, List.flatMap_append]
      exact (hfirst.append (alternates_singleton (by decide))).append hrest

variable (hraw : ∀ name, isRaw name → ∀ c ∈ (value name).toList, isQuiet c)
  (hplain : ∀ name, isRaw name = false → backquote ∉ (value name).toList)
  (hvalue : ∀ name mode, isRaw name = false → suits name mode → ∀ c ∈ (value name).toList, mode.Dwells c)

include hplain hvalue in
theorem alternates_of_isCode {items : List Symbol} (h : isCode isRaw suits items) :
    Alternates (items.flatMap (Symbol.filled value)) := by
  simp only [isCode, Bool.and_eq_true, decide_eq_true_eq, List.all_eq_true] at h
  obtain ⟨returns, still⟩ := h
  have dwells : ∀ name mode, (!isRaw name && suits name mode) = true →
      ∀ c ∈ (value name).toList, mode.Dwells c := by
    intro name mode fits
    have fits : isRaw name = false ∧ suits name mode := by simpa using fits
    exact hvalue name mode fits.1 fits.2
  refine alternates_of_returns ?_ fun reading next stands => stands.read_filled returns dwells next
  intro hmem
  obtain ⟨symbol, hsymbol, hquote⟩ := List.mem_flatMap.1 hmem
  cases symbol with
  | char c => simpa [Symbol.filled, ← List.mem_singleton.1 hquote] using still _ hsymbol
  | hole name => exact hplain name (by simpa using still _ hsymbol) hquote

include hraw hplain hvalue in
/-- A filled template alternates if between its backquotes stand code and holes for raw strings. -/
theorem alternates_filled {items : List Symbol}
    (h : ∀ piece ∈ items.splitOn (.char backquote), isCode isRaw suits piece ∨ isRawHole isRaw piece) :
    Alternates (items.flatMap (Symbol.filled value)) := by
  have piece : ∀ piece ∈ items.splitOn (.char backquote), Alternates (piece.flatMap (Symbol.filled value)) := by
    intro piece hpiece
    rcases h piece hpiece with code | raw
    · exact alternates_of_isCode hplain hvalue code
    · unfold isRawHole at raw
      split at raw
      · next name => simpa [Symbol.filled] using alternates_of_quiet (hraw name raw)
      · simp at raw
  rw [← @List.intercalate_splitOn _ items _ _ (.char backquote)]
  exact alternates_intercalate piece

/-- The hole for a raw string that a symbol is. -/
def rawHole? (isRaw : String → Bool) : Symbol → Option String
  | .char _ => none
  | .hole name => if isRaw name then some name else none

include hplain in
/-- The backquotes of a filled template are its own and those of the values for raw strings. -/
theorem count_backquote_filled (items : List Symbol) :
    (items.flatMap (Symbol.filled value)).count backquote = items.count (.char backquote) +
      ((items.filterMap (rawHole? isRaw)).flatMap fun name => (value name).toList).count backquote := by
  induction items with
  | nil => rfl
  | cons symbol rest ih =>
    rw [List.flatMap_cons, List.count_append, ih]
    cases symbol with
    | char c =>
      have noHole : rawHole? isRaw (.char c) = none := rfl
      rw [List.filterMap_cons_none noHole]
      by_cases hquote : c = backquote
      · simp [Symbol.filled, hquote]
        omega
      · simp [Symbol.filled, hquote]
    | hole name =>
      cases hname : isRaw name with
      | true =>
        have hole : rawHole? isRaw (.hole name) = some name := by simp [rawHole?, hname]
        rw [List.filterMap_cons_some hole, List.flatMap_cons, List.count_append]
        simp [Symbol.filled]
        omega
      | false =>
        have noHole : rawHole? isRaw (.hole name) = none := by simp [rawHole?, hname]
        rw [List.filterMap_cons_none noHole]
        simp [Symbol.filled, List.count_eq_zero_of_not_mem (hplain name hname)]

end Filled
end RecordAccess.Source
