import RecordAccess.Field.Tag
import RecordAccess.Proofs.Text.Trimming

/-!
# The grammar of struct tags

What a tag says is settled by a grammar that knows no reader: a row of pairs, each a key and a quoted value after any
blanks. The reader finds exactly the pairs that the grammar finds, so the first pair with the key `db` decides,
whatever its value is and whatever follows it.
-/
namespace RecordAccess.Tag

open Text

/-- What stands between the quotes of a value. A backslash takes the character after it, whatever it is, and a quote
stands only after a backslash. -/
inductive ValueText : List Char → Prop
  | nil : ValueText []
  | plain {c : Char} {s : List Char} (quote : c ≠ '"') (backslash : c ≠ '\\') (rest : ValueText s) :
      ValueText (c :: s)
  | escaped (c : Char) {s : List Char} (rest : ValueText s) : ValueText ('\\' :: c :: s)

/-- A pair as it is written, after any blanks. A key is all that stands before the first colon. -/
inductive PairText : Pair → List Char → Prop
  | pair {blanks key value : List Char} (blank : ∀ c ∈ blanks, isBlank c)
      (solid : ∀ c ∈ key.head?, isBlank c = false) (colon : ':' ∉ key) (quoted : ValueText value) :
      PairText ⟨key, value⟩ (blanks ++ (key ++ ':' :: '"' :: (value ++ ['"'])))

/-- The text starts with a row of pairs, and the rest follows them. -/
inductive Row : List Pair → List Char → List Char → Prop
  | nil (rest : List Char) : Row [] rest rest
  | cons {pair : Pair} {items : List Pair} {s t rest : List Char} (first : PairText pair s)
      (others : Row items t rest) : Row (pair :: items) (s ++ t) rest

section Values
variable {s value rest : List Char}

theorem takeValue_complete (h : ValueText value) (rest : List Char) :
    takeValue (value ++ '"' :: rest) = some (value, rest) := by
  induction h with
  | nil => rfl
  | plain quote backslash _ ih =>
    rw [List.cons_append, takeValue.eq_4 _ _ (by simpa using quote) (by simp [backslash]), ih]
    rfl
  | escaped c _ ih =>
    rw [List.cons_append, List.cons_append, takeValue, ih]
    rfl

theorem takeValue_sound (h : takeValue s = some (value, rest)) : ValueText value ∧ s = value ++ '"' :: rest := by
  fun_induction takeValue s generalizing value rest with
  | case1 => cases h
  | case2 s =>
    simp only [Option.some.injEq, Prod.mk.injEq] at h
    obtain ⟨rfl, rfl⟩ := h
    exact ⟨.nil, rfl⟩
  | case3 c s ih =>
    obtain ⟨⟨front, after⟩, taken, equal⟩ := Option.map_eq_some_iff.1 h
    simp only [Prod.mk.injEq] at equal
    obtain ⟨rfl, rfl⟩ := equal
    obtain ⟨valid, rfl⟩ := ih taken
    exact ⟨.escaped c valid, rfl⟩
  | case4 c s quote backslash ih =>
    obtain ⟨⟨front, after⟩, taken, equal⟩ := Option.map_eq_some_iff.1 h
    simp only [Prod.mk.injEq] at equal
    obtain ⟨rfl, rfl⟩ := equal
    obtain ⟨valid, rfl⟩ := ih taken
    refine ⟨.plain (by simpa using quote) ?_ valid, rfl⟩
    -- A lone backslash at the end is no case apart: nothing after it is taken.
    intro lone
    cases front with
    | nil => exact backslash '"' after lone rfl
    | cons d front => exact backslash d (front ++ '"' :: after) lone rfl

end Values

section Pairs
variable {pair : Pair} {items others : List Pair} {s t rest : List Char}

theorem takePair_complete (h : PairText pair s) (rest : List Char) : takePair (s ++ rest) = some (pair, rest) := by
  obtain @⟨blanks, key, value, blank, solid, colon, quoted⟩ := h
  have before : ∀ c ∈ key, (c != ':') = true := by
    intro c hc
    have : c ≠ ':' := fun equal => colon (equal ▸ hc)
    simpa using this
  have body : trimStart (blanks ++ (key ++ ':' :: '"' :: (value ++ ['"'])) ++ rest) =
      key ++ ':' :: '"' :: (value ++ '"' :: rest) := by
    rw [List.append_assoc, trimStart, dropWhile_append_eq blank]
    · simp
    · cases key with
      | nil => simp [isBlank]
      | cons c key => simpa using solid
  have after : (key ++ ':' :: '"' :: (value ++ '"' :: rest)).dropWhile (· != ':') =
      ':' :: '"' :: (value ++ '"' :: rest) := dropWhile_append_eq before (by simp)
  have front : (key ++ ':' :: '"' :: (value ++ '"' :: rest)).takeWhile (· != ':') = key := by
    rw [List.takeWhile_append_of_pos before]
    simp
  simp only [takePair, body, after, front, takeValue_complete quoted, Option.map_some]

theorem takePair_sound (h : takePair s = some (pair, rest)) : ∃ t, PairText pair t ∧ s = t ++ rest := by
  obtain ⟨blanks, split, blank⟩ := exists_trimStart s
  simp only [takePair] at h
  split at h
  · next after colon =>
    obtain ⟨⟨value, left⟩, taken, equal⟩ := Option.map_eq_some_iff.1 h
    simp only [Prod.mk.injEq] at equal
    obtain ⟨rfl, rfl⟩ := equal
    obtain ⟨quoted, rfl⟩ := takeValue_sound taken
    have body : trimStart s = (trimStart s).takeWhile (· != ':') ++ ':' :: '"' :: (value ++ '"' :: left) := by
      rw [← colon, List.takeWhile_append_dropWhile]
    have solid : ∀ c ∈ ((trimStart s).takeWhile (· != ':')).head?, isBlank c = false := by
      intro c first
      have stop := List.head?_dropWhile_not isBlank s
      have head : (trimStart s).head? = some c := by
        rw [body, List.head?_append, first]
        rfl
      rw [show (s.dropWhile isBlank).head? = some c from head] at stop
      exact stop
    have apart : ':' ∉ (trimStart s).takeWhile (· != ':') := by
      intro found
      have passes := List.all_eq_true.1 List.all_takeWhile _ found
      simp at passes
    generalize (trimStart s).takeWhile (· != ':') = key at body solid apart
    refine ⟨_, .pair blank solid apart quoted, ?_⟩
    calc s = blanks ++ trimStart s := split
      _ = blanks ++ (key ++ ':' :: '"' :: (value ++ ['"'])) ++ left := by simp [body]
  · cases h

theorem pairs_eq (s : List Char) : pairs s = match takePair s with
    | some (pair, rest) => pair :: pairs rest
    | none => [] := by
  rw [pairs]
  split <;> simp_all

/-- The reader finds the pairs that the text starts with, and goes on behind them. -/
theorem Row.pairs_eq (h : Row items s rest) : pairs s = items ++ pairs rest := by
  induction h with
  | nil rest => rfl
  | cons first _ ih =>
    rw [Tag.pairs_eq, takePair_complete first, List.cons_append, ← ih]

theorem exists_row (h : pairs s = items ++ others) : ∃ rest, Row items s rest ∧ pairs rest = others := by
  induction items generalizing s with
  | nil => exact ⟨s, .nil s, h⟩
  | cons pair items ih =>
    rw [pairs_eq] at h
    cases taken : takePair s with
    | none => simp [taken] at h
    | some found =>
      obtain ⟨first, after⟩ := found
      simp only [taken, List.cons_append, List.cons.injEq] at h
      obtain ⟨rfl, h⟩ := h
      obtain ⟨t, text, rfl⟩ := takePair_sound taken
      obtain ⟨rest, row, left⟩ := ih h
      exact ⟨rest, .cons text row, left⟩

end Pairs

/-- The tag has the text in it: blanks at its ends set aside, there are only backquotes around the text, and none at
the ends of the text. -/
def Wraps (tag : String) (text : List Char) : Prop :=
  ∃ opening closing, trim tag.toList = opening ++ (text ++ closing) ∧ (∀ c ∈ opening ++ closing, c = '\x60') ∧
    (∀ c ∈ text.head?, c ≠ '\x60') ∧ ∀ c ∈ text.getLast?, c ≠ '\x60'

/-- The key of the pair, blanks around it set aside, is `db`. -/
def Pair.Keyed (pair : Pair) : Prop := trim pair.key = ['d', 'b']

/-- The value names the column: its text before the first comma, blanks around it set aside, is neither empty nor a
dash. -/
structure NamesColumn (value : List Char) (column : String) : Prop where
  toList_eq : column.toList = trim (value.takeWhile (· != ','))
  filled : column ≠ ""
  named : column ≠ "-"

section Column
variable {tag column : String} {text value rest : List Char} {pair : Pair} {before after items : List Pair}

theorem unquote_eq {opening closing : List Char} (ticks : ∀ c ∈ opening ++ closing, c = '\x60')
    (first : ∀ c ∈ text.head?, c ≠ '\x60') (last : ∀ c ∈ text.getLast?, c ≠ '\x60') :
    unquote (opening ++ (text ++ closing)) = text := by
  have front : ∀ c ∈ opening, (c == '\x60') = true := by
    intro c hc
    simp [ticks c (List.mem_append_left _ hc)]
  have back : ∀ c ∈ closing.reverse, (c == '\x60') = true := by
    intro c hc
    simp [ticks c (List.mem_append_right _ (List.mem_reverse.1 hc))]
  cases text with
  | nil =>
    have all : ∀ c ∈ opening ++ closing, (c == '\x60') = true := by
      intro c hc
      simp [ticks c hc]
    rw [unquote, List.nil_append, List.dropWhile_eq_nil_iff.2 all]
    rfl
  | cons c text =>
    have stop : ∀ d ∈ (c :: text).reverse.head?, (d == '\x60') = false := by
      intro d hd
      rw [List.head?_reverse] at hd
      simpa using last d hd
    rw [unquote, dropWhile_append_eq front (by simpa using first), List.reverse_append, dropWhile_append_eq back stop,
      List.reverse_reverse]

theorem wraps_unquote (tag : String) : Wraps tag (unquote (trim tag.toList)) := by
  generalize hs : trim tag.toList = s
  have ticks : ∀ s : List Char, ∀ c ∈ s.takeWhile (· == '\x60'), c = '\x60' := by
    intro s c hc
    simpa using List.all_eq_true.1 List.all_takeWhile c hc
  have bare : ∀ s : List Char, ∀ c ∈ (s.dropWhile (· == '\x60')).head?, c ≠ '\x60' := by
    intro s c hc
    have stop := List.head?_dropWhile_not (· == '\x60') s
    rw [hc] at stop
    simpa using stop
  let middle := s.dropWhile (· == '\x60')
  have split : middle = unquote s ++ (middle.reverse.takeWhile (· == '\x60')).reverse := by
    rw [unquote, ← List.reverse_append, List.takeWhile_append_dropWhile, List.reverse_reverse]
  refine ⟨s.takeWhile (· == '\x60'), (middle.reverse.takeWhile (· == '\x60')).reverse, ?_, ?_, ?_, ?_⟩
  · rw [hs, ← split, List.takeWhile_append_dropWhile]
  · intro c hc
    rcases List.mem_append.1 hc with hc | hc
    · exact ticks s c hc
    · exact ticks middle.reverse c (List.mem_reverse.1 hc)
  · intro c hc
    apply bare s
    rw [show s.dropWhile (· == '\x60') = _ from split, List.head?_append, hc]
    rfl
  · intro c hc
    rw [unquote, List.getLast?_reverse] at hc
    exact bare _ c hc

theorem Wraps.eq_unquote (h : Wraps tag text) : text = unquote (trim tag.toList) := by
  obtain ⟨opening, closing, split, ticks, first, last⟩ := h
  rw [split, unquote_eq ticks first last]

theorem isColumn_iff : pair.isColumn ↔ pair.Keyed := by simp [Pair.isColumn, Pair.Keyed]

theorem find?_eq_none_iff : items.find? Pair.isColumn = none ↔ ∀ item ∈ items, ¬item.Keyed := by
  simp only [List.find?_eq_none, isColumn_iff]

theorem columnOfValue_eq_some_iff : columnOfValue value = some column ↔ NamesColumn value column := by
  have empty : ∀ s : List Char, String.ofList s = "" ↔ s = [] := by
    intro s
    rw [← String.toList_inj, String.toList_ofList]
    rfl
  have dash : ∀ s : List Char, String.ofList s = "-" ↔ s = ['-'] := by
    intro s
    rw [← String.toList_inj, String.toList_ofList]
    rfl
  simp only [columnOfValue]
  constructor
  · intro h
    split at h
    · cases h
    · next plain =>
      obtain rfl := Option.some.inj h
      rw [not_or] at plain
      exact ⟨String.toList_ofList, fun h => plain.1 ((empty _).1 h), fun h => plain.2 ((dash _).1 h)⟩
  · intro h
    have same : column = String.ofList (trim (value.takeWhile (· != ','))) := by
      rw [← h.toList_eq, String.ofList_toList]
    have plain : ¬(trim (value.takeWhile (· != ',')) = [] ∨ trim (value.takeWhile (· != ',')) = ['-']) := by
      rw [← empty, ← dash, ← same]
      exact not_or.2 ⟨h.filled, h.named⟩
    rw [if_neg plain, same]

theorem column?_of_row (wraps : Wraps tag text) (row : Row (before ++ pair :: after) text rest)
    (others : ∀ item ∈ before, ¬item.Keyed) (keyed : pair.Keyed) : column? tag = columnOfValue pair.value := by
  rw [column?, ← wraps.eq_unquote, row.pairs_eq, List.append_assoc, List.find?_append, find?_eq_none_iff.2 others,
    Option.none_or, List.cons_append, List.find?_cons_of_pos (isColumn_iff.2 keyed), Option.bind_some]

theorem column?_of_unkeyed (wraps : Wraps tag text) (row : Row items text rest)
    (others : ∀ item ∈ items, ¬item.Keyed) (blank : ∀ c ∈ rest, isBlank c) : column? tag = none := by
  have nothing : pairs rest = [] := by
    have start : trimStart rest = [] := List.dropWhile_eq_nil_iff.2 blank
    simp [pairs_eq, takePair, start]
  rw [column?, ← wraps.eq_unquote, row.pairs_eq, nothing, List.append_nil, find?_eq_none_iff.2 others,
    Option.bind_none]

end Column

/-- A tag gives a column exactly if its text starts with a row of pairs, the last of them the only one with the key
`db`, whose value names the column. The first such pair decides alone: no pair after it and no text after the pairs
changes what it gives, even if its value names no column. Pairs without one and blanks after them give none. -/
theorem first_db_pair_decides (tag : String) :
    (∀ column, column? tag = some column ↔
      ∃ text before pair rest, Wraps tag text ∧ Row (before ++ [pair]) text rest ∧
        (∀ item ∈ before, ¬item.Keyed) ∧ pair.Keyed ∧ NamesColumn pair.value column) ∧
    (∀ text before pair after rest, Wraps tag text → Row (before ++ pair :: after) text rest →
      (∀ item ∈ before, ¬item.Keyed) → pair.Keyed →
        ∀ column, column? tag = some column ↔ NamesColumn pair.value column) ∧
    ∀ text items rest, Wraps tag text → Row items text rest → (∀ item ∈ items, ¬item.Keyed) →
      (∀ c ∈ rest, isBlank c) → column? tag = none := by
  have decided : ∀ text before pair after rest, Wraps tag text → Row (before ++ pair :: after) text rest →
      (∀ item ∈ before, ¬item.Keyed) → pair.Keyed →
        ∀ column, column? tag = some column ↔ NamesColumn pair.value column := by
    intro text before pair after rest wraps row others keyed column
    rw [column?_of_row wraps row others keyed, columnOfValue_eq_some_iff]
  refine ⟨?_, decided, fun _ _ _ => column?_of_unkeyed⟩
  intro column
  constructor
  · intro h
    obtain ⟨pair, found, _⟩ := Option.bind_eq_some_iff.1 h
    obtain ⟨keyed, before, after, split, others⟩ := List.find?_eq_some_iff_append.1 found
    rw [List.append_cons] at split
    obtain ⟨rest, row, _⟩ := exists_row split
    have keyed := isColumn_iff.1 keyed
    have others : ∀ item ∈ before, ¬item.Keyed := by
      intro item hitem
      rw [← isColumn_iff]
      simpa using others item hitem
    have names := (decided _ before pair [] rest (wraps_unquote tag) row others keyed column).1 h
    exact ⟨_, before, pair, rest, wraps_unquote tag, row, others, keyed, names⟩
  · intro h
    obtain ⟨text, before, pair, rest, wraps, row, others, keyed, names⟩ := h
    exact (decided text before pair [] rest wraps row others keyed column).2 names

/-- The value of another key has the text of a `db` pair in it. The first `db` value is a dash, so that the pair behind
it is not asked; with a column before the comma it gives that column. -/
theorem first_db_pair_decides_dashed :
    let dashed := " \x60json:\"é, db:\\\"x\\\"\" db:\"- ,pk\"db:\"id\" json\x60"
    let named := "db:\"\u00a0id ,pk\"db:\"-\""
    column? dashed = none ∧ column? named = some "id" := by
  intro dashed named
  let quoted : Pair := ⟨"json".toList, "é, db:\\\"x\\\"".toList⟩
  let dash : Pair := ⟨"db".toList, "- ,pk".toList⟩
  let column : Pair := ⟨"db".toList, "\u00a0id ,pk".toList⟩
  have readDashed : pairs (unquote (trim dashed.toList)) =
      ([quoted] ++ dash :: [⟨"db".toList, "id".toList⟩]) ++ [] := by decide +kernel
  have readNamed : pairs (unquote (trim named.toList)) = ([] ++ [column]) ++ [⟨"db".toList, "-".toList⟩] := by
    decide +kernel
  obtain ⟨rest, row, _⟩ := exists_row readDashed
  obtain ⟨left, rowNamed, _⟩ := exists_row readNamed
  have unkeyed : ∀ item ∈ [quoted], ¬item.Keyed := by
    intro item hitem
    rw [List.mem_singleton.1 hitem]
    exact (by decide : ¬trim "json".toList = ['d', 'b'])
  have decided := (first_db_pair_decides dashed).2.1 _ _ _ _ _ (wraps_unquote dashed) row unkeyed rfl
  constructor
  · rw [Option.eq_none_iff_forall_ne_some]
    intro name found
    have names := (decided name).1 found
    apply names.named
    rw [← String.toList_inj, names.toList_eq]
    decide +kernel
  · apply ((first_db_pair_decides named).1 "id").2
    exact ⟨_, [], column, left, wraps_unquote named, rowNamed, by simp, rfl,
      by decide +kernel, by decide, by decide⟩

end RecordAccess.Tag
