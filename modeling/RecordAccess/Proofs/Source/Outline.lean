import RecordAccess.Proofs.Source.Reading
import RecordAccess.Proofs.Template.Filling

/-!
# Outlines

An outline is the reading of template parts whose holes are not filled yet. It keeps the mode in which
each hole stands. Values that are plain in those modes do not change how the rest of the text is read, so
the reading of the filled text is the outline with the values in place of the holes.
-/
namespace RecordAccess.Source

inductive Symbol where
  | char (c : Char)
  | hole (name : String)
  deriving DecidableEq

def Symbol.filled (value : String → String) : Symbol → List Char
  | char c => [c]
  | hole name => (value name).toList

/-- The parts have these symbols. A literal text is given by its characters, so that the symbols are at
hand without decoding it. -/
inductive Spelled : List Part → List Symbol → Prop
  | nil : Spelled [] []
  | hole {parts : List Part} {items : List Symbol} (name : String) (rest : Spelled parts items) :
      Spelled (.hole name :: parts) (.hole name :: items)
  | append {parts : List Part} {items : List Symbol} {first second : String}
      (both : Spelled (.text first :: .text second :: parts) items) :
      Spelled (.text (first ++ second) :: parts) items
  | text {parts : List Part} {items : List Symbol} (chars : List Char) (rest : Spelled parts items) :
      Spelled (.text (String.ofList chars) :: parts) (chars.map .char ++ items)

theorem flatMap_filled_map_char (value : String → String) (chars : List Char) :
    (chars.map Symbol.char).flatMap (Symbol.filled value) = chars := by
  rw [List.flatMap_map]
  exact List.flatMap_singleton' chars

theorem Spelled.flatMap_filled {parts : List Part} {items : List Symbol} (h : Spelled parts items)
    (value : String → String) :
    items.flatMap (Symbol.filled value) = (String.join (parts.map (Part.filled value))).toList := by
  induction h with
  | nil => rfl
  | hole name _ ih =>
    simp only [List.flatMap_cons, ih, List.map_cons, String.join_cons, String.toList_append,
      Symbol.filled, Part.filled]
  | append _ ih =>
    simp only [ih, List.map_cons, String.join_cons, String.toList_append, Part.filled,
      List.append_assoc]
  | text chars _ ih =>
    simp only [List.flatMap_append, flatMap_filled_map_char, ih, List.map_cons, String.join_cons,
      String.toList_append, Part.filled, String.toList_ofList]

/-- Whether the mode stays the same over a character whatever follows it, and nothing but the content
of an open literal grows. -/
def Mode.keeps (mode : Mode) (c : Char) : Bool :=
  c ≠ '\n' && match mode with
    | .code => !specials.contains c
    | .lineComment => true
    | .literal quote => c ≠ quote && c ≠ '\\'
    | .raw => c ≠ backquote
    | .commentStart | .blockComment | .commentEnd | .escaped _ => false

/-- Whether the mode after a character depends on the one that follows it. -/
def Mode.looksAhead (mode : Mode) (c : Char) : Bool :=
  (mode == .code && c == '/') || (mode == .blockComment && c == '*')

theorem after_eq_of_not_looksAhead {mode : Mode} {c : Char} (h : mode.looksAhead c = false)
    (first second : Option Char) : mode.after c first = mode.after c second := by
  cases mode <;> simp_all [Mode.looksAhead, Mode.after]

theorem after_of_keeps {mode : Mode} {c : Char} (h : mode.keeps c) (next : Option Char) :
    mode.after c next = mode := by
  cases mode <;> simp_all [Mode.keeps, Mode.after, specials, quotes]

namespace Reading
variable {α : Type}

/-- The reading after items over which the mode stays the same. -/
def hold (reading : Reading α) (items : List α) : Reading α :=
  { reading with
    held := if reading.mode.quote?.isSome then reading.held ++ items else reading.held }

theorem step_of_keeps {reading : Reading α} {c : Char} (h : reading.mode.keeps c) (item : α)
    (next : Option Char) : reading.step item c next = reading.hold [item] := by
  have newline : c ≠ '\n' := by
    intro hc
    simp [Mode.keeps, hc] at h
  have bracket : ¬(reading.mode = .code ∧ (isOpener c ∨ isCloser c)) := by
    rintro ⟨hmode, hc⟩
    simp_all [Mode.keeps, specials, isOpener, isCloser]
  unfold step hold
  rw [after_of_keeps h]
  cases hquote : reading.mode.quote? <;> simp [hquote, newline, bracket]

theorem read_of_keeps {reading : Reading Char} {s : List Char} (h : ∀ c ∈ s, reading.mode.keeps c)
    (next : Option Char) : reading.read next s = reading.hold s := by
  induction s generalizing reading with
  | nil => simp [read, hold]
  | cons c rest ih =>
    have hrest : ∀ d ∈ rest, (reading.hold [c]).mode.keeps d :=
      fun d hd => h d (List.mem_cons_of_mem c hd)
    rw [read, step_of_keeps (h c List.mem_cons_self), ih hrest]
    unfold hold
    cases reading.mode.quote? <;> simp

/-- The reading of the filled text, given that of its symbols. -/
def filled (value : String → String) (reading : Reading Symbol) : Reading Char :=
  { reading with
    held := reading.held.flatMap (Symbol.filled value)
    literals := reading.literals.map fun literal =>
      ⟨literal.quote, literal.content.flatMap (Symbol.filled value)⟩ }

theorem step_filled (value : String → String) (reading : Reading Symbol) (c : Char)
    (next : Option Char) :
    (reading.filled value).step c c next = (reading.step (.char c) c next).filled value := by
  unfold step filled
  dsimp only
  cases reading.mode.quote? <;> cases (reading.mode.after c next).quote? <;>
    simp [Symbol.filled]

theorem hold_filled (value : String → String) (reading : Reading Symbol) (name : String) :
    (reading.filled value).hold (value name).toList =
      (reading.hold [.hole name]).filled value := by
  unfold hold filled
  cases reading.mode.quote? <;> simp [Symbol.filled]

end Reading

/-- The reading of symbols, and the holes with the modes in which they stand. -/
structure Outline where
  reading : Reading Symbol := {}
  uses : List (String × Mode) := []
  deriving DecidableEq

namespace Outline

/-- The outline after symbols, if no character in it depends on what a hole is filled with. -/
def read (outline : Outline) : List Symbol → Option Outline
  | [] => some outline
  | .hole name :: rest =>
    read ⟨outline.reading.hold [.hole name], outline.uses ++ [(name, outline.reading.mode)]⟩ rest
  | .char c :: .char d :: rest =>
    read { outline with reading := outline.reading.step (.char c) c (some d) } (.char d :: rest)
  | .char c :: rest =>
    if outline.reading.mode.looksAhead c then none
    else read { outline with reading := outline.reading.step (.char c) c none } rest

theorem uses_read {outline after : Outline} {items : List Symbol} (h : outline.read items = some after) :
    ∀ use ∈ outline.uses, use ∈ after.uses := by
  fun_induction read outline items with
  | case1 outline => exact Option.some.inj h ▸ fun use hmem => hmem
  | case2 outline name rest ih => exact fun use hmem => ih h use (List.mem_append_left _ hmem)
  | case3 outline c d rest ih => exact ih h
  | case4 outline c rest _ looks => simp at h
  | case5 outline c rest _ looks ih => exact ih h

/-- Filling the holes with values that are plain where they stand does not change the outline. -/
theorem read_filled {value : String → String} {outline after : Outline} {items : List Symbol}
    (h : outline.read items = some after)
    (hvalue : ∀ use ∈ after.uses, ∀ c ∈ (value use.1).toList, use.2.keeps c) (next : Option Char) :
    (outline.reading.filled value).read next (items.flatMap (Symbol.filled value)) =
      after.reading.filled value := by
  fun_induction read outline items with
  | case1 outline => rw [← Option.some.inj h]; rfl
  | case2 outline name rest ih =>
    have plain : ∀ c ∈ (value name).toList, (outline.reading.filled value).mode.keeps c :=
      hvalue _ (uses_read h _ (List.mem_append_right _ List.mem_cons_self))
    rw [List.flatMap_cons, Symbol.filled, Reading.read_append, Reading.read_of_keeps plain,
      Reading.hold_filled]
    exact ih h
  | case3 outline c d rest ih =>
    rw [List.flatMap_cons, Symbol.filled, List.singleton_append, Reading.read, Reading.step_filled]
    exact ih h
  | case4 outline c rest _ looks => simp at h
  | case5 outline c rest _ looks ih =>
    have step : ∀ next, outline.reading.step (.char c) c next =
        outline.reading.step (.char c) c none := by
      intro next
      simp only [Reading.step,
        after_eq_of_not_looksAhead (Bool.eq_false_iff.2 looks) next none]
    rw [List.flatMap_cons, Symbol.filled, List.singleton_append, Reading.read, Reading.step_filled, step]
    exact ih h

end Outline

namespace Reading

/-- The contents of the raw strings. -/
def raws {α : Type} (reading : Reading α) : List (List α) :=
  (reading.literals.filter fun literal => literal.quote = backquote).map Literal.content

theorem raws_congr {α : Type} {first second : Reading α} (h : first.literals = second.literals) :
    first.raws = second.raws := by
  rw [raws, raws, h]

theorem raws_filled (value : String → String) (reading : Reading Symbol) :
    (reading.filled value).raws =
      reading.raws.map fun content => content.flatMap (Symbol.filled value) := by
  simp [raws, filled, List.filter_map, Function.comp_def]

/-- The reading has come back to code at the end of a line, with the given brackets and raw strings on
the way. -/
structure Spells (reading : Reading Char) (brackets : List Char) (raws : List (List Char)) : Prop where
  mode_eq : reading.mode = .code
  held_eq : reading.held = []
  breaks_closed : ∀ mode ∈ reading.breaks, mode.isClosed
  brackets_eq : reading.brackets = brackets
  raws_eq : reading.raws = raws

end Reading

/-- Wherever the text stands in code, it holds these brackets and raw strings. -/
def Spells (s : List Char) (brackets : List Char) (raws : List (List Char)) : Prop :=
  ∀ next, (Reading.read {} next s).Spells brackets raws

theorem spells_nil : Spells [] [] [] := fun _ => ⟨rfl, rfl, by simp [Reading.read], rfl, rfl⟩

theorem Spells.append {s t first second : List Char} {raws more : List (List Char)}
    (hs : Spells s first raws) (ht : Spells t second more) :
    Spells (s ++ t) (first ++ second) (raws ++ more) := by
  intro next
  have earlier := hs (t.head?.or next)
  have later := ht next
  rw [Reading.read_append, ← Reading.followedBy_self earlier.mode_eq earlier.held_eq,
    Reading.read_followedBy]
  refine ⟨later.mode_eq, later.held_eq, fun mode hmode => ?_, ?_, ?_⟩
  · rcases List.mem_append.1 hmode with hmode | hmode
    · exact earlier.breaks_closed mode hmode
    · exact later.breaks_closed mode hmode
  · rw [← earlier.brackets_eq, ← later.brackets_eq]
    rfl
  · rw [← earlier.raws_eq, ← later.raws_eq]
    simp [Reading.raws, Reading.followedBy]

theorem Spells.flatMap {β : Type} {items : List β} {text brackets : β → List Char}
    {raws : β → List (List Char)} (h : ∀ item ∈ items, Spells (text item) (brackets item) (raws item)) :
    Spells (items.flatMap text) (items.flatMap brackets) (items.flatMap raws) := by
  induction items with
  | nil => exact spells_nil
  | cons item rest ih =>
    rw [List.flatMap_cons, List.flatMap_cons, List.flatMap_cons]
    exact (h item List.mem_cons_self).append (ih fun other hother => h other (List.mem_cons_of_mem _ hother))

/-- The text has these raw strings, and its brackets close one another. -/
def Whole (s : List Char) (raws : List (List Char)) : Prop :=
  ∃ brackets, Spells s brackets raws ∧ nest [] brackets = some []

theorem whole_nil : Whole [] [] := ⟨[], spells_nil, rfl⟩

theorem Whole.append {s t : List Char} {raws more : List (List Char)} (hs : Whole s raws)
    (ht : Whole t more) : Whole (s ++ t) (raws ++ more) := by
  obtain ⟨first, hs, nested⟩ := hs
  obtain ⟨second, ht, nested'⟩ := ht
  exact ⟨first ++ second, hs.append ht, by rw [nest_append, nested, Option.bind_some, nested']⟩

theorem Whole.flatMap {β : Type} {items : List β} {text : β → List Char}
    {raws : β → List (List Char)} (h : ∀ item ∈ items, Whole (text item) (raws item)) :
    Whole (items.flatMap text) (items.flatMap raws) := by
  induction items with
  | nil => exact whole_nil
  | cons item rest ih =>
    rw [List.flatMap_cons, List.flatMap_cons]
    exact (h item List.mem_cons_self).append
      (ih fun other hother => h other (List.mem_cons_of_mem _ hother))

section Filled
variable {parts : List Part} {items : List Symbol} {value : String → String}

/-- What parts spell can be read off their outline. -/
theorem Spelled.spells {outline : Outline} (hparts : Spelled parts items)
    (h : Outline.read {} items = some outline)
    (hcode : outline.reading.mode = .code) (hheld : outline.reading.held = [])
    (hbreaks : ∀ mode ∈ outline.reading.breaks, mode.isClosed)
    (hvalue : ∀ use ∈ outline.uses, ∀ c ∈ (value use.1).toList, use.2.keeps c) :
    Spells (String.join (parts.map (Part.filled value))).toList outline.reading.brackets
      (outline.reading.raws.map fun content => content.flatMap (Symbol.filled value)) := by
  intro next
  have read := Outline.read_filled h hvalue next
  rw [hparts.flatMap_filled] at read
  change Reading.read {} next _ = _ at read
  rw [read]
  exact ⟨hcode, by rw [Reading.filled, hheld]; rfl, hbreaks, rfl, Reading.raws_filled value _⟩

/-- Whether parts come back to code, with nested brackets and the given raw strings on the way, and have
their holes where the values suit. -/
def Outline.isWhole (suits : String → Mode → Bool) (raws : List (List Symbol)) (outline : Outline) :
    Bool :=
  outline.reading.mode = .code && outline.reading.held = [] &&
    outline.reading.breaks.all Mode.isClosed && nest [] outline.reading.brackets = some [] &&
    outline.reading.raws = raws && outline.uses.all fun use => suits use.1 use.2

theorem Spelled.whole {suits : String → Mode → Bool} {raws : List (List Symbol)}
    (hparts : Spelled parts items)
    (h : (Outline.read {} items).any (Outline.isWhole suits raws) = true)
    (hvalue : ∀ name mode, suits name mode → ∀ c ∈ (value name).toList, mode.keeps c) :
    Whole (String.join (parts.map (Part.filled value))).toList
      (raws.map fun content => content.flatMap (Symbol.filled value)) := by
  obtain ⟨outline, hread, whole⟩ := (Option.any_eq_true ..).1 h
  simp only [Outline.isWhole, Bool.and_eq_true, decide_eq_true_eq, List.all_eq_true] at whole
  obtain ⟨⟨⟨⟨⟨hcode, hheld⟩, hbreaks⟩, nested⟩, rfl⟩, hsuits⟩ := whole
  exact ⟨_, hparts.spells hread hcode hheld hbreaks
    fun use huse => hvalue use.1 use.2 (hsuits use huse), nested⟩

end Filled
end RecordAccess.Source
