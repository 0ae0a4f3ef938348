import RecordAccess.Source.Check

/-!
# Readings

The bracket check reads a text character by character. A reading is all that it sees of a text: the
brackets in code, the literals, and the modes in which line feeds stand. The check accepts exactly the
texts whose reading ends outside of literals and block comments, has no line feed in a literal on one
line, and has a nested word of brackets.
-/
namespace RecordAccess.Source

/-- The characters that bound literals. -/
def quotes : List Char := [doubleQuote, singleQuote, backquote]

/-- The characters that the bracket check tells apart, but for the line feed. -/
def specials : List Char := quotes ++ ['/', '*', '\\', '(', ')', '[', ']', '\x7b', '\x7d']

/-- The quote of the literal that is read in a mode. -/
def Mode.quote? : Mode → Option Char
  | .literal quote | .escaped quote => some quote
  | .raw => some backquote
  | .code | .lineComment | .commentStart | .blockComment | .commentEnd => none

/-- Whether a text may end in this mode. -/
def Mode.isClosed : Mode → Bool
  | .code | .lineComment | .commentEnd => true
  | .commentStart | .blockComment | .literal _ | .escaped _ | .raw => false

structure Literal (α : Type) where
  quote : Char
  content : List α
  deriving DecidableEq

/-- What has been read of a text. The items of literals are characters, or what stands for them. -/
structure Reading (α : Type) where
  mode : Mode := .code
  /-- The items of the literal that is open. -/
  held : List α := []
  brackets : List Char := []
  literals : List (Literal α) := []
  /-- The modes in which line feeds stand. -/
  breaks : List Mode := []
  deriving DecidableEq

namespace Reading
variable {α : Type}

/-- The reading after a character, given the item that stands for it and the character that follows. -/
def step (reading : Reading α) (item : α) (c : Char) (next : Option Char) : Reading α :=
  let mode := reading.mode.after c next
  { mode
    held := match reading.mode.quote?, mode.quote? with
      | some _, some _ => reading.held ++ [item]
      | some _, none => []
      | none, _ => reading.held
    brackets :=
      if reading.mode = .code ∧ (isOpener c ∨ isCloser c) then reading.brackets ++ [c]
      else reading.brackets
    literals := match reading.mode.quote?, mode.quote? with
      | some quote, none => reading.literals ++ [⟨quote, reading.held⟩]
      | _, _ => reading.literals
    breaks := if c = '\n' then reading.breaks ++ [reading.mode] else reading.breaks }

/-- The reading after a text, given the character that follows the text. -/
def read (reading : Reading Char) (next : Option Char) : List Char → Reading Char
  | [] => reading
  | c :: rest => (reading.step c c (rest.head?.or next)).read next rest

theorem read_append (reading : Reading Char) (next : Option Char) (first second : List Char) :
    reading.read next (first ++ second) =
      (reading.read (second.head?.or next) first).read next second := by
  induction first generalizing reading with
  | nil => rfl
  | cons c rest ih =>
    have hnext : (rest ++ second).head?.or next = rest.head?.or (second.head?.or next) := by
      rw [List.head?_append, Option.or_assoc]
    rw [List.cons_append, read, hnext, ih, read]

/-- One reading after another, which went on in the other's mode. -/
def followedBy (earlier later : Reading α) : Reading α :=
  { later with
    brackets := earlier.brackets ++ later.brackets
    literals := earlier.literals ++ later.literals
    breaks := earlier.breaks ++ later.breaks }

theorem step_followedBy (earlier later : Reading α) (item : α) (c : Char) (next : Option Char) :
    (earlier.followedBy later).step item c next = earlier.followedBy (later.step item c next) := by
  unfold step followedBy
  dsimp only
  congr 1
  · split <;> simp
  · cases later.mode.quote? <;> cases (later.mode.after c next).quote? <;> simp
  · split <;> simp

theorem read_followedBy (earlier later : Reading Char) (next : Option Char) (s : List Char) :
    (earlier.followedBy later).read next s = earlier.followedBy (later.read next s) := by
  induction s generalizing later with
  | nil => rfl
  | cons c rest ih => rw [read, step_followedBy, ih, read]

theorem followedBy_self {reading : Reading α} (hmode : reading.mode = .code)
    (hheld : reading.held = []) : reading.followedBy {} = reading := by
  cases reading
  simp_all [followedBy]

/-- What has been read stays read. -/
theorem exists_followedBy (reading : Reading Char) (next : Option Char) (s : List Char) :
    ∃ later, reading.read next s = reading.followedBy later := by
  have hself : reading = reading.followedBy { mode := reading.mode, held := reading.held } := by
    cases reading
    simp [followedBy]
  exact ⟨_, by rw [hself, read_followedBy, ← hself]⟩

def ofText (s : List Char) : Reading Char := read {} none s

end Reading

/-- The open brackets after one more bracket, the last one first. -/
def nestOne (opened : List Char) (c : Char) : Option (List Char) :=
  if isOpener c then some (c :: opened)
  else match opened with
    | [] => none
    | last :: earlier => if closerOf? last = some c then some earlier else none

theorem nestOne_opener {c : Char} (hc : isOpener c) (opened : List Char) :
    nestOne opened c = some (c :: opened) := by
  simp [nestOne, hc]

/-- The open brackets after a word of brackets. -/
def nest (opened word : List Char) : Option (List Char) := word.foldlM nestOne opened

theorem nest_append (opened first second : List Char) :
    nest opened (first ++ second) = (nest opened first).bind fun left => nest left second :=
  List.foldlM_append

structure Reading.Accepted (reading : Reading Char) : Prop where
  ends_closed : reading.mode.isClosed
  no_cut : ∀ mode ∈ reading.breaks, ∀ quote, mode ≠ .literal quote
  nested : nest [] reading.brackets = some []

theorem atEnd_eq_ok_iff {mode : Mode} {opened : List Opened} :
    atEnd mode opened = .ok () ↔ mode.isClosed ∧ opened = [] := by
  cases mode <;> cases opened <;> simp [atEnd, Mode.isClosed]

theorem not_opener_of_closer {c : Char} (h : isCloser c) : isOpener c = false := by
  simp only [isCloser, Bool.or_eq_true, beq_iff_eq] at h
  rcases h with (rfl | rfl) | rfl <;> rfl

theorem after_code_of_bracket {c : Char} (h : isOpener c ∨ isCloser c) (next : Option Char) :
    Mode.code.after c next = .code ∧ c ≠ '\n' := by
  simp only [isOpener, isCloser, Bool.or_eq_true, beq_iff_eq] at h
  rcases h with ((rfl | rfl) | rfl) | (rfl | rfl) | rfl <;>
    simp [Mode.after, doubleQuote, singleQuote, backquote]

section Balance
variable {opened : List Opened} {reading : Reading Char}

theorem mode_mem_breaks (reading : Reading Char) (next : Option Char) (s : List Char) :
    reading.mode ∈ (reading.read next ('\n' :: s)).breaks := by
  obtain ⟨later, hlater⟩ := (reading.step '\n' '\n' (s.head?.or next)).exists_followedBy next s
  rw [Reading.read, hlater]
  simp [Reading.followedBy, Reading.step]

theorem not_accepted_of_cut {quote : Char} {s : List Char} (hmode : reading.mode = .literal quote) :
    ¬((reading.read none ('\n' :: s)).Accepted) :=
  fun accepted => accepted.no_cut reading.mode (mode_mem_breaks reading none s) quote hmode

theorem nest_concat {word left : List Char} (h : nest [] word = some left) (c : Char) :
    nest [] (word ++ [c]) = nestOne left c := by
  rw [nest_append, h, Option.bind_some, nest, List.foldlM_cons]
  cases nestOne left c <;> rfl

theorem step_bracket {c : Char} (hmode : reading.mode = .code) (hc : isOpener c ∨ isCloser c)
    (next : Option Char) :
    reading.step c c next = { reading with brackets := reading.brackets ++ [c] } := by
  obtain ⟨after, newline⟩ := after_code_of_bracket hc next
  unfold Reading.step
  rw [hmode, after]
  simp [Mode.quote?, hc, newline, ← hmode]

theorem not_accepted_of_nest {c : Char} {s : List Char} (hmode : reading.mode = .code)
    (hc : isOpener c ∨ isCloser c) (hnest : nest [] (reading.brackets ++ [c]) = none) :
    ¬((reading.read none (c :: s)).Accepted) := by
  intro accepted
  obtain ⟨later, hlater⟩ := (reading.step c c (s.head?.or none)).exists_followedBy none s
  have nested := accepted.nested
  rw [Reading.read, hlater, step_bracket hmode hc] at nested
  simp only [Reading.followedBy] at nested
  rw [nest_append, hnest] at nested
  simp at nested

theorem close_eq (opened : List Opened) (line : Nat) {c : Char} (hc : isOpener c = false) :
    match close opened line c with
    | .ok left => nestOne (opened.map Opened.bracket) c = some (left.map Opened.bracket)
    | .error _ => nestOne (opened.map Opened.bracket) c = none := by
  cases opened with
  | nil => simp [close, nestOne, hc]
  | cons last earlier =>
    simp only [close, nestOne, hc, List.map_cons, Bool.false_eq_true, if_false]
    by_cases hcloser : closerOf? last.bracket = some c <;> simp [hcloser]

/-- A character that cuts no literal leaves no cut literal behind. -/
theorem no_cut_step {c : Char} (hcut : ∀ mode ∈ reading.breaks, ∀ quote, mode ≠ .literal quote)
    (cut : ¬reading.mode.isCutBy c) (next : Option Char) :
    ∀ mode ∈ (reading.step c c next).breaks, ∀ quote, mode ≠ .literal quote := by
  intro mode hmem quote hmode
  simp only [Reading.step] at hmem
  split at hmem
  · next newline =>
    rcases List.mem_append.1 hmem with hmem | hmem
    · exact hcut mode hmem quote hmode
    · rw [List.mem_singleton] at hmem
      exact cut (by rw [← hmem, hmode, newline]; rfl)
  · exact hcut mode hmem quote hmode

theorem exists_literal_of_isCutBy {mode : Mode} {c : Char} (h : mode.isCutBy c) :
    ∃ quote, mode = .literal quote ∧ c = '\n' := by
  cases mode <;> simp_all [Mode.isCutBy]

/-- The rest of a text passes the check from a state that a reading describes exactly if the reading
of the whole is acceptable. -/
theorem balance_eq_ok_iff (hnest : nest [] reading.brackets = some (opened.map Opened.bracket))
    (hcut : ∀ mode ∈ reading.breaks, ∀ quote, mode ≠ .literal quote) (line : Nat) (s : List Char) :
    balance reading.mode opened line s = .ok () ↔ (reading.read none s).Accepted := by
  induction s generalizing reading opened line with
  | nil =>
    rw [balance, atEnd_eq_ok_iff, Reading.read]
    refine ⟨fun h => ⟨h.1, hcut, by simp [hnest, h.2]⟩, fun h => ⟨h.ends_closed, ?_⟩⟩
    have := hnest.symm.trans h.nested
    simpa using this
  | cons c rest ih =>
    rw [balance]
    by_cases cut : reading.mode.isCutBy c
    · obtain ⟨quote, hmode, rfl⟩ := exists_literal_of_isCutBy cut
      simp only [cut, if_true]
      exact ⟨fun h => by simp at h, fun h => (not_accepted_of_cut hmode h).elim⟩
    rw [if_neg cut]
    by_cases bracket : reading.mode = .code ∧ (isOpener c ∨ isCloser c)
    · obtain ⟨hmode, hc⟩ := bracket
      by_cases opener : isOpener c
      · rw [if_pos ⟨hmode, opener⟩, Reading.read, step_bracket hmode hc, ← hmode]
        refine @ih (⟨c, line⟩ :: opened) { reading with brackets := reading.brackets ++ [c] } ?_ hcut line
        rw [nest_concat hnest, nestOne_opener opener]
        rfl
      · have closer : isCloser c := hc.resolve_left opener
        have close := close_eq opened line (not_opener_of_closer closer)
        rw [if_neg fun h => opener h.2, if_pos ⟨hmode, closer⟩]
        cases hclose : Source.close opened line c with
        | error fault =>
          simp only [hclose] at close
          have stuck := @not_accepted_of_nest _ _ rest hmode hc (nest_concat hnest c ▸ close)
          exact ⟨fun h => by simp at h, fun h => (stuck h).elim⟩
        | ok left =>
          simp only [hclose] at close
          rw [Reading.read, step_bracket hmode hc]
          dsimp only
          rw [← hmode]
          exact @ih left { reading with brackets := reading.brackets ++ [c] }
            (nest_concat hnest c ▸ close) hcut line
    · rw [if_neg fun h => bracket ⟨h.1, .inl h.2⟩, if_neg fun h => bracket ⟨h.1, .inr h.2⟩,
        Reading.read]
      have brackets : (reading.step c c (rest.head?.or none)).brackets = reading.brackets := by
        simp only [Reading.step, if_neg bracket]
      rw [← @ih opened _ (brackets ▸ hnest) (no_cut_step hcut cut _), Option.or_none]
      rfl

theorem checkBrackets_eq_ok_iff (s : List Char) :
    checkBrackets s = .ok () ↔ (Reading.ofText s).Accepted :=
  @balance_eq_ok_iff [] {} rfl (by simp) 1 s

end Balance
end RecordAccess.Source
