import RecordAccess.Config.Layer
import RecordAccess.Number.Double
import RecordAccess.Text.Blank
import RecordAccess.Text.Utf8

/-!
# Variables of the environment

A variable whose name starts with the right letters, in any case, gives a value to the key that the rest
of its name spells; a double underscore or a dot in it leads into a map. The value has a little grammar
of its own: truth values, maps in braces, lists in brackets, quoted texts, single characters, numbers
and bare texts. What the grammar does not take as a whole is a bare text.
-/
namespace RecordAccess.Config

structure Variable where
  name : String
  value : String
  deriving DecidableEq, Repr

/-- The variable of an entry, in which an equals sign divides the name from the value. A name has at
least one character, which may itself be an equals sign. -/
def Variable.ofEntry (entry : String) : Option Variable :=
  match entry.toList with
  | [] => none
  | first :: rest =>
    match rest.dropWhile (· != '=') with
    | '=' :: value =>
      some ⟨String.ofList (first :: rest.takeWhile (· != '=')), String.ofList value⟩
    | _ => none

/-- The variables of a block of entries, with a zero after each. Entries that are no text are left out. -/
def Variable.ofBlock (block : List UInt8) : List Variable :=
  (block.splitOn 0).filterMap fun entry =>
    (Text.Utf8.decode entry).toOption.bind Variable.ofEntry

/-- What was taken from the start of a text, and the text after it. -/
abbrev Taken (α : Type) := Option (α × List Char)

/-- A way to take something from the start of a text. It never gives back more than there was. -/
structure Taker (α : Type) where
  run : List Char → Taken α
  length_le : ∀ {s rest : List Char} {value : α}, run s = some (value, rest) → rest.length ≤ s.length

/-- What was taken, changed. -/
theorem map_eq_taken {α β : Type} {f : α → β} {taken : Taken α} {value : β} {rest : List Char}
    (h : (taken.map fun (value, rest) => (f value, rest)) = some (value, rest)) :
    ∃ start, taken = some (start, rest) := by
  obtain ⟨⟨start, after⟩, ht, he⟩ := Option.map_eq_some_iff.1 h
  simp only [Prod.mk.injEq] at he
  exact ⟨start, by rw [ht, he.2]⟩

/-- A text without the characters of a class at its start is not longer. -/
theorem length_dropWhile_le (p : Char → Bool) (s : List Char) :
    (s.dropWhile p).length ≤ s.length := (List.dropWhile_sublist p).length_le

def isAsciiBlank (c : Char) : Bool :=
  c == ' ' || c == '\t' || c == '\n' || c == '\x0c' || c == '\r'

def skipBlanks (s : List Char) : List Char := s.dropWhile isAsciiBlank

/-- The character whose number a given count of hexadecimal digits writes. -/
def takeCodePoint (count value : Nat) : List Char → Taken Char :=
  match count with
  | 0 => fun s => if value.isValidChar then some (Char.ofNat value, s) else none
  | count + 1 => fun
    | [] => none
    | c :: rest => (Number.digitIn? 16 c).bind fun digit => takeCodePoint count (value * 16 + digit) rest

theorem length_takeCodePoint {count value : Nat} {s rest : List Char} {c : Char}
    (h : takeCodePoint count value s = some (c, rest)) : rest.length ≤ s.length := by
  induction count generalizing value s with
  | zero =>
    simp only [takeCodePoint] at h
    split at h
    · simp only [Option.some.injEq, Prod.mk.injEq] at h
      simp [h.2]
    · simp at h
  | succ count ih =>
    cases s with
    | nil => simp [takeCodePoint] at h
    | cons d s =>
      simp only [takeCodePoint] at h
      obtain ⟨digit, _, h⟩ := Option.bind_eq_some_iff.1 h
      have := ih h
      simp only [List.length_cons]
      omega

/-- The character that stands after a backslash in a quoted text. -/
def takeEscape : List Char → Taken Char
  | [] => none
  | c :: rest =>
    match c with
    | 'b' => some ('\x08', rest)
    | 't' => some ('\t', rest)
    | 'n' => some ('\n', rest)
    | 'f' => some ('\x0c', rest)
    | 'r' => some ('\r', rest)
    | '"' => some ('"', rest)
    | '\\' => some ('\\', rest)
    | 'u' => takeCodePoint 4 0 rest
    | 'U' => takeCodePoint 8 0 rest
    | _ => none

theorem length_takeEscape {s rest : List Char} {c : Char} (h : takeEscape s = some (c, rest)) :
    rest.length < s.length := by
  unfold takeEscape at h
  split at h
  · simp at h
  · next d tail =>
    have key : rest.length ≤ tail.length := by
      split at h
      all_goals first
        | (simp only [Option.some.injEq, Prod.mk.injEq] at h; simp [h.2])
        | exact length_takeCodePoint h
        | simp at h
    simp only [List.length_cons]
    omega

/-- Whether a quoted text may hold the character as it is: every character but the control characters, of
which only the tabulator is allowed. -/
def isPlain (c : Char) : Bool := c == '\t' || (0x20 ≤ c.toNat && c != '\x7f')

/-- The characters of a text, its escapes resolved. -/
def resolved (s : List Char) : Option (List Char) :=
  match s with
  | [] => some []
  | '\\' :: rest =>
    match _h : takeEscape rest with
    | none => none
    | some (c, rest) => (resolved rest).map (c :: ·)
  | c :: rest => if isPlain c then (resolved rest).map (c :: ·) else none
termination_by s.length
decreasing_by
  · have := length_takeEscape ‹_›
    simp only [List.length_cons]
    omega
  · simp

/-- What a quoted text says. A text without escapes says itself. Where there are escapes, the characters
before the first one are counted, and as many bytes of them are kept: all of them, if they are ASCII
characters, and otherwise fewer. A count that ends within a character takes nothing. -/
def unescape (s : List Char) : Option (List Char) :=
  let plain := s.takeWhile (· != '\\')
  let escaped := s.dropWhile (· != '\\')
  if !plain.all isPlain then none
  else if escaped.isEmpty then some plain
  else (Text.Utf8.takeBytes plain.length plain).bind fun kept => (resolved escaped).map (kept ++ ·)

/-- The characters up to the first quote that no backslash precedes, and the text from that quote on. -/
def upToQuote : List Char → List Char × List Char
  | [] => ([], [])
  | '"' :: rest => ([], '"' :: rest)
  | '\\' :: c :: rest =>
    let (body, rest) := upToQuote rest
    ('\\' :: c :: body, rest)
  | c :: rest =>
    let (body, rest) := upToQuote rest
    (c :: body, rest)

theorem length_upToQuote (s : List Char) : (upToQuote s).2.length ≤ s.length := by
  fun_induction upToQuote s <;> grind

/-- A text after its opening quote. -/
def takeQuoted (s : List Char) : Taken String :=
  match upToQuote s with
  | (body, '"' :: rest) => (unescape body).map fun text => (String.ofList text, rest)
  | _ => none

theorem length_takeQuoted {s rest : List Char} {text : String}
    (h : takeQuoted s = some (text, rest)) : rest.length < s.length := by
  unfold takeQuoted at h
  split at h
  · next body after hs =>
    have := length_upToQuote s
    obtain ⟨_, _, he⟩ := Option.map_eq_some_iff.1 h
    simp only [Prod.mk.injEq] at he
    simp only [hs, List.length_cons] at this
    rw [← he.2]
    omega
  · simp at h

/-- Whether a key without quotes may hold the character. -/
def isKeyChar (c : Char) : Bool := c.isAlphanum || c == '_' || c == '-'

/-- A key, in quotes or as a bare word. -/
def takeKey : List Char → Taken String
  | '"' :: rest => takeQuoted rest
  | s =>
    match s.takeWhile isKeyChar with
    | [] => none
    | key => some (String.ofList key, s.dropWhile isKeyChar)

theorem length_takeKey {s rest : List Char} {key : String} (h : takeKey s = some (key, rest)) :
    rest.length ≤ s.length := by
  unfold takeKey at h
  split at h
  · exact Nat.le_succ_of_le (Nat.le_of_lt (length_takeQuoted h))
  · split at h
    · simp at h
    · simp only [Option.some.injEq, Prod.mk.injEq] at h
      rw [← h.2]
      exact length_dropWhile_le _ _

/-- A key, blanks around it passed over, and its equals sign. -/
def takeAssigned (s : List Char) : Taken String :=
  match takeKey (skipBlanks s) with
  | none => none
  | some (key, rest) =>
    match skipBlanks rest with
    | '=' :: rest => some (key, rest)
    | _ => none

theorem length_takeAssigned {s rest : List Char} {key : String}
    (h : takeAssigned s = some (key, rest)) : rest.length ≤ s.length := by
  unfold takeAssigned at h
  split at h
  · simp at h
  · next after hk =>
    split at h
    · next hs =>
      have start := length_dropWhile_le isAsciiBlank s
      have stop := length_dropWhile_le isAsciiBlank after
      have := length_takeKey hk
      simp only [skipBlanks] at hs this
      simp only [hs, List.length_cons] at stop
      simp only [Option.some.injEq, Prod.mk.injEq] at h
      rw [← h.2]
      omega
    · simp at h

/-- Items up to a closing character, divided by commas, of which one may stand at the end. -/
def takeItems {α : Type} (item : Taker α) (close : Char) (s : List Char) : Taken (List α) :=
  if s.head? = some close then some ([], s.tail)
  else
    match _h : item.run s with
    | none | some (_, []) => none
    | some (value, c :: rest) =>
      if c = close then some ([value], rest)
      else if c = ',' then
        (takeItems item close rest).map fun (values, rest) => (value :: values, rest)
      else none
termination_by s.length
decreasing_by exact item.length_le _h

theorem length_takeItems {α : Type} {item : Taker α} {close : Char} {s rest : List Char}
    {values : List α} (h : takeItems item close s = some (values, rest)) :
    rest.length ≤ s.length := by
  fun_induction takeItems item close s generalizing values with
  | case1 => grind
  | case2 => simp at h
  | case3 => simp at h
  | case4 s _ value after hs => have := item.length_le hs; grind
  | case5 s _ value after hs _ ih =>
    have := item.length_le hs
    obtain ⟨_, h⟩ := map_eq_taken h
    have := ih h
    simp only [List.length_cons] at *
    omega
  | case6 => simp at h

def takePair (value : Taker Value) : Taker (String × Value) where
  run s := (takeAssigned s).bind fun (key, rest) =>
    (value.run rest).map fun (value, rest) => ((key, value), rest)
  length_le h := by
    obtain ⟨⟨key, rest⟩, hk, h⟩ := Option.bind_eq_some_iff.1 h
    obtain ⟨_, h⟩ := map_eq_taken h
    exact Nat.le_trans (value.length_le h) (length_takeAssigned hk)

/-- Whether a bare text goes on with the character. -/
def isBare (c : Char) : Bool :=
  !(c == ',' || c == '{' || c == '}' || c == '[' || c == ']')

/-- A whole number without a minus sign, of 64 bits. -/
def natural64? (s : List Char) : Option Nat :=
  match s with
  | '-' :: _ => none
  | s =>
    match Number.natural? (Number.takeSign s).2 with
    | some n => if n < Number.wordCount then some n else none
    | none => none

/-- A whole number with a sign, of 64 bits. -/
def integer64? (s : List Char) : Option Int :=
  let (negative, digits) := Number.takeSign s
  match Number.natural? digits with
  | some n =>
    if negative then (if n ≤ Number.signBound then some (-n) else none)
    else if n < Number.signBound then some n
    else none
  | none => none

/-- What a bare text stands for: a number if it is written like one. -/
def bareValue (s : List Char) : Value :=
  match if s.contains '.' then Number.Real.parse? s else none with
  | some number => .fraction number
  | none =>
    match natural64? s with
    | some n => .natural n
    | none =>
      match integer64? s with
      | some n => .integer n
      | none => .text (String.ofList s)

/-- A value that holds no others, at the start of a text without blanks before it. -/
def takeSimple (s : List Char) : Taken Value :=
  if "true".toList.isPrefixOf s then some (.boolean true, s.drop 4)
  else if "false".toList.isPrefixOf s then some (.boolean false, s.drop 5)
  else
    match s with
    | '"' :: rest => (takeQuoted rest).map fun (text, rest) => (.text text, rest)
    | '\x27' :: c :: '\x27' :: rest => some (.character c, rest)
    | '\x27' :: _ => none
    | s => some (bareValue (Text.trim (s.takeWhile isBare)), s.dropWhile isBare)

theorem length_takeSimple {s rest : List Char} {value : Value}
    (h : takeSimple s = some (value, rest)) : rest.length ≤ s.length := by
  unfold takeSimple at h
  split at h
  · simp only [Option.some.injEq, Prod.mk.injEq] at h; simp [← h.2]
  · split at h
    · simp only [Option.some.injEq, Prod.mk.injEq] at h; simp [← h.2]
    · split at h
      · obtain ⟨_, h⟩ := map_eq_taken h
        exact Nat.le_succ_of_le (Nat.le_of_lt (length_takeQuoted h))
      · simp only [Option.some.injEq, Prod.mk.injEq] at h; simp only [← h.2, List.length_cons]; omega
      · simp at h
      · simp only [Option.some.injEq, Prod.mk.injEq] at h
        rw [← h.2]
        exact length_dropWhile_le _ _

/-- A value and the blanks around it, where `inner` takes the values that stand in brackets. -/
def takeValueWith (inner : Option (Taker Value)) (s : List Char) : Taken Value :=
  let value : Taken Value :=
    match skipBlanks s, inner with
    | '[' :: rest, some inner =>
      (takeItems inner ']' rest).map fun (items, rest) => (.list items, rest)
    | '\x7b' :: rest, some inner =>
      (takeItems (takePair inner) '\x7d' rest).map fun (pairs, rest) => (mapOf pairs, rest)
    | s, _ => takeSimple s
  value.map fun (value, rest) => (value, skipBlanks rest)

theorem length_takeValueWith {inner : Option (Taker Value)} {s rest : List Char} {value : Value}
    (h : takeValueWith inner s = some (value, rest)) : rest.length ≤ s.length := by
  obtain ⟨⟨value, after⟩, h, he⟩ := Option.map_eq_some_iff.1 h
  simp only [Prod.mk.injEq] at he
  have start : (skipBlanks s).length ≤ s.length := length_dropWhile_le _ _
  rw [← he.2]
  refine Nat.le_trans (length_dropWhile_le _ _) ?_
  split at h
  · next hs _ =>
    obtain ⟨_, h⟩ := map_eq_taken h
    have := length_takeItems h
    simp only [hs, List.length_cons] at start
    omega
  · next hs _ =>
    obtain ⟨_, h⟩ := map_eq_taken h
    have := length_takeItems h
    simp only [hs, List.length_cons] at start
    omega
  · exact Nat.le_trans (length_takeSimple h) start

/-- A value and the blanks around it; `depth` bounds the brackets that stand inside one another. -/
def takeValue : Nat → Taker Value
  | 0 => ⟨takeValueWith none, length_takeValueWith⟩
  | depth + 1 => ⟨takeValueWith (some (takeValue depth)), length_takeValueWith⟩

def Variable.content (var : Variable) : Value :=
  let s := var.value.toList
  match (takeValue s.length).run s with
  | some (value, []) => value
  | _ => .text var.value

/-- The text with dots for double underscores. -/
def dotted : List Char → List Char
  | '_' :: '_' :: rest => '.' :: dotted rest
  | c :: rest => c :: dotted rest
  | [] => []

/-- The way to the value of a variable, if it has one: the keys of its name, without regard to case and to
blanks around the name and around what follows its start. -/
def Variable.path (var : Variable) : Option (List String) :=
  let name := Text.trim var.name.toList
  let start := variableStart.toList
  if (name.take start.length).map Char.toUpper = start then
    let keys := (dotted (Text.trim (name.drop start.length))).splitOn '.'
    if keys.any List.isEmpty then none
    else some (keys.map fun key => String.ofList (key.map Char.toLower))
  else none

/-- A value at the end of a way, as an entry. -/
def nest (value : Value) : List String → Option (String × Value)
  | [] => none
  | key :: rest =>
    match nest value rest with
    | none => some (key, value)
    | some entry => some (key, .map [entry])

def Variable.entry (var : Variable) : Option (String × Value) :=
  var.path.bind (nest var.content)

/-- The layer of the environment: the entries of its variables, later ones over earlier ones. -/
def variableLayer (environment : List Variable) : Layer where
  source := .environment
  entries :=
    (environment.filterMap Variable.entry).foldl (fun entries entry => joined [entry] entries) []

end RecordAccess.Config
