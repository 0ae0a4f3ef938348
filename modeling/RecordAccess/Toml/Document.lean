import RecordAccess.Toml.Scalar

/-!
# Configuration files

A file is a row of lines: headers, which open a table or a further table of a row of tables, and
definitions of keys in the table that is open. Nothing may be defined twice. A table that only stood on
the way to another may be opened later, but one that dotted keys made may not, and dotted keys may not
reach into a table that a header opened. What is defined is kept by the way that leads to it, on which
the tables of a row are numbered.
-/
namespace RecordAccess.Toml

open Config (Taken Taker Value map_eq_taken)

inductive Definition where
  | value (value : Value)
  /-- A table. One that stood on the way to another is implicit until a header opens it; `isDotted`
  says that dotted keys made it. -/
  | table (isImplicit isDotted : Bool)
  /-- A row of so many tables, of which the last one is open to further definitions. -/
  | row (count : Nat)

/-- What a file defined so far, latest first. -/
structure Definitions where
  entries : List (List String × Definition) := []

namespace Definitions

def find? (definitions : Definitions) (way : List String) : Option Definition :=
  definitions.entries.lookup way

def put (definitions : Definitions) (way : List String) (definition : Definition) : Definitions :=
  ⟨(way, definition) :: definitions.entries.filter (·.1 ≠ way)⟩

/-- The way to a table of a row. -/
def inRow (way : List String) (index : Nat) : List String := way ++ [toString index]

/-- Follows keys below the table at `base` to another table, making implicit tables where nothing stands.
Of a row of tables they lead into the last one. -/
def follow (dotted : Bool) (base : List String) :
    List String → Definitions → Option (List String × Definitions)
  | [], definitions => some (base, definitions)
  | key :: rest, definitions =>
    let here := base ++ [key]
    match definitions.find? here with
    | none => follow dotted here rest (definitions.put here (.table true dotted))
    | some (.row count) => follow dotted (inRow here (count - 1)) rest definitions
    | some (.table isImplicit _) =>
      if dotted && !isImplicit then none else follow dotted here rest definitions
    | some (.value _) => none

/-- Follows all keys but the last one: the way to the table to which they lead, the way to the last key in
it, and the definitions with the tables that were made. -/
def followInto (definitions : Definitions) (dotted : Bool) (base keys : List String) :
    Option (List String × List String × Definitions) := do
  let (table, definitions) ← definitions.follow dotted base keys.dropLast
  let key ← keys.getLast?
  return (table, table ++ [key], definitions)

/-- Whether dotted keys made the table at the end of a way. -/
def isDotted (definitions : Definitions) (way : List String) : Bool :=
  match definitions.find? way with
  | some (.table _ isDotted) => isDotted
  | _ => false

/-- Defines the value of a way in the table at `base`. -/
def define (definitions : Definitions) (base way : List String) (value : Value) :
    Option Definitions := do
  let (table, here, definitions) ← definitions.followInto true base way
  let isOwn := way.length == 1
  if definitions.isDotted table == isOwn then none
  else if (definitions.find? here).isSome then none
  else some (definitions.put here (.value value))

def openTable (definitions : Definitions) (way : List String) :
    Option (List String × Definitions) := do
  let (_, here, definitions) ← definitions.followInto false [] way
  match definitions.find? here with
  | none | some (.table true false) => some (here, definitions.put here (.table false false))
  | _ => none

/-- Opens a further table of the row at the end of a way. -/
def openRow (definitions : Definitions) (way : List String) :
    Option (List String × Definitions) := do
  let (_, here, definitions) ← definitions.followInto false [] way
  match definitions.find? here with
  | none => some (inRow here 0, definitions.put here (.row 1))
  | some (.row count) => some (inRow here count, definitions.put here (.row (count + 1)))
  | _ => none

/-- The keys right below a way, in order. -/
def keysBelow (definitions : Definitions) (way : List String) : List String :=
  (definitions.entries.filterMap fun (other, _) =>
    if other.length = way.length + 1 ∧ way.isPrefixOf other then other.getLast? else none).mergeSort
    fun a b => a ≤ b

/-- The value at the end of a way, down to a depth. -/
def valueAt (definitions : Definitions) (depth : Nat) (way : List String) : Value :=
  match depth with
  | 0 => .map []
  | depth + 1 =>
    match definitions.find? way with
    | some (.value value) => value
    | some (.row count) =>
      .list ((List.range count).map fun index => definitions.valueAt depth (inRow way index))
    | _ =>
      .map ((definitions.keysBelow way).map fun key => (key, definitions.valueAt depth (way ++ [key])))

/-- The length of the longest way. -/
def depth (definitions : Definitions) : Nat :=
  (definitions.entries.map fun entry => entry.1.length).foldr max 0

def values (definitions : Definitions) : List (String × Value) :=
  (definitions.keysBelow []).map fun key => (key, definitions.valueAt definitions.depth [key])

end Definitions

/-- Values of a list up to its closing bracket, divided by commas, of which one may stand at the end;
lines may end anywhere between them. -/
def takeItems (item : Taker Value) (s : List Char) : Taken (List Value) :=
  match _hs : skipLines s with
  | none => none
  | some (']' :: rest) => some ([], rest)
  | some start =>
    match _hv : item.run start with
    | none => none
    | some (value, after) =>
      match _hr : skipLines after with
      | some (',' :: rest) => (takeItems item rest).map fun (values, rest) => (value :: values, rest)
      | some (']' :: rest) => some ([value], rest)
      | _ => none
termination_by s.length
decreasing_by
  have := length_skipLines _hs
  have := item.length_le _hv
  have := length_skipLines _hr
  simp only [List.length_cons] at this
  omega

theorem length_takeItems {item : Taker Value} {s rest : List Char} {values : List Value}
    (h : takeItems item s = some (values, rest)) : rest.length ≤ s.length := by
  fun_induction takeItems item s generalizing values with
  | case1 => simp at h
  | case2 s after hs =>
    have := length_skipLines hs
    simp only [Option.some.injEq, Prod.mk.injEq] at h
    simp only [List.length_cons, h.2] at this
    omega
  | case3 => simp at h
  | case4 s start _ hs value after hv rest hr ih =>
    have := length_skipLines hs
    have := item.length_le hv
    have := length_skipLines hr
    simp only [List.length_cons] at this
    obtain ⟨_, h⟩ := map_eq_taken h
    have := ih h
    omega
  | case5 s start _ hs value after hv rest hr =>
    have := length_skipLines hs
    have := item.length_le hv
    have := length_skipLines hr
    simp only [Option.some.injEq, Prod.mk.injEq] at h
    simp only [List.length_cons, h.2] at this
    omega
  | case6 => simp at h

/-- A way, an equals sign and a value. -/
def takeDefinition (value : Taker Value) (s : List Char) : Taken (List String × Value) :=
  match takeWay s with
  | some (way, '=' :: rest) =>
    (value.run (skipSpaces rest)).map fun (value, rest) => ((way, value), rest)
  | _ => none

theorem length_takeDefinition {value : Taker Value} {s rest : List Char} {pair : List String × Value}
    (h : takeDefinition value s = some (pair, rest)) : rest.length ≤ s.length := by
  unfold takeDefinition at h
  split at h
  · next after hw =>
    have := length_takeWay hw
    have := length_skipSpaces after
    obtain ⟨_, h⟩ := map_eq_taken h
    have := value.length_le h
    simp only [List.length_cons] at *
    omega
  · simp at h

/-- The definitions between braces on one line, after those before them. -/
def takeEntries (value : Taker Value) (definitions : Definitions) (s : List Char) :
    Taken Definitions :=
  match _hd : takeDefinition value s with
  | none => none
  | some ((way, value'), after) =>
    match definitions.define [] way value', _hr : skipSpaces after with
    | some definitions, ',' :: rest => takeEntries value definitions rest
    | some definitions, '\x7d' :: rest => some (definitions, rest)
    | _, _ => none
termination_by s.length
decreasing_by
  have := length_takeDefinition _hd
  have := length_skipSpaces after
  simp only [_hr, List.length_cons] at this
  omega

theorem length_takeEntries {value : Taker Value} {definitions out : Definitions} {s rest : List Char}
    (h : takeEntries value definitions s = some (out, rest)) : rest.length ≤ s.length := by
  fun_induction takeEntries value definitions s with
  | case1 => simp at h
  | case2 _ s _ _ after hd _ rest hr _ ih =>
    have := length_takeDefinition hd
    have := length_skipSpaces after
    simp only [hr, List.length_cons] at this
    have := ih h
    omega
  | case3 _ s _ _ after hd _ rest hr _ =>
    have := length_takeDefinition hd
    have := length_skipSpaces after
    simp only [Option.some.injEq, Prod.mk.injEq] at h
    simp only [hr, List.length_cons, h.2] at this
    omega
  | case4 => simp at h

/-- A table between braces, after the opening one. -/
def takeTable (value : Taker Value) (s : List Char) : Taken Value :=
  match skipSpaces s with
  | '\x7d' :: rest => some (.map [], rest)
  | start =>
    (takeEntries value {} start).map fun (definitions, rest) => (.map definitions.values, rest)

theorem length_takeTable {value : Taker Value} {s rest : List Char} {out : Value}
    (h : takeTable value s = some (out, rest)) : rest.length ≤ s.length := by
  have start := length_skipSpaces s
  unfold takeTable at h
  split at h
  · next hs =>
    simp only [Option.some.injEq, Prod.mk.injEq] at h
    simp only [hs, List.length_cons, h.2] at start
    omega
  · obtain ⟨_, h⟩ := map_eq_taken (f := fun entries : Definitions => Value.map entries.values) h
    exact Nat.le_trans (length_takeEntries h) start

/-- A value, where `inner` takes the values that stand inside it. -/
def takeValueWith (inner : Option (Taker Value)) (s : List Char) : Taken Value :=
  match s, inner with
  | '[' :: rest, some inner => (takeItems inner rest).map fun (items, rest) => (.list items, rest)
  | '\x7b' :: rest, some inner => takeTable inner rest
  | s, _ => takeScalar s

theorem length_takeValueWith {inner : Option (Taker Value)} {s rest : List Char} {value : Value}
    (h : takeValueWith inner s = some (value, rest)) : rest.length ≤ s.length := by
  unfold takeValueWith at h
  split at h
  · obtain ⟨_, h⟩ := map_eq_taken h
    exact Nat.le_succ_of_le (length_takeItems h)
  · exact Nat.le_succ_of_le (length_takeTable h)
  · exact length_takeScalar h

/-- A value; `depth` bounds the values that stand inside one another. -/
def takeValue : Nat → Taker Value
  | 0 => ⟨takeValueWith none, length_takeValueWith⟩
  | depth + 1 => ⟨takeValueWith (some (takeValue depth)), length_takeValueWith⟩

structure Progress where
  definitions : Definitions := {}
  base : List String := []

/-- The way between the brackets of a header, and the text after them. -/
def takeHeader (close s : List Char) : Taken (List String) :=
  (takeWay s).bind fun (way, rest) => (skipWord close rest).map fun rest => (way, rest)

theorem length_takeHeader {close s rest : List Char} {way : List String}
    (h : takeHeader close s = some (way, rest)) : rest.length ≤ s.length := by
  obtain ⟨⟨_, after⟩, hw, h⟩ := Option.bind_eq_some_iff.1 h
  obtain ⟨_, hs, he⟩ := Option.map_eq_some_iff.1 h
  simp only [Prod.mk.injEq] at he
  exact he.2 ▸ Nat.le_trans (length_skipWord hs) (length_takeWay hw)

/-- Reads a line that is not empty, up to its end. -/
def takeStatement (progress : Progress) : List Char → Taken Progress
  | '[' :: '[' :: rest =>
    (takeHeader [']', ']'] rest).bind fun (way, rest) =>
      (progress.definitions.openRow way).map fun (base, definitions) => (⟨definitions, base⟩, rest)
  | '[' :: rest =>
    (takeHeader [']'] rest).bind fun (way, rest) =>
      (progress.definitions.openTable way).map fun (base, definitions) => (⟨definitions, base⟩, rest)
  | s =>
    (takeDefinition (takeValue maxDepth) s).bind fun ((way, value), rest) =>
      (progress.definitions.define progress.base way value).map fun definitions =>
        ({ progress with definitions }, rest)

theorem length_takeStatement {progress out : Progress} {s rest : List Char}
    (h : takeStatement progress s = some (out, rest)) : rest.length ≤ s.length := by
  unfold takeStatement at h
  split at h
  · obtain ⟨⟨way, after⟩, hw, h⟩ := Option.bind_eq_some_iff.1 h
    obtain ⟨_, _, he⟩ := Option.map_eq_some_iff.1 h
    simp only [Prod.mk.injEq] at he
    exact he.2 ▸ Nat.le_succ_of_le (Nat.le_succ_of_le (length_takeHeader hw))
  · obtain ⟨⟨way, after⟩, hw, h⟩ := Option.bind_eq_some_iff.1 h
    obtain ⟨_, _, he⟩ := Option.map_eq_some_iff.1 h
    simp only [Prod.mk.injEq] at he
    exact he.2 ▸ Nat.le_succ_of_le (length_takeHeader hw)
  · obtain ⟨⟨pair, after⟩, hd, h⟩ := Option.bind_eq_some_iff.1 h
    obtain ⟨_, _, he⟩ := Option.map_eq_some_iff.1 h
    simp only [Prod.mk.injEq] at he
    exact he.2 ▸ length_takeDefinition hd

/-- Reads a line up to its end, if there is anything but a comment on it. -/
def takeStatement? (progress : Progress) (s : List Char) : Taken Progress :=
  if (endLine s).isSome then some (progress, s) else takeStatement progress (skipSpaces s)

theorem length_takeStatement? {progress out : Progress} {s rest : List Char}
    (h : takeStatement? progress s = some (out, rest)) : rest.length ≤ s.length := by
  unfold takeStatement? at h
  split at h
  · simp only [Option.some.injEq, Prod.mk.injEq] at h
    simp [h.2]
  · exact Nat.le_trans (length_takeStatement h) (length_skipSpaces s)

def takeFile (progress : Progress) (s : List Char) : Option Progress :=
  match _hs : takeStatement? progress s with
  | none => none
  | some (progress, after) =>
    match _he : endLine after with
    | none => none
    | some [] => some progress
    | some (c :: rest) => takeFile progress (c :: rest)
termination_by s.length
decreasing_by
  have := length_takeStatement? _hs
  have := length_endLine _he
  omega

/-- The text without a byte order mark. -/
def skipMark : List Char → List Char
  | '\uFEFF' :: rest => rest
  | s => s

/-- The values by key that a configuration file gives. -/
def parse (text : String) : Option (List (String × Value)) :=
  (takeFile {} (skipMark text.toList)).map fun progress => progress.definitions.values

end RecordAccess.Toml
