import RecordAccess.Json.Skip

/-!
# Structures in JSON text

A structure has named members in an order. It is written as an object, its members in any order and
others between them passed over, or as an array of its members in their order, where members at the end
may be left out if they have a default. A member that is there twice, or a missing one without a
default, is a misfit.
-/
namespace RecordAccess.Json

open Number

/-- Reads what stands where something else is demanded: a whole value, but of an array or an object
only that it starts. -/
def readFound : List Char → Reading Found
  | [] => endOfText
  | 'n' :: rest => (skipWord "ull".toList rest).map fun rest => (.null, rest)
  | 't' :: rest => (skipWord "rue".toList rest).map fun rest => (.boolean true, rest)
  | 'f' :: rest => (skipWord "alse".toList rest).map fun rest => (.boolean false, rest)
  | '"' :: rest => (readString rest).map fun (text, rest) => (.text text, rest)
  | '[' :: rest => .ok (.sequence, '[' :: rest)
  | '{' :: rest => .ok (.map, '{' :: rest)
  | '-' :: rest => readNumber true rest
  | c :: rest => if isDigit c then readNumber false (c :: rest) else malformed (c :: rest)

theorem length_of_readFound {s rest : List Char} {found : Found}
    (h : readFound s = .ok (found, rest)) (hs : found ≠ .sequence) (hm : found ≠ .map) :
    rest.length < s.length := by
  have word {word t : List Char} {value : Found}
      (h : (skipWord word t).map (fun rest => (value, rest)) = .ok (found, rest)) :
      rest.length ≤ t.length := by
    obtain ⟨_, hw, h⟩ := map_eq_ok h
    simp only [Prod.mk.injEq] at h
    exact h.2 ▸ length_of_skipWord hw
  unfold readFound at h
  split at h
  · simp [endOfText] at h
  · exact Nat.lt_succ_of_le (word h)
  · exact Nat.lt_succ_of_le (word h)
  · exact Nat.lt_succ_of_le (word h)
  · obtain ⟨⟨_, _⟩, ht, h⟩ := map_eq_ok h
    simp only [Prod.mk.injEq] at h
    exact h.2 ▸ Nat.lt_succ_of_lt (length_of_readString ht)
  · simp only [Except.ok.injEq, Prod.mk.injEq] at h
    exact absurd h.1.symm hs
  · simp only [Except.ok.injEq, Prod.mk.injEq] at h
    exact absurd h.1.symm hm
  · exact Nat.lt_succ_of_lt (length_of_readNumber h)
  · split at h
    · exact length_of_readNumber h
    · simp [malformed] at h

def refuse {α : Type} (expected : String) (s : List Char) : Except Stop α :=
  match readFound s with
  | .error stop => .error stop
  | .ok (found, rest) => misfit (.wrongType found expected) rest

theorem refuse_ne_ok {α : Type} {expected : String} {s : List Char} {result : α} :
    refuse expected s ≠ .ok result := by
  unfold refuse
  split <;> simp [misfit]

def readText (s : List Char) : Reading String :=
  match skipGap s with
  | [] => endOfText
  | '"' :: rest => readString rest
  | rest => refuse "a string" rest

/-- Reads a value or `null`. -/
def readOptional {α : Type} (read : List Char → Reading α) (s : List Char) : Reading (Option α) :=
  match skipGap s with
  | 'n' :: rest => (skipWord "ull".toList rest).map fun rest => (none, rest)
  | rest => (read rest).map fun (value, rest) => (some value, rest)

namespace Reader

def text : Reader String where
  run := readText
  length_lt {s rest _} h := by
    unfold readText at h
    split at h
    · simp [endOfText] at h
    · next hs => exact Nat.lt_trans (length_of_readString h) (length_of_skipGap hs)
    · exact absurd h refuse_ne_ok

def optional {α : Type} (reader : Reader α) : Reader (Option α) where
  run := readOptional reader.run
  length_lt {s rest _} h := by
    unfold readOptional at h
    split at h
    · next hs =>
      obtain ⟨r, hr, h⟩ := map_eq_ok h
      simp only [Prod.mk.injEq] at h
      rw [← h.2]
      exact Nat.lt_of_le_of_lt (length_of_skipWord hr) (length_of_skipGap hs)
    · obtain ⟨⟨_, r⟩, hr, h⟩ := map_eq_ok h
      simp only [Prod.mk.injEq] at h
      rw [← h.2]
      exact Nat.lt_of_lt_of_le (reader.length_lt hr) (length_skipGap s)

end Reader

inductive Next where
  /-- Another item, which starts here. -/
  | item (rest : List Char)
  /-- The closing bracket, and the text after it. -/
  | closed (rest : List Char)
  deriving DecidableEq, Repr

def Next.rest : Next → List Char
  | item rest | closed rest => rest

def nextItem (isFirst : Bool) (s : List Char) : Except Stop Next :=
  match skipGap s with
  | [] => endOfText
  | ']' :: rest => .ok (.closed rest)
  | c :: rest =>
    if isFirst then .ok (.item (c :: rest))
    else if c = ',' then
      match skipGap rest with
      | [] => endOfText
      | ']' :: rest => malformed rest
      | rest => .ok (.item rest)
    else malformed (c :: rest)

theorem length_of_nextItem {isFirst : Bool} {s : List Char} {next : Next}
    (h : nextItem isFirst s = .ok next) : next.rest.length ≤ s.length := by
  unfold nextItem at h
  have hs := length_skipGap s
  split at h
  · simp [endOfText] at h
  · next hc =>
    simp only [Except.ok.injEq] at h
    rw [hc] at hs
    simp only [List.length_cons] at hs
    simp only [← h, Next.rest]
    omega
  · next c rest _ hc =>
    rw [hc] at hs
    split at h
    · simp only [Except.ok.injEq] at h
      simpa only [← h, Next.rest] using hs
    · split at h
      · have hr := length_skipGap rest
        split at h
        · simp [endOfText] at h
        · simp [malformed] at h
        · simp only [Except.ok.injEq] at h
          simp only [List.length_cons] at hs
          simp only [← h, Next.rest]
          omega
      · simp [malformed] at h

/-- Reads the items of an array after its opening bracket. -/
def readItems {α : Type} (reader : Reader α) (isFirst : Bool) (s : List Char) : Reading (List α) :=
  match _hn : nextItem isFirst s with
  | .error stop => .error stop
  | .ok (.closed rest) => .ok ([], rest)
  | .ok (.item rest) =>
    match _hr : reader.run rest with
    | .error stop => .error stop
    | .ok (value, rest) =>
      (readItems reader false rest).map fun (values, rest) => (value :: values, rest)
termination_by s.length
decreasing_by exact Nat.lt_of_lt_of_le (reader.length_lt _hr) (length_of_nextItem _hn)

theorem length_of_readItems {α : Type} {reader : Reader α} {isFirst : Bool} {s rest : List Char}
    {values : List α} (h : readItems reader isFirst s = .ok (values, rest)) :
    rest.length ≤ s.length := by
  fun_induction readItems reader isFirst s generalizing values with
  | case1 => simp at h
  | case2 _ _ _ hn =>
    simp only [Except.ok.injEq, Prod.mk.injEq] at h
    rw [← h.2]
    exact length_of_nextItem hn
  | case3 => simp at h
  | case4 _ _ _ hn _ _ hr ih =>
    obtain ⟨⟨_, _⟩, hi, h⟩ := map_eq_ok h
    simp only [Prod.mk.injEq] at h
    have := length_of_nextItem hn
    have := reader.length_lt hr
    have := ih (h.2 ▸ hi)
    simp only [Next.rest] at *
    omega

def readList {α : Type} (reader : Reader α) (s : List Char) : Reading (List α) :=
  match skipGap s with
  | [] => endOfText
  | '[' :: rest => readItems reader true rest
  | rest => refuse "a sequence" rest

def Reader.list {α : Type} (reader : Reader α) : Reader (List α) where
  run := readList reader
  length_lt {s rest _} h := by
    unfold readList at h
    split at h
    · simp [endOfText] at h
    · next hs => exact Nat.lt_of_le_of_lt (length_of_readItems h) (length_of_skipGap hs)
    · exact absurd h refuse_ne_ok

structure Slot (σ : Type) where
  key : String
  /-- Whether the member has to be there. -/
  isRequired : Bool
  /-- Reads the member, and says how it enters the structure. -/
  reader : Reader (σ → σ)

def Reader.map {α β : Type} (f : α → β) (reader : Reader α) : Reader β where
  run := fun s => (reader.run s).map fun (value, rest) => (f value, rest)
  length_lt {s rest _} h := by
    obtain ⟨⟨_, _⟩, hr, h⟩ := map_eq_ok h
    simp only [Prod.mk.injEq] at h
    exact reader.length_lt (h.2 ▸ hr)

/-- The member of the given key that `put` enters. -/
def slot {σ α : Type} (key : String) (isRequired : Bool) (reader : Reader α) (put : α → σ → σ) :
    Slot σ :=
  ⟨key, isRequired, reader.map put⟩

structure Layout (σ : Type) where
  name : String
  blank : σ
  slots : List (Slot σ)

namespace Layout

variable {σ : Type}

def expected (layout : Layout σ) : String := "struct " ++ layout.name

/-- What messages say is demanded of an array. -/
def expectedRow (layout : Layout σ) : String :=
  layout.expected ++ " with " ++ toString layout.slots.length ++ " elements"

/-- Reads the end of an array that has all members. -/
def closeRow (value : σ) (s : List Char) : Reading σ :=
  match skipGap s with
  | [] => endOfText
  | ']' :: rest => .ok (value, rest)
  | rest => malformed rest

/-- Reads the members of an array from the one numbered `index` on. -/
def readRow (layout : Layout σ) (index : Nat) (value : σ) :
    List (Slot σ) → List Char → Reading σ
  | [], s => closeRow value s
  | slot :: slots, s =>
    match nextItem (index == 0) s with
    | .error stop => .error stop
    | .ok (.closed rest) =>
      match (slot :: slots).findIdx? Slot.isRequired with
      | some missing => misfit (.wrongLength (index + missing) layout.expectedRow) rest
      | none => .ok (value, rest)
    | .ok (.item rest) =>
      match slot.reader.run rest with
      | .error stop => .error stop
      | .ok (put, rest) => layout.readRow (index + 1) (put value) slots rest

theorem length_of_readRow {layout : Layout σ} {slots : List (Slot σ)} {index : Nat} {start value : σ}
    {s rest : List Char} (h : layout.readRow index start slots s = .ok (value, rest)) :
    rest.length ≤ s.length := by
  induction slots generalizing index start s with
  | nil =>
    simp only [readRow, closeRow] at h
    split at h
    · simp [endOfText] at h
    · next hs =>
      simp only [Except.ok.injEq, Prod.mk.injEq] at h
      rw [← h.2]
      exact Nat.le_of_lt (length_of_skipGap hs)
    · simp [malformed] at h
  | cons slot slots ih =>
    simp only [readRow] at h
    split at h
    · simp at h
    · next hn =>
      split at h
      · simp [misfit] at h
      · simp only [Except.ok.injEq, Prod.mk.injEq] at h
        rw [← h.2]
        exact length_of_nextItem hn
    · next hn =>
      split at h
      · simp at h
      · next hr =>
        have := length_of_nextItem hn
        have := slot.reader.length_lt hr
        have := ih h
        simp only [Next.rest] at *
        omega

/-- Finds the next key of an object; the text after its opening quote. -/
def nextKey (isFirst : Bool) (s : List Char) : Except Stop Next :=
  match skipGap s with
  | [] => endOfText
  | '}' :: rest => .ok (.closed rest)
  | c :: rest =>
    if isFirst then
      if c = '"' then .ok (.item rest) else malformed (c :: rest)
    else if c = ',' then
      match skipGap rest with
      | [] => endOfText
      | '"' :: rest => .ok (.item rest)
      | rest => malformed rest
    else malformed (c :: rest)

theorem length_of_nextKey {isFirst : Bool} {s : List Char} {next : Next}
    (h : nextKey isFirst s = .ok next) : next.rest.length < s.length := by
  unfold nextKey at h
  split at h
  · simp [endOfText] at h
  · next hc =>
    simp only [Except.ok.injEq] at h
    simpa only [← h, Next.rest] using length_of_skipGap hc
  · next c rest _ hc =>
    have hs := length_of_skipGap hc
    split at h
    · split at h
      · simp only [Except.ok.injEq] at h
        simpa only [← h, Next.rest] using hs
      · simp [malformed] at h
    · split at h
      · split at h
        · simp [endOfText] at h
        · next hr =>
          simp only [Except.ok.injEq] at h
          simpa only [← h, Next.rest] using Nat.lt_trans (length_of_skipGap hr) hs
        · simp [malformed] at h
      · simp [malformed] at h

def skipColon (s : List Char) : Except Stop (List Char) :=
  match skipGap s with
  | [] => endOfText
  | ':' :: rest => .ok rest
  | rest => malformed rest

theorem length_of_skipColon {s rest : List Char} (h : skipColon s = .ok rest) :
    rest.length < s.length := by
  unfold skipColon at h
  split at h
  · simp [endOfText] at h
  · next hs =>
    simp only [Except.ok.injEq] at h
    exact h ▸ length_of_skipGap hs
  · simp [malformed] at h

/-- The text after a key, less the closing bracket if it stands there. -/
def afterRepeated (s : List Char) : List Char :=
  match skipGap s with
  | '}' :: rest => rest
  | rest => rest

/-- Reads the value of a key: how it enters the structure. A key of no member is passed over. -/
def readMember (layout : Layout σ) (seen : List String) (key : String) (s : List Char) :
    Reading (σ → σ) :=
  match layout.slots.find? fun slot => slot.key == key with
  | none =>
    match skipColon s with
    | .error stop => .error stop
    | .ok rest => (skipValue rest).map fun rest => (id, rest)
  | some slot =>
    if seen.contains key then misfit (.repeatedField key) (afterRepeated s)
    else
      match skipColon s with
      | .error stop => .error stop
      | .ok rest => slot.reader.run rest

theorem length_of_readMember {layout : Layout σ} {seen : List String} {key : String}
    {s rest : List Char} {put : σ → σ} (h : layout.readMember seen key s = .ok (put, rest)) :
    rest.length < s.length := by
  unfold readMember at h
  split at h
  · split at h
    · simp at h
    · next hc =>
      obtain ⟨r, hr, h⟩ := map_eq_ok h
      simp only [Prod.mk.injEq] at h
      rw [← h.2]
      exact Nat.lt_of_le_of_lt (length_of_skipValue hr) (length_of_skipColon hc)
  · next slot _ =>
    split at h
    · simp [misfit] at h
    · split at h
      · simp at h
      · next hc => exact Nat.lt_trans (slot.reader.length_lt h) (length_of_skipColon hc)

/-- Reads the members of an object after its opening bracket. `seen` are the keys so far. -/
def readMembers (layout : Layout σ) (seen : List String) (value : σ) (isFirst : Bool)
    (s : List Char) : Reading σ :=
  match _hn : nextKey isFirst s with
  | .error stop => .error stop
  | .ok (.closed rest) =>
    match layout.slots.find? fun slot => slot.isRequired && !seen.contains slot.key with
    | some slot => misfit (.missingField slot.key) rest
    | none => .ok (value, rest)
  | .ok (.item rest) =>
    match _hk : readString rest with
    | .error stop => .error stop
    | .ok (key, rest) =>
      match _hm : layout.readMember seen key rest with
      | .error stop => .error stop
      | .ok (put, rest) => layout.readMembers (key :: seen) (put value) false rest
termination_by s.length
decreasing_by
  exact Nat.lt_trans (length_of_readMember _hm)
    (Nat.lt_trans (length_of_readString _hk) (length_of_nextKey _hn))

theorem length_of_readMembers {layout : Layout σ} {seen : List String} {start value : σ}
    {isFirst : Bool} {s rest : List Char}
    (h : layout.readMembers seen start isFirst s = .ok (value, rest)) : rest.length ≤ s.length := by
  fun_induction readMembers layout seen start isFirst s with
  | case1 => simp at h
  | case2 => simp [misfit] at h
  | case3 _ _ _ _ _ hn =>
    simp only [Except.ok.injEq, Prod.mk.injEq] at h
    rw [← h.2]
    exact Nat.le_of_lt (length_of_nextKey hn)
  | case4 => simp at h
  | case5 => simp at h
  | case6 _ _ _ _ _ hn _ _ hk _ _ hm ih =>
    have := length_of_nextKey hn
    have := length_of_readString hk
    have := length_of_readMember hm
    have := ih h
    simp only [Next.rest] at *
    omega

def read (layout : Layout σ) (s : List Char) : Reading σ :=
  match skipGap s with
  | [] => endOfText
  | '[' :: rest => layout.readRow 0 layout.blank layout.slots rest
  | '{' :: rest => layout.readMembers [] layout.blank true rest
  | rest => refuse layout.expected rest

def reader (layout : Layout σ) : Reader σ where
  run := layout.read
  length_lt {s rest _} h := by
    unfold read at h
    split at h
    · simp [endOfText] at h
    · next hs => exact Nat.lt_of_le_of_lt (length_of_readRow h) (length_of_skipGap hs)
    · next hs => exact Nat.lt_of_le_of_lt (length_of_readMembers h) (length_of_skipGap hs)
    · exact absurd h refuse_ne_ok

end Layout

/-- Reads a text that holds one value and nothing else. -/
def readWhole? {α : Type} (read : List Char → Reading α) (s : List Char) : Except Stop α :=
  match read s with
  | .error stop => .error stop
  | .ok (value, rest) =>
    match skipGap rest with
    | [] => .ok value
    | rest => malformed rest

def writeArray (items : List (List Char)) : List Char :=
  '[' :: (List.intersperse [','] items).flatten ++ [']']

def writeObject (members : List (String × List Char)) : List Char :=
  '{' :: (List.intersperse [','] (members.map fun (key, value) =>
    writeString key ++ ':' :: value)).flatten ++ ['}']

end RecordAccess.Json
