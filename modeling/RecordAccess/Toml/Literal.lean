import RecordAccess.Config.Variable

/-!
# Gaps, strings and keys of configuration files

A configuration file is read line by line. Comments run to the end of a line. A string stands on one
line between single or double quotes, or over several lines between three of them; single quotes take
every character as it is, double quotes know escapes. A key is a bare word or a string, and dots join
keys to a way.
-/
namespace RecordAccess.Toml

open Config (Taken Taker isPlain length_dropWhile_le map_eq_taken)

/-- Whether the character may stand between the tokens of a line. -/
def isSpace (c : Char) : Bool := c == ' ' || c == '\t'

def skipSpaces (s : List Char) : List Char := s.dropWhile isSpace

theorem length_skipSpaces (s : List Char) : (skipSpaces s).length ≤ s.length :=
  length_dropWhile_le _ _

/-- The text after a line break. -/
def skipBreak : List Char → Option (List Char)
  | '\n' :: rest => some rest
  | '\r' :: '\n' :: rest => some rest
  | _ => none

theorem length_skipBreak {s rest : List Char} (h : skipBreak s = some rest) :
    rest.length < s.length := by
  unfold skipBreak at h
  split at h
  · simp only [Option.some.injEq] at h; simp [← h]
  · simp only [Option.some.injEq] at h; simp only [← h, List.length_cons]; omega
  · simp at h

def skipComment : List Char → List Char
  | '#' :: rest => rest.dropWhile isPlain
  | s => s

theorem length_skipComment (s : List Char) : (skipComment s).length ≤ s.length := by
  unfold skipComment
  split
  · exact Nat.le_succ_of_le (length_dropWhile_le _ _)
  · exact Nat.le_refl _

/-- The text after what may end a line: spaces, a comment and a line break, or the end of the text. -/
def endLine (s : List Char) : Option (List Char) :=
  match skipComment (skipSpaces s) with
  | [] => some []
  | rest => skipBreak rest

theorem length_endLine {s rest : List Char} {c : Char} (h : endLine s = some (c :: rest)) :
    (c :: rest).length < s.length := by
  unfold endLine at h
  split at h
  · simp at h
  · have := length_skipComment (skipSpaces s)
    have := length_skipSpaces s
    have := length_skipBreak h
    omega

/-- The text after spaces, comments and line breaks. A comment has to end with its line. -/
def skipLines (s : List Char) : Option (List Char) :=
  match _h : skipBreak (skipComment (skipSpaces s)) with
  | some rest => skipLines rest
  | none =>
    match skipSpaces s with
    | '#' :: _ => none
    | rest => some rest
termination_by s.length
decreasing_by
  have := length_skipComment (skipSpaces s)
  have := length_skipSpaces s
  have := length_skipBreak _h
  omega

theorem length_skipLines {s rest : List Char} (h : skipLines s = some rest) :
    rest.length ≤ s.length := by
  fun_induction skipLines s with
  | case1 s after hs ih =>
    have := length_skipComment (skipSpaces s)
    have := length_skipSpaces s
    have := length_skipBreak hs
    have := ih h
    omega
  | case2 => simp at h
  | case3 s =>
    simp only [Option.some.injEq] at h
    rw [← h]
    exact length_skipSpaces s

/-- The end of a string over several lines: of up to five quotes the last three close it and the others
belong to it. -/
def closeBlock (quote : Char) (s : List Char) : Taken (List Char) :=
  let quotes := (s.takeWhile (· == quote)).length
  if quotes < 3 then none
  else
    let count := min quotes 5
    some (List.replicate (count - 3) quote, s.drop count)

theorem length_closeBlock {quote : Char} {s body rest : List Char}
    (h : closeBlock quote s = some (body, rest)) : rest.length ≤ s.length := by
  simp only [closeBlock] at h
  split at h
  · simp at h
  · simp only [Option.some.injEq, Prod.mk.injEq] at h
    simp [← h.2]

/-- The text after spaces and line breaks. -/
def skipGap (s : List Char) : List Char :=
  match _h : skipBreak (skipSpaces s) with
  | some rest => skipGap rest
  | none => skipSpaces s
termination_by s.length
decreasing_by
  have := length_skipSpaces s
  have := length_skipBreak _h
  omega

theorem length_skipGap (s : List Char) : (skipGap s).length ≤ s.length := by
  fun_induction skipGap s with
  | case1 s rest hs ih =>
    have := length_skipSpaces s
    have := length_skipBreak hs
    omega
  | case2 s => exact length_skipSpaces s

/-- The text after a backslash at the end of a line: the break, and all spaces and breaks after it, are
passed over. -/
def skipFold (s : List Char) : Option (List Char) :=
  (skipBreak (skipSpaces s)).map skipGap

theorem length_skipFold {s rest : List Char} (h : skipFold s = some rest) :
    rest.length ≤ s.length := by
  obtain ⟨after, hs, he⟩ := Option.map_eq_some_iff.1 h
  have := length_skipSpaces s
  have := length_skipBreak hs
  rw [← he]
  exact Nat.le_trans (length_skipGap _) (by omega)

/-- The next part of a string over several lines: a line break, an escape, a passed-over break, or a
character. -/
def takeBlockPart (quote : Char) : List Char → Taken (List Char)
  | [] => none
  | c :: rest =>
    match skipBreak (c :: rest) with
    | some rest => some (['\n'], rest)
    | none =>
      if quote = '"' ∧ c = '\\' then
        match skipFold rest with
        | some rest => some ([], rest)
        | none => (Config.takeEscape rest).map fun (d, rest) => ([d], rest)
      else if isPlain c then some ([c], rest)
      else none

theorem length_takeBlockPart {quote : Char} {s part rest : List Char}
    (h : takeBlockPart quote s = some (part, rest)) : rest.length < s.length := by
  unfold takeBlockPart at h
  split at h
  · simp at h
  · split at h
    · next hs =>
      simp only [Option.some.injEq, Prod.mk.injEq] at h
      exact h.2 ▸ length_skipBreak hs
    · split at h
      · split at h
        · next hs =>
          simp only [Option.some.injEq, Prod.mk.injEq] at h
          exact h.2 ▸ Nat.lt_succ_of_le (length_skipFold hs)
        · obtain ⟨_, h⟩ := map_eq_taken (f := fun c => [c]) h
          exact Nat.lt_succ_of_lt (Config.length_takeEscape h)
      · split at h
        · simp only [Option.some.injEq, Prod.mk.injEq] at h
          simp [h.2]
        · simp at h

/-- A string over several lines, after its opening quotes. -/
def takeBlock (quote : Char) (s : List Char) : Taken (List Char) :=
  match closeBlock quote s with
  | some closed => some closed
  | none =>
    match _h : takeBlockPart quote s with
    | none => none
    | some (part, rest) => (takeBlock quote rest).map fun (body, rest) => (part ++ body, rest)
termination_by s.length
decreasing_by exact length_takeBlockPart _h

theorem length_takeBlock {quote : Char} {s body rest : List Char}
    (h : takeBlock quote s = some (body, rest)) : rest.length ≤ s.length := by
  fun_induction takeBlock quote s generalizing body with
  | case1 s _ hs =>
    simp only [Option.some.injEq] at h
    exact length_closeBlock (h ▸ hs)
  | case2 => simp at h
  | case3 s _ part after hs ih =>
    obtain ⟨_, h⟩ := map_eq_taken h
    exact Nat.le_trans (ih h) (Nat.le_of_lt (length_takeBlockPart hs))

/-- A string on one line, after its opening quote. -/
def takeLine (quote : Char) (s : List Char) : Taken (List Char) :=
  match s with
  | [] => none
  | c :: rest =>
    if c = quote then some ([], rest)
    else if quote = '"' ∧ c = '\\' then
      match _h : Config.takeEscape rest with
      | none => none
      | some (d, rest) => (takeLine quote rest).map fun (body, rest) => (d :: body, rest)
    else if isPlain c then (takeLine quote rest).map fun (body, rest) => (c :: body, rest)
    else none
termination_by s.length
decreasing_by
  · have := Config.length_takeEscape ‹_›
    simp only [List.length_cons]
    omega
  · simp

theorem length_takeLine {quote : Char} {s body rest : List Char}
    (h : takeLine quote s = some (body, rest)) : rest.length ≤ s.length := by
  fun_induction takeLine quote s generalizing body with
  | case1 => simp at h
  | case2 =>
    simp only [Option.some.injEq, Prod.mk.injEq] at h
    simp [h.2]
  | case3 => simp at h
  | case4 _ _ _ _ _ _ hs ih =>
    obtain ⟨_, h⟩ := map_eq_taken h
    have := Config.length_takeEscape hs
    have := ih h
    simp only [List.length_cons]
    omega
  | case5 _ _ _ _ _ ih =>
    obtain ⟨_, h⟩ := map_eq_taken h
    exact Nat.le_succ_of_le (ih h)
  | case6 => simp at h

/-- The text without a line break at its start. -/
def skipFirstBreak (s : List Char) : List Char := (skipBreak s).getD s

theorem length_skipFirstBreak (s : List Char) : (skipFirstBreak s).length ≤ s.length := by
  unfold skipFirstBreak
  cases h : skipBreak s with
  | none => simp
  | some rest => exact Nat.le_of_lt (length_skipBreak h)

/-- The characters of a string of any kind. -/
def takeBody : List Char → Taken (List Char)
  | '"' :: '"' :: '"' :: rest => takeBlock '"' (skipFirstBreak rest)
  | '\x27' :: '\x27' :: '\x27' :: rest => takeBlock '\x27' (skipFirstBreak rest)
  | '"' :: rest => takeLine '"' rest
  | '\x27' :: rest => takeLine '\x27' rest
  | _ => none

theorem length_takeBody {s body rest : List Char} (h : takeBody s = some (body, rest)) :
    rest.length ≤ s.length := by
  unfold takeBody at h
  split at h
  · next after =>
    have := length_skipFirstBreak after
    have := length_takeBlock h
    simp only [List.length_cons]
    omega
  · next after =>
    have := length_skipFirstBreak after
    have := length_takeBlock h
    simp only [List.length_cons]
    omega
  · exact Nat.le_succ_of_le (length_takeLine h)
  · exact Nat.le_succ_of_le (length_takeLine h)
  · simp at h

def takeString (s : List Char) : Taken String :=
  (takeBody s).map fun (body, rest) => (String.ofList body, rest)

theorem length_takeString {s rest : List Char} {text : String}
    (h : takeString s = some (text, rest)) : rest.length ≤ s.length := by
  obtain ⟨_, h⟩ := map_eq_taken h
  exact length_takeBody h

/-- One key of a way. -/
def takeKey : List Char → Taken String
  | '"' :: rest => (takeLine '"' rest).map fun (body, rest) => (String.ofList body, rest)
  | '\x27' :: rest => (takeLine '\x27' rest).map fun (body, rest) => (String.ofList body, rest)
  | s =>
    match s.takeWhile Config.isKeyChar with
    | [] => none
    | key => some (String.ofList key, s.dropWhile Config.isKeyChar)

theorem length_takeKey {s rest : List Char} {key : String} (h : takeKey s = some (key, rest)) :
    rest.length ≤ s.length := by
  unfold takeKey at h
  split at h
  · obtain ⟨_, h⟩ := map_eq_taken h
    exact Nat.le_succ_of_le (length_takeLine h)
  · obtain ⟨_, h⟩ := map_eq_taken h
    exact Nat.le_succ_of_le (length_takeLine h)
  · split at h
    · simp at h
    · simp only [Option.some.injEq, Prod.mk.injEq] at h
      rw [← h.2]
      exact length_dropWhile_le _ _

/-- Keys joined by dots, spaces around them passed over. -/
def takeKeys (s : List Char) : Taken (List String) :=
  match _h : takeKey (skipSpaces s) with
  | none => none
  | some (key, after) =>
    match _hs : skipSpaces after with
    | '.' :: rest => (takeKeys rest).map fun (keys, rest) => (key :: keys, rest)
    | rest => some ([key], rest)
termination_by s.length
decreasing_by
  have := length_skipSpaces s
  have := length_takeKey _h
  have := length_skipSpaces after
  simp only [_hs, List.length_cons] at this
  omega

theorem length_takeKeys {s rest : List Char} {keys : List String}
    (h : takeKeys s = some (keys, rest)) : rest.length ≤ s.length := by
  fun_induction takeKeys s generalizing keys with
  | case1 => simp at h
  | case2 s key after hk dot hs ih =>
    have := length_skipSpaces s
    have := length_takeKey hk
    have := length_skipSpaces after
    simp only [hs, List.length_cons] at this
    obtain ⟨_, h⟩ := map_eq_taken h
    have := ih h
    omega
  | case3 s key after hk =>
    have := length_skipSpaces s
    have := length_takeKey hk
    have := length_skipSpaces after
    simp only [Option.some.injEq, Prod.mk.injEq] at h
    rw [← h.2]
    omega

/-- The depth up to which tables and values may stand inside one another. -/
def maxDepth : Nat := 79

/-- A way: keys joined by dots, not more than tables may stand inside one another. -/
def takeWay (s : List Char) : Taken (List String) :=
  (takeKeys s).filter fun (keys, _) => keys.length ≤ maxDepth

theorem length_takeWay {s rest : List Char} {way : List String} (h : takeWay s = some (way, rest)) :
    rest.length ≤ s.length :=
  length_takeKeys (Option.filter_eq_some_iff.1 h).1

end RecordAccess.Toml
