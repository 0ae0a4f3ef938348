import RecordAccess.Toml.Literal

/-!
# Numbers and moments of configuration files

Whole numbers have 64 bits and may be written with a base other than ten; underscores may divide digits.
Fractions are doubles; a text that stands for too large a number is none. A moment is a date, a time of
day, or both, of which only the form matters.
-/
namespace RecordAccess.Toml

open Config (Taken Value length_dropWhile_le map_eq_taken)
open Number

/-- Digits of a base with single underscores between them; at least one digit. -/
def takeDigits (isOne : Char → Bool) (s : List Char) : Taken (List Char) :=
  match s with
  | [] => none
  | c :: rest =>
    if !isOne c then none
    else
      match rest with
      | '_' :: more => (takeDigits isOne more).map fun (digits, rest) => (c :: digits, rest)
      | d :: more =>
        if isOne d then (takeDigits isOne (d :: more)).map fun (digits, rest) => (c :: digits, rest)
        else some ([c], d :: more)
      | [] => some ([c], [])
termination_by s.length

theorem length_takeDigits {isOne : Char → Bool} {s digits rest : List Char}
    (h : takeDigits isOne s = some (digits, rest)) : rest.length ≤ s.length := by
  fun_induction takeDigits isOne s generalizing digits with
  | case1 => simp at h
  | case2 => simp at h
  | case3 _ _ _ ih =>
    obtain ⟨_, h⟩ := map_eq_taken h
    have := ih h
    simp only [List.length_cons]
    omega
  | case4 _ _ _ _ _ _ ih =>
    obtain ⟨_, h⟩ := map_eq_taken h
    exact Nat.le_succ_of_le (ih h)
  | case5 =>
    simp only [Option.some.injEq, Prod.mk.injEq] at h
    simp [← h.2]
  | case6 =>
    simp only [Option.some.injEq, Prod.mk.injEq] at h
    simp [← h.2]

/-- Digits without a superfluous zero at their start. -/
def takeWhole : List Char → Taken (List Char)
  | '0' :: rest => some (['0'], rest)
  | s => takeDigits isDigit s

theorem length_takeWhole {s digits rest : List Char} (h : takeWhole s = some (digits, rest)) :
    rest.length ≤ s.length := by
  unfold takeWhole at h
  split at h
  · simp only [Option.some.injEq, Prod.mk.injEq] at h
    simp [h.2]
  · exact length_takeDigits h

def skipSign (s : List Char) : List Char := (takeSign s).2

theorem length_skipSign (s : List Char) : (skipSign s).length ≤ s.length := length_takeSign s

/-- Whether the character is a digit of a base up to sixteen. -/
def isDigitOf (base : Nat) (c : Char) : Bool := (digitIn? base c).isSome

/-- A whole number in a base, after the letters that announce it. -/
def takeBased (base : Nat) (s : List Char) : Taken Value :=
  (takeDigits (isDigitOf base) s).bind fun (digits, rest) =>
    let value := valueIn base digits
    if value < signBound then some (.integer value, rest) else none

theorem length_takeBased {base : Nat} {s rest : List Char} {value : Value}
    (h : takeBased base s = some (value, rest)) : rest.length ≤ s.length := by
  obtain ⟨⟨digits, after⟩, hd, h⟩ := Option.bind_eq_some_iff.1 h
  simp only [Option.ite_none_right_eq_some, Option.some.injEq, Prod.mk.injEq] at h
  exact h.2.2 ▸ length_takeDigits hd

/-- The whole number of 64 bits that digits stand for after a sign. -/
def integerOf (negative : Bool) (digits : List Char) : Option Value :=
  let value := valueOf digits
  if negative then
    if value ≤ signBound then some (.integer (-value)) else none
  else if value < signBound then some (.integer value)
  else none

def takeInteger : List Char → Taken Value
  | '0' :: 'x' :: rest => takeBased 16 rest
  | '0' :: 'o' :: rest => takeBased 8 rest
  | '0' :: 'b' :: rest => takeBased 2 rest
  | s =>
    (takeWhole (skipSign s)).bind fun (digits, rest) =>
      (integerOf (takeSign s).1 digits).map fun value => (value, rest)

theorem length_takeInteger {s rest : List Char} {value : Value}
    (h : takeInteger s = some (value, rest)) : rest.length ≤ s.length := by
  unfold takeInteger at h
  split at h
  · exact Nat.le_succ_of_le (Nat.le_succ_of_le (length_takeBased h))
  · exact Nat.le_succ_of_le (Nat.le_succ_of_le (length_takeBased h))
  · exact Nat.le_succ_of_le (Nat.le_succ_of_le (length_takeBased h))
  · obtain ⟨⟨digits, after⟩, hd, h⟩ := Option.bind_eq_some_iff.1 h
    obtain ⟨_, _, he⟩ := Option.map_eq_some_iff.1 h
    simp only [Prod.mk.injEq] at he
    exact he.2 ▸ Nat.le_trans (length_takeWhole hd) (length_skipSign s)

/-- The value of digits after a sign. -/
def signedValueOf (negative : Bool) (digits : List Char) : Int :=
  if negative then -(valueOf digits : Int) else valueOf digits

/-- The exponent of a fraction after its letter, and the text after it. -/
def takeExponent (s : List Char) : Taken Int :=
  (takeDigits isDigit (skipSign s)).map fun (digits, rest) =>
    (signedValueOf (takeSign s).1 digits, rest)

theorem length_takeExponent {s rest : List Char} {exponent : Int}
    (h : takeExponent s = some (exponent, rest)) : rest.length ≤ s.length := by
  obtain ⟨_, h⟩ := map_eq_taken h
  exact Nat.le_trans (length_takeDigits h) (length_skipSign s)

/-- The exponent, if one stands there. -/
def takeExponent? : List Char → Taken Int
  | 'e' :: rest => takeExponent rest
  | 'E' :: rest => takeExponent rest
  | rest => some (0, rest)

theorem length_takeExponent? {s rest : List Char} {exponent : Int}
    (h : takeExponent? s = some (exponent, rest)) : rest.length ≤ s.length := by
  unfold takeExponent? at h
  split at h
  · exact Nat.le_succ_of_le (length_takeExponent h)
  · exact Nat.le_succ_of_le (length_takeExponent h)
  · simp only [Option.some.injEq, Prod.mk.injEq] at h
    simp [h.2]

/-- The fraction of the given digits. Too large a number above zero is refused. -/
def fractionOf (negative : Bool) (digits : List Char) (exponent : Int) : Option Value :=
  match Real.ofDecimal negative (valueOf digits) exponent with
  | .infinite false => none
  | number => some (.fraction number)

/-- What stands after the whole part of a fraction: places after a point and an exponent, or an
exponent alone. -/
def takePlaces (s : List Char) : Taken (List Char × Int) :=
  match s with
  | '.' :: rest =>
    (takeDigits isDigit rest).bind fun (places, rest) =>
      (takeExponent? rest).map fun (exponent, rest) => ((places, exponent), rest)
  | 'e' :: rest => (takeExponent rest).map fun (exponent, rest) => (([], exponent), rest)
  | 'E' :: rest => (takeExponent rest).map fun (exponent, rest) => (([], exponent), rest)
  | _ => none

theorem length_takePlaces {s rest : List Char} {parts : List Char × Int}
    (h : takePlaces s = some (parts, rest)) : rest.length ≤ s.length := by
  unfold takePlaces at h
  split at h
  · obtain ⟨⟨places, after⟩, hd, h⟩ := Option.bind_eq_some_iff.1 h
    obtain ⟨_, h⟩ := map_eq_taken h
    exact Nat.le_succ_of_le (Nat.le_trans (length_takeExponent? h) (length_takeDigits hd))
  · obtain ⟨_, h⟩ := map_eq_taken h
    exact Nat.le_succ_of_le (length_takeExponent h)
  · obtain ⟨_, h⟩ := map_eq_taken h
    exact Nat.le_succ_of_le (length_takeExponent h)
  · simp at h

/-- A number with a point or an exponent. -/
def takeFraction (s : List Char) : Taken Value :=
  (takeWhole (skipSign s)).bind fun (whole, rest) =>
    (takePlaces rest).bind fun ((places, exponent), rest) =>
      (fractionOf (takeSign s).1 (whole ++ places) (exponent - places.length)).map fun value =>
        (value, rest)

theorem length_takeFraction {s rest : List Char} {value : Value}
    (h : takeFraction s = some (value, rest)) : rest.length ≤ s.length := by
  obtain ⟨⟨whole, afterWhole⟩, hw, h⟩ := Option.bind_eq_some_iff.1 h
  obtain ⟨⟨parts, afterPlaces⟩, hp, h⟩ := Option.bind_eq_some_iff.1 h
  obtain ⟨_, _, he⟩ := Option.map_eq_some_iff.1 h
  simp only [Prod.mk.injEq] at he
  exact he.2 ▸ Nat.le_trans (length_takePlaces hp)
    (Nat.le_trans (length_takeWhole hw) (length_skipSign s))

/-- The numbers that have names. -/
def takeNamed (s : List Char) : Taken Value :=
  match skipSign s with
  | 'i' :: 'n' :: 'f' :: rest => some (.fraction (.infinite (takeSign s).1), rest)
  | 'n' :: 'a' :: 'n' :: rest => some (.fraction .undefined, rest)
  | _ => none

theorem length_takeNamed {s rest : List Char} {value : Value}
    (h : takeNamed s = some (value, rest)) : rest.length ≤ s.length := by
  have start := length_skipSign s
  unfold takeNamed at h
  split at h
  · next hs =>
    simp only [Option.some.injEq, Prod.mk.injEq] at h
    simp only [hs, List.length_cons, h.2] at start
    omega
  · next hs =>
    simp only [Option.some.injEq, Prod.mk.injEq] at h
    simp only [hs, List.length_cons, h.2] at start
    omega
  · simp at h

/-- A number of exactly `count` digits within limits. -/
def takePart (count low high : Nat) (s : List Char) : Taken Nat :=
  let digits := s.take count
  if digits.length = count ∧ digits.all isDigit then
    let value := valueOf digits
    if low ≤ value ∧ value ≤ high then some (value, s.drop count) else none
  else none

theorem length_takePart {count low high value : Nat} {s rest : List Char}
    (h : takePart count low high s = some (value, rest)) : rest.length ≤ s.length := by
  simp only [takePart, Option.ite_none_right_eq_some, Option.some.injEq, Prod.mk.injEq] at h
  simp [← h.2.2.2]

/-- The text after a character, if it starts with that. -/
def skipChar (c : Char) : List Char → Option (List Char)
  | d :: rest => if c = d then some rest else none
  | [] => none

theorem length_skipChar {c : Char} {s rest : List Char} (h : skipChar c s = some rest) :
    rest.length ≤ s.length := by
  unfold skipChar at h
  split at h
  · simp only [Option.ite_none_right_eq_some, Option.some.injEq] at h
    simp [h.2]
  · simp at h

def daysOf (year month : Nat) : Nat :=
  if month = 2 then (if year % 4 = 0 ∧ (year % 100 ≠ 0 ∨ year % 400 = 0) then 29 else 28)
  else if [4, 6, 9, 11].contains month then 30
  else 31

def skipDate (s : List Char) : Option (List Char) := do
  let (year, s) ← takePart 4 0 9999 s
  let s ← skipChar '-' s
  let (month, s) ← takePart 2 1 12 s
  let s ← skipChar '-' s
  let (_, s) ← takePart 2 1 (daysOf year month) s
  return s

theorem length_skipDate {s rest : List Char} (h : skipDate s = some rest) :
    rest.length ≤ s.length := by
  obtain ⟨⟨year, s₁⟩, h₁, h⟩ := Option.bind_eq_some_iff.1 h
  obtain ⟨s₂, h₂, h⟩ := Option.bind_eq_some_iff.1 h
  obtain ⟨⟨month, s₃⟩, h₃, h⟩ := Option.bind_eq_some_iff.1 h
  obtain ⟨s₄, h₄, h⟩ := Option.bind_eq_some_iff.1 h
  obtain ⟨⟨day, s₅⟩, h₅, h⟩ := Option.bind_eq_some_iff.1 h
  have := length_takePart h₁
  have := length_skipChar h₂
  have := length_takePart h₃
  have := length_skipChar h₄
  have := length_takePart h₅
  obtain rfl : s₅ = rest := Option.some.inj h
  omega

def skipMinutes (s : List Char) : Option (List Char) := do
  let (_, s) ← takePart 2 0 23 s
  let s ← skipChar ':' s
  let (_, s) ← takePart 2 0 59 s
  return s

theorem length_skipMinutes {s rest : List Char} (h : skipMinutes s = some rest) :
    rest.length ≤ s.length := by
  obtain ⟨⟨hour, s₁⟩, h₁, h⟩ := Option.bind_eq_some_iff.1 h
  obtain ⟨s₂, h₂, h⟩ := Option.bind_eq_some_iff.1 h
  obtain ⟨⟨minute, s₃⟩, h₃, h⟩ := Option.bind_eq_some_iff.1 h
  have := length_takePart h₁
  have := length_skipChar h₂
  have := length_takePart h₃
  obtain rfl : s₃ = rest := Option.some.inj h
  omega

/-- The text after the places of seconds, if some stand there. -/
def skipPlaces (s : List Char) : List Char :=
  match s with
  | '.' :: c :: rest => if isDigit c then afterDigits rest else s
  | _ => s

theorem length_skipPlaces (s : List Char) : (skipPlaces s).length ≤ s.length := by
  unfold skipPlaces
  split
  · next rest =>
    split
    · exact Nat.le_succ_of_le (Nat.le_succ_of_le (length_afterDigits rest))
    · exact Nat.le_refl _
  · exact Nat.le_refl _

/-- The text after a time of day; seconds may have places. -/
def skipTime (s : List Char) : Option (List Char) := do
  let s ← skipMinutes s
  let s ← skipChar ':' s
  let (_, s) ← takePart 2 0 60 s
  return skipPlaces s

theorem length_skipTime {s rest : List Char} (h : skipTime s = some rest) :
    rest.length ≤ s.length := by
  obtain ⟨s₁, h₁, h⟩ := Option.bind_eq_some_iff.1 h
  obtain ⟨s₂, h₂, h⟩ := Option.bind_eq_some_iff.1 h
  obtain ⟨⟨second, s₃⟩, h₃, h⟩ := Option.bind_eq_some_iff.1 h
  have := length_skipMinutes h₁
  have := length_skipChar h₂
  have := length_takePart h₃
  have := length_skipPlaces s₃
  obtain rfl : skipPlaces s₃ = rest := Option.some.inj h
  omega

/-- The text after the distance from universal time, if one stands there. -/
def skipOffset (s : List Char) : List Char :=
  match s with
  | 'Z' :: rest => rest
  | 'z' :: rest => rest
  | '+' :: rest => (skipMinutes rest).getD s
  | '-' :: rest => (skipMinutes rest).getD s
  | s => s

theorem length_skipOffset (s : List Char) : (skipOffset s).length ≤ s.length := by
  have key (c : Char) (rest : List Char) :
      ((skipMinutes rest).getD (c :: rest)).length ≤ (c :: rest).length := by
    cases h : skipMinutes rest with
    | none => exact Nat.le_refl _
    | some after => exact Nat.le_succ_of_le (length_skipMinutes h)
  unfold skipOffset
  split
  · exact Nat.le_succ _
  · exact Nat.le_succ _
  · exact key _ _
  · exact key _ _
  · exact Nat.le_refl _

/-- The text after a time of day that follows a date, if one stands there. -/
def skipTimeOfDate : List Char → List Char
  | c :: rest =>
    if c = 'T' ∨ c = 't' ∨ c = ' ' then ((skipTime rest).map skipOffset).getD (c :: rest)
    else c :: rest
  | [] => []

theorem length_skipTimeOfDate (s : List Char) : (skipTimeOfDate s).length ≤ s.length := by
  unfold skipTimeOfDate
  split
  · next rest =>
    split
    · cases h : skipTime rest with
      | none => exact Nat.le_refl _
      | some after =>
        exact Nat.le_succ_of_le (Nat.le_trans (length_skipOffset after) (length_skipTime h))
    · exact Nat.le_refl _
  · exact Nat.le_refl _

def skipMoment (s : List Char) : Option (List Char) :=
  match skipDate s with
  | some rest => some (skipTimeOfDate rest)
  | none => skipTime s

theorem length_skipMoment {s rest : List Char} (h : skipMoment s = some rest) :
    rest.length ≤ s.length := by
  unfold skipMoment at h
  split at h
  · next after hd =>
    simp only [Option.some.injEq] at h
    exact h ▸ Nat.le_trans (length_skipTimeOfDate after) (length_skipDate hd)
  · exact length_skipTime h

/-- The key under which a moment is known as a value. -/
def momentKey : String := "$__toml_private_datetime"

/-- A moment, as a value: a map that no setting has a use for. -/
def takeMoment (s : List Char) : Taken Value :=
  (skipMoment s).map fun rest => (.map [(momentKey, .text "")], rest)

theorem length_takeMoment {s rest : List Char} {value : Value}
    (h : takeMoment s = some (value, rest)) : rest.length ≤ s.length := by
  obtain ⟨after, hs, he⟩ := Option.map_eq_some_iff.1 h
  simp only [Prod.mk.injEq] at he
  exact he.2 ▸ length_skipMoment hs

/-- A number or a moment. -/
def takeMeasure (s : List Char) : Taken Value :=
  takeMoment s <|> takeFraction s <|> takeNamed s <|> takeInteger s

theorem length_takeMeasure {s rest : List Char} {value : Value}
    (h : takeMeasure s = some (value, rest)) : rest.length ≤ s.length := by
  simp only [takeMeasure, Option.orElse_eq_orElse, Option.orElse_eq_or, Option.or_eq_some_iff] at h
  obtain h | ⟨_, h | ⟨_, h | ⟨_, h⟩⟩⟩ := h
  · exact length_takeMoment h
  · exact length_takeFraction h
  · exact length_takeNamed h
  · exact length_takeInteger h

def skipWord (word : List Char) (s : List Char) : Option (List Char) :=
  if word.isPrefixOf s then some (s.drop word.length) else none

/-- A word that stands for a value. -/
def takeWord (word : String) (value : Value) (s : List Char) : Taken Value :=
  (skipWord word.toList s).map fun rest => (value, rest)

theorem length_skipWord {word s rest : List Char} (h : skipWord word s = some rest) :
    rest.length ≤ s.length := by
  simp only [skipWord, Option.ite_none_right_eq_some, Option.some.injEq] at h
  simp [← h.2]

theorem length_takeWord {word : String} {s rest : List Char} {value out : Value}
    (h : takeWord word value s = some (out, rest)) : rest.length ≤ s.length := by
  obtain ⟨after, hs, he⟩ := Option.map_eq_some_iff.1 h
  simp only [Prod.mk.injEq] at he
  exact he.2 ▸ length_skipWord hs

def takeScalar (s : List Char) : Taken Value :=
  match s with
  | [] => none
  | c :: _ =>
    if c = '"' ∨ c = '\x27' then (takeString s).map fun (text, rest) => (.text text, rest)
    else if c = 't' then takeWord "true" (.boolean true) s
    else if c = 'f' then takeWord "false" (.boolean false) s
    else takeMeasure s

theorem length_takeScalar {s rest : List Char} {value : Value}
    (h : takeScalar s = some (value, rest)) : rest.length ≤ s.length := by
  unfold takeScalar at h
  split at h
  · simp at h
  · split at h
    · obtain ⟨_, h⟩ := map_eq_taken h
      exact length_takeString h
    · split at h
      · exact length_takeWord h
      · split at h
        · exact length_takeWord h
        · exact length_takeMeasure h

end RecordAccess.Toml
