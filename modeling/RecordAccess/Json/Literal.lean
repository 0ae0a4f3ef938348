import RecordAccess.Json.Fault
import RecordAccess.Number.Double

/-!
# Gaps, words and strings of JSON text

Between two tokens of a text any number of gap characters may stand. A string stands between double
quotes; a backslash starts an escape, and a character beyond the first plane may be written as two
escaped halves. Control characters have to be escaped. Where a value is only passed over, halves need
not fit together.
-/
namespace RecordAccess.Json

/-- Whether the character may stand between tokens. -/
def isGap (c : Char) : Bool := c == ' ' || c == '\n' || c == '\t' || c == '\r'

def skipGap (s : List Char) : List Char := s.dropWhile isGap

theorem length_skipGap (s : List Char) : (skipGap s).length ≤ s.length :=
  (List.dropWhile_sublist isGap).length_le

theorem length_of_skipGap {c : Char} {s rest : List Char} (h : skipGap s = c :: rest) :
    rest.length < s.length := by
  have := length_skipGap s
  rw [h] at this
  exact this

def skipWord : List Char → List Char → Except Stop (List Char)
  | [], s => .ok s
  | _ :: _, [] => endOfText
  | c :: word, d :: s => if c = d then skipWord word s else malformed s

theorem length_of_skipWord {word s rest : List Char} (h : skipWord word s = .ok rest) :
    rest.length ≤ s.length := by
  fun_induction skipWord word s with
  | case1 =>
    simp only [Except.ok.injEq] at h
    simp [← h]
  | case2 => simp [endOfText] at h
  | case3 word d s ih =>
    have := ih h
    simp only [List.length_cons]
    omega
  | case4 => simp [malformed] at h

/-- The character that a letter after a backslash stands for. -/
def escaped? : Char → Option Char
  | '"' => some '"'
  | '\\' => some '\\'
  | '/' => some '/'
  | 'b' => some '\x08'
  | 'f' => some '\x0c'
  | 'n' => some '\n'
  | 'r' => some '\r'
  | 't' => some '\t'
  | _ => none

/-- The number that hexadecimal digits write, after the digits read so far. -/
def hexNumber? (value : Nat) : List Char → Option Nat
  | [] => some value
  | c :: rest => (Number.digitIn? 16 c).bind fun digit => hexNumber? (value * 16 + digit) rest

/-- Reads the four digits of an escape. The text ends too early if fewer than four bytes are left. -/
def readUnit : List Char → Reading Nat
  | a :: b :: c :: d :: rest =>
    match hexNumber? 0 [a, b, c, d] with
    | some unit => .ok (unit, rest)
    | none => malformed rest
  | rest => if byteCount rest < 4 then endOfText else malformed rest

/-- Whether the number is the first half of a character beyond the first plane. -/
def isHighHalf (unit : Nat) : Bool := 0xD800 ≤ unit && unit ≤ 0xDBFF

/-- Whether the number is the second half of a character beyond the first plane. -/
def isLowHalf (unit : Nat) : Bool := 0xDC00 ≤ unit && unit ≤ 0xDFFF

def joinHalves (high low : Nat) : Char :=
  Char.ofNat (0x10000 + (high - 0xD800) * 0x400 + (low - 0xDC00))

def readLowHalf (high : Nat) : List Char → Reading Char
  | [] => endOfText
  | ['\\'] => endOfText
  | '\\' :: 'u' :: rest =>
    match readUnit rest with
    | .error stop => .error stop
    | .ok (low, rest) => if isLowHalf low then .ok (joinHalves high low, rest) else malformed rest
  | rest => malformed rest

/-- Reads what stands after a backslash. -/
def readEscape : List Char → Reading Char
  | [] => endOfText
  | 'u' :: rest =>
    match readUnit rest with
    | .error stop => .error stop
    | .ok (unit, rest) =>
      if isLowHalf unit then malformed rest
      else if isHighHalf unit then readLowHalf unit rest
      else .ok (Char.ofNat unit, rest)
  | c :: rest =>
    match escaped? c with
    | some d => .ok (d, rest)
    | none => malformed rest

theorem length_of_readUnit {s rest : List Char} {unit : Nat} (h : readUnit s = .ok (unit, rest)) :
    rest.length < s.length := by
  unfold readUnit at h
  split at h
  · split at h
    · simp only [Except.ok.injEq, Prod.mk.injEq] at h
      simp only [List.length_cons, ← h.2]
      omega
    · simp [malformed] at h
  · split at h <;> simp [malformed, endOfText] at h

theorem length_of_readLowHalf {s rest : List Char} {high : Nat} {c : Char}
    (h : readLowHalf high s = .ok (c, rest)) : rest.length < s.length := by
  unfold readLowHalf at h
  split at h
  · simp [endOfText] at h
  · simp [endOfText] at h
  · next tail =>
    rcases hu : readUnit tail with e | ⟨low, r⟩
    · simp [hu] at h
    · have := length_of_readUnit hu
      simp only [hu] at h
      split at h
      · simp only [Except.ok.injEq, Prod.mk.injEq] at h
        simp only [List.length_cons, ← h.2]
        omega
      · simp [malformed] at h
  · simp [malformed] at h

theorem length_of_readEscape {s rest : List Char} {c : Char} (h : readEscape s = .ok (c, rest)) :
    rest.length < s.length := by
  unfold readEscape at h
  split at h
  · simp [endOfText] at h
  · next tail =>
    rcases hu : readUnit tail with e | ⟨unit, r⟩
    · simp [hu] at h
    · have hr := length_of_readUnit hu
      simp only [hu] at h
      split at h
      · simp [malformed] at h
      · split at h
        · have := length_of_readLowHalf h
          simp only [List.length_cons]
          omega
        · simp only [Except.ok.injEq, Prod.mk.injEq] at h
          simp only [List.length_cons, ← h.2]
          omega
  · split at h
    · simp only [Except.ok.injEq, Prod.mk.injEq] at h
      simp [← h.2]
    · simp [malformed] at h

/-- Whether a string may hold the character as it is, quotes and backslashes aside. -/
def isControl (c : Char) : Bool := c.toNat < 0x20

/-- Reads the characters of a string up to its closing quote. -/
def readBody (s : List Char) : Reading (List Char) :=
  match s with
  | [] => endOfText
  | '"' :: rest => .ok ([], rest)
  | '\\' :: rest =>
    match _h : readEscape rest with
    | .error stop => .error stop
    | .ok (c, rest) => (readBody rest).map fun (body, rest) => (c :: body, rest)
  | c :: rest =>
    if isControl c then malformed rest
    else (readBody rest).map fun (body, rest) => (c :: body, rest)
termination_by s.length
decreasing_by
  · have := length_of_readEscape ‹_›
    simp only [List.length_cons]
    omega
  · simp

def readString (s : List Char) : Reading String :=
  (readBody s).map fun (body, rest) => (String.ofList body, rest)

theorem length_of_readBody {s rest body : List Char} (h : readBody s = .ok (body, rest)) :
    rest.length < s.length := by
  fun_induction readBody s generalizing body with
  | case1 => simp [endOfText] at h
  | case2 r =>
    simp only [Except.ok.injEq, Prod.mk.injEq] at h
    simp [← h.2]
  | case3 => simp at h
  | case4 r c r' he ih =>
    obtain ⟨⟨inner, r''⟩, hi, h⟩ := map_eq_ok h
    simp only [Prod.mk.injEq] at h
    have := ih (h.2 ▸ hi)
    have := length_of_readEscape he
    simp only [List.length_cons]
    omega
  | case5 => simp [malformed] at h
  | case6 c r _ _ _ ih =>
    obtain ⟨⟨inner, r'⟩, hi, h⟩ := map_eq_ok h
    simp only [Prod.mk.injEq] at h
    have := ih (h.2 ▸ hi)
    simp only [List.length_cons]
    omega

theorem length_of_readString {s rest : List Char} {text : String}
    (h : readString s = .ok (text, rest)) : rest.length < s.length := by
  obtain ⟨⟨body, r⟩, hb, h⟩ := map_eq_ok h
  simp only [Prod.mk.injEq] at h
  exact length_of_readBody (h.2 ▸ hb)

def skipEscape : List Char → Except Stop (List Char)
  | [] => endOfText
  | 'u' :: rest => (readUnit rest).map Prod.snd
  | c :: rest => if (escaped? c).isSome then .ok rest else malformed rest

theorem length_of_skipEscape {s rest : List Char} (h : skipEscape s = .ok rest) :
    rest.length < s.length := by
  unfold skipEscape at h
  split at h
  · simp [endOfText] at h
  · next tail =>
    rcases hu : readUnit tail with e | ⟨unit, r⟩
    · simp [hu, Except.map] at h
    · have := length_of_readUnit hu
      simp only [hu, Except.map, Except.ok.injEq] at h
      simp only [List.length_cons, ← h]
      omega
  · split at h
    · simp only [Except.ok.injEq] at h
      simp [← h]
    · simp [malformed] at h

def skipString (s : List Char) : Except Stop (List Char) :=
  match s with
  | [] => endOfText
  | '"' :: rest => .ok rest
  | '\\' :: rest =>
    match _h : skipEscape rest with
    | .error stop => .error stop
    | .ok rest => skipString rest
  | c :: rest => if isControl c then malformed rest else skipString rest
termination_by s.length
decreasing_by
  · have := length_of_skipEscape ‹_›
    simp only [List.length_cons]
    omega
  · simp

theorem length_of_skipString {s rest : List Char} (h : skipString s = .ok rest) :
    rest.length < s.length := by
  fun_induction skipString s with
  | case1 => simp [endOfText] at h
  | case2 r =>
    simp only [Except.ok.injEq] at h
    simp [← h]
  | case3 => simp at h
  | case4 r r' he ih =>
    have := ih h
    have := length_of_skipEscape he
    simp only [List.length_cons]
    omega
  | case5 => simp [malformed] at h
  | case6 c r _ _ _ ih =>
    have := ih h
    simp only [List.length_cons]
    omega

/-- The hexadecimal digit of a number below sixteen. -/
def hexDigit (n : Nat) : Char := Nat.digitChar n

/-- The form of a character inside a string. -/
def writtenChar (c : Char) : List Char :=
  match c with
  | '"' => ['\\', '"']
  | '\\' => ['\\', '\\']
  | '\x08' => ['\\', 'b']
  | '\x0c' => ['\\', 'f']
  | '\n' => ['\\', 'n']
  | '\r' => ['\\', 'r']
  | '\t' => ['\\', 't']
  | c =>
    if isControl c then ['\\', 'u', '0', '0', hexDigit (c.toNat / 16), hexDigit (c.toNat % 16)]
    else [c]

def writeString (s : String) : List Char := '"' :: s.toList.flatMap writtenChar ++ ['"']

end RecordAccess.Json
