import RecordAccess.Json.Literal

/-!
# Numbers of JSON text

A number is a row of digits without a superfluous zero at its start, with an optional sign before it and
an optional fraction and exponent after it. A whole number of 64 bits is exact; any other number is a
double, built from the digits that fit into 64 bits and a power of ten, rounded after each step. A
number too large for a double is no number.
-/
namespace RecordAccess.Json

open Number

/-- The largest whole number of 64 bits. -/
def maxWhole : Nat := wordCount - 1

/-- Appends digits to a number as long as it stays within 64 bits, with the number of digits left. -/
def absorb (value : Nat) : List Char → Nat × Nat
  | [] => (value, 0)
  | c :: rest =>
    let next := value * 10 + digitValue c
    if maxWhole < next then (value, rest.length + 1) else absorb next rest

/-- The double nearest to a power of ten. -/
def powerOfTen (n : Nat) : Double := ((Double.ofDecimal 1 n).getD Double.zero)

/-- The largest power of ten that is a double. -/
def largestPower : Nat := 308

/-- Divides by the largest power of ten a number of times, or until zero is left. -/
def shrinkBy (step : Double) : Nat → Double → Option Double
  | 0, x => some x
  | count + 1, x => if x.mantissa = 0 then some x else (x.div? step).bind (shrinkBy step count)

/-- Divides by a power of ten, in steps that are doubles. -/
def shrink (x : Double) (n : Nat) : Option Double :=
  let count := (n - 1) / largestPower
  (shrinkBy (powerOfTen largestPower) count x).bind fun x =>
    x.div? (powerOfTen (n - largestPower * count))

def grow (x : Double) (n : Nat) : Option Double :=
  if n ≤ largestPower then x.mul? (powerOfTen n)
  else if x.mantissa = 0 then some x
  else none

def doubleOf (digits : Nat) (exponent : Int) : Option Double :=
  (Double.ofRatio digits 1).bind fun x =>
    if 0 ≤ exponent then grow x exponent.natAbs else shrink x exponent.natAbs

/-- A number that has a fraction, an exponent or too many digits. -/
def readDouble (negative : Bool) (digits : Nat) (exponent : Int) (rest : List Char) : Reading Found :=
  match doubleOf digits exponent with
  | some magnitude => .ok (.fraction (.finite negative magnitude), rest)
  | none => malformed rest

def readExponent (negative : Bool) (digits : Nat) (exponent : Int) (s : List Char) : Reading Found :=
  let (isBelow, s) := takeSign s
  match s with
  | [] => endOfText
  | c :: _ =>
    if isDigit c then
      let size : Int := valueOf (digitsOf s)
      readDouble negative digits (if isBelow then exponent - size else exponent + size) (afterDigits s)
    else malformed s

/-- Reads a number after the digits of its fraction. -/
def readAfterFraction (negative : Bool) (digits : Nat) (exponent : Int) :
    List Char → Reading Found
  | 'e' :: rest => readExponent negative digits exponent rest
  | 'E' :: rest => readExponent negative digits exponent rest
  | rest => readDouble negative digits exponent rest

def readFraction (negative : Bool) (digits : Nat) (exponent : Int) (s : List Char) : Reading Found :=
  match digitsOf s, s with
  | [], [] => endOfText
  | [], _ => malformed s
  | fraction, _ =>
    let (digits, left) := absorb digits fraction
    readAfterFraction negative digits (exponent - (fraction.length - left : Nat)) (afterDigits s)

/-- A whole number without sign, and one below zero within 64 bits. Minus zero is a double, as are
numbers further below. -/
def readWhole (negative : Bool) (digits : Nat) (rest : List Char) : Reading Found :=
  if !negative then .ok (.integer digits, rest)
  else if 0 < digits ∧ digits ≤ signBound then .ok (.integer (-digits), rest)
  else readDouble true digits 0 rest

/-- Reads a number after its sign. -/
def readNumber (negative : Bool) (s : List Char) : Reading Found :=
  match s with
  | [] => endOfText
  | c :: rest =>
    if !isDigit c then malformed rest
    else if c == '0' && !(digitsOf rest).isEmpty then malformed rest
    else
      let (digits, left) := absorb 0 (digitsOf s)
      match afterDigits s with
      | '.' :: rest => readFraction negative digits left rest
      | 'e' :: rest => readExponent negative digits left rest
      | 'E' :: rest => readExponent negative digits left rest
      | rest => if left = 0 then readWhole negative digits rest else readDouble negative digits left rest

theorem length_afterDigits_lt {c : Char} {digits s : List Char} (h : digitsOf s = c :: digits) :
    (afterDigits s).length < s.length := by
  have hs := congrArg List.length (List.takeWhile_append_dropWhile (p := isDigit) (l := s))
  simp only [digitsOf] at h
  simp only [h, List.length_append, List.length_cons] at hs
  simp only [afterDigits]
  omega

theorem eq_of_readDouble {negative : Bool} {digits : Nat} {exponent : Int} {s rest : List Char}
    {found : Found} (h : readDouble negative digits exponent s = .ok (found, rest)) : s = rest := by
  unfold readDouble at h
  split at h
  · simp only [Except.ok.injEq, Prod.mk.injEq] at h
    exact h.2
  · simp [malformed] at h

theorem length_of_readExponent {negative : Bool} {digits : Nat} {exponent : Int} {s rest : List Char}
    {found : Found} (h : readExponent negative digits exponent s = .ok (found, rest)) :
    rest.length ≤ s.length := by
  have hs := length_takeSign s
  unfold readExponent at h
  simp only at h
  split at h
  · simp [endOfText] at h
  · split at h
    · have hd := length_afterDigits (takeSign s).2
      rw [eq_of_readDouble h] at hd
      exact Nat.le_trans hd hs
    · simp [malformed] at h

theorem length_of_readAfterFraction {negative : Bool} {digits : Nat} {exponent : Int}
    {s rest : List Char} {found : Found}
    (h : readAfterFraction negative digits exponent s = .ok (found, rest)) :
    rest.length ≤ s.length := by
  unfold readAfterFraction at h
  split at h
  · exact Nat.le_succ_of_le (length_of_readExponent h)
  · exact Nat.le_succ_of_le (length_of_readExponent h)
  · exact Nat.le_of_eq (congrArg List.length (eq_of_readDouble h).symm)

theorem length_of_readFraction {negative : Bool} {digits : Nat} {exponent : Int} {s rest : List Char}
    {found : Found} (h : readFraction negative digits exponent s = .ok (found, rest)) :
    rest.length ≤ s.length := by
  unfold readFraction at h
  split at h
  · simp [endOfText] at h
  · simp [malformed] at h
  · exact Nat.le_trans (length_of_readAfterFraction h) (length_afterDigits _)

theorem eq_of_readWhole {negative : Bool} {digits : Nat} {s rest : List Char} {found : Found}
    (h : readWhole negative digits s = .ok (found, rest)) : s = rest := by
  unfold readWhole at h
  split at h
  · simp only [Except.ok.injEq, Prod.mk.injEq] at h
    exact h.2
  · split at h
    · simp only [Except.ok.injEq, Prod.mk.injEq] at h
      exact h.2
    · exact eq_of_readDouble h

theorem length_of_readNumber {negative : Bool} {s rest : List Char} {found : Found}
    (h : readNumber negative s = .ok (found, rest)) : rest.length < s.length := by
  unfold readNumber at h
  split at h
  · simp [endOfText] at h
  · next c tail =>
    split at h
    · simp [malformed] at h
    · next hc =>
      split at h
      · simp [malformed] at h
      · have hd : digitsOf (c :: tail) = c :: digitsOf tail :=
          List.takeWhile_cons_of_pos (by simpa using hc)
        have hs := length_afterDigits_lt hd
        simp only at h
        split at h
        · next ha =>
          have := length_of_readFraction h
          simp only [ha, List.length_cons] at hs
          simp only [List.length_cons]
          omega
        · next ha =>
          have := length_of_readExponent h
          simp only [ha, List.length_cons] at hs
          simp only [List.length_cons]
          omega
        · next ha =>
          have := length_of_readExponent h
          simp only [ha, List.length_cons] at hs
          simp only [List.length_cons]
          omega
        · split at h
          · exact eq_of_readWhole h ▸ hs
          · exact eq_of_readDouble h ▸ hs

def skipExponent (s : List Char) : Except Stop (List Char) :=
  let unsigned := (takeSign s).2
  match digitsOf unsigned with
  | [] => malformed unsigned
  | _ => .ok (afterDigits unsigned)

def skipNumber (s : List Char) : Except Stop (List Char) :=
  match digitsOf s with
  | [] => malformed s
  | '0' :: _ :: _ => malformed s
  | _ =>
    match afterDigits s with
    | '.' :: rest =>
      match digitsOf rest with
      | [] => malformed rest
      | _ =>
        match afterDigits rest with
        | 'e' :: rest => skipExponent rest
        | 'E' :: rest => skipExponent rest
        | rest => .ok rest
    | 'e' :: rest => skipExponent rest
    | 'E' :: rest => skipExponent rest
    | rest => .ok rest

theorem length_of_skipExponent {s rest : List Char} (h : skipExponent s = .ok rest) :
    rest.length < s.length := by
  unfold skipExponent at h
  have hs := length_takeSign s
  simp only at h
  split at h
  · simp [malformed] at h
  · next hd =>
    obtain ⟨c, digits, hc⟩ := List.exists_cons_of_ne_nil hd
    have := length_afterDigits_lt hc
    simp only [Except.ok.injEq] at h
    rw [← h]
    omega

theorem length_of_skipNumber {s rest : List Char} (h : skipNumber s = .ok rest) :
    rest.length < s.length := by
  unfold skipNumber at h
  split at h
  · simp [malformed] at h
  · simp [malformed] at h
  · next hd _ =>
    obtain ⟨c, digits, hc⟩ := List.exists_cons_of_ne_nil hd
    have hs := length_afterDigits_lt hc
    split at h
    · next more ha =>
      simp only [ha, List.length_cons] at hs
      split at h
      · simp [malformed] at h
      · have hm := length_afterDigits more
        split at h
        · next hb =>
          have := length_of_skipExponent h
          simp only [hb, List.length_cons] at hm
          omega
        · next hb =>
          have := length_of_skipExponent h
          simp only [hb, List.length_cons] at hm
          omega
        · simp only [Except.ok.injEq] at h
          rw [← h]
          omega
    · next ha =>
      have := length_of_skipExponent h
      simp only [ha, List.length_cons] at hs
      omega
    · next ha =>
      have := length_of_skipExponent h
      simp only [ha, List.length_cons] at hs
      omega
    · simp only [Except.ok.injEq] at h
      rw [← h]
      omega

end RecordAccess.Json
