/-!
# Digits and binary numbers of 53 bits

A finite double stands for `mantissa * 2 ^ exponent`. Rounding takes a quotient of natural numbers to
the nearest double, a tie to the one with the even mantissa, and to nothing if that would be too large.
All arithmetic here is exact arithmetic on natural numbers, followed by one rounding.

A decimal is a row of digits with an optional sign before it, an optional point inside it or at one of
its ends, and an optional exponent after it. It stands for the nearest double.
-/
namespace RecordAccess.Number

def isDigit (c : Char) : Bool := '0' ≤ c && c ≤ '9'

/-- The digits at the start of a text. -/
def digitsOf (s : List Char) : List Char := s.takeWhile isDigit

def afterDigits (s : List Char) : List Char := s.dropWhile isDigit

theorem length_afterDigits (s : List Char) : (afterDigits s).length ≤ s.length :=
  (List.dropWhile_sublist isDigit).length_le

def digitValue (c : Char) : Nat := c.toNat - '0'.toNat

def valueOf (digits : List Char) : Nat :=
  digits.foldl (fun value c => value * 10 + digitValue c) 0

/-- Whether the text starts with a minus sign, and the text after a sign of either kind. -/
def takeSign : List Char → Bool × List Char
  | '-' :: rest => (true, rest)
  | '+' :: rest => (false, rest)
  | rest => (false, rest)

theorem length_takeSign (s : List Char) : (takeSign s).2.length ≤ s.length := by
  unfold takeSign
  split <;> simp

/-- The value of a digit in a base up to sixteen; after nine come the letters, in either case. -/
def digitIn? (base : Nat) (c : Char) : Option Nat :=
  let value :=
    if '0' ≤ c ∧ c ≤ '9' then c.toNat - '0'.toNat
    else if 'a' ≤ c ∧ c ≤ 'f' then c.toNat - 'a'.toNat + 10
    else if 'A' ≤ c ∧ c ≤ 'F' then c.toNat - 'A'.toNat + 10
    else base
  if value < base then some value else none

def valueIn (base : Nat) (digits : List Char) : Nat :=
  digits.foldl (fun value c => value * base + (digitIn? base c).getD 0) 0

/-- How many whole numbers 64 bits can tell apart. -/
def wordCount : Nat := 0x10000000000000000

/-- Half of them: from this number on, a number of 64 bits with a sign is negative. -/
def signBound : Nat := 0x8000000000000000

/-- The number of a text that holds digits and nothing else. -/
def natural? (s : List Char) : Option Nat :=
  if !s.isEmpty && s.all isDigit then some (valueOf s) else none

/-- A finite double that is not negative. The mantissa is below `2 ^ 53`, and at least `2 ^ 52` unless
the exponent is the least one. -/
structure Double where
  mantissa : Nat
  exponent : Int
  deriving DecidableEq, Repr

namespace Double

def mantissaCount : Nat := 1 <<< 53

def minExponent : Int := -1074

def maxExponent : Int := 971

def zero : Double := ⟨0, minExponent⟩

/-- The quotient nearest to `num / den`, a tie going to the even one. -/
def roundEven (num den : Nat) : Nat :=
  let q := num / den
  let r := num % den
  if den < 2 * r ∨ (2 * r = den ∧ q % 2 = 1) then q + 1 else q

/-- The numerator and the denominator of `num / den` divided by `2 ^ exponent`. -/
def scaled (num den : Nat) (exponent : Int) : Nat × Nat :=
  (num <<< (-exponent).toNat, den <<< exponent.toNat)

/-- The exponent at which the mantissa of `num / den` has 53 bits, or the least one. -/
def exponentOf (num den : Nat) : Int :=
  let low : Int := (Nat.log2 num : Int) - Nat.log2 den - 53
  let (n, d) := scaled num den low
  max (if n / d < mantissaCount then low else low + 1) minExponent

/-- The double nearest to `num / den`. -/
def ofRatio (num den : Nat) : Option Double :=
  if num = 0 then some zero
  else
    let exponent := exponentOf num den
    let (n, d) := scaled num den exponent
    let mantissa := roundEven n d
    let result : Double :=
      if mantissa = mantissaCount then ⟨mantissaCount / 2, exponent + 1⟩ else ⟨mantissa, exponent⟩
    if maxExponent < result.exponent then none else some result

def num (x : Double) : Nat := x.mantissa <<< x.exponent.toNat

def den (x : Double) : Nat := 1 <<< (-x.exponent).toNat

def mul? (x y : Double) : Option Double := ofRatio (x.num * y.num) (x.den * y.den)

/-- The rounded quotient by a number that is not zero. -/
def div? (x y : Double) : Option Double := ofRatio (x.num * y.den) (x.den * y.num)

/-- Whether the number has all its bits of precision: zero and the numbers right above it have not. -/
def isNormal (x : Double) : Bool := mantissaCount / 2 ≤ x.mantissa

def tenTo (n : Nat) : Nat := Nat.pow 10 n

def digitCount (n : Nat) : Nat := (Nat.toDigits 10 n).length

/-- The double nearest to `digits * 10 ^ exponent`; nothing if that is too large. Exponents so far out
that only the digits' count matters are not computed with. -/
def ofDecimal (digits : Nat) (exponent : Int) : Option Double :=
  let size : Int := digitCount digits + exponent
  if digits = 0 ∨ size < -330 then some zero
  else if 310 < size then none
  else ofRatio (digits * tenTo exponent.toNat) (tenTo (-exponent).toNat)

end Double

/-- A number as a double may stand for it. -/
inductive Real where
  | finite (negative : Bool) (magnitude : Double)
  | infinite (negative : Bool)
  | undefined
  deriving DecidableEq, Repr

def Real.isNormal : Real → Bool
  | finite _ magnitude => magnitude.isNormal
  | _ => false

/-- The number nearest to the decimal, or an infinite one if that is too large. -/
def Real.ofDecimal (negative : Bool) (digits : Nat) (exponent : Int) : Real :=
  match Double.ofDecimal digits exponent with
  | some magnitude => .finite negative magnitude
  | none => .infinite negative

/-- The exponent at the start of a text, which is zero if nothing stands there. -/
def exponent? : List Char → Option Int
  | [] => some 0
  | c :: rest =>
    if c = 'e' ∨ c = 'E' then
      let (isBelow, digits) := takeSign rest
      (natural? digits).map fun size => if isBelow then -size else size
    else none

/-- The number of a decimal text. -/
def Real.parse? (s : List Char) : Option Real :=
  let (negative, s) := takeSign s
  let whole := digitsOf s
  let (fraction, rest) : List Char × List Char :=
    match afterDigits s with
    | '.' :: rest => (digitsOf rest, afterDigits rest)
    | rest => ([], rest)
  if whole.isEmpty && fraction.isEmpty then none
  else
    (exponent? rest).map fun exponent =>
      Real.ofDecimal negative (valueOf (whole ++ fraction)) (exponent - fraction.length)

end RecordAccess.Number
