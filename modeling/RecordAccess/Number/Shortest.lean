import RecordAccess.Number.Double

/-!
# Shortest decimals

The shortest decimal of a double is the one with the fewest digits among those that are rounded to the
double, and of these the nearest. On each grid of decimals only the two neighbours of the value need to
be looked at, and seventeen digits always suffice.
-/
namespace RecordAccess.Number

/-- A decimal: `digits * 10 ^ exponent`. -/
structure Decimal where
  digits : Nat
  exponent : Int
  deriving DecidableEq, Repr

namespace Double

/-- The value and the ends of the interval of numbers that are rounded to it, over one denominator. -/
structure Interval where
  low : Nat
  value : Nat
  high : Nat
  den : Nat
  /-- Whether the ends belong to the interval. -/
  isClosed : Bool
  deriving DecidableEq, Repr

/-- The interval of the numbers that are rounded to a double. Below a power of two the doubles stand
twice as close. -/
def interval (x : Double) : Interval :=
  let shift := (x.exponent - 2).toNat
  let below := if 2 * x.mantissa = mantissaCount ∧ minExponent < x.exponent then 1 else 2
  { low := (4 * x.mantissa - below) <<< shift
    value := (4 * x.mantissa) <<< shift
    high := (4 * x.mantissa + 2) <<< shift
    den := 1 <<< (2 - x.exponent).toNat
    isClosed := x.mantissa % 2 = 0 }

/-- Whether the decimal lies in the interval. -/
def Interval.holds (interval : Interval) (decimal : Decimal) : Bool :=
  let point := decimal.digits * tenTo decimal.exponent.toNat * interval.den
  let scale := tenTo (-decimal.exponent).toNat
  if interval.isClosed then interval.low * scale ≤ point && point ≤ interval.high * scale
  else interval.low * scale < point && point < interval.high * scale

/-- A power of ten that brings every double above one. -/
def lift : Nat := 400

/-- The number of digits of the value before the decimal point; zeros right after it count down. -/
def Interval.magnitude (interval : Interval) : Int :=
  (digitCount (interval.value * tenTo lift / interval.den) : Int) - lift

/-- The decimal with `n` digits that lies in the interval, the nearest one to the value. -/
def Interval.decimal? (interval : Interval) (n : Nat) : Option Decimal :=
  let exponent := interval.magnitude - n
  let num := interval.value * tenTo (-exponent).toNat
  let den := interval.den * tenTo exponent.toNat
  let below : Decimal := ⟨num / den, exponent⟩
  let above : Decimal := ⟨num / den + 1, exponent⟩
  match interval.holds below, interval.holds above with
  | true, true => some (if 2 * (num % den) ≤ den then below else above)
  | true, false => some below
  | false, true => some above
  | false, false => none

/-- The same decimal without zeros at the end of its digits. -/
def stripZeros (decimal : Decimal) : Decimal :=
  if h : decimal.digits ≠ 0 ∧ decimal.digits % 10 = 0 then
    stripZeros ⟨decimal.digits / 10, decimal.exponent + 1⟩
  else decimal
termination_by decimal.digits
decreasing_by
  have := h.1
  omega

def shortest (x : Double) : Decimal :=
  if x.mantissa = 0 then ⟨0, 0⟩
  else
    match (List.range 17).findSome? fun n => x.interval.decimal? (n + 1) with
    | some decimal => stripZeros decimal
    | none => ⟨x.num, 0⟩

end Double

namespace Decimal

def digitText (decimal : Decimal) : List Char := Nat.toDigits 10 decimal.digits

/-- A decimal as digits around a point; nothing after the point means no point. -/
def positional (decimal : Decimal) : List Char :=
  let digits := decimal.digitText
  let places := (-decimal.exponent).toNat
  if places = 0 then digits ++ List.replicate decimal.exponent.toNat '0'
  else if places < digits.length then
    digits.take (digits.length - places) ++ '.' :: digits.drop (digits.length - places)
  else '0' :: '.' :: List.replicate (places - digits.length) '0' ++ digits

/-- A decimal as one digit before the point and an exponent. -/
def scientific (decimal : Decimal) : List Char :=
  let digits := decimal.digitText
  let exponent := decimal.exponent + (digits.length - 1 : Nat)
  let fraction := if digits.length = 1 then [] else '.' :: digits.tail
  digits.take 1 ++ fraction ++
    (if exponent < 0 then ['e', '-'] else ['e', '+']) ++ Nat.toDigits 10 exponent.natAbs

end Decimal

def signed (negative : Bool) (text : List Char) : String :=
  String.ofList (if negative then '-' :: text else text)

/-- The shortest text of a number in positional notation. -/
def Real.positional : Real → String
  | finite negative magnitude => signed negative magnitude.shortest.positional
  | infinite negative => signed negative "inf".toList
  | undefined => "NaN"

/-- The shortest text of a number that is known by its text not to be whole: positional where the point is
not far off, and then with one digit after the point at least. -/
def Real.text : Real → String
  | finite negative magnitude =>
    let decimal := magnitude.shortest
    let point := (decimal.digitText.length : Int) + decimal.exponent
    signed negative
      (if -5 < point ∧ point ≤ 16 then
        decimal.positional ++ (if 0 ≤ decimal.exponent then ['.', '0'] else [])
      else decimal.scientific)
  | value => value.positional

end RecordAccess.Number
