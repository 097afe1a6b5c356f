import TypedContainers.Decimal.Binary

/-!
# Numerals

A numeral is made into a binary float in two rounded steps.  Its leading digits, as
many as 64 bits can hold, become the nearest float, and that is multiplied by the
float nearest to the power of ten that is left.  The numeral is out of range if
this product is, which differs from rounding once at the very end of the range.
-/

namespace TypedContainers.Json

/-- A numeral without its sign: the digits around its point, and its power of ten. -/
structure Numeral where
  whole : List Char
  fraction : List Char
  exponent : Int
deriving Repr, DecidableEq

namespace Numeral

/-- The digits of a list that fit behind a significand of 64 bits, and how many are
left behind the first one that does not. -/
def fill (significand : Nat) : List Char → Nat × Nat
  | [] => (significand, 0)
  | d :: rest =>
    let next := 10 * significand + (d.toNat - '0'.toNat)
    if next < UInt64.size then fill next rest else (significand, rest.length + 1)

/-- The leading digits, and the power of ten that is left.  Digits of the whole part
that do not fit count as zeros; those of the fraction are left out. -/
def scaled (numeral : Numeral) : Nat × Int :=
  let (significand, zeros) := fill 0 numeral.whole
  let (significand, unused) := fill significand numeral.fraction
  (significand, zeros + unused + numeral.exponent - numeral.fraction.length)

/-- Whether the numeral is out of the range of 64-bit binary floats. -/
def overflows (numeral : Numeral) : Bool :=
  let (significand, power) := numeral.scaled
  if significand = 0 || power < 0 then false
  else if 308 < power then true
  else
    Decimal.overflowBound ≤
      BinaryFloat.roundBits significand * BinaryFloat.roundBits (Nat.pow 10 power.toNat)

def toDecimal (negative : Bool) (numeral : Numeral) : Decimal :=
  let coefficient : Int := Decimal.ofDigits (numeral.whole ++ numeral.fraction)
  ⟨if negative then -coefficient else coefficient,
    numeral.exponent - numeral.fraction.length⟩

end Numeral

end TypedContainers.Json
