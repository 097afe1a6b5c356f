import TypedContainers.Decimal

/-!
# Binary floats

A 64-bit binary float keeps 53 bits of a number.  `nearest?` rounds a quotient to
such a float, a half to the even neighbour, and `text` writes the fewest decimal
digits that round back to it.
-/

namespace TypedContainers

/-- A magnitude `mantissa * 2 ^ exponent` that a 64-bit binary float can hold. -/
structure BinaryFloat where
  mantissa : Nat
  exponent : Int
deriving Repr, DecidableEq, Inhabited

namespace BinaryFloat

/-- The integer nearest to a quotient; a half goes to the even neighbour. -/
def roundQuotient (dividend divisor : Nat) : Nat :=
  let floor := dividend / divisor
  let twice := 2 * (dividend % divisor)
  if twice < divisor || (twice = divisor && floor % 2 = 0) then floor else floor + 1

/-- A natural number rounded to 53 bits. -/
def roundBits (n : Nat) : Nat :=
  let unit := Nat.pow 2 (n.log2 - 52)
  roundQuotient n unit * unit

/-- The least exponent, that of the numbers nearest to zero. -/
def minExponent : Int := -1074

/-- The exponent of the largest numbers. -/
def maxExponent : Int := 971

/-- The exponent at which a positive quotient has 53 bits in front of the point, but
not less than the least one. -/
def exponentOf (dividend divisor : Nat) : Int :=
  let top : Int := dividend.log2 - divisor.log2
  let short := dividend * Nat.pow 2 (-top).toNat < divisor * Nat.pow 2 top.toNat
  max minExponent (if short then top - 53 else top - 52)

/-- The float nearest to a quotient, if it is not beyond the largest one. -/
def nearest? (dividend divisor : Nat) : Option BinaryFloat :=
  if dividend = 0 then some ⟨0, minExponent⟩
  else
    let exponent := exponentOf dividend divisor
    let mantissa :=
      roundQuotient (dividend * Nat.pow 2 (-exponent).toNat)
        (divisor * Nat.pow 2 exponent.toNat)
    let float : BinaryFloat :=
      if mantissa = Nat.pow 2 53 then ⟨Nat.pow 2 52, exponent + 1⟩ else ⟨mantissa, exponent⟩
    if maxExponent < float.exponent then none else some float

/-- The float nearest to the magnitude of a decimal number.  Numbers far outside the
range are recognized by their count of digits. -/
def ofDecimal? (d : Decimal) : Option BinaryFloat :=
  let c := d.coefficient.natAbs
  let size := (Nat.toDigits 10 c).length + d.exponent
  if c = 0 || size < -330 then some ⟨0, minExponent⟩
  else if 310 < size then none
  else nearest? (c * Nat.pow 10 d.exponent.toNat) (Nat.pow 10 (-d.exponent).toNat)

def lt (a b : BinaryFloat) : Bool :=
  let least := min a.exponent b.exponent
  a.mantissa * Nat.pow 2 (a.exponent - least).toNat <
    b.mantissa * Nat.pow 2 (b.exponent - least).toNat

/-! ## Decimal text -/

/-- The coefficient of a multiple of `10 ^ power` that rounds to the float, if there
is one; of two the nearer one, and the larger one if they are equally near.  Lengths
are compared in quarters of the float's last bit: what rounds to it lies within two
of them, or one of them below a power of two, ends included if the mantissa is
even. -/
def onGrid? (float : BinaryFloat) (power : Int) : Option Nat :=
  let unit := Nat.pow 10 power.toNat * Nat.pow 2 (2 - float.exponent).toNat
  let quarter := Nat.pow 10 (-power).toNat * Nat.pow 2 (float.exponent - 2).toNat
  let value := 4 * float.mantissa * quarter
  let gap := if float.mantissa = Nat.pow 2 52 && minExponent < float.exponent then 1 else 2
  let low := value - gap * quarter
  let high := value + 2 * quarter
  let rounds (c : Nat) : Bool :=
    if float.mantissa % 2 = 0 then low ≤ c * unit && c * unit ≤ high
    else low < c * unit && c * unit < high
  let below := value / unit
  let above := below + 1
  if rounds below then
    if rounds above && above * unit - value ≤ value - below * unit then some above
    else some below
  else if rounds above then some above
  else none

/-- The shortest decimal number that rounds to the float. -/
def shortest (float : BinaryFloat) : Decimal :=
  if float.mantissa = 0 then ⟨0, 0⟩
  else
    let powers := (List.range 660).map fun n : Nat => (310 : Int) - n
    (powers.findSome? fun power =>
      (float.onGrid? power).map fun c => (⟨c, power⟩ : Decimal)).getD ⟨0, 0⟩

/-- A decimal magnitude without an exponent. -/
def positional (d : Decimal) : List Char :=
  let digits := Nat.toDigits 10 d.coefficient.natAbs
  match d.exponent with
  | .ofNat n => digits ++ List.replicate n '0'
  | .negSucc n =>
    let places := n + 1
    let padded := List.replicate (places + 1 - digits.length) '0' ++ digits
    padded.take (padded.length - places) ++ '.' :: padded.drop (padded.length - places)

/-- The float with the fewest digits that round back to it, without an exponent. -/
def text (float : BinaryFloat) : String :=
  String.ofList (if float.mantissa = 0 then ['0'] else positional float.shortest)

example : (ofDecimal? ⟨15, -1⟩).map text = some "1.5" := by decide +kernel

example : (ofDecimal? ⟨1, 21⟩).map text = some "1000000000000000000000" := by decide +kernel

end BinaryFloat

end TypedContainers
