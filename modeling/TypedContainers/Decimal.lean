/-!
# Decimal numbers

Numbers in texts are kept as they are written, a coefficient and a power of ten,
and never rounded.  Whether a 64-bit binary float can hold one without overflowing
is decided exactly by `overflows`.
-/

namespace TypedContainers

/-- The number `coefficient * 10 ^ exponent`. -/
structure Decimal where
  coefficient : Int
  exponent : Int
deriving Repr, DecidableEq, Inhabited

namespace Decimal

def ofInt (n : Int) : Decimal :=
  ⟨n, 0⟩

def ofDigits (digits : List Char) : Nat :=
  digits.foldl (fun n c => 10 * n + (c.toNat - '0'.toNat)) 0

/-- The value of at least one decimal digit. -/
def digits? (digits : List Char) : Option Nat :=
  if digits.isEmpty || !digits.all Char.isDigit then none else some (ofDigits digits)

/-- The power of ten behind the digits of a number: nothing, or a mark and an integer
that may have a sign. -/
def exponent? : List Char → Option Int
  | [] => some 0
  | mark :: rest =>
    if mark ≠ 'e' && mark ≠ 'E' then none
    else
      match rest with
      | '-' :: digits => (digits? digits).map fun n => -(n : Int)
      | '+' :: digits => (digits? digits).map (↑·)
      | digits => (digits? digits).map (↑·)

/-- A number without a sign, with digits on at least one side of its point. -/
def unsigned? (text : List Char) : Option Decimal := do
  let (whole, rest) := text.span Char.isDigit
  let (fraction, rest) :=
    match rest with
    | '.' :: rest => rest.span Char.isDigit
    | _ => ([], rest)
  if whole.isEmpty && fraction.isEmpty then none
  let exponent ← exponent? rest
  return ⟨ofDigits (whole ++ fraction), exponent - fraction.length⟩

/-- A number in decimal notation. -/
def ofText? : List Char → Option Decimal
  | '-' :: text => (unsigned? text).map fun d => ⟨-d.coefficient, d.exponent⟩
  | '+' :: text => unsigned? text
  | text => unsigned? text

/-- The least magnitude that no longer rounds to a finite 64-bit binary float. -/
def overflowBound : Nat :=
  Nat.pow 2 1024 - Nat.pow 2 970

/-- Whether the number is too large for a finite 64-bit binary float.  The count
of digits settles all but the numbers from `10 ^ 308` to `10 ^ 309`, so that no
large power is computed for the others. -/
def overflows (d : Decimal) : Bool :=
  let c := d.coefficient.natAbs
  if c = 0 then false
  else
    let size := (Nat.toDigits 10 c).length + d.exponent
    if size < 309 then false
    else if 309 < size then true
    else
      match d.exponent with
      | .ofNat e => overflowBound ≤ c * Nat.pow 10 e
      | .negSucc e => overflowBound * Nat.pow 10 (e + 1) ≤ c

example : overflows ⟨1, 308⟩ = false := by decide +kernel

example : overflows ⟨-1, 400⟩ = true := by decide +kernel

end Decimal

end TypedContainers
