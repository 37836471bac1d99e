namespace TaggedContent
namespace Decimal

/-!
# Shortest decimal digits of a floating-point number

A finite positive number is `m * 2^q` for the integer significand `m` and exponent
`q` of its binary form.  A decimal reads back as the number when it lies in the
interval of values that round to it, which reaches half way to the neighbours and
includes its ends when `m` is even.  The shortest digits are found by trying
one digit, two digits and so on; at each length only the two decimals around the
number have to be looked at, for if any decimal of that length lies in the
interval then one of these does.

All comparisons are made on natural numbers, after both sides have been multiplied
by a common scale.
-/

/-- Significand and exponent of a positive finite number.  `atPower` marks a power
of two below which the numbers are twice as dense as above it. -/
structure Binary where
  significand : Nat
  exponent : Int
  atPower : Bool
  deriving DecidableEq

/-- Read the fields of a double-precision number without its sign. -/
def Binary.ofBits (bits : UInt64) : Binary :=
  let field : Nat := bits.toNat / Nat.pow 2 52 % Nat.pow 2 11
  let fraction : Nat := bits.toNat % Nat.pow 2 52
  if field = 0 then ⟨fraction, -1074, false⟩
  else ⟨Nat.pow 2 52 + fraction, (field : Int) - 1075, fraction = 0 && field > 1⟩

/-- The decimal `digits * 10^exponent`. -/
structure Scientific where
  digits : Nat
  exponent : Int
  deriving DecidableEq, Inhabited

/-- Which of two equally near decimals is taken. -/
inductive Tie where
  | toEven
  | upward
  deriving DecidableEq

namespace Shortest

/-- A number and the last decimal place on one scale, with half the distances to
the neighbours of the number below and above it. -/
structure Grid where
  value : Nat
  place : Nat
  below : Nat
  above : Nat

/-- The number against the decimals that are multiples of `10^exponent`. -/
def grid (binary : Binary) (exponent : Int) : Grid :=
  let twos := (binary.exponent - 2).toNat
  let twosBelow := (2 - binary.exponent).toNat
  let tens := exponent.toNat
  let tensBelow := (-exponent).toNat
  let unit := Nat.pow 2 twos * Nat.pow 10 tensBelow
  ⟨4 * binary.significand * unit, Nat.pow 2 twosBelow * Nat.pow 10 tens,
    (if binary.atPower then 1 else 2) * unit, 2 * unit⟩

/-- Whether a multiple of the place reads back as the number. -/
def readsBack (even : Bool) (grid : Grid) (multiple : Nat) : Bool :=
  let decimal := multiple * grid.place
  if even then grid.value ≤ decimal + grid.below && decimal ≤ grid.value + grid.above
  else grid.value < decimal + grid.below && decimal < grid.value + grid.above

/-- The multiple of the place that is nearest to the number among those of the two
around it that read back. -/
def nearest? (tie : Tie) (even : Bool) (grid : Grid) : Option Nat :=
  let low := grid.value / grid.place
  let high := low + 1
  let lowReads := low ≠ 0 && readsBack even grid low
  let highReads := readsBack even grid high
  if lowReads && highReads then
    let toLow := grid.value - low * grid.place
    let toHigh := high * grid.place - grid.value
    if toLow < toHigh then some low
    else if toHigh < toLow then some high
    else
      match tie with
      | .toEven => if low % 2 = 0 then some low else some high
      | .upward => some high
  else if lowReads then some low
  else if highReads then some high
  else none

/-- Look for a decimal on finer and finer places. -/
def search (tie : Tie) (binary : Binary) : Nat → Int → Scientific
  | 0, exponent => ⟨0, exponent⟩
  | places + 1, exponent =>
      match nearest? tie (binary.significand % 2 = 0) (grid binary exponent) with
      | some digits => ⟨digits, exponent⟩
      | none => search tie binary places (exponent - 1)

end Shortest

/-- A place that is above the number, and by no more than two digits. -/
def Binary.leadingPlace (binary : Binary) : Int :=
  let bits : Int := binary.exponent + binary.significand.log2 + 1
  Int.fdiv (bits * 30103) 100000 + 1

/-- The shortest decimal that reads back as the number, and of those the nearest. -/
def shortest (tie : Tie) (binary : Binary) : Scientific :=
  Shortest.search tie binary 24 binary.leadingPlace

end Decimal
end TaggedContent
