import TaggedContent.Decimal.Shortest

namespace TaggedContent
namespace Decimal

/-!
# Writing floating-point numbers

A style fixes what the shortest digits leave open: which numbers are written with
a decimal point in place and which with an exponent, how whole numbers end, and
what stands for the values that are no numbers.
-/

structure Style where
  tie : Tie
  /-- For the number `0.d₁d₂… * 10^k`, whether the point is put in place. -/
  positional : Int → Bool
  wholeEnd : String
  nan : String
  infinity : String
  negativeInfinity : String

namespace Style

def zeros (count : Nat) : List Char :=
  List.replicate count '0'

/-- The digits with the point after the first `point` places. -/
def placed (style : Style) (digits : List Char) (point : Int) : List Char :=
  if point ≤ 0 then '0' :: '.' :: (zeros (-point).toNat ++ digits)
  else
    let whole := point.toNat
    if digits.length ≤ whole then
      digits ++ zeros (whole - digits.length) ++ style.wholeEnd.toList
    else digits.take whole ++ '.' :: digits.drop whole

/-- One digit before the point, and the exponent with its sign. -/
def withExponent (digits : List Char) (exponent : Int) : List Char :=
  let mantissa :=
    match digits with
    | first :: second :: rest => first :: '.' :: second :: rest
    | digits => digits
  let sign := if exponent < 0 then '-' else '+'
  mantissa ++ 'e' :: sign :: Nat.toDigits 10 exponent.natAbs

/-- A finite number without its sign. -/
def magnitude (style : Style) (bits : UInt64) : List Char :=
  let binary := Binary.ofBits bits
  if binary.significand = 0 then '0' :: style.wholeEnd.toList
  else
    let decimal := shortest style.tie binary
    let digits := Nat.toDigits 10 decimal.digits
    let point := digits.length + decimal.exponent
    if style.positional point then style.placed digits point
    else withExponent digits (point - 1)

def write (style : Style) (number : Float) : String :=
  let bits := number.toBits
  let negative := bits.toNat ≥ Nat.pow 2 63
  if number.isNaN then style.nan
  else if number.isInf then if negative then style.negativeInfinity else style.infinity
  else .ofList ((if negative then ['-'] else []) ++ style.magnitude bits)

end Style
end Decimal
end TaggedContent
