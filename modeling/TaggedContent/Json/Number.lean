import TaggedContent.Tree

namespace TaggedContent
namespace Json

/-!
# Reading numbers

A number without a fraction and an exponent is an integer when it fits 64 bits with
a sign.  Any other is a floating-point number: its digits are gathered into a
significand of 64 bits for as long as they fit, further digits only move the
decimal point, and the significand is then scaled by one power of ten.  The
scaling rounds on its own, so the result may miss the nearest number by a little.
-/

/-- Digits are gathered into the significand until one would not fit any more.
The count of gathered digits and the remaining text are returned with it. -/
def gather (significand : Nat) : List Char → Nat × Nat × List Char
  | [] => (significand, 0, [])
  | letter :: rest =>
      let next := 10 * significand + (letter.toNat - '0'.toNat)
      if letter.isDigit ∧ next < UInt64.size then
        let (total, count, rest) := gather next rest
        (total, count + 1, rest)
      else (significand, 0, letter :: rest)

def skipDigits (letters : List Char) : List Char :=
  letters.dropWhile Char.isDigit

/-- A number before it is scaled: its value is `significand * 10^exponent`. -/
structure Scaled where
  significand : Nat
  exponent : Int

/-- Scale by a power of ten.  Powers beyond the range of the format are divided out
in steps of `10^308`, after three of which nothing is left.  A number too large for
the format has no value. -/
def scaleWithin : Nat → Float → Int → Option Float
  | 0, value, _ => some value
  | steps + 1, value, exponent =>
      if exponent.natAbs ≤ 308 then
        let power := Float.ofScientific 1 false exponent.natAbs
        if 0 ≤ exponent then
          let scaled := value * power
          if scaled.isInf then none else some scaled
        else some (value / power)
      else if value == 0 then some value
      else if 0 ≤ exponent then none
      else scaleWithin steps (value / Float.ofScientific 1 false 308) (exponent + 308)

def Scaled.value? (scaled : Scaled) (negative : Bool) : Option Float :=
  (scaleWithin 5 (Float.ofNat scaled.significand) scaled.exponent).map fun value =>
    if negative then -value else value

def clampExponent (exponent : Int) : Int :=
  max Int32.minValue.toInt (min Int32.maxValue.toInt exponent)

/-- A number with the exponent that may follow it.  An exponent of more than 31 bits
leaves zero, except that a positive one makes any other number too large. -/
def withExponent? (negative : Bool) (scaled : Scaled) (letters : List Char) :
    Option (Float × List Char) :=
  let plain := (scaled.value? negative).map fun value => (value, letters)
  match letters with
  | letter :: rest =>
      if letter = 'e' ∨ letter = 'E' then
        let (down, rest) :=
          match rest with
          | '+' :: rest => (false, rest)
          | '-' :: rest => (true, rest)
          | rest => (false, rest)
        let digits := rest.takeWhile Char.isDigit
        let rest := skipDigits rest
        let power := Nat.ofDigitChars 10 digits 0
        if digits.isEmpty then none
        else if Nat.pow 2 31 ≤ power then
          if scaled.significand ≠ 0 ∧ !down then none
          else some (if negative then -0.0 else 0.0, rest)
        else
          let exponent := if down then scaled.exponent - power else scaled.exponent + power
          (Scaled.value? ⟨scaled.significand, clampExponent exponent⟩ negative).map fun value =>
            (value, rest)
      else plain
  | [] => plain

/-- The integer of a sign and a significand of 64 bits.  Negative zero and integers
out of range become floating-point numbers. -/
def integer (negative : Bool) (significand : Nat) : Tree :=
  if negative then
    if significand = 0 ∨ Nat.pow 2 63 < significand then .float (-Float.ofNat significand)
    else .int (Int64.ofInt (-significand))
  else if significand < Nat.pow 2 63 then .int (Int64.ofNat significand)
  else .float (Float.ofNat significand)

/-- The number after its sign.  It begins with a digit, and with a zero only if that
is its whole integer part. -/
def unsigned? (negative : Bool) (letters : List Char) : Option (Tree × List Char) :=
  let wholeDigits := letters.takeWhile Char.isDigit
  let (significand, _, others) := gather 0 letters
  let rest := skipDigits others
  let exponent : Int := (others.length - rest.length : Nat)
  if wholeDigits.isEmpty || (wholeDigits.head? = some '0' && wholeDigits.length ≠ 1) then none
  else
    let finish := fun scaled rest =>
      (withExponent? negative scaled rest).map fun (value, rest) => (Tree.float value, rest)
    match rest with
    | '.' :: fraction =>
        if (fraction.takeWhile Char.isDigit).isEmpty then none
        else
          let (significand, count, others) := gather significand fraction
          finish ⟨significand, exponent - count⟩ (skipDigits others)
    | 'e' :: _ => finish ⟨significand, exponent⟩ rest
    | 'E' :: _ => finish ⟨significand, exponent⟩ rest
    | _ =>
        if exponent = 0 then some (integer negative significand, rest)
        else finish ⟨significand, exponent⟩ rest

def number? : List Char → Option (Tree × List Char)
  | '-' :: rest => unsigned? true rest
  | letters => unsigned? false letters

end Json
end TaggedContent
