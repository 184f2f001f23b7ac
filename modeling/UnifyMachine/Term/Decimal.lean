/-!
# Decimal numbers

A number literal is an integer mantissa scaled down by a power of ten. Reading drops the
trailing zeros of the fraction, so every value read has a single representation, and writing
puts the point back in front of the last `scale` digits of the magnitude.
-/

namespace UnifyMachine

/-- The number `mantissa / 10 ^ scale`. -/
structure Decimal where
  /-- All digits of the number, with its sign. -/
  mantissa : Int
  /-- How many of the digits stand after the point. -/
  scale : Nat
deriving DecidableEq, Inhabited

namespace Decimal

/-- The value of a list of decimal digits, the most significant first. -/
def digitsValue (ds : List Char) : Nat :=
  ds.foldl (fun acc d => acc * 10 + (d.toNat - '0'.toNat)) 0

/-- The digits of a fraction without the zeros at its end. -/
def trimFraction (ds : List Char) : List Char :=
  (ds.reverse.dropWhile (fun c => c == '0')).reverse

/-- Reads a literal from its integral digits and its fractional digits (empty when the literal
has no point). The trimmed fraction decides the scale. -/
def ofDigits (integral fractional : List Char) : Decimal :=
  let fraction := trimFraction fractional
  ⟨digitsValue (integral ++ fraction), fraction.length⟩

/-- The number with the opposite sign; the scale is kept, and zero stays zero. -/
def negate (d : Decimal) : Decimal :=
  ⟨-d.mantissa, d.scale⟩

/-- The digits of the magnitude, padded with zeros on the left to at least `scale + 1` digits,
so that at least one digit stands before the point. -/
def paddedDigits (d : Decimal) : List Char :=
  let digits := Nat.toDigits 10 d.mantissa.natAbs
  List.replicate (d.scale + 1 - digits.length) '0' ++ digits

/-- The written form: the mantissa itself when the scale is zero; otherwise a minus sign for a
negative number, the padded digits of the magnitude, and the point before the last `scale`
of them. -/
def render (d : Decimal) : String :=
  if d.scale = 0 then
    toString d.mantissa
  else
    let padded := d.paddedDigits
    let cut := padded.length - d.scale
    let sign := if d.mantissa < 0 then "-" else ""
    sign ++ String.ofList (padded.take cut) ++ "." ++ String.ofList (padded.drop cut)

end Decimal

end UnifyMachine
