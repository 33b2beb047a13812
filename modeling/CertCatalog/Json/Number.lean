import CertCatalog.Json.Basic
import CertCatalog.Number.Decimal

/-!
# JSON numbers

A number is a minus sign, a whole part without superfluous zeros, a fraction and an exponent, of
which only the whole part is required. A number without fraction and exponent that fits 64 bits is
whole, except for negative zero.

Every other number is rounded to binary64 in two steps. A significand of 64 bits takes as many
digits as fit, and it is multiplied or divided by the rounded power of ten that remains. The result
may differ from the nearest number in its last bits. A number beyond the format is an error.
-/

namespace CertCatalog.Json

/-- The digits of a number. -/
structure NumberText where
  negative : Bool
  whole : List Char
  fraction : Option (List Char)
  exponent : Option Int
  deriving DecidableEq, Repr

namespace NumberText

/-- A whole part without zeros in front. -/
def isWhole (cs : List Char) : Bool :=
  Decimal.isDigits cs && (cs.head? != some '0' || cs.length == 1)

/-- The fraction in front of the rest, if there is one. It has at least one digit. -/
def takeFraction? : List Char → Option (Option (List Char) × List Char)
  | '.' :: cs =>
    let digits := cs.takeWhile Char.isDigit
    if digits.isEmpty then none else some (some digits, cs.dropWhile Char.isDigit)
  | cs => some (none, cs)

/-- The exponent in front of the rest, if there is one. It has at least one digit. -/
def takeExponent? : List Char → Option (Option Int × List Char)
  | [] => some (none, [])
  | c :: cs =>
    if c == 'e' || c == 'E' then
      let (negative, body) := Decimal.splitSign cs
      let digits := body.takeWhile Char.isDigit
      if digits.isEmpty then none
      else
        let size : Int := Decimal.ofDigits digits
        some (some (if negative then -size else size), body.dropWhile Char.isDigit)
    else some (none, c :: cs)

/-- The number in front of the rest. -/
def take? (cs : List Char) : Option (NumberText × List Char) := do
  let (negative, body) := Decimal.splitMinus cs
  let whole := body.takeWhile Char.isDigit
  if !isWhole whole then none
  else
    let (fraction, rest) ← takeFraction? (body.dropWhile Char.isDigit)
    let (exponent, rest) ← takeExponent? rest
    return (⟨negative, whole, fraction, exponent⟩, rest)

/-- First number beyond the significand. -/
def significandLimit : Nat := Nat.pow 2 64

/-- The significand with the digits that fit, and the number of digits left. -/
def fill (significand : Nat) : List Char → Nat × Nat
  | [] => (significand, 0)
  | c :: cs =>
    let next := 10 * significand + (c.toNat - '0'.toNat)
    if next < significandLimit then fill next cs else (significand, cs.length + 1)

/-- The significand and power of ten of a number. -/
def parts (t : NumberText) : Nat × Int :=
  let fraction := t.fraction.getD []
  let (whole, wholeLeft) := fill 0 t.whole
  let (significand, fractionLeft) := fill whole fraction
  (significand, t.exponent.getD 0 + wholeLeft - ((fraction.length - fractionLeft : Nat) : Int))

/-- Greatest power of ten of the format. -/
def maxPower : Nat := 308

/-- Units of the binary64 number nearest to a power of ten of the format. -/
def powerUnits (power : Nat) : Nat := Binary64.roundUnits (Nat.pow 10 power * Binary64.one) 1

/-- A number of units times the rounded power of ten, rounded. -/
def timesPower (units power : Nat) : Nat :=
  Binary64.roundUnits (units * powerUnits power) Binary64.one

/-- A number of units divided by the rounded power of ten, rounded. -/
def overPower (units power : Nat) : Nat :=
  Binary64.roundUnits (units * Binary64.one) (powerUnits power)

/-- A number of units times a power of ten. A power below the format is divided out in two steps,
and nothing remains below the second. -/
def scale (units : Nat) (power : Int) : Option Nat :=
  if units = 0 then some 0
  else if maxPower < power then none
  else if 0 ≤ power then some (timesPower units power.toNat)
  else if -maxPower ≤ power then some (overPower units (-power).toNat)
  else if -2 * maxPower ≤ power then
    some (overPower (overPower units maxPower) (-power - maxPower).toNat)
  else some 0

/-- The binary64 number of a sign and a number of units below the limit. -/
def ofUnits? (negative : Bool) (units : Nat) : Option Binary64 :=
  match Binary64.ofRatio negative units 1 with
  | .infinite _ => none
  | x => some x

/-- The binary64 number of a number text. -/
def toBinary64? (t : NumberText) : Option Binary64 :=
  let (significand, power) := t.parts
  (scale (Binary64.roundUnits (significand * Binary64.one) 1) power).bind (ofUnits? t.negative)

/-- The whole number of a number text without fraction and exponent. -/
def toInt? (t : NumberText) : Option Int :=
  let size := Decimal.ofDigits t.whole
  if t.fraction.isSome || t.exponent.isSome then none
  else if t.negative then if 0 < size ∧ Integer.isInt64 (-size) then some (-size) else none
  else if size ≤ Integer.uint64Max then some size else none

/-- The JSON value of a number text. -/
def value? (t : NumberText) : Option Json :=
  match t.toInt? with
  | some n => some (.int n)
  | none => t.toBinary64?.map .float

end NumberText
end CertCatalog.Json
