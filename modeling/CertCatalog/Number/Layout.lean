import CertCatalog.Number.Decimal

/-!
# Written numbers

Among the decimals that round to a binary64 number, the shortest is the one with the fewest digits
and, of those, the nearest. It is searched on the decimal grids of growing precision, and a
candidate counts only when it rounds back. It is written in one of two forms: positional, which
never has an exponent, and scientific, which is positional only between 0.00001 and 10 ^ 16 and
marks every whole number with a fraction of zero.
-/

namespace CertCatalog.Shortest

/-- Direction of a value exactly between two decimals. -/
inductive Tie
  | up
  | even
  deriving DecidableEq, Repr

/-- A magnitude written with `significand` digits at a power of ten. -/
structure Digits where
  significand : Nat
  exponent : Int
  deriving DecidableEq, Repr

/-- A decimal rounds to a magnitude in units. -/
def roundsTo (units significand : Nat) (exponent : Int) : Bool :=
  let r := Decimal.ratio significand exponent
  Binary64.roundUnits r.1 r.2 == units

/-- Number of decimal digits. -/
def digitCount (n : Nat) : Nat := (Nat.toDigits 10 n).length

/-- Exponent of the leading decimal digit of a positive magnitude. -/
def leadingExponent (units : Nat) : Int :=
  (digitCount (units * Nat.pow 10 400 / Binary64.one) : Int) - 401

/-- Of two neighbours on a grid, the one that counts: where both do, the upper one if it is
meant. -/
def pick? (below : Nat) (upper belowCounts aboveCounts : Bool) : Option Nat :=
  match belowCounts, aboveCounts with
  | true, true => some (if upper then below + 1 else below)
  | true, false => some below
  | false, true => some (below + 1)
  | false, false => none

/-- The decimal of a grid that rounds to the magnitude: of the two neighbours of the magnitude that
do, the nearer. -/
def onGrid? (tie : Tie) (units : Nat) (exponent : Int) : Option Nat :=
  let num := units * Nat.pow 10 (-exponent).toNat
  let den := Binary64.one * Nat.pow 10 exponent.toNat
  let below := num / den
  let upper := den < 2 * (num % den) ||
    (den == 2 * (num % den) && (tie == .up || below % 2 == 1))
  pick? below upper (roundsTo units below exponent) (roundsTo units (below + 1) exponent)

/-- A magnitude's full decimal expansion. -/
def expansion (units : Nat) : Digits := ⟨units * Nat.pow 5 1074, -1074⟩

/-- The first grid with a hit, trying `fuel` grids from the given one to finer ones. -/
def search (tie : Tie) (units : Nat) : Nat → Int → Digits
  | 0, _ => expansion units
  | fuel + 1, exponent =>
    (onGrid? tie units exponent).elim (search tie units fuel (exponent - 1))
      fun significand ↦ ⟨significand, exponent⟩

/-- Digits without zeros at their end. -/
def strip (d : Digits) : Nat → Digits
  | 0 => d
  | fuel + 1 =>
    if d.significand % 10 = 0 then strip ⟨d.significand / 10, d.exponent + 1⟩ fuel else d

/-- The shortest decimal that rounds to a positive magnitude. -/
def digits (tie : Tie) (units : Nat) : Digits :=
  let d := search tie units 17 (leadingExponent units)
  strip d (digitCount d.significand)

end CertCatalog.Shortest

namespace CertCatalog.Binary64

/-- A row of zeros. -/
def zeros (n : Int) : List Char := List.replicate n.toNat '0'

/-- Digits with the decimal point after the first `point` of them, without a fraction when none of
them stands behind it. -/
def placePoint (digits : List Char) (point : Int) : List Char :=
  if point ≤ 0 then '0' :: '.' :: (zeros (-point) ++ digits)
  else if digits.length ≤ point then digits ++ zeros (point - digits.length)
  else digits.take point.toNat ++ '.' :: digits.drop point.toNat

/-- An optional minus sign. -/
def signText (negative : Bool) : List Char := if negative then ['-'] else []

/-- Positional form: the shortest digits that read back, without an exponent. -/
def positionalChars : Binary64 → List Char
  | .nan => "NaN".toList
  | .infinite negative => signText negative ++ "inf".toList
  | .finite negative units _ =>
    if units = 0 then signText negative ++ ['0']
    else
      let d := Shortest.digits .up units
      let digits := Nat.toDigits 10 d.significand
      signText negative ++ placePoint digits (digits.length + d.exponent)

/-- Positional form as a text. -/
def positional (x : Binary64) : String := String.ofList (positionalChars x)

/-- First power of ten written with an exponent, as the place of its decimal point. -/
def scientificAbove : Int := 16

/-- Places of the decimal point up to this one are written with an exponent. -/
def scientificBelow : Int := -5

/-- Digits in scientific form, given the place of the decimal point. -/
def scientificDigits (digits : List Char) (point : Int) : List Char :=
  if scientificAbove < point ∨ point ≤ scientificBelow then
    let power := point - 1
    placePoint digits 1 ++ 'e' :: (if power < 0 then '-' else '+') :: Nat.toDigits 10 power.natAbs
  else if digits.length ≤ point then placePoint digits point ++ ['.', '0']
  else placePoint digits point

/-- Scientific form of a finite number. -/
def scientific? : Binary64 → Option String
  | .finite negative units _ =>
    if units = 0 then some (String.ofList (signText negative ++ "0.0".toList))
    else
      let d := Shortest.digits .even units
      let digits := Nat.toDigits 10 d.significand
      some (String.ofList
        (signText negative ++ scientificDigits digits (digits.length + d.exponent)))
  | _ => none

end CertCatalog.Binary64
