import CertCatalog.Number.Binary64

/-!
# Decimal texts

A decimal is a sign, a significand and a power of ten. Two grammars read one: plain numbers with an
optional fraction, and the wider grammar of floating-point texts with signs, bare points and
exponents. Every decimal rounds to one binary64 number. Integers are read with an optional sign and
digits of some base, and a reader for a fixed width accepts the texts whose value fits.
-/

namespace CertCatalog

/-- The number `± significand * 10 ^ exponent`. -/
structure Decimal where
  negative : Bool
  significand : Nat
  exponent : Int
  deriving DecidableEq, Repr

namespace Decimal

/-- Value of a row of ASCII digits. -/
def ofDigits (cs : List Char) : Nat := cs.foldl (fun n c ↦ 10 * n + (c.toNat - '0'.toNat)) 0

/-- A row of ASCII digits that is not empty. -/
def isDigits (cs : List Char) : Bool := !cs.isEmpty && cs.all Char.isDigit

/-- The ratio of a nonnegative decimal to one unit of `2 ^ -1074`. -/
def ratio (significand : Nat) (exponent : Int) : Nat × Nat :=
  (significand * Nat.pow 10 exponent.toNat * Binary64.one, Nat.pow 10 (-exponent).toNat)

/-- The nearest binary64 number. Powers of ten far outside the format are settled at once. -/
def toBinary64 (d : Decimal) : Binary64 :=
  if d.significand = 0 ∨ d.exponent + d.significand.log2 + 400 < 0 then .zero d.negative
  else if 400 < d.exponent then .infinite d.negative
  else .ofRatio d.negative (ratio d.significand d.exponent).1 (ratio d.significand d.exponent).2

/-- An optional minus sign before the rest. -/
def splitMinus : List Char → Bool × List Char
  | '-' :: cs => (true, cs)
  | cs => (false, cs)

/-- An optional sign before the rest. -/
def splitSign : List Char → Bool × List Char
  | '-' :: cs => (true, cs)
  | '+' :: cs => (false, cs)
  | cs => (false, cs)

/-- Plain numbers: an optional minus, digits, and optionally a point with more digits. -/
def plain? (cs : List Char) : Option Decimal :=
  let (negative, body) := splitMinus cs
  let whole := body.takeWhile Char.isDigit
  match body.dropWhile Char.isDigit with
  | [] => if isDigits whole then some ⟨negative, ofDigits whole, 0⟩ else none
  | '.' :: fraction =>
    if isDigits whole && isDigits fraction then
      some ⟨negative, ofDigits (whole ++ fraction), -fraction.length⟩
    else none
  | _ => none

/-- The exponent after a significand: nothing, or a marker, an optional sign and digits. -/
def exponent? : List Char → Option Int
  | [] => some 0
  | c :: cs =>
    let (negative, digits) := splitSign cs
    if (c == 'e' || c == 'E') && isDigits digits then
      some (if negative then -(ofDigits digits : Int) else ofDigits digits)
    else none

/-- Floating-point texts: an optional sign, digits on at least one side of an optional point, and
an optional exponent. -/
def float? (cs : List Char) : Option Decimal :=
  let (negative, body) := splitSign cs
  let whole := body.takeWhile Char.isDigit
  let (fraction, rest) :=
    match body.dropWhile Char.isDigit with
    | '.' :: rest => (rest.takeWhile Char.isDigit, rest.dropWhile Char.isDigit)
    | rest => ([], rest)
  if whole.isEmpty && fraction.isEmpty then none
  else (exponent? rest).map fun e ↦ ⟨negative, ofDigits (whole ++ fraction), e - fraction.length⟩

end Decimal

/-- Binary64 numbers as texts: floating-point texts, and in any letter case `inf`, `infinity` and
`nan` after an optional sign. -/
def Binary64.ofText? (s : String) : Option Binary64 :=
  let (negative, body) := Decimal.splitSign s.toList
  let word := body.map Char.toLower
  if word = "inf".toList ∨ word = "infinity".toList then some (.infinite negative)
  else if word = "nan".toList then some .nan
  else (Decimal.float? s.toList).map Decimal.toBinary64

namespace Integer

/-- Least signed integer of 64 bits. -/
def int64Min : Int := -0x8000000000000000

/-- Greatest signed integer of 64 bits. -/
def int64Max : Int := 0x7FFFFFFFFFFFFFFF

/-- Greatest unsigned integer of 64 bits. -/
def uint64Max : Int := 0xFFFFFFFFFFFFFFFF

/-- An integer that fits 64 bits with a sign. -/
def isInt64 (n : Int) : Bool := int64Min ≤ n && n ≤ int64Max

/-- The nearest signed integer of 64 bits. -/
def clampInt64 (n : Int) : Int := max int64Min (min int64Max n)

/-- Value of a digit in bases up to sixteen. -/
def digitValue? (c : Char) : Option Nat :=
  if c.isDigit then some (c.toNat - '0'.toNat)
  else if 'a' ≤ c ∧ c ≤ 'f' then some (c.toNat - 'a'.toNat + 10)
  else if 'A' ≤ c ∧ c ≤ 'F' then some (c.toNat - 'A'.toNat + 10)
  else none

/-- Value of a row of digits in a base, one digit at least. -/
def natOfBase? (base : Nat) (cs : List Char) : Option Nat :=
  if cs.isEmpty then none
  else cs.foldl (fun n c ↦ do
    let value ← n
    let digit ← digitValue? c
    if digit < base then some (base * value + digit) else none) (some 0)

/-- Decimal integers: an optional sign and digits. -/
def ofChars? (cs : List Char) : Option Int :=
  let (negative, digits) := Decimal.splitSign cs
  if Decimal.isDigits digits then
    some (if negative then -(Decimal.ofDigits digits : Int) else Decimal.ofDigits digits)
  else none

/-- Decimal integers that fit 64 bits with a sign. -/
def int64OfText? (s : String) : Option Int := (ofChars? s.toList).filter isInt64

/-- Natural numbers that fit 64 bits, with an optional plus sign. -/
def uint64OfText? (s : String) : Option Nat :=
  match s.toList with
  | '-' :: _ => none
  | cs => (ofChars? cs).bind fun n ↦ if n ≤ uint64Max then some n.toNat else none

/-- Decimal text of an integer. -/
def toText (n : Int) : String :=
  String.ofList ((if n < 0 then ['-'] else []) ++ Nat.toDigits 10 n.natAbs)

end Integer
end CertCatalog
