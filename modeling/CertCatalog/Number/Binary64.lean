/-!
# Binary64 numbers

A binary64 number is kept as its exact value. Every finite magnitude is a whole number of units of
`2 ^ -1074`, so order is the order of integers and rounding is a division. Rounding of any ratio
yields a magnitude of the format.
-/

namespace CertCatalog

namespace Binary64

/-- Units that make up the number one. -/
def one : Nat := Nat.pow 2 1074

/-- First number of units beyond every finite magnitude. -/
def limit : Nat := Nat.pow 2 2098

/-- Finite magnitudes in units: at most 53 significant bits, and below the limit. -/
def IsMagnitude (units : Nat) : Prop :=
  (∃ significand scale, significand ≤ Nat.pow 2 53 ∧ units = significand * Nat.pow 2 scale) ∧
    units < limit

end Binary64

/-- A binary64 number: not a number, an infinity, or a signed magnitude counted in units. -/
inductive Binary64
  | nan
  | infinite (negative : Bool)
  | finite (negative : Bool) (units : Nat) (isMagnitude : Binary64.IsMagnitude units)
  deriving DecidableEq

namespace Binary64

/-- Whole number nearest to `num / den`; a half goes to the even neighbour. -/
def divNearest (num den : Nat) : Nat :=
  if 2 * (num % den) < den then num / den
  else if den < 2 * (num % den) then num / den + 1
  else num / den + num / den % 2

/-- Low bits of the whole part that a significand of 53 bits cannot hold. -/
def excess (num den : Nat) : Nat := (num / den).log2 - 52

/-- The number of units with 53 significant bits that is nearest to `num / den`. -/
def roundUnits (num den : Nat) : Nat :=
  let step := Nat.pow 2 (excess num den)
  divNearest num (den * step) * step

/-- Rounding to a whole number moves up by less than one. -/
theorem divNearest_le (num den : Nat) : divNearest num den ≤ num / den + 1 := by
  unfold divNearest
  split
  · omega
  · split
    · omega
    · have := Nat.mod_lt (num / den) (show 2 > 0 by omega)
      omega

/-- A rounded ratio below the limit is a magnitude. -/
theorem isMagnitude_roundUnits {num den : Nat} (h : roundUnits num den < limit) :
    IsMagnitude (roundUnits num den) := by
  refine ⟨⟨_, _, ?_, rfl⟩, h⟩
  refine Nat.le_trans (divNearest_le _ _) ?_
  rw [← Nat.div_div_eq_div_mul]
  simp only [Nat.pow_eq]
  apply Nat.succ_le_of_lt
  rw [Nat.div_lt_iff_lt_mul (Nat.two_pow_pos _), ← Nat.pow_add]
  refine Nat.lt_of_lt_of_le Nat.lt_log2_self (Nat.pow_le_pow_right (by omega) ?_)
  unfold excess
  omega

/-- The binary64 number nearest to `num / den` units, infinite when that exceeds the format. -/
def ofRatio (negative : Bool) (num den : Nat) : Binary64 :=
  if h : roundUnits num den < limit then
    .finite negative (roundUnits num den) (isMagnitude_roundUnits h)
  else .infinite negative

/-- Zero of either sign. -/
def zero (negative : Bool) : Binary64 := ofRatio negative 0 1

/-- The binary64 number nearest to a natural number. -/
def ofNat (n : Nat) : Binary64 := ofRatio false (n * one) 1

/-- The binary64 number nearest to an integer. -/
def ofInt (n : Int) : Binary64 := ofRatio (decide (n < 0)) (n.natAbs * one) 1

/-- Neither infinite nor not-a-number. -/
def isFinite : Binary64 → Bool
  | .finite .. => true
  | _ => false

/-- Not a number. -/
def isNaN : Binary64 → Bool
  | .nan => true
  | _ => false

/-- Place on the number line in units, with the infinities at the limits; none for not-a-number. -/
def place : Binary64 → Option Int
  | .nan => none
  | .infinite negative => some (if negative then -(limit : Int) else limit)
  | .finite negative units _ => some (if negative then -(units : Int) else units)

/-- Numeric order. Nothing compares with not-a-number. -/
def lt (a b : Binary64) : Bool :=
  match a.place, b.place with
  | some x, some y => decide (x < y)
  | _, _ => false

/-- Numeric order or equality. The two zeros are equal. -/
def le (a b : Binary64) : Bool :=
  match a.place, b.place with
  | some x, some y => decide (x ≤ y)
  | _, _ => false

/-- Numeric equality. The two zeros are equal, and not-a-number equals nothing. -/
def eq (a b : Binary64) : Bool :=
  match a.place, b.place with
  | some x, some y => decide (x = y)
  | _, _ => false

/-- The lesser number, or the other one when one is not a number. -/
def min (a b : Binary64) : Binary64 :=
  if a.isNaN then b else if b.isNaN || le a b then a else b

/-- The greater number, or the other one when one is not a number. -/
def max (a b : Binary64) : Binary64 :=
  if a.isNaN then b else if b.isNaN || le b a then a else b

/-- Integer part of a finite number, toward zero. -/
def truncate? : Binary64 → Option Int
  | .finite negative units _ =>
    let whole : Int := (units / one : Nat)
    some (if negative then -whole else whole)
  | _ => none

end Binary64
end CertCatalog
