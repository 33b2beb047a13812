import CertCatalog.Number.Layout
import CertCatalog.Proofs.Number.Decimal
import CertCatalog.Proofs.Number.Numeral

/-!
# Written numbers read back

The digits of a binary64 number are searched among decimals that are rounded to it, and the full
expansion is exact. The layout of the digits keeps their value, so the positional form of a number
reads back as that number.
-/

namespace CertCatalog

open Binary64

/-! ### Shortest digits -/

namespace Shortest

private theorem roundsTo_iff {units significand : Nat} {exponent : Int} :
    roundsTo units significand exponent = true ↔
      Decimal.roundedUnits significand exponent = units := by
  rw [roundsTo, Decimal.roundedUnits]
  exact beq_iff_eq

private theorem pick?_eq_some {below n : Nat} {upper belowCounts aboveCounts : Bool}
    (h : pick? below upper belowCounts aboveCounts = some n) :
    n = below ∧ belowCounts = true ∨ n = below + 1 ∧ aboveCounts = true := by
  cases belowCounts <;> cases aboveCounts <;> cases upper <;> simp_all [pick?]

private theorem roundsTo_of_onGrid? {tie : Tie} {units significand : Nat} {exponent : Int}
    (h : onGrid? tie units exponent = some significand) :
    roundsTo units significand exponent = true := by
  rw [onGrid?] at h
  rcases pick?_eq_some h with ⟨hpicked, hcounts⟩ | ⟨hpicked, hcounts⟩
  · rwa [hpicked]
  · rwa [hpicked]

/-- The full expansion of a magnitude is rounded to it. -/
theorem roundedUnits_expansion {units : Nat} (h : IsMagnitude units) :
    Decimal.roundedUnits (expansion units).significand (expansion units).exponent = units := by
  obtain ⟨k, hk, hone⟩ := exists_one_eq
  have hfive : Nat.pow 5 1074 = 5 ^ k := by
    subst hk
    decide +kernel
  have hexponent : (-1074 : Int) = -k := by rw [hk]; rfl
  have hup : (-(k : Int)).toNat = 0 := by omega
  have hdown : (- -(k : Int)).toNat = k := by omega
  have hten : 5 ^ k * 2 ^ k = 10 ^ k := by rw [← Nat.mul_pow]
  rw [expansion, hfive, hexponent, Decimal.roundedUnits, Decimal.ratio]
  dsimp only
  rw [hup, hdown, Nat.pow_eq, Nat.pow_eq, Nat.pow_zero, Nat.mul_one, hone, Nat.mul_assoc, hten]
  calc roundUnits (units * 10 ^ k) (10 ^ k) = roundUnits (units * 10 ^ k) (1 * 10 ^ k) := by
        rw [Nat.one_mul]
    _ = roundUnits units 1 := roundUnits_mul_mul _ _ (Nat.pow_pos (by decide))
    _ = units := roundUnits_of_isMagnitude h

private theorem roundedUnits_search (tie : Tie) {units : Nat} (h : IsMagnitude units) (fuel : Nat)
    (exponent : Int) :
    Decimal.roundedUnits (search tie units fuel exponent).significand
      (search tie units fuel exponent).exponent = units := by
  induction fuel generalizing exponent with
  | zero => rw [search, roundedUnits_expansion h]
  | succ fuel ih =>
    rw [search]
    cases hgrid : onGrid? tie units exponent with
    | none => rw [Option.elim_none, ih]
    | some significand => rw [Option.elim_some, roundsTo_iff.mp (roundsTo_of_onGrid? hgrid)]

private theorem roundedUnits_strip (d : Digits) (fuel : Nat) :
    Decimal.roundedUnits (strip d fuel).significand (strip d fuel).exponent =
      Decimal.roundedUnits d.significand d.exponent := by
  induction fuel generalizing d with
  | zero => rfl
  | succ fuel ih =>
    rw [strip]
    split
    · next hzero =>
      have hten : 10 * (d.significand / 10) = d.significand := by omega
      rw [ih, ← Decimal.roundedUnits_ten_mul, hten]
    · rfl

/-- The shortest digits are rounded to the magnitude. -/
theorem roundedUnits_digits (tie : Tie) {units : Nat} (h : IsMagnitude units) :
    Decimal.roundedUnits (digits tie units).significand (digits tie units).exponent = units := by
  rw [digits, roundedUnits_strip, roundedUnits_search tie h]

end Shortest

namespace Binary64

/-! ### Layout -/

theorem splitSign_signText_append (negative : Bool) {digits : List Char}
    (h : Decimal.isDigits digits = true) :
    Decimal.splitSign (signText negative ++ digits) = (negative, digits) := by
  have hsplit := Numeral.splitSign_chars ⟨negative, .ofDigits _ h, none⟩
  simpa [Numeral.chars, Numeral.body, Numeral.fractionChars, DigitRow.ofDigits, signText]
    using hsplit

/-- Digits behind a sign are read as a whole number. -/
theorem ofText?_of_splitSign {s : String} {negative : Bool} {digits : List Char}
    (hsplit : Decimal.splitSign s.toList = (negative, digits))
    (h : Decimal.isDigits digits = true) :
    ofText? s = some (Decimal.mk negative (Decimal.ofDigits digits) 0).toBinary64 := by
  obtain ⟨hne, hdigits⟩ := DigitRow.isDigits_iff_forall.mp h
  have hword (word : String) (hfirst : word.toList.head?.any Char.isDigit = false) :
      digits ≠ word.toList := by
    rintro rfl
    obtain ⟨c, cs, hcons⟩ := List.exists_cons_of_ne_nil hne
    simp [hcons, hdigits c (by simp [hcons])] at hfirst
  have htake : digits.takeWhile Char.isDigit = digits := List.takeWhile_eq_self_iff.mpr hdigits
  have hdrop : digits.dropWhile Char.isDigit = [] := List.dropWhile_eq_nil_iff.mpr hdigits
  have hfloat : Decimal.float? s.toList = some ⟨negative, Decimal.ofDigits digits, 0⟩ := by
    simp [Decimal.float?, hsplit, htake, hdrop, hne, Decimal.exponent?]
  rw [ofText?, hsplit]
  dsimp only
  rw [Decimal.map_toLower_of_isDigits h,
    if_neg (not_or.mpr ⟨hword "inf" rfl, hword "infinity" rfl⟩), if_neg (hword "nan" rfl), hfloat,
    Option.map_some]

private theorem exists_numeral_whole (negative : Bool) {whole : List Char}
    (h : Decimal.isDigits whole = true) :
    ∃ n : Numeral, n.IsAscii ∧ n.chars = signText negative ++ whole ∧
      n.decimal = ⟨negative, Decimal.ofDigits whole, 0⟩ := by
  refine ⟨⟨negative, .ofDigits _ h, none⟩, ⟨DigitRow.isAscii_ofDigits h, by simp⟩, ?_, ?_⟩
  · simp [Numeral.chars, Numeral.body, Numeral.fractionChars, DigitRow.ofDigits, signText]
  · simp [Numeral.decimal, Numeral.fractionDigits, DigitRow.ofDigits]

private theorem exists_numeral_fraction (negative : Bool) {whole fraction : List Char}
    (hwhole : Decimal.isDigits whole = true) (hfraction : Decimal.isDigits fraction = true) :
    ∃ n : Numeral, n.IsAscii ∧ n.chars = signText negative ++ (whole ++ '.' :: fraction) ∧
      n.decimal = ⟨negative, Decimal.ofDigits (whole ++ fraction), -fraction.length⟩ := by
  have hascii := DigitRow.isAscii_ofDigits hfraction
  refine ⟨⟨negative, .ofDigits _ hwhole, some (.ofDigits _ hfraction)⟩,
    ⟨DigitRow.isAscii_ofDigits hwhole, by simpa using hascii⟩, ?_, ?_⟩
  · simp [Numeral.chars, Numeral.body, Numeral.fractionChars, DigitRow.ofDigits, signText]
  · simp [Numeral.decimal, Numeral.fractionDigits, DigitRow.ofDigits]

private theorem isDigit_of_mem_zeros {n : Int} {c : Char} (h : c ∈ zeros n) : c.isDigit = true := by
  rw [List.eq_of_mem_replicate h]
  decide

section Digits

variable {digits : List Char} (h : Decimal.isDigits digits = true)
include h

private theorem isDigits_zeros_append (n : Int) : Decimal.isDigits (zeros n ++ digits) = true := by
  obtain ⟨hne, hdigits⟩ := DigitRow.isDigits_iff_forall.mp h
  rw [DigitRow.isDigits_iff_forall, List.forall_mem_append]
  exact ⟨List.append_ne_nil_of_right_ne_nil _ hne, fun c ↦ isDigit_of_mem_zeros, hdigits⟩

private theorem isDigits_append_zeros (n : Int) : Decimal.isDigits (digits ++ zeros n) = true := by
  obtain ⟨hne, hdigits⟩ := DigitRow.isDigits_iff_forall.mp h
  rw [DigitRow.isDigits_iff_forall, List.forall_mem_append]
  exact ⟨List.append_ne_nil_of_left_ne_nil hne _, hdigits, fun c ↦ isDigit_of_mem_zeros⟩

private theorem isDigits_take {n : Nat} (hn : 0 < n) : Decimal.isDigits (digits.take n) = true := by
  obtain ⟨hne, hdigits⟩ := DigitRow.isDigits_iff_forall.mp h
  have htake : digits.take n ≠ [] := by
    rw [ne_eq, List.take_eq_nil_iff, not_or]
    exact ⟨by omega, hne⟩
  exact DigitRow.isDigits_iff_forall.mpr ⟨htake, fun c hc ↦ hdigits c (List.mem_of_mem_take hc)⟩

private theorem isDigits_drop {n : Nat} (hn : n < digits.length) :
    Decimal.isDigits (digits.drop n) = true := by
  have hdigits := (DigitRow.isDigits_iff_forall.mp h).2
  have hdrop : digits.drop n ≠ [] := by
    rw [ne_eq, List.drop_eq_nil_iff]
    omega
  exact DigitRow.isDigits_iff_forall.mpr ⟨hdrop, fun c hc ↦ hdigits c (List.mem_of_mem_drop hc)⟩

/-- Digits with a decimal point among them are a numeral of the same value. -/
theorem exists_numeral_placePoint (negative : Bool) (exponent : Int) :
    ∃ n : Numeral, n.IsAscii ∧
      n.chars = signText negative ++ placePoint digits (digits.length + exponent) ∧
      n.decimal.negative = negative ∧
      Decimal.roundedUnits n.decimal.significand n.decimal.exponent =
        Decimal.roundedUnits (Decimal.ofDigits digits) exponent := by
  rw [placePoint]
  split
  · next hpoint =>
    -- All digits stand behind the point, with zeros in front.
    have hfraction := isDigits_zeros_append h (-(digits.length + exponent))
    have hzero : Decimal.isDigits ['0'] = true := rfl
    obtain ⟨n, hascii, hchars, hdecimal⟩ := exists_numeral_fraction negative hzero hfraction
    refine ⟨n, hascii, hchars, by rw [hdecimal], ?_⟩
    have hexponent : (-(zeros (-(digits.length + exponent)) ++ digits).length : Int) =
        exponent := by
      rw [List.length_append, zeros, List.length_replicate]
      omega
    rw [hdecimal]
    dsimp only
    rw [hexponent, List.singleton_append, Decimal.ofDigits_zero_cons, zeros,
      Decimal.ofDigits_replicate_append]
  · next hpoint =>
    split
    · next hwhole =>
      -- All digits stand before the point, with zeros behind them.
      have hzeros : (digits.length + exponent - digits.length : Int) = exponent := by omega
      obtain ⟨n, hascii, hchars, hdecimal⟩ :=
        exists_numeral_whole negative (isDigits_append_zeros h exponent)
      refine ⟨n, hascii, by rw [hzeros, hchars], by rw [hdecimal], ?_⟩
      have hexponent : (exponent.toNat : Int) = exponent := by omega
      rw [hdecimal]
      dsimp only
      rw [zeros, Decimal.ofDigits_append_replicate, Decimal.roundedUnits_mul_ten_pow, hexponent]
    · next hwhole =>
      have htake := isDigits_take h (show 0 < (digits.length + exponent).toNat by omega)
      have hdrop :=
        isDigits_drop h (show (digits.length + exponent).toNat < digits.length by omega)
      obtain ⟨n, hascii, hchars, hdecimal⟩ := exists_numeral_fraction negative htake hdrop
      refine ⟨n, hascii, hchars, by rw [hdecimal], ?_⟩
      have hexponent : (-(digits.drop (digits.length + exponent).toNat).length : Int) =
          exponent := by
        rw [List.length_drop]
        omega
      rw [hdecimal]
      dsimp only
      rw [hexponent, List.take_append_drop]

end Digits

/-- The positional form of a finite number is a numeral of ASCII digits that is read as it. -/
theorem exists_numeral_positional {x : Binary64} (h : x.isFinite = true) :
    ∃ n : Numeral, n.IsAscii ∧ n.chars = x.positionalChars ∧ n.value? = some x := by
  cases x with
  | nan => cases h
  | infinite negative => cases h
  | finite negative units isMagnitude =>
    -- Zero has its own digits, so reading back is settled for any digits that are rounded to it.
    have hplaced {digits : List Char} (hdigits : Decimal.isDigits digits = true) {exponent : Int}
        (hrounded : Decimal.roundedUnits (Decimal.ofDigits digits) exponent = units) :
        ∃ n : Numeral, n.IsAscii ∧
          n.chars = signText negative ++ placePoint digits (digits.length + exponent) ∧
          n.value? = some (.finite negative units isMagnitude) := by
      obtain ⟨n, hascii, hchars, hnegative, hvalue⟩ :=
        exists_numeral_placePoint hdigits negative exponent
      refine ⟨n, hascii, hchars, ?_⟩
      rw [n.value?_of_isAscii hascii, Option.some.injEq, ← hnegative]
      exact Decimal.toBinary64_of_roundedUnits isMagnitude (hvalue.trans hrounded)
    rw [positionalChars]
    split
    · next hzero =>
      have hrounded : Decimal.roundedUnits (Decimal.ofDigits ['0']) 0 = units := by
        rw [hzero]
        exact Decimal.roundedUnits_zero 0
      exact hplaced rfl hrounded
    · apply hplaced (Decimal.isDigits_toDigits _)
      rw [Decimal.ofDigits_toDigits]
      exact Shortest.roundedUnits_digits .up isMagnitude

/-- Every number reads back from its positional form. -/
theorem ofText?_positional (x : Binary64) : ofText? x.positional = some x := by
  cases x with
  | nan => decide
  | infinite negative => cases negative <;> decide
  | finite negative units isMagnitude =>
    have hfinite : (Binary64.finite negative units isMagnitude).isFinite = true := rfl
    obtain ⟨n, -, hchars, hvalue⟩ := exists_numeral_positional hfinite
    rw [positional, ← hchars]
    exact hvalue

end Binary64

/-! ### Integers -/

namespace Integer

private theorem splitSign_toText (n : Int) :
    Decimal.splitSign (toText n).toList = (decide (n < 0), Nat.toDigits 10 n.natAbs) := by
  have hsign : (if n < 0 then ['-'] else []) = signText (decide (n < 0)) := by simp [signText]
  rw [toText, String.toList_ofList, hsign,
    splitSign_signText_append _ (Decimal.isDigits_toDigits n.natAbs)]

/-- Every integer reads back from its text. -/
theorem ofChars?_toText (n : Int) : ofChars? (toText n).toList = some n := by
  rw [ofChars?, splitSign_toText]
  dsimp only
  rw [if_pos (Decimal.isDigits_toDigits _), Decimal.ofDigits_toDigits, Option.some.injEq]
  split
  · next hneg =>
    rw [decide_eq_true_eq] at hneg
    omega
  · next hnonneg =>
    rw [decide_eq_true_eq] at hnonneg
    omega

/-- Every integer of 64 bits reads back from its text. -/
theorem int64OfText?_toText (n : Int64) : int64OfText? (toText n.toInt) = some n.toInt := by
  have hlow := n.le_toInt
  have hhigh := n.toInt_lt
  have hfits : isInt64 n.toInt = true := by
    rw [isInt64, Bool.and_eq_true, decide_eq_true_eq, decide_eq_true_eq, int64Min, int64Max]
    omega
  rw [int64OfText?, ofChars?_toText, Option.filter_some, if_pos hfits]

end Integer
end CertCatalog
