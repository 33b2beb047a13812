import CertCatalog.Number.Decimal
import CertCatalog.Text.CharacterClass
import Mathlib.Algebra.Group.Nat.Defs
import Mathlib.Data.List.Induction

/-!
# Decimal digits and rounding

The value of a row of digits grows digit by digit from the left, and the digits of that value, with
zeros in front up to the length of the row, are the row again. Rounding a ratio depends on its value
alone, keeps every magnitude of the format, and does not cross a power of two. So the bounds beyond
which a decimal is settled at once agree with rounding it, and a whole number of at most 53 bits is
rounded to itself.
-/

namespace CertCatalog.Decimal

/-! ### Rows of digits -/

theorem digitChar_of_isDigit {c : Char} (h : c.isDigit = true) :
    Nat.digitChar (c.toNat - '0'.toNat) = c := by
  obtain ⟨hlow, hhigh⟩ := Text.isDigit_iff.mp h
  have hzero : '0'.toNat = 48 := rfl
  apply Char.toNat_inj.mp
  rw [Nat.toNat_digitChar_of_lt_ten (by omega)]
  omega

theorem ofDigits_concat (cs : List Char) (c : Char) :
    ofDigits (cs ++ [c]) = 10 * ofDigits cs + (c.toNat - '0'.toNat) := by
  simp [ofDigits]

theorem ofDigits_zero_cons (cs : List Char) : ofDigits ('0' :: cs) = ofDigits cs := by
  have hzero : '0'.toNat = 48 := rfl
  simp [ofDigits, hzero]

theorem ofDigits_replicate_append (n : Nat) (cs : List Char) :
    ofDigits (List.replicate n '0' ++ cs) = ofDigits cs := by
  induction n with
  | zero => rfl
  | succ n ih => rw [List.replicate_succ, List.cons_append, ofDigits_zero_cons, ih]

theorem ofDigits_append_replicate (cs : List Char) (n : Nat) :
    ofDigits (cs ++ List.replicate n '0') = ofDigits cs * 10 ^ n := by
  induction n with
  | zero => simp
  | succ n ih =>
    have hzero : '0'.toNat - '0'.toNat = 0 := rfl
    rw [List.replicate_succ', ← List.append_assoc, ofDigits_concat, ih, hzero, Nat.add_zero,
      Nat.pow_succ, Nat.mul_left_comm, Nat.mul_comm 10]

theorem isDigits_toDigits (n : Nat) : isDigits (Nat.toDigits 10 n) = true := by
  have hdigits : (Nat.toDigits 10 n).all Char.isDigit = true :=
    List.all_eq_true.mpr fun c hc ↦ Nat.isDigit_of_mem_toDigits (by decide) (by decide) hc
  have hne : Nat.toDigits 10 n ≠ [] := List.ne_nil_of_length_pos Nat.length_toDigits_pos
  simp [isDigits, hdigits, hne]

theorem ofDigits_toDigits (n : Nat) : ofDigits (Nat.toDigits 10 n) = n :=
  Nat.ofDigitChars_toDigits (by decide) (by decide)

theorem ofDigits_lt {cs : List Char} (h : ∀ c ∈ cs, c.isDigit = true) :
    ofDigits cs < 10 ^ cs.length := by
  induction cs using List.reverseRecOn with
  | nil => decide
  | append_singleton cs c ih =>
    have hrest := ih fun a ha ↦ h a (List.mem_append_left _ ha)
    have hc := Text.isDigit_iff.mp (h c (List.mem_append_right _ List.mem_cons_self))
    have hzero : '0'.toNat = 48 := rfl
    rw [ofDigits_concat, List.length_append, List.length_singleton, Nat.pow_succ]
    omega

end CertCatalog.Decimal

namespace CertCatalog

namespace Binary64

/-! ### Ratios of one value -/

private theorem divNearest_mul_mul (num den : Nat) {c : Nat} (hc : 0 < c) :
    divNearest (num * c) (den * c) = divNearest num den := by
  have hdouble : 2 * (num % den * c) = 2 * (num % den) * c := (Nat.mul_assoc ..).symm
  simp only [divNearest, Nat.mul_div_mul_right _ _ hc, Nat.mul_mod_mul_right, hdouble,
    Nat.mul_lt_mul_right hc]

/-- A common factor does not change the rounded ratio. -/
theorem roundUnits_mul_mul (num den : Nat) {c : Nat} (hc : 0 < c) :
    roundUnits (num * c) (den * c) = roundUnits num den := by
  have hexcess : excess (num * c) (den * c) = excess num den := by
    rw [excess, excess, Nat.mul_div_mul_right _ _ hc]
  rw [roundUnits, roundUnits, hexcess, Nat.mul_right_comm, divNearest_mul_mul _ _ hc]

/-! ### Magnitudes -/

private theorem divNearest_mul_self (n : Nat) {den : Nat} (hden : 0 < den) :
    divNearest (n * den) den = n := by
  rw [divNearest, Nat.mul_mod_left, Nat.mul_div_cancel _ hden, if_pos (by omega)]

private theorem two_pow_excess_dvd {units : Nat} (h : IsMagnitude units) :
    2 ^ excess units 1 ∣ units := by
  obtain ⟨⟨significand, scale, hsignificand, hunits⟩, -⟩ := h
  rw [Nat.pow_eq] at hsignificand
  rw [Nat.pow_eq] at hunits
  rw [excess, Nat.div_one]
  by_cases hfull : significand = 2 ^ 53
  · have hpow : units = 2 ^ (53 + scale) := by rw [hunits, hfull, Nat.pow_add]
    rw [hpow, Nat.log2_two_pow]
    exact Nat.pow_dvd_pow 2 (by omega)
  · have hbound : units < 2 ^ (53 + scale) := by
      rw [hunits, Nat.pow_add]
      exact Nat.mul_lt_mul_of_pos_right (by omega) (Nat.two_pow_pos scale)
    have hlog : units.log2 - 52 ≤ scale := by
      by_cases hzero : units = 0
      · simp [hzero]
      · have := (Nat.log2_lt hzero).mpr hbound
        omega
    rw [hunits] at hlog ⊢
    exact Nat.dvd_mul_left_of_dvd (Nat.pow_dvd_pow 2 hlog) significand

/-- A magnitude is rounded to itself. -/
theorem roundUnits_of_isMagnitude {units : Nat} (h : IsMagnitude units) :
    roundUnits units 1 = units := by
  obtain ⟨n, hn⟩ := two_pow_excess_dvd h
  have hpos : 0 < 2 ^ excess units 1 := Nat.two_pow_pos _
  rw [roundUnits, Nat.pow_eq, Nat.one_mul]
  generalize 2 ^ excess units 1 = step at hn hpos
  rw [hn, Nat.mul_comm step n, divNearest_mul_self n hpos]

/-- A number is the one that its magnitude is rounded to. -/
theorem ofRatio_of_isMagnitude (negative : Bool) {units : Nat} (h : IsMagnitude units) :
    ofRatio negative units 1 = .finite negative units h := by
  have hround := roundUnits_of_isMagnitude h
  rw [ofRatio, dif_pos (by rw [hround]; exact h.2)]
  simp only [hround]

/-! ### Bounds -/

private theorem roundUnits_eq_zero {num den : Nat} (h : 2 * num < den) :
    roundUnits num den = 0 := by
  have hdiv : num / den = 0 := Nat.div_eq_of_lt (by omega)
  have hexcess : excess num den = 0 := by
    rw [excess, hdiv]
    decide
  have hnearest : divNearest num den = 0 := by
    rw [divNearest, Nat.mod_eq_of_lt (by omega), if_pos h, hdiv]
  rw [roundUnits, hexcess]
  simp [hnearest]

private theorem div_le_divNearest (num den : Nat) : num / den ≤ divNearest num den := by
  unfold divNearest
  split
  · exact Nat.le_refl _
  · split <;> omega

private theorem two_pow_le_roundUnits {k num : Nat} (h : 2 ^ k ≤ num) :
    2 ^ k ≤ roundUnits num 1 := by
  have hpos : num ≠ 0 := by
    have := Nat.two_pow_pos k
    omega
  have hlog : k ≤ num.log2 := (Nat.le_log2 hpos).mpr h
  have hexcess : excess num 1 ≤ num.log2 := by
    rw [excess, Nat.div_one]
    omega
  -- The leading power of two is a multiple of the step, so the whole part reaches it.
  calc 2 ^ k ≤ 2 ^ num.log2 := Nat.pow_le_pow_right (by omega) hlog
    _ = 2 ^ num.log2 / 2 ^ excess num 1 * 2 ^ excess num 1 :=
        (Nat.div_mul_cancel (Nat.pow_dvd_pow 2 hexcess)).symm
    _ ≤ num / 2 ^ excess num 1 * 2 ^ excess num 1 :=
        Nat.mul_le_mul_right _ (Nat.div_le_div_right (Nat.log2_self_le hpos))
    _ ≤ divNearest num (2 ^ excess num 1) * 2 ^ excess num 1 :=
        Nat.mul_le_mul_right _ (div_le_divNearest _ _)
    _ = roundUnits num 1 := by rw [roundUnits, Nat.pow_eq, Nat.one_mul]

/-! ### Whole numbers -/

/-- The number one takes a power of two units. -/
theorem exists_one_eq : ∃ k, k = 1074 ∧ one = 2 ^ k := ⟨1074, rfl, by decide +kernel⟩

private theorem exists_limit_eq : ∃ k, k = 2098 ∧ limit = 2 ^ k := ⟨2098, rfl, by decide +kernel⟩

theorem one_pos : 0 < one := by
  obtain ⟨k, -, hone⟩ := exists_one_eq
  rw [hone]
  exact Nat.two_pow_pos k

theorem isMagnitude_mul_one {n : Nat} (h : n ≤ 2 ^ 53) : IsMagnitude (n * one) := by
  have hlimit : n * one < limit := by
    calc n * one ≤ 2 ^ 53 * one := Nat.mul_le_mul_right _ h
      _ < limit := by decide +kernel
  obtain ⟨k, -, hone⟩ := exists_one_eq
  exact ⟨⟨n, k, h, by rw [hone, Nat.pow_eq]⟩, hlimit⟩

/-- The whole part of a rounded whole number of 54 bits or more has as many at least. -/
theorem le_roundUnits_div_one {n : Nat} (h : 2 ^ 53 ≤ n) :
    2 ^ 53 ≤ roundUnits (n * one) 1 / one := by
  rw [Nat.le_div_iff_mul_le one_pos]
  obtain ⟨k, -, hone⟩ := exists_one_eq
  have hpow : 2 ^ 53 * one = 2 ^ (53 + k) := by rw [hone, Nat.pow_add]
  rw [hpow]
  apply two_pow_le_roundUnits
  rw [← hpow]
  exact Nat.mul_le_mul_right _ h

/-! ### Decimals -/

private theorem ofRatio_congr (negative : Bool) {num den num' den' : Nat}
    (h : roundUnits num den = roundUnits num' den') :
    ofRatio negative num den = ofRatio negative num' den' := by
  simp only [ofRatio, h]

end Binary64

namespace Decimal

open Binary64

/-- The units that a decimal without its sign is rounded to. -/
def roundedUnits (significand : Nat) (exponent : Int) : Nat :=
  roundUnits (ratio significand exponent).1 (ratio significand exponent).2

private theorem two_pow_le_ten_pow (k : Nat) : 2 ^ (3 * k) ≤ 10 ^ k := by
  rw [Nat.pow_mul]
  exact Nat.pow_le_pow_left (by decide) k

private theorem roundedUnits_of_small {significand : Nat} {exponent : Int}
    (h : exponent + significand.log2 + 400 < 0) : roundedUnits significand exponent = 0 := by
  obtain ⟨k, hk, hone⟩ := exists_one_eq
  apply roundUnits_eq_zero
  have hnonneg : exponent.toNat = 0 := by omega
  have hsignificand : significand < 2 ^ (significand.log2 + 1) := Nat.lt_log2_self
  rw [ratio, hnonneg, Nat.pow_eq, Nat.pow_eq, Nat.pow_zero, Nat.mul_one, hone]
  calc 2 * (significand * 2 ^ k) < 2 * (2 ^ (significand.log2 + 1) * 2 ^ k) := by
        have hpos := Nat.two_pow_pos k
        have hlt := Nat.mul_lt_mul_of_pos_right hsignificand hpos
        omega
    _ = 2 ^ (1 + (significand.log2 + 1 + k)) := by
        rw [Nat.pow_add 2 1, Nat.pow_add 2 (significand.log2 + 1), Nat.pow_one]
    _ ≤ 2 ^ (3 * (-exponent).toNat) := Nat.pow_le_pow_right (by omega) (by omega)
    _ ≤ 10 ^ (-exponent).toNat := two_pow_le_ten_pow _

theorem roundedUnits_zero (exponent : Int) : roundedUnits 0 exponent = 0 := by
  apply roundUnits_eq_zero
  rw [ratio, Nat.zero_mul, Nat.zero_mul]
  exact Nat.pow_pos (by decide)

private theorem limit_le_roundedUnits {significand : Nat} {exponent : Int} (hne : significand ≠ 0)
    (h : 400 < exponent) : limit ≤ roundedUnits significand exponent := by
  obtain ⟨k, hk, hone⟩ := exists_one_eq
  obtain ⟨l, hl, hlimit⟩ := exists_limit_eq
  have hnegative : (-exponent).toNat = 0 := by omega
  rw [roundedUnits, ratio, hnegative, Nat.pow_eq, Nat.pow_eq, Nat.pow_zero, hlimit]
  apply two_pow_le_roundUnits
  rw [hone]
  calc 2 ^ l ≤ 2 ^ (3 * exponent.toNat + k) := Nat.pow_le_pow_right (by omega) (by omega)
    _ = 2 ^ (3 * exponent.toNat) * 2 ^ k := Nat.pow_add ..
    _ ≤ 10 ^ exponent.toNat * 2 ^ k := Nat.mul_le_mul_right _ (two_pow_le_ten_pow _)
    _ ≤ significand * 10 ^ exponent.toNat * 2 ^ k :=
        Nat.mul_le_mul_right _ (Nat.le_mul_of_pos_left _ (Nat.pos_of_ne_zero hne))

/-- A decimal is rounded, also where it is settled at once. -/
theorem toBinary64_eq (d : Decimal) :
    d.toBinary64 =
      .ofRatio d.negative (ratio d.significand d.exponent).1
        (ratio d.significand d.exponent).2 := by
  have hnothing : roundUnits 0 1 = 0 := by decide
  rw [toBinary64]
  split
  · next h =>
    apply ofRatio_congr
    rw [hnothing]
    rcases h with hzero | hsmall
    · rw [hzero]
      exact (roundedUnits_zero _).symm
    · exact (roundedUnits_of_small hsmall).symm
  · next h =>
    rw [not_or] at h
    split
    · next hlarge =>
      have hlimit := limit_le_roundedUnits h.1 hlarge
      rw [roundedUnits] at hlimit
      rw [ofRatio, dif_neg (Nat.not_lt.mpr hlimit)]
    · rfl

/-- A decimal that is rounded to a magnitude is the number of that magnitude. -/
theorem toBinary64_of_roundedUnits {d : Decimal} {units : Nat} (hunits : IsMagnitude units)
    (h : roundedUnits d.significand d.exponent = units) :
    d.toBinary64 = .finite d.negative units hunits := by
  rw [toBinary64_eq, ← ofRatio_of_isMagnitude d.negative hunits]
  apply ofRatio_congr
  rw [roundUnits_of_isMagnitude hunits]
  exact h

/-- A factor of ten counts as much as a step of the exponent. -/
theorem roundedUnits_ten_mul (significand : Nat) (exponent : Int) :
    roundedUnits (10 * significand) exponent = roundedUnits significand (exponent + 1) := by
  rw [roundedUnits, roundedUnits, ratio, ratio]
  simp only [Nat.pow_eq]
  by_cases h : 0 ≤ exponent
  · have hup : (exponent + 1).toNat = exponent.toNat + 1 := by omega
    have hdown : (-exponent).toNat = (-(exponent + 1)).toNat := by omega
    have hshift : 10 * significand * 10 ^ exponent.toNat =
        significand * 10 ^ (exponent + 1).toNat := by
      rw [hup, Nat.pow_succ, Nat.mul_comm 10, Nat.mul_assoc, Nat.mul_comm 10]
    rw [hshift, hdown]
  · have hup : exponent.toNat = (exponent + 1).toNat := by omega
    have hdown : (-exponent).toNat = (-(exponent + 1)).toNat + 1 := by omega
    have hshift : 10 * significand * 10 ^ (exponent + 1).toNat * one =
        significand * 10 ^ (exponent + 1).toNat * one * 10 := by
      rw [Nat.mul_comm _ 10, Nat.mul_assoc 10, Nat.mul_assoc 10]
    rw [hup, hdown, Nat.pow_succ, hshift, roundUnits_mul_mul _ _ (by decide)]

/-- Zeros at the end of a significand count as much as an exponent. -/
theorem roundedUnits_mul_ten_pow (significand k : Nat) :
    roundedUnits (significand * 10 ^ k) 0 = roundedUnits significand k := by
  simp [roundedUnits, ratio]

end Decimal
end CertCatalog
