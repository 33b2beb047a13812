import CertCatalog.Proofs.Entry.LooseWriting

/-!
# Whole numbers of entries

Prices and years are read exactly or not at all. An integer within the bound is kept however it is
written, and one beyond it is never wrapped into the bound: a text that is too long for an integer
of 64 bits is read as a floating-point number, and the whole part of any number is clamped to 64
bits, far outside the bound.
-/

namespace CertCatalog

/-! ### Written integers -/

/-- An integer as a text may write it: an optional sign, any number of zeros, and the digits of its
magnitude. -/
structure Integer.Written where
  sign : List Char
  sign_mem : sign ∈ [[], ['+'], ['-']]
  zeros : Nat
  magnitude : Nat

namespace Integer.Written

variable (w : Integer.Written)

/-- The digits behind the sign. -/
def digits : List Char := List.replicate w.zeros '0' ++ Nat.toDigits 10 w.magnitude

/-- The text of a written integer. -/
def text : String := String.ofList (w.sign ++ w.digits)

/-- The integer that is written. -/
def value : Int := if w.sign = ['-'] then -w.magnitude else w.magnitude

private theorem isDigits_digits : Decimal.isDigits w.digits = true := by
  obtain ⟨hne, hall⟩ := DigitRow.isDigits_iff_forall.mp (Decimal.isDigits_toDigits w.magnitude)
  apply DigitRow.isDigits_iff_forall.mpr
  refine ⟨List.append_ne_nil_of_right_ne_nil _ hne, ?_⟩
  intro c hc
  rcases List.mem_append.mp hc with hzero | hdigit
  · rw [List.eq_of_mem_replicate hzero]
    decide
  · exact hall c hdigit

private theorem splitSign_text :
    Decimal.splitSign w.text.toList = (decide (w.sign = ['-']), w.digits) := by
  rw [text, String.toList_ofList]
  have hsign := w.sign_mem
  simp only [List.mem_cons, List.not_mem_nil, or_false] at hsign
  rcases hsign with hsign | hsign | hsign <;> rw [hsign]
  · exact Binary64.splitSign_signText_append false w.isDigits_digits
  · rfl
  · rfl

private theorem ofChars?_text : Integer.ofChars? w.text.toList = some w.value := by
  have hvalue : Decimal.ofDigits w.digits = w.magnitude := by
    rw [digits, Decimal.ofDigits_replicate_append, Decimal.ofDigits_toDigits]
  simp [Integer.ofChars?, w.splitSign_text, w.isDigits_digits, hvalue, value]

private theorem trim_text : Text.trim w.text = w.text := by
  apply Text.trim_ofList_eq_self
  intro c hc
  rcases List.mem_append.mp hc with hsign | hdigit
  · have hall : [[], ['+'], ['-']].all (·.all (!Text.isBlank ·)) = true := by decide
    have hclear := List.all_eq_true.mp (List.all_eq_true.mp hall w.sign w.sign_mem) c hsign
    simpa using hclear
  · have hall := (DigitRow.isDigits_iff_forall.mp w.isDigits_digits).2
    exact Text.isBlank_of_isDigit (hall c hdigit)

end Integer.Written

/-! ### Scalars -/

namespace Scalar

/-- The integer that a scalar stands for: its own, the one that it writes between blanks, or the
whole part of a finite number, toward zero. -/
inductive Denotes : Scalar → Int → Prop
  | int (n : Int64) : Denotes (.int n) n.toInt
  | text {before after : List Char} (hbefore : Text.AreBlank before)
      (hafter : Text.AreBlank after) (w : Integer.Written) :
      Denotes (.text (Text.pad before w.text after)) w.value
  | float {x : Binary64} {place : Int} (hfinite : x.isFinite = true)
      (hplace : x.place = some place) : Denotes (.float x) (place.tdiv Binary64.one)

private theorem agreeAsNatural_of_ofChars? {s : String} {n : Int}
    (h : Integer.ofChars? (Text.trim s).toList = some n) :
    AgreeAsNatural (asInt? (.text s)) (some n) := by
  rw [asInt?, Integer.int64OfText?, h, Option.filter_some]
  split
  · exact .refl _
  · obtain ⟨x, hread, hagree⟩ := wholePart?_of_ofChars? h
    rw [hread]
    exact hagree

private theorem agreeAsNatural_float {x : Binary64} {place : Int} (hfinite : x.isFinite = true)
    (hplace : x.place = some place) :
    AgreeAsNatural (asInt? (.float x)) (some (place.tdiv Binary64.one)) := by
  cases x with
  | nan => cases hfinite
  | infinite negative => cases hfinite
  | finite negative units h =>
    have hwhole : place.tdiv Binary64.one =
        if negative then -((units / Binary64.one : Nat) : Int)
        else (units / Binary64.one : Nat) := by
      rw [← Option.some.inj hplace]
      generalize Binary64.one = one
      cases negative <;> simp [Int.neg_tdiv]
    intro k hk
    rw [asInt?, wholePart?_finite, hwhole, Option.some.injEq, Option.some.injEq,
      clampInt64_eq_natCast_iff hk]

/-- A scalar is read as the integer that it stands for, as far as natural numbers of up to 53 bits
are concerned. -/
theorem Denotes.agreeAsNatural {v : Scalar} {n : Int} (h : v.Denotes n) :
    AgreeAsNatural v.asInt? (some n) := by
  cases h with
  | int n => exact .refl _
  | text hbefore hafter w =>
    apply agreeAsNatural_of_ofChars?
    rw [Text.trim_pad hbefore hafter, w.trim_text, w.ofChars?_text]
  | float hfinite hplace => exact agreeAsNatural_float hfinite hplace

private theorem asInt?_of_not_isFinite {x : Binary64} (h : x.isFinite = false) :
    asInt? (.float x) = none := by
  cases x with
  | nan => rfl
  | infinite negative => rfl
  | finite negative units hmagnitude => cases h

end Scalar

/-! ### Entries -/

namespace Entry

variable {e : Entry} {key : ScalarKey} {bound : Nat}

/-- The whole number of a key is the integer that its value stands for, within the bound. -/
theorem natural_of_denotes {v : Scalar} {n : Int} (hkey : e.scalar key = some v)
    (h : v.Denotes n) (hbound : bound < 2 ^ 53) :
    (e.natural key bound : Int) = if 0 ≤ n ∧ n ≤ bound then n else 0 := by
  -- The bound is below 53 bits, where every reading of the value agrees with its integer.
  have hagree := h.agreeAsNatural
  split
  · next hrange =>
    obtain ⟨k, rfl⟩ := Int.eq_ofNat_of_zero_le hrange.1
    have hread : (e.scalar key).bind Scalar.asInt? = some (k : Int) := by
      rw [hkey, Option.bind_some]
      exact (hagree k (by omega)).mpr rfl
    rw [natural_of_asInt? hread (by omega)]
  · next hrange =>
    rw [natural_eq_zero]
    · rfl
    · intro k hk hread
      rw [hkey, Option.bind_some, hagree k (by omega), Option.some.injEq] at hread
      omega

/-- The whole number of a key with a number that is not finite is zero. -/
theorem natural_of_not_isFinite {x : Binary64} (hkey : e.scalar key = some (.float x))
    (h : x.isFinite = false) : e.natural key bound = 0 := by
  apply natural_eq_zero
  intro k _ hread
  rw [hkey, Option.bind_some, Scalar.asInt?_of_not_isFinite h] at hread
  cases hread

/-- Prices and years are read exactly or not at all, and never wrapped. The price of a record is the
integer that its entry stands for, when that fits 32 bits, and zero otherwise; the year likewise
with 16 bits; and a number that is not finite is neither. -/
theorem price_and_year_toRecord (e : Entry) :
    (∀ (v : Scalar) (n : Int), v.Denotes n →
      (e.scalar .priceUsd = some v →
        (e.toRecord.priceUsd.toNat : Int) = if 0 ≤ n ∧ n ≤ 4294967295 then n else 0) ∧
      (e.scalar .introducedYear = some v →
        (e.toRecord.introducedYear.toNat : Int) = if 0 ≤ n ∧ n ≤ 65535 then n else 0)) ∧
    ∀ x : Binary64, x.isFinite = false →
      (e.scalar .priceUsd = some (.float x) → e.toRecord.priceUsd.toNat = 0) ∧
      (e.scalar .introducedYear = some (.float x) → e.toRecord.introducedYear.toNat = 0) := by
  rw [toNat_priceUsd, toNat_introducedYear]
  refine ⟨fun v n h ↦ ⟨fun hprice ↦ ?_, fun hyear ↦ ?_⟩,
    fun x h ↦ ⟨fun hprice ↦ ?_, fun hyear ↦ ?_⟩⟩
  · exact natural_of_denotes hprice h (by decide)
  · exact natural_of_denotes hyear h (by decide)
  · exact natural_of_not_isFinite hprice h
  · exact natural_of_not_isFinite hyear h

/-- A price with a sign and zeros between blanks is kept with a year that has a fraction. One beyond
64 bits is dropped, as is a year that is not a number. -/
theorem price_and_year_toRecord_of_texts :
    let kept : Integer.Written := ⟨['+'], by decide, 2, 979⟩
    let dropped : Integer.Written := ⟨[], by decide, 0, 2 ^ 64 + 979⟩
    let year := Binary64.ofRatio false (4053 * Binary64.one) 2
    let price := Text.pad [' '] kept.text ['\u00A0']
    let price' := Text.pad [] dropped.text []
    let e := (blank.setScalar .priceUsd (some (.text price))).setScalar
      .introducedYear (some (.float year))
    let e' := (blank.setScalar .priceUsd (some (.text price'))).setScalar
      .introducedYear (some (.float .nan))
    price = " +00979\u00A0" ∧ price' = "18446744073709552595" ∧
      (e.toRecord.priceUsd.toNat : Int) = 979 ∧ (e.toRecord.introducedYear.toNat : Int) = 2026 ∧
      (e'.toRecord.priceUsd.toNat : Int) = 0 ∧ e'.toRecord.introducedYear.toNat = 0 := by
  intro kept dropped year price price' e e'
  have hspace : Text.AreBlank [' '] := List.forall_mem_singleton.mpr (by decide)
  have hnoBreak : Text.AreBlank ['\u00A0'] := List.forall_mem_singleton.mpr (by decide)
  have hnone : Text.AreBlank [] := List.forall_mem_nil _
  have hplace : year.place = some ((4053 * (Binary64.one / 2) : Nat) : Int) := by decide +kernel
  have hwhole : ((4053 * (Binary64.one / 2) : Nat) : Int).tdiv Binary64.one = 2026 := by
    decide +kernel
  have hyear : Scalar.Denotes (.float year) 2026 := hwhole ▸ .float (by decide +kernel) hplace
  refine ⟨by decide, by decide, ?_, ?_, ?_, ?_⟩
  · exact ((price_and_year_toRecord e).1 _ _ (.text hspace hnoBreak kept)).1 rfl
  · exact ((price_and_year_toRecord e).1 _ _ hyear).2 rfl
  · exact ((price_and_year_toRecord e').1 _ _ (.text hnone hnone dropped)).1 rfl
  · exact ((price_and_year_toRecord e').2 .nan rfl).2 rfl

end Entry
end CertCatalog
