import CertCatalog.Proofs.Number.LetterCase
import CertCatalog.Proofs.Number.Order
import CertCatalog.Text.CharacterClass
import Mathlib.Data.List.TakeWhile

/-!
# Numerals

A numeral is a plain number as it is written: an optional minus sign, a row of digits, and
optionally a point with a further row. Digits of every script make up a numeral, but only ASCII
digits have a value, so a numeral is read as a plain number, and as a floating-point text, exactly
when its digits are ASCII. Both readings are the same number, which is never not-a-number.
-/

namespace CertCatalog

/-! ### Texts of decimals -/

private theorem Decimal.isNaN_toBinary64 (d : Decimal) : d.toBinary64.isNaN = false := by
  unfold toBinary64
  split
  · exact Binary64.isNaN_ofRatio _ _ _
  · split
    · rfl
    · exact Binary64.isNaN_ofRatio _ _ _

private theorem Decimal.append_splitMinus (cs : List Char) :
    (if (splitMinus cs).1 then ['-'] else []) ++ (splitMinus cs).2 = cs := by
  fun_cases splitMinus cs <;> simp

theorem Text.ne_of_isDecimalDigit {c d : Char} (h : isDecimalDigit c = true)
    (hd : isDecimalDigit d = false) : c ≠ d := by
  rintro rfl
  simp [h] at hd

private theorem Text.toLower_of_isDecimalDigit {c : Char} (h : isDecimalDigit c = true) :
    c.toLower = c := by
  have hcapitals : capitals.all (!isDecimalDigit ·) = true := by decide
  rcases toLower_eq_self_or_mem_capitals c with hself | hcapital
  · exact hself
  · simpa [h] using List.all_eq_true.mp hcapitals c hcapital

private theorem Decimal.exponent?_of_isDecimalDigit {c : Char} (h : Text.isDecimalDigit c = true)
    (cs : List Char) : exponent? (c :: cs) = none := by
  have hsmall : c ≠ 'e' := Text.ne_of_isDecimalDigit h (by decide)
  have hcapital : c ≠ 'E' := Text.ne_of_isDecimalDigit h (by decide)
  simp [exponent?, hsmall, hcapital]

/-! ### Rows of digits -/

/-- A row of decimal digits of any script, one at least. -/
@[ext] structure DigitRow where
  chars : List Char
  ne_nil : chars ≠ []
  isDecimalDigit_of_mem : ∀ c ∈ chars, Text.isDecimalDigit c = true

namespace DigitRow

variable (row : DigitRow)

/-- Every digit is an ASCII digit. -/
def IsAscii : Prop := ∀ c ∈ row.chars, c.isDigit = true

theorem exists_cons : ∃ c cs, row.chars = c :: cs ∧ Text.isDecimalDigit c = true := by
  obtain ⟨c, cs, hchars⟩ := List.exists_cons_of_ne_nil row.ne_nil
  exact ⟨c, cs, hchars, row.isDecimalDigit_of_mem c (by simp [hchars])⟩

theorem notMem {c : Char} (h : Text.isDecimalDigit c = false) : c ∉ row.chars := by
  intro hc
  exact Text.ne_of_isDecimalDigit (row.isDecimalDigit_of_mem c hc) h rfl

theorem isDigits_iff_forall {cs : List Char} :
    Decimal.isDigits cs = true ↔ cs ≠ [] ∧ ∀ c ∈ cs, c.isDigit = true := by
  simp [Decimal.isDigits]

private theorem isDigits_iff : Decimal.isDigits row.chars = true ↔ row.IsAscii := by
  simp [isDigits_iff_forall, IsAscii, row.ne_nil]

/-- The row of ASCII digits that are read as digits. -/
def ofDigits (cs : List Char) (h : Decimal.isDigits cs = true) : DigitRow where
  chars := cs
  ne_nil := (isDigits_iff_forall.mp h).1
  isDecimalDigit_of_mem := fun c hc ↦
    Text.isDecimalDigit_of_isDigit ((isDigits_iff_forall.mp h).2 c hc)

theorem isAscii_ofDigits {cs : List Char} (h : Decimal.isDigits cs = true) :
    (ofDigits cs h).IsAscii := (isDigits_iff_forall.mp h).2

variable {row}

private theorem IsAscii.takeWhile_append (h : row.IsAscii) (rest : List Char) :
    (row.chars ++ rest).takeWhile Char.isDigit = row.chars ++ rest.takeWhile Char.isDigit :=
  List.takeWhile_append_of_pos h

private theorem IsAscii.dropWhile_append (h : row.IsAscii) (rest : List Char) :
    (row.chars ++ rest).dropWhile Char.isDigit = rest.dropWhile Char.isDigit :=
  List.dropWhile_append_of_pos h

private theorem exists_dropWhile_append (h : ¬row.IsAscii) (rest : List Char) :
    ∃ c cs, (row.chars ++ rest).dropWhile Char.isDigit = c :: cs ∧
      Text.isDecimalDigit c = true := by
  have hdrop : row.chars.dropWhile Char.isDigit ≠ [] :=
    fun hnil ↦ h (List.dropWhile_eq_nil_iff.mp hnil)
  obtain ⟨c, cs, hcons⟩ := List.exists_cons_of_ne_nil hdrop
  have hc : c ∈ row.chars := (List.dropWhile_suffix _).mem (hcons ▸ List.mem_cons_self)
  refine ⟨c, cs ++ rest, ?_, row.isDecimalDigit_of_mem c hc⟩
  rw [List.dropWhile_append, hcons]
  rfl

end DigitRow

/-! ### Numerals and their characters -/

/-- A plain number as it is written. -/
@[ext] structure Numeral where
  isNegative : Bool
  whole : DigitRow
  fraction : Option DigitRow

namespace Numeral

/-- A point with the row behind it, if there is one. -/
def fractionChars : Option DigitRow → List Char
  | none => []
  | some row => '.' :: row.chars

/-- The characters behind the sign. -/
def body (n : Numeral) : List Char := n.whole.chars ++ fractionChars n.fraction

/-- The characters of a numeral. -/
def chars (n : Numeral) : List Char := (if n.isNegative then ['-'] else []) ++ n.body

/-- Every digit is an ASCII digit. -/
def IsAscii (n : Numeral) : Prop := n.whole.IsAscii ∧ ∀ row ∈ n.fraction, row.IsAscii

variable (n : Numeral)

private theorem exists_body_eq_cons : ∃ c cs, n.body = c :: cs ∧ Text.isDecimalDigit c = true := by
  obtain ⟨c, cs, hchars, hc⟩ := n.whole.exists_cons
  exact ⟨c, cs ++ fractionChars n.fraction, by simp [body, hchars], hc⟩

private theorem exists_chars_eq_cons :
    ∃ c cs, n.chars = c :: cs ∧ (c = '-' ∨ Text.isDecimalDigit c = true) := by
  unfold chars
  by_cases h : n.isNegative = true
  · exact ⟨'-', n.body, by simp [h], .inl rfl⟩
  · obtain ⟨c, cs, hbody, hc⟩ := n.exists_body_eq_cons
    exact ⟨c, cs, by simp [h, hbody], .inr hc⟩

/-- A numeral consists of minus signs, points and digits. -/
theorem mem_chars_cases {c : Char} (h : c ∈ n.chars) :
    c = '-' ∨ c = '.' ∨ Text.isDecimalDigit c = true := by
  unfold chars body at h
  rcases List.mem_append.mp h with hsign | hbody
  · exact .inl (List.mem_singleton.mp (List.mem_ite_nil_right.mp hsign).2)
  · rcases List.mem_append.mp hbody with hwhole | hfraction
    · exact .inr (.inr (n.whole.isDecimalDigit_of_mem c hwhole))
    · cases hrow : n.fraction with
      | none => simp [hrow, fractionChars] at hfraction
      | some row =>
        rw [hrow, fractionChars, List.mem_cons] at hfraction
        exact .inr (hfraction.imp_right (row.isDecimalDigit_of_mem c))

/-- A numeral whose digits are ASCII has one. -/
theorem exists_isDigit_of_isAscii (h : n.IsAscii) : ∃ c ∈ n.chars, c.isDigit = true := by
  obtain ⟨c, cs, hchars, -⟩ := n.whole.exists_cons
  exact ⟨c, by simp [chars, body, hchars], h.1 c (by simp [hchars])⟩

/-- A character that is neither a minus sign nor a digit does not start a numeral. -/
theorem chars_append_ne_cons {c : Char} (hminus : c ≠ '-') (hc : Text.isDecimalDigit c = false)
    (rest others : List Char) : n.chars ++ rest ≠ c :: others := by
  obtain ⟨first, cs, hchars, hfirst⟩ := n.exists_chars_eq_cons
  intro h
  rw [hchars, List.cons_append, List.cons.injEq] at h
  rcases hfirst with rfl | hfirst
  · exact hminus h.1.symm
  · exact Text.ne_of_isDecimalDigit hfirst hc h.1

/-- The sign of a numeral. -/
theorem splitMinus_chars : Decimal.splitMinus n.chars = (n.isNegative, n.body) := by
  unfold chars
  cases n.isNegative with
  | true => rfl
  | false =>
    obtain ⟨c, cs, hbody, hc⟩ := n.exists_body_eq_cons
    have hminus : c ≠ '-' := Text.ne_of_isDecimalDigit hc (by decide)
    rw [hbody]
    exact Decimal.splitMinus.eq_2 _ fun rest heq ↦ hminus (List.cons.inj heq).1

/-- A numeral has no plus sign. -/
theorem splitSign_chars : Decimal.splitSign n.chars = (n.isNegative, n.body) := by
  unfold chars
  cases n.isNegative with
  | true => rfl
  | false =>
    obtain ⟨c, cs, hbody, hc⟩ := n.exists_body_eq_cons
    have hminus : c ≠ '-' := Text.ne_of_isDecimalDigit hc (by decide)
    have hplus : c ≠ '+' := Text.ne_of_isDecimalDigit hc (by decide)
    rw [hbody]
    exact Decimal.splitSign.eq_3 _ (fun rest heq ↦ hminus (List.cons.inj heq).1)
      fun rest heq ↦ hplus (List.cons.inj heq).1

private theorem span_body :
    n.body.takeWhile Text.isDecimalDigit = n.whole.chars ∧
      n.body.dropWhile Text.isDecimalDigit = fractionChars n.fraction := by
  have hpoint : Text.isDecimalDigit '.' = false := by decide
  unfold body
  rw [List.takeWhile_append_of_pos n.whole.isDecimalDigit_of_mem,
    List.dropWhile_append_of_pos n.whole.isDecimalDigit_of_mem]
  cases n.fraction <;> simp [fractionChars, hpoint]

/-- Numerals with the same characters are the same. -/
theorem eq_of_chars_eq {n m : Numeral} (h : n.chars = m.chars) : n = m := by
  have hsplit := congrArg Decimal.splitMinus h
  rw [splitMinus_chars, splitMinus_chars, Prod.mk.injEq] at hsplit
  obtain ⟨hsign, hbody⟩ := hsplit
  obtain ⟨hwhole, hfraction⟩ := n.span_body
  rw [hbody, m.span_body.1] at hwhole
  rw [hbody, m.span_body.2] at hfraction
  refine Numeral.ext hsign (DigitRow.ext hwhole.symm) ?_
  cases hn : n.fraction <;> cases hm : m.fraction <;>
    simp_all [fractionChars, DigitRow.ext_iff]

/-! ### Readings -/

/-- The digits behind the point. -/
def fractionDigits : List Char := (n.fraction.map DigitRow.chars).getD []

/-- The decimal that a numeral of ASCII digits writes. -/
def decimal : Decimal :=
  ⟨n.isNegative, Decimal.ofDigits (n.whole.chars ++ n.fractionDigits), -n.fractionDigits.length⟩

/-- A numeral whose digits are ASCII is read as its decimal. -/
theorem plain?_of_isAscii (h : n.IsAscii) : Decimal.plain? n.chars = some n.decimal := by
  have hwhole := n.whole.isDigits_iff.mpr h.1
  unfold Decimal.plain? decimal fractionDigits
  rw [splitMinus_chars]
  dsimp only
  unfold body
  rw [h.1.takeWhile_append, h.1.dropWhile_append]
  cases hfraction : n.fraction with
  | none => simp [fractionChars, hwhole]
  | some row =>
    have hrow := row.isDigits_iff.mpr (h.2 row hfraction)
    have hpoint : '.'.isDigit = false := rfl
    simp [fractionChars, hpoint, hwhole, hrow]

/-- Every plain number is a numeral whose digits are ASCII. -/
theorem exists_chars_eq_of_plain? {cs : List Char} {d : Decimal}
    (h : Decimal.plain? cs = some d) : ∃ n : Numeral, n.IsAscii ∧ n.chars = cs := by
  unfold Decimal.plain? at h
  dsimp only at h
  have hbody := List.takeWhile_append_dropWhile (p := Char.isDigit) (l := (Decimal.splitMinus cs).2)
  split at h
  · next hrest =>
    obtain ⟨hwhole, -⟩ := Option.ite_none_right_eq_some.mp h
    refine ⟨⟨(Decimal.splitMinus cs).1, .ofDigits _ hwhole, none⟩,
      ⟨DigitRow.isAscii_ofDigits hwhole, by simp⟩, ?_⟩
    rw [hrest] at hbody
    rw [chars, body, DigitRow.ofDigits, fractionChars, hbody, Decimal.append_splitMinus]
  · next fraction hrest =>
    obtain ⟨hdigits, -⟩ := Option.ite_none_right_eq_some.mp h
    rw [Bool.and_eq_true] at hdigits
    have hrow := DigitRow.isAscii_ofDigits hdigits.2
    refine ⟨⟨(Decimal.splitMinus cs).1, .ofDigits _ hdigits.1, some (.ofDigits _ hdigits.2)⟩,
      ⟨DigitRow.isAscii_ofDigits hdigits.1, by simpa using hrow⟩, ?_⟩
    rw [hrest] at hbody
    rw [chars, body, DigitRow.ofDigits, fractionChars, DigitRow.ofDigits, hbody,
      Decimal.append_splitMinus]
  · cases h

/-- Floating-point texts read a numeral as the plain number that it is. A digit of another script
ends the digits of both readings, and neither a point nor an exponent starts with one. -/
theorem float?_chars : Decimal.float? n.chars = Decimal.plain? n.chars := by
  have hpoint : '.'.isDigit = false := rfl
  unfold Decimal.float? Decimal.plain?
  rw [splitSign_chars, splitMinus_chars]
  dsimp only
  by_cases hwhole : n.whole.IsAscii
  · have hdigits := n.whole.isDigits_iff.mpr hwhole
    have hnil : n.whole.chars.isEmpty = false := by simpa using n.whole.ne_nil
    unfold body
    rw [hwhole.takeWhile_append, hwhole.dropWhile_append]
    cases n.fraction with
    | none => simp [fractionChars, hdigits, hnil, Decimal.exponent?]
    | some row =>
      by_cases hrow : row.IsAscii
      · have htake : row.chars.takeWhile Char.isDigit = row.chars :=
          List.takeWhile_eq_self_iff.mpr hrow
        have hdrop : row.chars.dropWhile Char.isDigit = [] := List.dropWhile_eq_nil_iff.mpr hrow
        have hrow := row.isDigits_iff.mpr hrow
        simp [fractionChars, Decimal.exponent?, hpoint, hdigits, hnil, htake, hdrop, hrow]
      · obtain ⟨c, cs, hdrop, hc⟩ := DigitRow.exists_dropWhile_append hrow []
        have hexponent := Decimal.exponent?_of_isDecimalDigit hc cs
        simp_all [fractionChars, row.isDigits_iff]
  · obtain ⟨c, cs, hdrop, hc⟩ := DigitRow.exists_dropWhile_append hwhole (fractionChars n.fraction)
    have hexponent := Decimal.exponent?_of_isDecimalDigit hc cs
    have hne : c ≠ '.' := Text.ne_of_isDecimalDigit hc (by decide)
    rw [body, hdrop]
    simp [hne, hexponent]

/-- The number that a numeral writes as a floating-point text. -/
def value? : Option Binary64 := Binary64.ofText? (String.ofList n.chars)

private theorem map_toLower_body_ne {word : String} (h : word ∈ ["inf", "infinity", "nan"]) :
    n.body.map Char.toLower ≠ word.toList := by
  obtain ⟨c, cs, hbody, hc⟩ := n.exists_body_eq_cons
  have hletters : ["inf", "infinity", "nan"].all
      (·.toList.all (!Text.isDecimalDigit ·)) = true := by decide
  intro heq
  rw [hbody, List.map_cons, Text.toLower_of_isDecimalDigit hc] at heq
  have hword := List.all_eq_true.mp (List.all_eq_true.mp hletters word h) c (by simp [← heq])
  simp [hc] at hword

/-- A numeral is read as the plain number that it is. -/
theorem value?_eq : n.value? = (Decimal.plain? n.chars).map Decimal.toBinary64 := by
  have hinf : n.body.map Char.toLower ≠ "inf".toList := n.map_toLower_body_ne (by decide)
  have hinfinity : n.body.map Char.toLower ≠ "infinity".toList := n.map_toLower_body_ne (by decide)
  have hnan : n.body.map Char.toLower ≠ "nan".toList := n.map_toLower_body_ne (by decide)
  unfold value? Binary64.ofText?
  rw [String.toList_ofList, splitSign_chars, float?_chars]
  dsimp only
  rw [if_neg (not_or.mpr ⟨hinf, hinfinity⟩), if_neg hnan]

/-- A numeral of ASCII digits is read as the number of its decimal. -/
theorem value?_of_isAscii (h : n.IsAscii) : n.value? = some n.decimal.toBinary64 := by
  rw [value?_eq, plain?_of_isAscii n h, Option.map_some]

/-- A numeral is read when its digits are ASCII, and only then. -/
theorem isSome_value?_iff : n.value?.isSome = true ↔ n.IsAscii := by
  rw [value?_eq, Option.isSome_map]
  constructor
  · intro h
    obtain ⟨d, hd⟩ := Option.isSome_iff_exists.mp h
    obtain ⟨m, hm, hchars⟩ := exists_chars_eq_of_plain? hd
    rwa [← eq_of_chars_eq hchars]
  · intro h
    rw [n.plain?_of_isAscii h]
    rfl

theorem isNaN_of_value? {x : Binary64} (h : n.value? = some x) : x.isNaN = false := by
  rw [value?_eq] at h
  obtain ⟨d, -, rfl⟩ := Option.map_eq_some_iff.mp h
  exact d.isNaN_toBinary64

end Numeral
end CertCatalog
