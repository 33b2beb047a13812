import CertCatalog.Audit
import CertCatalog.Proofs.Number.Decimal
import CertCatalog.Proofs.Text.Trimmed
import Mathlib.Algebra.GroupWithZero.Nat
import Mathlib.Data.List.Induction
import Mathlib.Data.List.TakeWhile
import Mathlib.Data.Option.Basic

/-!
# Written dates

A date reads back its own written form: a text of the shape that the audit asks for, with four, two
and two digits, is the written form of the date that it yields. Digits of other scripts share the
shape, but take more bytes than a date text has.
-/

namespace CertCatalog

/-! ### Decimal digits of any script -/

namespace Text

private theorem isDigit_of_isDecimalDigit {c : Char} (h : isDecimalDigit c = true)
    (hsize : c.utf8Size = 1) : c.isDigit = true := by
  have hsmall : c.toNat ≤ 127 := Char.utf8Size_eq_one_iff.mp hsize
  have hascii : ∀ r ∈ decimalDigitRanges, r.1 ≤ 127 → r = (48, 57) := by decide
  obtain ⟨r, hr, hlow, hhigh⟩ := inRanges_eq_true_iff.mp h
  cases hascii r hr (by omega)
  exact Text.isDigit_iff.mpr ⟨hlow, hhigh⟩

private theorem utf8Size_of_isDigit {c : Char} (h : c.isDigit = true) : c.utf8Size = 1 := by
  have hsmall : c.toNat ≤ 127 := by
    have := Text.isDigit_iff.mp h
    omega
  exact Char.utf8Size_eq_one_iff.mpr hsmall

theorem utf8ByteSize_ofList (cs : List Char) :
    (String.ofList cs).utf8ByteSize = (cs.map Char.utf8Size).sum := by
  induction cs with
  | nil => rfl
  | cons c cs ih =>
    have hsplit : String.ofList (c :: cs) = String.singleton c ++ String.ofList cs := by
      rw [String.singleton_eq_ofList, ← String.ofList_append]
      rfl
    rw [hsplit, String.utf8ByteSize_append, String.utf8ByteSize_singleton, ih, List.map_cons,
      List.sum_cons]

theorem length_le_sum_utf8Size (cs : List Char) : cs.length ≤ (cs.map Char.utf8Size).sum := by
  induction cs with
  | nil => exact Nat.le_refl 0
  | cons c cs ih =>
    have hpos := c.utf8Size_pos
    rw [List.length_cons, List.map_cons, List.sum_cons]
    omega

private theorem sum_utf8Size_eq_length {cs : List Char} (h : ∀ c ∈ cs, c.utf8Size = 1) :
    (cs.map Char.utf8Size).sum = cs.length := by
  rw [List.map_congr_left h, List.map_const', List.sum_replicate_nat, Nat.mul_one]

private theorem utf8Size_eq_one {cs : List Char} (h : (cs.map Char.utf8Size).sum = cs.length) :
    ∀ c ∈ cs, c.utf8Size = 1 := by
  induction cs with
  | nil => exact fun c hc ↦ absurd hc List.not_mem_nil
  | cons c cs ih =>
    have hpos := c.utf8Size_pos
    have hle := length_le_sum_utf8Size cs
    rw [List.length_cons, List.map_cons, List.sum_cons] at h
    rw [List.forall_mem_cons]
    exact ⟨by omega, ih (by omega)⟩

end Text

namespace CalendarDate

/-! ### Numbers of a date -/

private theorem padded_concat {width : Nat} (hwidth : 0 < width) (n : Nat) {value : Nat}
    (hvalue : value < 10) :
    padded (width + 1) (10 * n + value) = padded width n ++ [Nat.digitChar value] := by
  have hdigit := Nat.toDigits_of_lt_base (b := 10) hvalue
  by_cases hn : n = 0
  · subst hn
    obtain ⟨k, rfl⟩ := Nat.exists_eq_succ_of_ne_zero (Nat.ne_of_gt hwidth)
    have hzero : Nat.toDigits 10 0 = ['0'] := rfl
    rw [padded, padded, Nat.mul_zero, Nat.zero_add, hdigit, hzero]
    simp [← List.replicate_succ']
  · have hsplit := Nat.toDigits_append_toDigits (b := 10) (by omega) (Nat.pos_of_ne_zero hn) hvalue
    rw [padded, padded, ← hsplit, hdigit]
    simp

private theorem padded_ofDigits {cs : List Char} (hne : cs ≠ []) (h : ∀ c ∈ cs, c.isDigit = true) :
    padded cs.length (Decimal.ofDigits cs) = cs := by
  induction cs using List.reverseRecOn with
  | nil => exact absurd rfl hne
  | append_singleton cs c ih =>
    have hc := h c (List.mem_append_right _ List.mem_cons_self)
    have hdigit := Decimal.digitChar_of_isDigit hc
    have hrange := Text.isDigit_iff.mp hc
    have hzero : '0'.toNat = 48 := rfl
    have hvalue : c.toNat - '0'.toNat < 10 := by omega
    rw [Decimal.ofDigits_concat, List.length_append, List.length_singleton]
    by_cases hcs : cs = []
    · subst hcs
      have hone : Nat.toDigits 10 (c.toNat - '0'.toNat) = [c] := by
        rw [Nat.toDigits_of_lt_base hvalue, hdigit]
      have hempty : Decimal.ofDigits [] = 0 := rfl
      rw [hempty, Nat.mul_zero, Nat.zero_add, padded, hone]
      rfl
    · rw [padded_concat (List.length_pos_iff.mpr hcs) _ hvalue, hdigit,
        ih hcs fun a ha ↦ h a (List.mem_append_left _ ha)]

private theorem takeNumber?_append {digits : List Char} (hne : digits ≠ [])
    (h : ∀ c ∈ digits, c.isDigit = true) (rest : List Char) :
    takeNumber? digits.length (digits ++ rest) = some (Decimal.ofDigits digits, rest) := by
  obtain ⟨c, cs, rfl⟩ := List.exists_cons_of_ne_nil hne
  have hstart : Text.trimStart ((c :: cs) ++ rest) = (c :: cs) ++ rest :=
    List.dropWhile_cons_of_neg (by simp [Text.isBlank_of_isDigit (h c List.mem_cons_self)])
  have htake : (((c :: cs) ++ rest).take (c :: cs).length).takeWhile Char.isDigit = c :: cs := by
    rw [List.take_left, List.takeWhile_eq_self_iff]
    exact h
  rw [takeNumber?, hstart]
  simp only [htake, List.drop_left]
  rfl

private theorem takeYear?_append {digits : List Char} (hlength : digits.length = 4)
    (h : ∀ c ∈ digits, c.isDigit = true) (rest : List Char) :
    takeYear? (digits ++ rest) = some ((Decimal.ofDigits digits : Int), rest) := by
  have hne : digits ≠ [] := List.ne_nil_of_length_pos (by omega)
  have hnumber := takeNumber?_append hne h rest
  rw [hlength] at hnumber
  obtain ⟨c, cs, rfl⟩ := List.exists_cons_of_ne_nil hne
  have hc := h c List.mem_cons_self
  have hstart : Text.trimStart ((c :: cs) ++ rest) = (c :: cs) ++ rest :=
    List.dropWhile_cons_of_neg (by simp [Text.isBlank_of_isDigit hc])
  rw [takeYear?, hstart]
  dsimp only
  rw [List.cons_append]
  split
  · next heq => cases heq; cases hc
  · next heq => cases heq; cases hc
  · rw [← List.cons_append, hnumber]
    rfl

private theorem ofChars?_digits {year month day : List Char} (hyear : year.length = 4)
    (hmonth : month.length = 2) (hday : day.length = 2)
    (hdigits : ∀ c ∈ year ++ (month ++ day), c.isDigit = true) :
    ofChars? (year ++ '-' :: (month ++ '-' :: day)) =
      ofFields? (Decimal.ofDigits year) (Decimal.ofDigits month) (Decimal.ofDigits day) := by
  simp only [List.forall_mem_append] at hdigits
  obtain ⟨hy, hm, hd⟩ := hdigits
  have hmonths := takeNumber?_append (List.ne_nil_of_length_pos (by omega)) hm ('-' :: day)
  have hdays := takeNumber?_append (List.ne_nil_of_length_pos (by omega)) hd []
  rw [hmonth] at hmonths
  rw [hday, List.append_nil] at hdays
  simp [ofChars?, takeYear?_append hyear hy, takeHyphen?, hmonths, hdays]

theorem fields_eq_of_ofFields? {year : Int} {month day : Nat} {d : CalendarDate}
    (h : ofFields? year month day = some d) : d.year = year ∧ d.month = month ∧ d.day = day := by
  rw [ofFields?] at h
  split at h
  · cases h
    exact ⟨rfl, rfl, rfl⟩
  · cases h

/-- The written form of a date whose year has four digits and whose month and day have two. -/
theorem toText_digits {year month day : List Char} (hyear : year.length = 4)
    (hmonth : month.length = 2) (hday : day.length = 2)
    (hdigits : ∀ c ∈ year ++ (month ++ day), c.isDigit = true) {d : CalendarDate}
    (hyears : d.year = Decimal.ofDigits year) (hmonths : d.month = Decimal.ofDigits month)
    (hdays : d.day = Decimal.ofDigits day) :
    d.toText = String.ofList (year ++ '-' :: (month ++ '-' :: day)) := by
  simp only [List.forall_mem_append] at hdigits
  obtain ⟨hy, hm, hd⟩ := hdigits
  have hbound := Decimal.ofDigits_lt hy
  rw [hyear] at hbound
  have hyearText := padded_ofDigits (List.ne_nil_of_length_pos (by omega)) hy
  have hmonthText := padded_ofDigits (List.ne_nil_of_length_pos (by omega)) hm
  have hdayText := padded_ofDigits (List.ne_nil_of_length_pos (by omega)) hd
  rw [hyear] at hyearText
  rw [hmonth] at hmonthText
  rw [hday] at hdayText
  have hnonneg : ¬(d.year < 0) := by omega
  have hsmall : ¬(9999 < d.year) := by omega
  rw [toText, if_neg hnonneg, if_neg hsmall, hyears, hmonths, hdays, Int.natAbs_natCast, hyearText,
    hmonthText, hdayText]
  simp

/-! ### Written dates read back -/

private theorem length_padded {width n : Nat} (hwidth : 0 < width) (h : n < 10 ^ width) :
    (padded width n).length = width := by
  have hle := (Nat.length_toDigits_le_iff (b := 10) (by omega) hwidth).mpr h
  rw [padded, List.length_append, List.length_replicate]
  omega

private theorem isDigit_of_mem_padded {width n : Nat} {c : Char} (h : c ∈ padded width n) :
    c.isDigit = true := by
  rcases List.mem_append.mp h with hzero | hdigit
  · rw [List.eq_of_mem_replicate hzero]
    decide
  · exact Nat.isDigit_of_mem_toDigits (by decide) (by decide) hdigit

private theorem ofDigits_padded (width n : Nat) : Decimal.ofDigits (padded width n) = n := by
  rw [padded, Decimal.ofDigits_replicate_append, Decimal.ofDigits_toDigits]

private theorem month_lt_and_day_lt (d : CalendarDate) : d.month < 10 ^ 2 ∧ d.day < 10 ^ 2 := by
  have hpos := d.day_pos
  have hle := d.day_le
  rw [daysInMonth] at hle
  split_ifs at hle <;> omega

/-- Rows of digits with hyphens hold nothing else. -/
theorem eq_hyphen_or_isDigit_of_mem {year month day : List Char}
    (hdigits : ∀ c ∈ year ++ (month ++ day), c.isDigit = true) {c : Char}
    (hc : c ∈ year ++ '-' :: (month ++ '-' :: day)) : c = '-' ∨ c.isDigit = true := by
  simp only [List.mem_append, List.mem_cons] at hc hdigits
  have hdigit := hdigits c
  tauto

theorem utf8ByteSize_digits {year month day : List Char}
    (hdigits : ∀ c ∈ year ++ (month ++ day), c.isDigit = true) :
    (String.ofList (year ++ '-' :: (month ++ '-' :: day))).utf8ByteSize =
      year.length + month.length + day.length + 2 := by
  have hone : ∀ c ∈ year ++ '-' :: (month ++ '-' :: day), c.utf8Size = 1 := by
    intro c hc
    rcases eq_hyphen_or_isDigit_of_mem hdigits hc with rfl | hdigit
    · decide
    · exact Text.utf8Size_of_isDigit hdigit
  rw [Text.utf8ByteSize_ofList, Text.sum_utf8Size_eq_length hone]
  simp only [List.length_append, List.length_cons]
  omega

/-- A date whose year has four digits is written in four, two and two digits. -/
theorem exists_digits_toText {d : CalendarDate} (hlow : 0 ≤ d.year) (hhigh : d.year ≤ 9999) :
    ∃ year month day : List Char, d.toText = String.ofList (year ++ '-' :: (month ++ '-' :: day)) ∧
      year.length = 4 ∧ month.length = 2 ∧ day.length = 2 ∧
      (∀ c ∈ year ++ (month ++ day), c.isDigit = true) ∧
      d.year = Decimal.ofDigits year ∧ d.month = Decimal.ofDigits month ∧
      d.day = Decimal.ofDigits day := by
  obtain ⟨hmonth, hday⟩ := d.month_lt_and_day_lt
  have hyear : d.year.natAbs < 10 ^ 4 := by omega
  have hyearLength := length_padded (by decide) hyear
  have hmonthLength := length_padded (by decide) hmonth
  have hdayLength := length_padded (by decide) hday
  have hdigits : ∀ c ∈ padded 4 d.year.natAbs ++ (padded 2 d.month ++ padded 2 d.day),
      c.isDigit = true := by
    simp only [List.mem_append]
    rintro c (hc | hc | hc) <;> exact isDigit_of_mem_padded hc
  have hyears : d.year = Decimal.ofDigits (padded 4 d.year.natAbs) := by
    rw [ofDigits_padded, Int.natAbs_of_nonneg hlow]
  have hmonths := (ofDigits_padded 2 d.month).symm
  have hdays := (ofDigits_padded 2 d.day).symm
  exact ⟨_, _, _, toText_digits hyearLength hmonthLength hdayLength hdigits hyears hmonths hdays,
    hyearLength, hmonthLength, hdayLength, hdigits, hyears, hmonths, hdays⟩

/-- A date reads back from its written form when its year has four digits. -/
theorem ofText?_toText {d : CalendarDate} (hlow : 0 ≤ d.year) (hhigh : d.year ≤ 9999) :
    ofText? d.toText = some d := by
  obtain ⟨year, month, day, htext, hyearLength, hmonthLength, hdayLength, hdigits, hyears, hmonths,
    hdays⟩ := exists_digits_toText hlow hhigh
  have htrim : Text.trim d.toText = d.toText := by
    rw [htext]
    apply Text.trim_ofList_eq_self
    intro c hc
    rcases eq_hyphen_or_isDigit_of_mem hdigits hc with rfl | hdigit
    · decide
    · exact Text.isBlank_of_isDigit hdigit
  have hsize : d.toText.utf8ByteSize = textSize := by
    rw [htext, utf8ByteSize_digits hdigits, hyearLength, hmonthLength, hdayLength, textSize]
  have hfields : ofFields? d.year d.month d.day = some d := dif_pos ⟨d.day_pos, d.day_le⟩
  rw [ofText?, htrim, if_pos hsize, htext, String.toList_ofList,
    ofChars?_digits hyearLength hmonthLength hdayLength hdigits, ← hyears, ← hmonths, ← hdays,
    hfields]

end CalendarDate

/-! ### Texts of the shape of a date -/

namespace Audit

/-- The shape of a date, part by part. -/
theorem hasDateShape_iff {cs : List Char} :
    hasDateShape cs = true ↔
      ∃ year month day : List Char, cs = year ++ '-' :: (month ++ '-' :: day) ∧
        year.length = 4 ∧ month.length = 2 ∧ day.length = 2 ∧
        ∀ c ∈ year ++ (month ++ day), Text.isDecimalDigit c = true := by
  -- The check writes a zero for every digit and compares the outcome with a pattern.
  have hzero (c : Char) :
      (if Text.isDecimalDigit c then '0' else c) = '0' ↔ Text.isDecimalDigit c = true := by
    cases hc : Text.isDecimalDigit c with
    | true => simp
    | false =>
      simp only [Bool.false_eq_true, if_false, iff_false]
      rintro rfl
      exact absurd hc (by decide)
  have hhyphen (c : Char) : (if Text.isDecimalDigit c then '0' else c) = '-' ↔ c = '-' := by
    cases hc : Text.isDecimalDigit c with
    | true =>
      simp only [if_true]
      constructor
      · intro h
        exact absurd h (by decide)
      · rintro rfl
        exact absurd hc (by decide)
    | false => simp
  have hdigits (n : Nat) (ds : List Char) :
      ds.map (fun c ↦ if Text.isDecimalDigit c then '0' else c) = List.replicate n '0' ↔
        ds.length = n ∧ ∀ c ∈ ds, Text.isDecimalDigit c = true := by
    rw [List.eq_replicate_iff, List.length_map, List.forall_mem_map]
    simp only [hzero]
  have hshape : "0000-00-00".toList =
      List.replicate 4 '0' ++ '-' :: (List.replicate 2 '0' ++ '-' :: List.replicate 2 '0') := by
    decide
  rw [hasDateShape, hshape, beq_iff_eq]
  simp only [List.map_eq_append_iff, List.map_eq_cons_iff, hdigits, hhyphen,
    List.forall_mem_append]
  constructor
  · rintro ⟨year, _, rfl, ⟨hyear, hy⟩, _, _, rfl, rfl, month, _, rfl, ⟨hmonth, hm⟩, _, day, rfl,
      rfl, hday, hd⟩
    exact ⟨year, month, day, rfl, hyear, hmonth, hday, hy, hm, hd⟩
  · rintro ⟨year, month, day, rfl, hyear, hmonth, hday, hy, hm, hd⟩
    exact ⟨year, _, rfl, ⟨hyear, hy⟩, _, _, rfl, rfl, month, _, rfl, ⟨hmonth, hm⟩, _, day, rfl,
      rfl, hday, hd⟩

private theorem trim_of_hasDateShape {s : String} (h : hasDateShape s.toList = true) :
    Text.trim s = s := by
  obtain ⟨year, month, day, hchars, -, -, -, hdecimal⟩ := hasDateShape_iff.mp h
  have hblank : ∀ c ∈ s.toList, Text.isBlank c = false := by
    intro c hc
    simp only [List.forall_mem_append] at hdecimal
    obtain ⟨hy, hm, hd⟩ := hdecimal
    simp only [hchars, List.mem_append, List.mem_cons] at hc
    rcases hc with hc | rfl | hc | rfl | hc
    · exact Text.isBlank_of_isDecimalDigit (hy c hc)
    · decide
    · exact Text.isBlank_of_isDecimalDigit (hm c hc)
    · decide
    · exact Text.isBlank_of_isDecimalDigit (hd c hc)
  rw [Text.trim, Text.trimChars_eq_self hblank, String.ofList_toList]

/-- A text of the shape of a date that yields one is the written form of the date. -/
theorem toText_of_hasDateShape {s : String} {d : CalendarDate}
    (hshape : hasDateShape s.toList = true) (h : CalendarDate.ofText? s = some d) :
    d.toText = s := by
  obtain ⟨year, month, day, hchars, hyear, hmonth, hday, hdecimal⟩ := hasDateShape_iff.mp hshape
  rw [CalendarDate.ofText?] at h
  simp only [trim_of_hasDateShape hshape] at h
  split at h
  · next hsize =>
    -- Ten characters in ten bytes leave digits of one byte only.
    have hlength : s.toList.length = 10 := by
      rw [hchars]
      simp [hyear, hmonth, hday]
    have hbytes : (s.toList.map Char.utf8Size).sum = s.toList.length := by
      rw [← Text.utf8ByteSize_ofList, String.ofList_toList, hsize, hlength]
      rfl
    have hdigits : ∀ c ∈ year ++ (month ++ day), c.isDigit = true := by
      intro c hc
      apply Text.isDigit_of_isDecimalDigit (hdecimal c hc)
      apply Text.utf8Size_eq_one hbytes
      rw [hchars]
      simp only [List.mem_append, List.mem_cons] at hc ⊢
      tauto
    rw [hchars, CalendarDate.ofChars?_digits hyear hmonth hday hdigits] at h
    obtain ⟨hyears, hmonths, hdays⟩ := CalendarDate.fields_eq_of_ofFields? h
    rw [CalendarDate.toText_digits hyear hmonth hday hdigits hyears hmonths hdays, ← hchars,
      String.ofList_toList]
  · cases h

end Audit

end CertCatalog
