import CertCatalog.CatalogSource.Basic
import CertCatalog.Proofs.Entry.WriteBack
import CertCatalog.Proofs.Number.Numeral
import CertCatalog.Proofs.Text.Padding

/-!
# Forms of date texts

Ten bytes may write a date in more than the form of four, two and two digits: the year may have a
sign or fewer digits, and blanks may stand in place of the zeros of month and day. All of these are
read as dates. Only a text of four, two and two ASCII digits that names a day of the calendar is the
written form of the date that it yields, and the audit accepts no other.
-/

namespace CertCatalog

namespace CalendarDate

/-! ### Parts of a date text -/

/-- A month or a day as a text may write it: one or two digits after any blanks. -/
structure LooseNumber where
  blanks : List Char
  areBlank : Text.AreBlank blanks
  digits : List Char
  isDigits : Decimal.isDigits digits = true
  length_le : digits.length ≤ 2

namespace LooseNumber

/-- The characters of a number. -/
def chars (n : LooseNumber) : List Char := n.blanks ++ n.digits

/-- The number that is written. -/
def value (n : LooseNumber) : Nat := Decimal.ofDigits n.digits

end LooseNumber

/-- A year as a text may write it: up to four digits, or a sign and any number of digits. -/
structure LooseYear where
  sign : List Char
  sign_mem : sign ∈ [[], ['+'], ['-']]
  digits : List Char
  isDigits : Decimal.isDigits digits = true
  length_le : sign = [] → digits.length ≤ 4

namespace LooseYear

/-- The characters of a year. -/
def chars (y : LooseYear) : List Char := y.sign ++ y.digits

/-- The year that is written. -/
def value (y : LooseYear) : Int :=
  if y.sign = ['-'] then -Decimal.ofDigits y.digits else Decimal.ofDigits y.digits

end LooseYear

/-- A date as a text may write it. -/
structure LooseForm where
  year : LooseYear
  month : LooseNumber
  day : LooseNumber

namespace LooseForm

/-- The text of a written date. -/
def text (f : LooseForm) : String :=
  String.ofList (f.year.chars ++ '-' :: (f.month.chars ++ '-' :: f.day.chars))

/-- The date has the year, the month and the day that are written. -/
structure Names (f : LooseForm) (d : CalendarDate) : Prop where
  year : d.year = f.year.value
  month : d.month = f.month.value
  day : d.day = f.day.value

end LooseForm

/-- A form without a sign and without blanks. -/
structure LooseForm.IsPlain (f : LooseForm) : Prop where
  sign : f.year.sign = []
  month : f.month.blanks = []
  day : f.day.blanks = []

/-! ### Readers -/

private theorem takeDigits_eq_some_iff {width value : Nat} {cs rest : List Char}
    (hrest : ∀ c ∈ rest.head?, c.isDigit = false) :
    (if ((cs.take width).takeWhile Char.isDigit).isEmpty then none
      else some (Decimal.ofDigits ((cs.take width).takeWhile Char.isDigit),
        cs.drop ((cs.take width).takeWhile Char.isDigit).length)) = some (value, rest) ↔
      ∃ digits, digits ++ rest = cs ∧ Decimal.isDigits digits = true ∧ digits.length ≤ width ∧
        Decimal.ofDigits digits = value := by
  constructor
  · intro h
    generalize htaken : (cs.take width).takeWhile Char.isDigit = digits at h
    have hfront : digits <+: cs.take width := htaken ▸ List.takeWhile_prefix _
    have hall : ∀ c ∈ digits, c.isDigit = true := fun c hc ↦ List.mem_takeWhile_imp (htaken ▸ hc)
    split at h
    · cases h
    · next hne =>
      obtain ⟨rfl, rfl⟩ := Prod.mk.inj (Option.some.inj h)
      refine ⟨digits, ?_, ?_, ?_, rfl⟩
      · exact List.prefix_iff_eq_append.mp (hfront.trans (List.take_prefix _ _))
      · exact DigitRow.isDigits_iff_forall.mpr ⟨by simpa using hne, hall⟩
      · exact hfront.length_le.trans (List.length_take_le _ _)
  · rintro ⟨digits, rfl, hdigits, hle, rfl⟩
    obtain ⟨hne, hall⟩ := DigitRow.isDigits_iff_forall.mp hdigits
    -- Behind the digits, the width is used up or no digit follows.
    have hstop : (rest.take (width - digits.length)).takeWhile Char.isDigit = [] := by
      cases rest with
      | nil => simp
      | cons c rest =>
        have hc := hrest c rfl
        cases width - digits.length <;> simp [hc]
    have htaken : ((digits ++ rest).take width).takeWhile Char.isDigit = digits := by
      rw [List.take_append, List.take_of_length_le hle, List.takeWhile_append_of_pos hall, hstop,
        List.append_nil]
    simp [htaken, hne]

private theorem takeNumber?_eq_some_iff {value : Nat} {cs rest : List Char}
    (hrest : ∀ c ∈ rest.head?, c.isDigit = false) :
    takeNumber? 2 cs = some (value, rest) ↔
      ∃ n : LooseNumber, n.chars ++ rest = cs ∧ n.value = value := by
  rw [takeNumber?, takeDigits_eq_some_iff hrest]
  constructor
  · rintro ⟨digits, hcs, hdigits, hle, rfl⟩
    refine ⟨⟨cs.takeWhile Text.isBlank, fun c ↦ List.mem_takeWhile_imp, digits, hdigits, hle⟩, ?_,
      rfl⟩
    rw [LooseNumber.chars, List.append_assoc, hcs]
    exact List.takeWhile_append_dropWhile
  · rintro ⟨n, rfl, rfl⟩
    obtain ⟨hne, hall⟩ := DigitRow.isDigits_iff_forall.mp n.isDigits
    refine ⟨n.digits, ?_, n.isDigits, n.length_le, rfl⟩
    obtain ⟨c, cs, hcs⟩ := List.exists_cons_of_ne_nil hne
    have hc := Text.isBlank_of_isDigit (hall c (by simp [hcs]))
    rw [LooseNumber.chars, List.append_assoc, Text.trimStart_append n.areBlank, hcs,
      List.cons_append, Text.trimStart_cons_eq_self_iff.mpr hc]

private theorem takeAllDigits_eq_some_iff {value : Nat} {cs rest : List Char}
    (hrest : ∀ c ∈ rest.head?, c.isDigit = false) :
    (if (cs.takeWhile Char.isDigit).isEmpty then none
      else some (Decimal.ofDigits (cs.takeWhile Char.isDigit),
        cs.drop (cs.takeWhile Char.isDigit).length)) = some (value, rest) ↔
      ∃ digits, digits ++ rest = cs ∧ Decimal.isDigits digits = true ∧
        Decimal.ofDigits digits = value := by
  have hwidth := @takeDigits_eq_some_iff cs.length value cs rest hrest
  rw [List.take_length] at hwidth
  rw [hwidth]
  constructor
  · rintro ⟨digits, hcs, hdigits, -, hvalue⟩
    exact ⟨digits, hcs, hdigits, hvalue⟩
  · rintro ⟨digits, rfl, hdigits, hvalue⟩
    exact ⟨digits, rfl, hdigits, by simp, hvalue⟩

private theorem map_value_eq_some_iff (f : Nat → Int) {reading : Option (Nat × List Char)}
    {value : Int}
    {rest : List Char} :
    reading.map (fun x ↦ (f x.1, x.2)) = some (value, rest) ↔
      ∃ n, reading = some (n, rest) ∧ f n = value := by
  simp [Option.map_eq_some_iff]

/-- A year of a trimmed text, as it is written in front of the rest. -/
theorem takeYear?_eq_some_iff {value : Int} {cs rest : List Char}
    (htrim : Text.trimStart cs = cs) (hrest : ∀ c ∈ rest.head?, c.isDigit = false) :
    takeYear? cs = some (value, rest) ↔
      ∃ y : LooseYear, y.chars ++ rest = cs ∧ y.value = value := by
  rw [takeYear?, htrim]
  dsimp only
  constructor
  · intro h
    -- A sign in front decides how many digits the year may have.
    split at h
    · next r =>
      obtain ⟨n, hn, rfl⟩ := (map_value_eq_some_iff (-Int.ofNat ·)).mp h
      obtain ⟨digits, rfl, hdigits, rfl⟩ := (takeAllDigits_eq_some_iff hrest).mp hn
      exact ⟨⟨['-'], by simp, digits, hdigits, by simp⟩, rfl, rfl⟩
    · next r =>
      obtain ⟨n, hn, rfl⟩ := (map_value_eq_some_iff Int.ofNat).mp h
      obtain ⟨digits, rfl, hdigits, rfl⟩ := (takeAllDigits_eq_some_iff hrest).mp hn
      exact ⟨⟨['+'], by simp, digits, hdigits, by simp⟩, rfl, rfl⟩
    · obtain ⟨n, hn, rfl⟩ := (map_value_eq_some_iff Int.ofNat).mp h
      rw [takeNumber?, htrim, takeDigits_eq_some_iff hrest] at hn
      obtain ⟨digits, rfl, hdigits, hle, rfl⟩ := hn
      exact ⟨⟨[], by simp, digits, hdigits, fun _ ↦ hle⟩, rfl, rfl⟩
  · rintro ⟨⟨sign, hsign, digits, hdigits, hle⟩, rfl, rfl⟩
    simp only [List.mem_cons, List.not_mem_nil, or_false] at hsign
    rcases hsign with rfl | rfl | rfl
    · obtain ⟨hne, hall⟩ := DigitRow.isDigits_iff_forall.mp hdigits
      have hnumber : takeNumber? 4 (digits ++ rest) = some (Decimal.ofDigits digits, rest) := by
        rw [takeNumber?, takeDigits_eq_some_iff hrest]
        exact ⟨digits, htrim.symm, hdigits, hle rfl, rfl⟩
      -- The year begins with a digit, so the reader does not take its first character for a sign.
      obtain ⟨c, cs, rfl⟩ := List.exists_cons_of_ne_nil hne
      have hc := hall c List.mem_cons_self
      split
      · next heq => cases heq; cases hc
      · next heq => cases heq; cases hc
      · exact (map_value_eq_some_iff Int.ofNat).mpr ⟨_, hnumber, rfl⟩
    · have hnumber := (takeAllDigits_eq_some_iff hrest).mpr ⟨digits, rfl, hdigits, rfl⟩
      exact (map_value_eq_some_iff Int.ofNat).mpr ⟨_, hnumber, rfl⟩
    · have hnumber := (takeAllDigits_eq_some_iff hrest).mpr ⟨digits, rfl, hdigits, rfl⟩
      exact (map_value_eq_some_iff (-Int.ofNat ·)).mpr ⟨_, hnumber, rfl⟩

private theorem isDigit_head?_hyphen (cs : List Char) :
    ∀ c ∈ ('-' :: cs).head?, c.isDigit = false := by
  simp

/-- A text is read as a date when it writes the date. -/
theorem ofChars?_eq_some_iff {s : String} (htrim : Text.trimStart s.toList = s.toList)
    {d : CalendarDate} :
    ofChars? s.toList = some d ↔ ∃ f : LooseForm, f.text = s ∧ f.Names d := by
  have hhyphen {cs rest : List Char} : takeHyphen? cs = some rest ↔ cs = '-' :: rest := by
    fun_cases takeHyphen? cs <;> simp_all
  have hend : ∀ c ∈ ([] : List Char).head?, c.isDigit = false := by simp
  -- Every part stops at a hyphen or at the end, where no digit follows.
  simp only [ofChars?, Option.bind_eq_bind, Option.bind_eq_some_iff, Prod.exists]
  constructor
  · rintro ⟨year, _, hyear, rest, hfirst, month, _, hmonth, rest', hsecond, day, rest'', hday, h⟩
    obtain rfl := hhyphen.mp hfirst
    obtain rfl := hhyphen.mp hsecond
    split at h
    · next hempty =>
      obtain rfl := List.isEmpty_iff.mp hempty
      obtain ⟨y, hy, rfl⟩ := (takeYear?_eq_some_iff htrim (isDigit_head?_hyphen _)).mp hyear
      obtain ⟨m, rfl, rfl⟩ := (takeNumber?_eq_some_iff (isDigit_head?_hyphen _)).mp hmonth
      obtain ⟨n, rfl, rfl⟩ := (takeNumber?_eq_some_iff hend).mp hday
      obtain ⟨hyears, hmonths, hdays⟩ := fields_eq_of_ofFields? h
      refine ⟨⟨y, m, n⟩, ?_, hyears, hmonths, hdays⟩
      rw [LooseForm.text, ← String.toList_inj, String.toList_ofList, ← hy, List.append_nil]
    · cases h
  · rintro ⟨f, rfl, hnames⟩
    have hyear : takeYear? f.text.toList =
        some (f.year.value, '-' :: (f.month.chars ++ '-' :: f.day.chars)) :=
      (takeYear?_eq_some_iff htrim (isDigit_head?_hyphen _)).mpr
        ⟨f.year, String.toList_ofList.symm, rfl⟩
    have hmonth : takeNumber? 2 (f.month.chars ++ '-' :: f.day.chars) =
        some (f.month.value, '-' :: f.day.chars) :=
      (takeNumber?_eq_some_iff (isDigit_head?_hyphen _)).mpr ⟨f.month, rfl, rfl⟩
    have hday : takeNumber? 2 f.day.chars = some (f.day.value, []) :=
      (takeNumber?_eq_some_iff hend).mpr ⟨f.day, List.append_nil _, rfl⟩
    have hfields : ofFields? f.year.value f.month.value f.day.value = some d := by
      rw [← hnames.year, ← hnames.month, ← hnames.day]
      exact dif_pos ⟨d.day_pos, d.day_le⟩
    exact ⟨_, _, hyear, _, rfl, _, _, hmonth, _, rfl, _, _, hday, hfields⟩

/-! ### Date texts -/

/-- A text writes a date in one of the forms, in ten bytes and with any blanks around it. -/
def Writes (s : String) (d : CalendarDate) : Prop :=
  (Text.trim s).utf8ByteSize = textSize ∧ ∃ f : LooseForm, f.text = Text.trim s ∧ f.Names d

/-- A text is read as a date when it writes the date. -/
theorem ofText?_eq_some_iff {s : String} {d : CalendarDate} :
    ofText? s = some d ↔ Writes s d := by
  have htrim : Text.trimStart (Text.trim s).toList = (Text.trim s).toList := by
    rw [Text.toList_trim, Text.trimStart_trimChars]
  rw [ofText?, Writes, ← ofChars?_eq_some_iff htrim]
  split
  · next hsize => simp [hsize]
  · next hsize => simp [hsize]

/-- A text of four, two and two ASCII digits with hyphens that names a day of the calendar. -/
def IsIso (s : String) : Prop :=
  ∃ year month day : List Char, s = String.ofList (year ++ '-' :: (month ++ '-' :: day)) ∧
    year.length = 4 ∧ month.length = 2 ∧ day.length = 2 ∧
    (∀ c ∈ year ++ (month ++ day), c.isDigit = true) ∧
    ∃ d : CalendarDate, d.year = Decimal.ofDigits year ∧ d.month = Decimal.ofDigits month ∧
      d.day = Decimal.ofDigits day

private theorem year_range_of_utf8ByteSize_toText {d : CalendarDate}
    (h : d.toText.utf8ByteSize = textSize) : 0 ≤ d.year ∧ d.year ≤ 9999 := by
  have hwidth (width n : Nat) : width ≤ (padded width n).length := by
    rw [padded, List.length_append, List.length_replicate]
    omega
  have hyear := hwidth 4 d.year.natAbs
  have hmonth := hwidth 2 d.month
  have hday := hwidth 2 d.day
  rw [toText, Text.utf8ByteSize_ofList, textSize] at h
  have hlength := Text.length_le_sum_utf8Size (
    (if d.year < 0 then ['-'] else if 9999 < d.year then ['+'] else []) ++
      padded 4 d.year.natAbs ++ '-' :: padded 2 d.month ++ '-' :: padded 2 d.day)
  simp only [h, List.length_append, List.length_cons] at hlength
  -- The numbers and hyphens take ten bytes, which leaves none for a sign.
  split_ifs at hlength with hnegative hlarge
  · simp only [List.length_singleton] at hlength
    omega
  · simp only [List.length_singleton] at hlength
    omega
  · omega

/-- The ISO dates are the written forms of dates whose year has four digits. -/
theorem isIso_iff {s : String} :
    IsIso s ↔ ∃ d : CalendarDate, d.toText = s ∧ 0 ≤ d.year ∧ d.year ≤ 9999 := by
  constructor
  · rintro ⟨year, month, day, rfl, hyear, hmonth, hday, hdigits, d, hyears, hmonths, hdays⟩
    have hbound := Decimal.ofDigits_lt (List.forall_mem_append.mp hdigits).1
    rw [hyear] at hbound
    exact ⟨d, toText_digits hyear hmonth hday hdigits hyears hmonths hdays, by omega, by omega⟩
  · rintro ⟨d, rfl, hlow, hhigh⟩
    obtain ⟨year, month, day, htext, hyear, hmonth, hday, hdigits, hfields⟩ :=
      exists_digits_toText hlow hhigh
    exact ⟨year, month, day, htext, hyear, hmonth, hday, hdigits, d, hfields⟩

/-- The ISO dates are the texts that are kept: they are read as a date of which they are the written
form. -/
theorem isIso_trim_iff {s : String} :
    IsIso (Text.trim s) ↔ ∃ d, ofText? s = some d ∧ d.toText = Text.trim s := by
  have htrim : ofText? (Text.trim s) = ofText? s := by rw [ofText?, Text.trim_trim, ofText?]
  rw [isIso_iff]
  constructor
  · rintro ⟨d, htext, hlow, hhigh⟩
    refine ⟨d, ?_, htext⟩
    rw [← htrim, ← htext, ofText?_toText hlow hhigh]
  · rintro ⟨d, hread, htext⟩
    have hsize := (ofText?_eq_some_iff.mp hread).1
    rw [← htext] at hsize
    exact ⟨d, htext, year_range_of_utf8ByteSize_toText hsize⟩

private theorem LooseForm.IsPlain.isIso {f : LooseForm} (h : f.IsPlain)
    (hsize : f.text.utf8ByteSize = textSize) {d : CalendarDate} (hnames : f.Names d) :
    IsIso f.text := by
  obtain ⟨⟨sign, _, year, hyear, hyearLength⟩, ⟨blanks, _, month, hmonth, hmonthLength⟩,
    ⟨blanks', _, day, hday, hdayLength⟩⟩ := f
  obtain ⟨rfl, rfl, rfl⟩ := h
  obtain ⟨hyears, hmonths, hdays⟩ := hnames
  have hdigits : ∀ c ∈ year ++ (month ++ day), c.isDigit = true := by
    simp only [List.forall_mem_append]
    exact ⟨(DigitRow.isDigits_iff_forall.mp hyear).2, (DigitRow.isDigits_iff_forall.mp hmonth).2,
      (DigitRow.isDigits_iff_forall.mp hday).2⟩
  -- Without sign and blanks, ten bytes leave room for no fewer digits.
  have hlength : year.length + month.length + day.length + 2 = 10 := by
    rw [← utf8ByteSize_digits hdigits]
    exact hsize
  have hyearLe := hyearLength rfl
  exact ⟨year, month, day, rfl, by omega, by omega, by omega, hdigits, d, hyears, hmonths, hdays⟩

private theorem LooseForm.isPlain_of_isIso {f : LooseForm} (h : IsIso f.text) : f.IsPlain := by
  obtain ⟨year, month, day, htext, hyear, -, -, hdigits, -⟩ := h
  rw [text, String.ofList_inj] at htext
  have hnoBlanks {blanks : List Char} (hblanks : Text.AreBlank blanks)
      (hmem : ∀ c ∈ blanks, c ∈ year ++ '-' :: (month ++ '-' :: day)) : blanks = [] := by
    apply List.eq_nil_iff_forall_not_mem.mpr
    intro c hc
    have hblank := hblanks c hc
    rcases eq_hyphen_or_isDigit_of_mem hdigits (hmem c hc) with rfl | hdigit
    · exact absurd hblank (by decide)
    · rw [Text.isBlank_of_isDigit hdigit] at hblank
      cases hblank
  -- The first character of an ISO date is a digit, which leaves no room for a sign.
  have hfirst : ∀ c ∈ f.year.sign.head?, c.isDigit = true := by
    intro c hc
    obtain ⟨d, ds, rfl⟩ := List.exists_cons_of_length_pos (show 0 < year.length by omega)
    have hhead := congrArg List.head? htext
    cases hsign : f.year.sign with
    | nil => simp [hsign] at hc
    | cons c' cs =>
      simp only [hsign, LooseYear.chars, List.cons_append, List.head?_cons, Option.some.injEq,
        Option.mem_def] at hhead hc
      rw [← hc, hhead]
      exact hdigits d (by simp)
  refine ⟨?_, hnoBlanks f.month.areBlank fun c hc ↦ ?_, hnoBlanks f.day.areBlank fun c hc ↦ ?_⟩
  · have hsign := f.year.sign_mem
    simp only [List.mem_cons, List.not_mem_nil, or_false] at hsign
    rcases hsign with hsign | hsign | hsign <;> simp [hsign] at hfirst ⊢
  · rw [← htext]
    simp [LooseNumber.chars, hc]
  · rw [← htext]
    simp [LooseNumber.chars, hc]

/-- Only a loose form that is not plain may be read as a date without being an ISO date. -/
theorem exists_ofText?_iff_isIso_iff {s : String} :
    ((∃ d, ofText? s = some d) ↔ IsIso (Text.trim s)) ↔
      ¬∃ (d : CalendarDate) (f : LooseForm), (Text.trim s).utf8ByteSize = textSize ∧
        f.text = Text.trim s ∧ f.Names d ∧ ¬f.IsPlain := by
  constructor
  · rintro h ⟨d, f, hsize, htext, hnames, hloose⟩
    apply hloose
    apply LooseForm.isPlain_of_isIso
    rw [htext, ← h]
    exact ⟨d, ofText?_eq_some_iff.mpr ⟨hsize, f, htext, hnames⟩⟩
  · intro h
    constructor
    · rintro ⟨d, hread⟩
      obtain ⟨hsize, f, htext, hnames⟩ := ofText?_eq_some_iff.mp hread
      by_cases hplain : f.IsPlain
      · rw [← htext] at hsize ⊢
        exact hplain.isIso hsize hnames
      · exact absurd ⟨d, f, hsize, htext, hnames, hplain⟩ h
    · intro hiso
      obtain ⟨d, hread, -⟩ := isIso_trim_iff.mp hiso
      exact ⟨d, hread⟩

end CalendarDate

/-- The audit accepts the ISO dates. -/
theorem Audit.checkDate_eq_nil_iff_isIso (e : Entry) :
    checkDate e = [] ↔ CalendarDate.IsIso (e.text .lastUpdated) := by
  rw [checkDate_eq_nil_iff, Option.isSome_iff_exists]
  constructor
  · rintro ⟨hshape, d, hread⟩
    rw [← e.trim_text, CalendarDate.isIso_trim_iff]
    exact ⟨d, hread, by rw [e.trim_text, toText_of_hasDateShape hshape hread]⟩
  · intro h
    refine ⟨?_, ?_⟩
    · obtain ⟨year, month, day, hs, hyear, hmonth, hday, hdigits, -⟩ := h
      rw [hs, String.toList_ofList, hasDateShape_iff]
      exact ⟨year, month, day, rfl, hyear, hmonth, hday,
        fun c hc ↦ Text.isDecimalDigit_of_isDigit (hdigits c hc)⟩
    · rw [← e.trim_text, CalendarDate.isIso_trim_iff] at h
      obtain ⟨d, hread, -⟩ := h
      exact ⟨d, hread⟩

namespace CalendarDate

/-- What is read as a date, and what of it is kept. A text is read as a date when it writes one in a
loose form of ten bytes, in records and in information about a catalog alike. The ISO dates are the
texts that are read as a date of which they are the written form, and the audit accepts no others.
So dates are read from ISO dates only, except where a loose form has a sign or a blank. -/
theorem ofText?_reads_loose_forms (s : String) (e : Entry) (info : CatalogInfo) :
    (∀ d, ofText? s = some d ↔ Writes s d) ∧
    (∀ d, e.toRecord.lastUpdated = some d ↔ Writes (e.text .lastUpdated) d) ∧
    (∀ d, (info.withText .lastReviewed s).lastReviewed = some d ↔ Writes s d) ∧
    (IsIso (Text.trim s) ↔ ∃ d, ofText? s = some d ∧ d.toText = Text.trim s) ∧
    (Audit.checkDate e = [] ↔ IsIso (e.text .lastUpdated)) ∧
    (((∃ d, ofText? s = some d) ↔ IsIso (Text.trim s)) ↔
      ¬∃ (d : CalendarDate) (f : LooseForm), (Text.trim s).utf8ByteSize = textSize ∧
        f.text = Text.trim s ∧ f.Names d ∧ ¬f.IsPlain) := by
  have hreviewed : (info.withText .lastReviewed s).lastReviewed = ofText? s := by
    simp only [CatalogInfo.withText]
  refine ⟨fun d ↦ ofText?_eq_some_iff, fun d ↦ ?_, fun d ↦ ?_, isIso_trim_iff,
    Audit.checkDate_eq_nil_iff_isIso e, exists_ofText?_iff_isIso_iff⟩
  · rw [e.lastUpdated_toRecord, ofText?_eq_some_iff]
  · rw [hreviewed, ofText?_eq_some_iff]

/-- A year with a sign and a month of one digit are read as a date, though not as an ISO date. The
record and the catalog keep the date in another form than it is written, and the audit refuses
the text. -/
theorem ofText?_signed_year :
    let s := "+2026-2-27"
    let d : CalendarDate := ⟨2026, 2, 27, by decide, by decide⟩
    let e := (Entry.blank.setScalar .name (some (.text "D"))).setScalar .lastUpdated
      (some (.text s))
    ofText? s = some d ∧ ¬IsIso (Text.trim s) ∧ d.toText = "2026-02-27" ∧
      e.toRecord.lastUpdated = some d ∧
      (CatalogInfo.blank.withText .lastReviewed s).lastReviewed = some d ∧
      Audit.checkDate e = [.dateShape] := by
  intro s d e
  have hread : ofText? s = some d := by decide
  have hiso : ¬IsIso (Text.trim s) := by
    rw [isIso_trim_iff]
    rintro ⟨d', hread', htext⟩
    obtain rfl := Option.some.inj (hread.symm.trans hread')
    revert htext
    decide
  exact ⟨hread, hiso, by decide, by decide, by decide, by decide⟩

end CalendarDate
end CertCatalog
