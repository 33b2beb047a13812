import CertCatalog.Proofs.Search.CriteriaKeys

/-!
# Order laws of number conditions

A condition on the year or the price compares the number of a record with the numbers that its value
writes. All of them have places on the number line, also the two zeros and numbers beyond the
format, so the comparisons, ranges and plain numbers with the same numerals are related as the
places are. A price that is unknown has no number, and no such condition finds it.
-/

namespace CertCatalog

/-! ### Places -/

namespace Query

variable {a b x : Binary64} {p q z : Int}

/-- The relation of two places. -/
def Comparator.Relates : Comparator → Int → Int → Prop
  | lt, z, p => z < p
  | le, z, p => z ≤ p
  | eq, z, p => z = p
  | ge, z, p => p ≤ z
  | gt, z, p => p < z

private theorem Comparator.existsUnique_relates (z p : Int) :
    ∃! op, op ∈ [Comparator.lt, .eq, .gt] ∧ op.Relates z p := by
  have hexists : ∃ op, op ∈ [Comparator.lt, .eq, .gt] ∧ op.Relates z p := by
    rcases Int.lt_trichotomy z p with h | h | h
    · exact ⟨.lt, by simp, h⟩
    · exact ⟨.eq, by simp, h⟩
    · exact ⟨.gt, by simp, h⟩
  obtain ⟨op, hop, h⟩ := hexists
  refine ⟨op, ⟨hop, h⟩, ?_⟩
  rintro other ⟨hother, h'⟩
  cases op <;> cases other <;> simp [Relates] at hop hother h h' ⊢ <;> omega

/-- A comparison of numbers is that of their places. -/
theorem NumberTest.accepts_compare_iff (op : Comparator) (hx : x.place = some z)
    (ha : a.place = some p) : (compare op a).accepts x = true ↔ op.Relates z p := by
  cases op <;>
    simp [accepts, Comparator.holds, Comparator.Relates, Binary64.lt_of_place hx ha,
      Binary64.lt_of_place ha hx, Binary64.le_of_place hx ha, Binary64.le_of_place ha hx,
      Binary64.eq_of_place hx ha]

/-- A number lies in a range when its place lies between those of the bounds, in either order. -/
theorem NumberTest.accepts_range_iff (hx : x.place = some z) (ha : a.place = some p)
    (hb : b.place = some q) :
    (range a b).accepts x = true ↔ Min.min p q ≤ z ∧ z ≤ Max.max p q := by
  have hmin := Binary64.place_min ha hb
  have hmax := Binary64.place_max ha hb
  rw [accepts, Binary64.le_of_place hmin hx, Binary64.le_of_place hx hmax, Bool.and_eq_true,
    decide_eq_true_eq, decide_eq_true_eq]

end Query

/-! ### Texts of forms -/

private theorem Numeral.isBlank_of_mem_chars (n : Numeral) :
    ∀ c ∈ n.chars, Text.isBlank c = false := by
  intro c hc
  rcases n.mem_chars_cases hc with rfl | rfl | hdigit
  · decide
  · decide
  · exact Text.isBlank_of_isDecimalDigit hdigit

namespace Query

/-- The text of a form. -/
def NumberForm.text (f : NumberForm) : String := String.ofList f.chars

private theorem NumberForm.trim_text (f : NumberForm) : Text.trim f.text = f.text := by
  apply Text.trim_ofList_eq_self
  intro c hc
  cases f with
  | comparison op bound =>
    rcases List.mem_append.mp hc with hsymbol | hbound
    · have hop : op.symbol.toList.all (!Text.isBlank ·) = true := by cases op <;> decide
      simpa using List.all_eq_true.mp hop c hsymbol
    · exact bound.isBlank_of_mem_chars c hbound
  | range first second =>
    simp only [chars, List.mem_append, List.mem_cons] at hc
    rcases hc with hfirst | rfl | rfl | hsecond
    · exact first.isBlank_of_mem_chars c hfirst
    · decide
    · decide
    · exact second.isBlank_of_mem_chars c hsecond
  | plain number => exact number.isBlank_of_mem_chars c hc

private theorem NumberForm.ofText?_trim_text (f : NumberForm) :
    NumberTest.ofText? (Text.trim f.text) = f.test? := by
  rw [f.trim_text, NumberTest.ofText?, NumberForm.text, String.toList_ofList,
    NumberTest.ofChars?_chars]

end Query

/-! ### Conditions -/

namespace SearchKey

/-- The keys whose conditions may be number tests. -/
def numberKeys : List SearchKey := [year, price]

/-- The number that a condition on the year or the price looks at, unless it is unknown. -/
def number? (key : SearchKey) (r : Record) : Option Binary64 :=
  match key with
  | year => some (.ofNat r.introducedYear.toNat)
  | price => if r.isUnknownPrice then none else some (Criteria.priceOf r)
  | _ => none

/-- The place of that number. -/
def place? (key : SearchKey) (r : Record) : Option Int := (key.number? r).bind Binary64.place

variable {key : SearchKey} {r : Record} {f : Query.NumberForm}

private theorem exists_place_of_number? {x : Binary64} (h : key.number? r = some x) :
    ∃ z, x.place = some z := by
  apply Binary64.exists_place
  unfold number? at h
  split at h
  · rw [← Option.some.inj h]
    exact Binary64.isNaN_ofNat _
  · obtain ⟨-, hx⟩ := Option.ite_none_left_eq_some.mp h
    rw [← Option.some.inj hx]
    exact Criteria.isNaN_priceOf r
  · cases h

private theorem place?_eq_none_iff (hkey : key ∈ numberKeys) :
    key.place? r = none ↔ key = price ∧ r.isUnknownPrice = true := by
  have hnumber : key.place? r = none ↔ key.number? r = none := by
    unfold place?
    cases h : key.number? r with
    | none => simp
    | some x =>
      obtain ⟨z, hz⟩ := exists_place_of_number? h
      simp [hz]
  rw [hnumber]
  rcases List.mem_pair.mp hkey with rfl | rfl <;> simp [number?]

private theorem accepts_text (hkey : key ∈ numberKeys) {test : Query.NumberTest}
    (h : f.test? = some test) :
    (Predicate.of key.name f.text).accepts r = (key.number? r).any test.accepts := by
  have htest : Query.NumberTest.ofText? (Text.trim f.text) = some test := by
    rw [f.ofText?_trim_text, h]
  rcases List.mem_pair.mp hkey with rfl | rfl
  · have hnumber : (Predicate.of year.name f.text).number = some test := by
      rw [Predicate.of, htest]
    rw [Predicate.accepts_of_name, Predicate.acceptsKey, Predicate.acceptsYear, hnumber, number?,
      Option.any_some]
  · rw [name, Predicate.accepts_price_of_number htest, number?]
    cases r.isUnknownPrice with
    | true => rfl
    | false => rw [Bool.not_false, Bool.true_and, if_neg Bool.false_ne_true, Option.any_some]

/-- A condition in one of the forms is a condition on the place of the record, if its test is one on
places. -/
theorem accepts_text_iff (hkey : key ∈ numberKeys) {test : Query.NumberTest}
    (h : f.test? = some test) {P : Int → Prop}
    (hplace : ∀ (x : Binary64) (z : Int), x.place = some z → (test.accepts x = true ↔ P z)) :
    (Predicate.of key.name f.text).accepts r = true ↔ ∃ z ∈ key.place? r, P z := by
  rw [accepts_text hkey h]
  unfold place?
  cases hnumber : key.number? r with
  | none => simp
  | some x =>
    obtain ⟨z, hz⟩ := exists_place_of_number? hnumber
    simp [hz, hplace x z hz]

private theorem accepts_text_of_isUnknownPrice (hunknown : r.isUnknownPrice = true)
    (h : f.IsAscii) :
    (Predicate.of price.name f.text).accepts r = false := by
  have hkey : price ∈ numberKeys := by decide
  obtain ⟨test, htest⟩ := Option.isSome_iff_exists.mp (f.isSome_test?_iff.mpr h)
  rw [accepts_text hkey htest, number?, if_pos hunknown, Option.any_none]

end SearchKey

/-- A numeral with its number at a place. -/
def Numeral.IsAt (n : Numeral) (p : Int) : Prop := ∃ x, n.value? = some x ∧ x.place = some p

private theorem Numeral.exists_isAt {n : Numeral} (h : n.IsAscii) : ∃ p, n.IsAt p := by
  obtain ⟨x, hx⟩ := Option.isSome_iff_exists.mp (n.isSome_value?_iff.mpr h)
  obtain ⟨p, hp⟩ := Binary64.exists_place (n.isNaN_of_value? hx)
  exact ⟨p, x, hx, hp⟩

section Conditions

variable {key : SearchKey} {a b : Numeral} {p q : Int}

/-- A comparison holds when the places are so related. -/
theorem accepts_comparison_iff (hkey : key ∈ SearchKey.numberKeys) (ha : a.IsAt p) (r : Record)
    (op : Query.Comparator) :
    (Predicate.of key.name (Query.NumberForm.comparison op a).text).accepts r = true ↔
      ∃ z ∈ key.place? r, op.Relates z p := by
  obtain ⟨bound, hbound, hp⟩ := ha
  have htest : (Query.NumberForm.comparison op a).test? = some (.compare op bound) := by
    simp [Query.NumberForm.test?, hbound]
  apply SearchKey.accepts_text_iff hkey htest
  intro x z hz
  exact Query.NumberTest.accepts_compare_iff op hz hp

/-- A numeral alone asks for its place. -/
theorem accepts_plain_iff (hkey : key ∈ SearchKey.numberKeys) (ha : a.IsAt p) (r : Record) :
    (Predicate.of key.name (Query.NumberForm.plain a).text).accepts r = true ↔
      ∃ z ∈ key.place? r, z = p := by
  obtain ⟨bound, hbound, hp⟩ := ha
  have htest : (Query.NumberForm.plain a).test? = some (.compare .eq bound) := by
    simp [Query.NumberForm.test?, hbound]
  apply SearchKey.accepts_text_iff hkey htest
  intro x z hz
  exact Query.NumberTest.accepts_compare_iff .eq hz hp

/-- A range holds between the places of its bounds, in either order. -/
theorem accepts_range_iff (hkey : key ∈ SearchKey.numberKeys) (ha : a.IsAt p) (hb : b.IsAt q)
    (r : Record) :
    (Predicate.of key.name (Query.NumberForm.range a b).text).accepts r = true ↔
      ∃ z ∈ key.place? r, min p q ≤ z ∧ z ≤ max p q := by
  obtain ⟨lower, hlower, hp⟩ := ha
  obtain ⟨upper, hupper, hq⟩ := hb
  have htest : (Query.NumberForm.range a b).test? = some (.range lower upper) := by
    simp [Query.NumberForm.test?, hlower, hupper]
  apply SearchKey.accepts_text_iff hkey htest
  intro x z hz
  exact Query.NumberTest.accepts_range_iff hz hp hq

/-- Conditions on a number obey the laws of an order, however they are written. A range does not
depend on the order of its bounds, and holds when the number is at or above one of them and at or
below the other. A numeral alone, an equality and a range from a numeral to itself mean the same: at
or above it, and at or below it. Of less, equal and greater exactly one holds, unless the price is
unknown, in which case no condition of any form does. -/
theorem accepts_number_order (hkey : key ∈ SearchKey.numberKeys) (ha : a.IsAscii) (hb : b.IsAscii)
    (r : Record) :
    let holds (f : Query.NumberForm) : Bool := (Predicate.of key.name f.text).accepts r
    holds (.range a b) = holds (.range b a) ∧
    holds (.range a b) = (holds (.comparison .ge a) && holds (.comparison .le b) ||
      holds (.comparison .ge b) && holds (.comparison .le a)) ∧
    (holds (.plain a) = holds (.comparison .eq a) ∧
      holds (.range a a) = holds (.comparison .eq a) ∧
      holds (.comparison .eq a) = (holds (.comparison .ge a) && holds (.comparison .le a))) ∧
    (key = .price → r.isUnknownPrice = true → ∀ f : Query.NumberForm, f.IsAscii →
      holds f = false) ∧
    (key = .year ∨ r.isUnknownPrice = false →
      ∃! op, op ∈ [Query.Comparator.lt, .eq, .gt] ∧ holds (.comparison op a) = true) := by
  intro holds
  obtain ⟨p, hp⟩ := Numeral.exists_isAt ha
  obtain ⟨q, hq⟩ := Numeral.exists_isAt hb
  have hcompare (op : Query.Comparator) := accepts_comparison_iff hkey hp r op
  have hcompare' (op : Query.Comparator) := accepts_comparison_iff hkey hq r op
  have hplain := accepts_plain_iff hkey hp r
  have hrange := accepts_range_iff hkey hp hq r
  have hswapped := accepts_range_iff hkey hq hp r
  have hpoint := accepts_range_iff hkey hp hp r
  -- Each law is one of places: the same record stands at one place, or at none in every condition.
  refine ⟨?_, ?_, ⟨?_, ?_, ?_⟩, ?_, fun hknown ↦ ?_⟩
  · rw [Bool.eq_iff_iff, hrange, hswapped, Int.min_comm, Int.max_comm]
  · rw [Bool.eq_iff_iff, Bool.or_eq_true, Bool.and_eq_true, Bool.and_eq_true, hrange, hcompare,
      hcompare, hcompare', hcompare']
    cases key.place? r with
    | none => simp
    | some z =>
      simp only [Option.mem_some_iff, exists_eq_left', Query.Comparator.Relates]
      omega
  · rw [Bool.eq_iff_iff, hplain, hcompare]
    rfl
  · rw [Bool.eq_iff_iff, hpoint, hcompare, Int.min_self, Int.max_self]
    simp only [Query.Comparator.Relates, Int.le_antisymm_iff, and_comm]
  · rw [Bool.eq_iff_iff, Bool.and_eq_true, hcompare, hcompare, hcompare]
    cases key.place? r with
    | none => simp
    | some z =>
      simp only [Option.mem_some_iff, exists_eq_left', Query.Comparator.Relates]
      omega
  · rintro rfl hunknown f hf
    exact SearchKey.accepts_text_of_isUnknownPrice hunknown hf
  · have hplace : key.place? r ≠ none := by
      rw [ne_eq, SearchKey.place?_eq_none_iff hkey]
      rintro ⟨rfl, hunknown⟩
      simp [hunknown] at hknown
    obtain ⟨z, hz⟩ := Option.ne_none_iff_exists'.mp hplace
    simpa [holds, hcompare, hz] using Query.Comparator.existsUnique_relates z p

/-- The price at one bound of a range whose other bound is negative, and an unknown price. -/
theorem accepts_number_order_at_bound :
    let price : Numeral := ⟨false, .ofDigits ['9', '7', '9'] rfl, none⟩
    let below : Numeral := ⟨true, .ofDigits ['0'] rfl, some (.ofDigits ['5'] rfl)⟩
    let paid := (Entry.blank.setScalar .priceUsd (some (.int 979))).toRecord
    let unknown := Entry.blank.toRecord
    let holds (r : Record) (f : Query.NumberForm) : Bool :=
      (Predicate.of SearchKey.price.name f.text).accepts r
    (SearchKey.price ∈ SearchKey.numberKeys ∧ price.IsAscii ∧ below.IsAscii ∧
      paid.isUnknownPrice = false ∧ unknown.isUnknownPrice = true) ∧
    (holds paid (.range price below) = true ∧ holds paid (.range below price) = true ∧
      holds paid (.plain price) = true ∧ holds paid (.range price price) = true) ∧
    (∃! op, op ∈ [Query.Comparator.lt, .eq, .gt] ∧ holds paid (.comparison op price) = true) ∧
    ∀ f : Query.NumberForm, f.IsAscii → holds unknown f = false := by
  intro price below paid unknown holds
  have hkey : SearchKey.price ∈ SearchKey.numberKeys := by decide
  have hprice : price.IsAscii := ⟨DigitRow.isAscii_ofDigits rfl, by simp [price]⟩
  have hfraction : (DigitRow.ofDigits ['5'] rfl).IsAscii := DigitRow.isAscii_ofDigits rfl
  have hbelow : below.IsAscii :=
    ⟨DigitRow.isAscii_ofDigits rfl, by simpa [below] using hfraction⟩
  have hknown : paid.isUnknownPrice = false := by decide
  have hunknown : unknown.isUnknownPrice = true := by decide +kernel
  have hrange : holds paid (.range price below) = true := by decide +kernel
  have hequals : holds paid (.comparison .eq price) = true := by decide +kernel
  obtain ⟨hswapped, -, ⟨hplain, hpoint, -⟩, -, hunique⟩ :=
    accepts_number_order hkey hprice hbelow paid
  obtain ⟨-, -, -, hnone, -⟩ := accepts_number_order hkey hprice hbelow unknown
  exact ⟨⟨hkey, hprice, hbelow, hknown, hunknown⟩,
    ⟨hrange, hswapped.symm.trans hrange, hplain.trans hequals, hpoint.trans hequals⟩,
    hunique (.inr hknown), hnone rfl hunknown⟩

end Conditions
end CertCatalog
