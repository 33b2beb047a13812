import CertCatalog.Proofs.Number.Numeral
import Mathlib.Data.List.Infix

/-!
# Forms of number tests

A number test is written in one of three forms: a relation before a numeral, two numerals around two
points, or a numeral alone. A text has at most one of these forms, and in one way, since a numeral
starts with a minus sign or a digit and never has two points in a row. So it does not matter which
form is tried first, and a text is a test exactly when it has a form with ASCII digits.
-/

namespace CertCatalog.Query

/-- The written form of a number test. -/
inductive NumberForm
  | comparison (op : Comparator) (bound : Numeral)
  | range (first second : Numeral)
  | plain (number : Numeral)

namespace NumberForm

/-- The characters of a form. -/
def chars : NumberForm → List Char
  | comparison op bound => op.symbol.toList ++ bound.chars
  | range first second => first.chars ++ '.' :: '.' :: second.chars
  | plain number => number.chars

/-- Every digit is an ASCII digit. -/
def IsAscii : NumberForm → Prop
  | comparison _ bound => bound.IsAscii
  | range first second => first.IsAscii ∧ second.IsAscii
  | plain number => number.IsAscii

/-- A form whose digits are ASCII has one. -/
theorem exists_isDigit_of_isAscii {f : NumberForm} (h : f.IsAscii) :
    ∃ c ∈ f.chars, c.isDigit = true := by
  cases f with
  | comparison op bound =>
    obtain ⟨c, hc, hdigit⟩ := bound.exists_isDigit_of_isAscii h
    exact ⟨c, List.mem_append_right _ hc, hdigit⟩
  | range first second =>
    obtain ⟨c, hc, hdigit⟩ := first.exists_isDigit_of_isAscii h.1
    exact ⟨c, List.mem_append_left _ hc, hdigit⟩
  | plain number => exact number.exists_isDigit_of_isAscii h

/-- The test of a form, when its numerals are read as floating-point texts. The bounds of a range
stay in their order, and a numeral alone asks for equality. -/
def test? : NumberForm → Option NumberTest
  | comparison op bound => bound.value?.map (.compare op)
  | range first second => do
    let lower ← first.value?
    let upper ← second.value?
    return .range lower upper
  | plain number => number.value?.map (.compare .eq)

/-- A form is read when its digits are ASCII, and only then. -/
theorem isSome_test?_iff (f : NumberForm) : f.test?.isSome = true ↔ f.IsAscii := by
  cases f with
  | comparison op bound => simp [test?, IsAscii, ← Numeral.isSome_value?_iff]
  | range first second =>
    simp only [test?, IsAscii, ← Numeral.isSome_value?_iff]
    cases first.value? <;> cases second.value? <;> simp
  | plain number => simp [test?, IsAscii, ← Numeral.isSome_value?_iff]

end NumberForm

namespace NumberTest

variable {cs : List Char}

/-! ### Relations -/

private theorem takeComparator?_symbol (op : Comparator) (n : Numeral) :
    takeComparator? (op.symbol.toList ++ n.chars) = some (op, n.chars) := by
  have hequals : ∀ rest, n.chars ≠ '=' :: rest := by
    simpa using n.chars_append_ne_cons (c := '=') (by decide) (by decide) []
  cases op with
  | lt => exact takeComparator?.eq_4 _ hequals
  | le => rfl
  | eq => rfl
  | ge => rfl
  | gt => exact takeComparator?.eq_5 _ hequals

private theorem takeComparator?_numeral (n : Numeral) (rest : List Char) :
    takeComparator? (n.chars ++ rest) = none := by
  apply takeComparator?.eq_6 <;> intro others
  all_goals exact n.chars_append_ne_cons (by decide) (by decide) rest _

private theorem takeComparator?_chars (f : NumberForm) :
    takeComparator? f.chars =
      match f with
      | .comparison op bound => some (op, bound.chars)
      | _ => none := by
  cases f with
  | comparison op bound => exact takeComparator?_symbol op bound
  | range first second => exact takeComparator?_numeral first _
  | plain number =>
    have h := takeComparator?_numeral number []
    rwa [List.append_nil] at h

private theorem eq_append_of_takeComparator? {op : Comparator} {rest : List Char}
    (h : takeComparator? cs = some (op, rest)) : cs = op.symbol.toList ++ rest := by
  rw [takeComparator?.eq_def] at h
  split at h <;> cases h <;> rfl

/-! ### Ranges -/

private theorem splitRange?_cons {c : Char} (h : c = '.' → cs.head? ≠ some '.') :
    splitRange? (c :: cs) = (splitRange? cs).map fun (before, after) ↦ (c :: before, after) := by
  apply splitRange?.eq_3
  rintro rest rfl rfl
  exact h rfl rfl

private theorem splitRange?_row (row : DigitRow) (rest : List Char) :
    splitRange? (row.chars ++ rest) =
      (splitRange? rest).map fun (before, after) ↦ (row.chars ++ before, after) := by
  have hpoint : '.' ∉ row.chars := row.notMem (by decide)
  generalize row.chars = digits at hpoint ⊢
  induction digits with
  | nil => simp
  | cons c cs ih =>
    simp only [List.mem_cons, not_or] at hpoint
    rw [List.cons_append, splitRange?_cons fun hc ↦ absurd hc.symm hpoint.1, ih hpoint.2]
    simp [Function.comp_def]

-- It has no two points in a row and does not end in a point.
private theorem splitRange?_numeral (n : Numeral) (rest : List Char) :
    splitRange? (n.chars ++ rest) =
      (splitRange? rest).map fun (before, after) ↦ (n.chars ++ before, after) := by
  have hbody : splitRange? (n.body ++ rest) =
      (splitRange? rest).map fun (before, after) ↦ (n.body ++ before, after) := by
    unfold Numeral.body
    rw [List.append_assoc, splitRange?_row]
    cases n.fraction with
    | none => simp [Numeral.fractionChars]
    | some row =>
      obtain ⟨c, cs, hchars, hc⟩ := row.exists_cons
      have hpoint : (row.chars ++ rest).head? ≠ some '.' := by
        simpa [hchars] using Text.ne_of_isDecimalDigit hc (by decide)
      rw [Numeral.fractionChars, List.cons_append, splitRange?_cons fun _ ↦ hpoint,
        splitRange?_row]
      simp [Function.comp_def]
  unfold Numeral.chars
  by_cases h : n.isNegative = true
  · simp only [h, if_true, List.cons_append, List.nil_append]
    rw [splitRange?_cons fun hc ↦ absurd hc (by decide), hbody]
    simp [Function.comp_def]
  · simpa [h] using hbody

/-- A range is split at its two points. -/
theorem splitRange?_range (first second : Numeral) :
    splitRange? (NumberForm.range first second).chars = some (first.chars, second.chars) := by
  rw [NumberForm.chars, splitRange?_numeral, splitRange?]
  simp

/-- A numeral is not split. -/
theorem splitRange?_plain (number : Numeral) : splitRange? number.chars = none := by
  have h := splitRange?_numeral number []
  rwa [List.append_nil] at h

private theorem eq_append_of_splitRange? {before after : List Char}
    (h : splitRange? cs = some (before, after)) : cs = before ++ '.' :: '.' :: after := by
  fun_induction splitRange? cs generalizing before with
  | case1 => cases h
  | case2 cs => cases h; rfl
  | case3 c cs hpoints ih =>
    obtain ⟨⟨before', after'⟩, hrest, heq⟩ := Option.map_eq_some_iff.mp h
    cases heq
    rw [ih hrest]
    rfl

/-! ### Numbers -/

private theorem number?_chars (n : Numeral) : number? n.chars = n.value? := n.value?_eq.symm

/-- Every number of a test is written by a numeral with ASCII digits. -/
theorem exists_numeral_of_number? {x : Binary64} (h : number? cs = some x) :
    ∃ n : Numeral, n.IsAscii ∧ n.chars = cs := by
  obtain ⟨d, hd, -⟩ := Option.map_eq_some_iff.mp h
  exact Numeral.exists_chars_eq_of_plain? hd

/-- The numbers of a test, as they are written. -/
def numbers : NumberTest → List Binary64
  | compare _ bound => [bound]
  | range first second => [first, second]

/-! ### Tests -/

private theorem number?_range (first second : Numeral) :
    number? (NumberForm.range first second).chars = none := by
  cases h : number? (NumberForm.range first second).chars with
  | none => rfl
  | some x =>
    -- Its text would be that of a numeral, which has no two points in a row.
    obtain ⟨n, -, hn⟩ := exists_numeral_of_number? h
    have hsplit := splitRange?_range first second
    rw [← hn, splitRange?_plain] at hsplit
    cases hsplit

/-- A text in one of the forms is read as the test of that form. -/
theorem ofChars?_chars (f : NumberForm) : ofChars? f.chars = f.test? := by
  unfold ofChars?
  rw [takeComparator?_chars]
  cases f with
  | comparison op bound => simp only [number?_chars, NumberForm.test?]
  | range first second =>
    simp only [number?_range, range?, splitRange?_range, NumberForm.test?]
    simp [number?_chars]
  | plain number =>
    simp only [NumberForm.chars, range?, splitRange?_plain, number?_chars, NumberForm.test?]
    simp

/-- Every test is written in one of the forms, with ASCII digits. -/
theorem exists_form_of_ofChars? {test : NumberTest} (h : ofChars? cs = some test) :
    ∃ f : NumberForm, f.IsAscii ∧ f.chars = cs := by
  unfold ofChars? at h
  split at h
  · next op rest hop =>
    obtain ⟨x, hx, -⟩ := Option.map_eq_some_iff.mp h
    obtain ⟨n, hascii, rfl⟩ := exists_numeral_of_number? hx
    exact ⟨.comparison op n, hascii, (eq_append_of_takeComparator? hop).symm⟩
  · rw [Option.orElse_eq_orElse, Option.orElse_eq_or, Option.or_eq_some_iff] at h
    rcases h with hrange | ⟨-, hnumber⟩
    · obtain ⟨⟨before, after⟩, hsplit, hbounds⟩ := Option.bind_eq_some_iff.mp hrange
      obtain ⟨lower, hlower, hupper⟩ := Option.bind_eq_some_iff.mp hbounds
      obtain ⟨upper, hupper, -⟩ := Option.bind_eq_some_iff.mp hupper
      obtain ⟨first, hfirst, rfl⟩ := exists_numeral_of_number? hlower
      obtain ⟨second, hsecond, rfl⟩ := exists_numeral_of_number? hupper
      exact ⟨.range first second, ⟨hfirst, hsecond⟩, (eq_append_of_splitRange? hsplit).symm⟩
    · obtain ⟨x, hx, -⟩ := Option.map_eq_some_iff.mp hnumber
      obtain ⟨n, hascii, rfl⟩ := exists_numeral_of_number? hx
      exact ⟨.plain n, hascii, rfl⟩

end NumberTest

namespace NumberForm

private theorem isNaN_of_mem_numbers {f : NumberForm} {test : NumberTest} (h : f.test? = some test)
    {x : Binary64} (hx : x ∈ test.numbers) : x.isNaN = false := by
  cases f with
  | comparison op bound =>
    obtain ⟨y, hy, rfl⟩ := Option.map_eq_some_iff.mp h
    obtain rfl := List.mem_singleton.mp hx
    exact bound.isNaN_of_value? hy
  | range first second =>
    obtain ⟨lower, hlower, hrest⟩ := Option.bind_eq_some_iff.mp h
    obtain ⟨upper, hupper, htest⟩ := Option.bind_eq_some_iff.mp hrest
    cases htest
    rcases List.mem_pair.mp hx with rfl | rfl
    · exact first.isNaN_of_value? hlower
    · exact second.isNaN_of_value? hupper
  | plain number =>
    obtain ⟨y, hy, rfl⟩ := Option.map_eq_some_iff.mp h
    obtain rfl := List.mem_singleton.mp hx
    exact number.isNaN_of_value? hy

/-- A text has one form at most. The relation at its start and the two points in a row tell the
kinds apart, and forms of one kind differ in a relation or a numeral. -/
theorem eq_of_chars_eq {f g : NumberForm} (h : f.chars = g.chars) : f = g := by
  -- Each step of the reader is a function of the characters, so it agrees on both forms.
  have hrelation := congrArg NumberTest.takeComparator? h
  rw [NumberTest.takeComparator?_chars, NumberTest.takeComparator?_chars] at hrelation
  cases f with
  | comparison op n =>
    cases g with
    | comparison op' m =>
      obtain ⟨rfl, hnumeral⟩ := Prod.mk.inj (Option.some.inj hrelation)
      rw [Numeral.eq_of_chars_eq hnumeral]
    | range | plain => cases hrelation
  | range first second =>
    have hpoints := congrArg NumberTest.splitRange? h
    rw [NumberTest.splitRange?_range] at hpoints
    cases g with
    | comparison => cases hrelation
    | range first' second' =>
      rw [NumberTest.splitRange?_range, Option.some.injEq, Prod.mk.injEq] at hpoints
      rw [Numeral.eq_of_chars_eq hpoints.1, Numeral.eq_of_chars_eq hpoints.2]
    | plain m =>
      rw [chars, NumberTest.splitRange?_plain] at hpoints
      cases hpoints
  | plain n =>
    cases g with
    | comparison => cases hrelation
    | range first second =>
      have hpoints := congrArg NumberTest.splitRange? h
      rw [NumberTest.splitRange?_range, chars, NumberTest.splitRange?_plain] at hpoints
      cases hpoints
    | plain m => rw [Numeral.eq_of_chars_eq h]

end NumberForm

namespace NumberTest

/-- A text is a number test exactly when it has one of three forms with ASCII digits: a relation
before a numeral, two numerals around two points, or a numeral alone. Whatever the script of its
digits, no text has two of the forms, or one form in two ways. The test is that of the form, with
its bounds in their order and equality for a numeral alone, and its numbers are numbers. -/
theorem ofText?_forms (s : String) :
    ((ofText? s).isSome = true ↔ ∃ f : NumberForm, f.IsAscii ∧ f.chars = s.toList) ∧
    (∀ f g : NumberForm, f.chars = s.toList → g.chars = s.toList → f = g) ∧
    (∀ f : NumberForm, f.chars = s.toList → ofText? s = f.test?) ∧
    ∀ test, ofText? s = some test → ∀ x ∈ test.numbers, x.isNaN = false := by
  have htest : ∀ f : NumberForm, f.chars = s.toList → ofText? s = f.test? := by
    intro f hf
    rw [ofText?, ← hf, ofChars?_chars]
  refine ⟨⟨fun h ↦ ?_, ?_⟩, fun f g hf hg ↦ ?_, htest, fun test h x hx ↦ ?_⟩
  · obtain ⟨test, h⟩ := Option.isSome_iff_exists.mp h
    exact exists_form_of_ofChars? h
  · rintro ⟨f, hascii, hf⟩
    rw [htest f hf, f.isSome_test?_iff]
    exact hascii
  · exact NumberForm.eq_of_chars_eq (hf.trans hg.symm)
  · obtain ⟨f, -, hf⟩ := exists_form_of_ofChars? h
    rw [htest f hf] at h
    exact NumberForm.isNaN_of_mem_numbers h hx

/-- A range from a negative fraction, a digit of another script, and three points in a row. -/
theorem ofText?_forms_near_misses :
    let one : DigitRow := .ofDigits ['1'] rfl
    let five : DigitRow := .ofDigits ['5'] rfl
    let arabic : DigitRow := ⟨['\u0663'], by decide, List.all_eq_true.mp (by decide)⟩
    let range : NumberForm := .range ⟨true, one, some five⟩ ⟨false, five, none⟩
    let foreign : NumberForm := .plain ⟨false, arabic, none⟩
    (range.IsAscii ∧ range.chars = "-1.5..5".toList ∧ ∃ test, ofText? "-1.5..5" = some test ∧
      range.test? = some test ∧ ∀ x ∈ test.numbers, x.isNaN = false) ∧
    (foreign.chars = "\u0663".toList ∧ ofText? "\u0663" = foreign.test? ∧
      foreign.test? = none) ∧
    ofText? "1...5" = none ∧ ¬∃ f : NumberForm, f.IsAscii ∧ f.chars = "1...5".toList := by
  intro one five arabic range foreign
  have hone : one.IsAscii := DigitRow.isAscii_ofDigits rfl
  have hfive : five.IsAscii := DigitRow.isAscii_ofDigits rfl
  have hascii : range.IsAscii := ⟨⟨hone, by simpa using hfive⟩, hfive, by simp⟩
  have hrange : range.chars = "-1.5..5".toList := rfl
  have hforeign : foreign.chars = "\u0663".toList := rfl
  obtain ⟨hread, -, htest, hnumbers⟩ := ofText?_forms "-1.5..5"
  obtain ⟨test, hsome⟩ := Option.isSome_iff_exists.mp (hread.mpr ⟨range, hascii, hrange⟩)
  have hnone : ofText? "1...5" = none := by decide
  have hdigit : ¬foreign.IsAscii := fun h ↦ absurd (h.1 '\u0663' List.mem_cons_self) (by decide)
  refine ⟨⟨hascii, hrange, test, hsome, (htest range hrange).symm.trans hsome,
    hnumbers test hsome⟩, ⟨hforeign, (ofText?_forms "\u0663").2.2.1 foreign hforeign, ?_⟩, hnone,
    fun hform ↦ ?_⟩
  · rw [← foreign.isSome_test?_iff, Bool.not_eq_true, Option.isSome_eq_false_iff] at hdigit
    exact Option.isNone_iff_eq_none.mp hdigit
  · have hsome := (ofText?_forms "1...5").1.mpr hform
    rw [hnone] at hsome
    cases hsome

end NumberTest
end CertCatalog.Query
