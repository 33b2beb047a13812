import CertCatalog.Proofs.Number.ReadBack
import CertCatalog.Proofs.Query.NumberForms

/-!
# Written number tests

The text of a number test is a comparison or a range around the positional forms of its numbers.
When these are finite it is one of the forms of number tests, so it is read as the very test, with
the sign of a zero and the bounds of a range in their places. An infinity is written with letters,
which no form of a test has.
-/

namespace CertCatalog

private theorem Binary64.exists_letter_mem_positionalChars {x : Binary64} (h : x.isFinite = false) :
    ∃ c ∈ ['a', 'f'], c ∈ x.positionalChars := by
  cases x with
  | nan => exact ⟨'a', by decide, by decide⟩
  | infinite negative => exact ⟨'f', by decide, by cases negative <;> decide⟩
  | finite negative units isMagnitude => cases h

namespace Query

private theorem NumberForm.mem_chars_cases {f : NumberForm} {c : Char} (h : c ∈ f.chars) :
    c ∈ ['<', '=', '>', '-', '.'] ∨ Text.isDecimalDigit c = true := by
  have hnumeral {n : Numeral} (hc : c ∈ n.chars) :
      c ∈ ['<', '=', '>', '-', '.'] ∨ Text.isDecimalDigit c = true := by
    rcases n.mem_chars_cases hc with rfl | rfl | hdigit
    · exact .inl (by decide)
    · exact .inl (by decide)
    · exact .inr hdigit
  cases f with
  | comparison op bound =>
    rcases List.mem_append.mp h with hc | hc
    · have hsymbol : op.symbol.toList.all (['<', '=', '>', '-', '.'].contains ·) = true := by
        cases op <;> decide
      exact .inl (List.contains_iff_mem.mp (List.all_eq_true.mp hsymbol c hc))
    · exact hnumeral hc
  | range first second =>
    rcases List.mem_append.mp h with hc | hc
    · exact hnumeral hc
    · rcases List.mem_cons.mp hc with rfl | hc
      · exact .inl (by decide)
      · rcases List.mem_cons.mp hc with rfl | hc
        · exact .inl (by decide)
        · exact hnumeral hc
  | plain number => exact hnumeral h

namespace NumberTest

/-- The text of a test with finite numbers has a form of this test. -/
theorem exists_form_toText {test : NumberTest} (h : ∀ x ∈ test.numbers, x.isFinite = true) :
    ∃ f : NumberForm, f.chars = test.toText.toList ∧ f.test? = some test := by
  cases test with
  | compare op bound =>
    obtain ⟨n, -, hchars, hvalue⟩ :=
      Binary64.exists_numeral_positional (h bound (by simp [numbers]))
    refine ⟨.comparison op n, ?_, ?_⟩
    · simp [NumberForm.chars, toText, Binary64.positional, hchars]
    · simp [NumberForm.test?, hvalue]
  | range first second =>
    obtain ⟨n, -, hchars, hvalue⟩ :=
      Binary64.exists_numeral_positional (h first (by simp [numbers]))
    obtain ⟨m, -, hchars', hvalue'⟩ :=
      Binary64.exists_numeral_positional (h second (by simp [numbers]))
    refine ⟨.range n m, ?_, ?_⟩
    · simp [NumberForm.chars, toText, Binary64.positional, hchars, hchars']
    · simp [NumberForm.test?, hvalue, hvalue']

private theorem positionalChars_subset_toText {test : NumberTest} {x : Binary64}
    (h : x ∈ test.numbers) :
    x.positionalChars ⊆ test.toText.toList := by
  cases test with
  | compare op bound =>
    obtain rfl := List.mem_singleton.mp h
    simp [toText, Binary64.positional]
  | range first second =>
    have hchars : (range first second).toText.toList =
        first.positionalChars ++ '.' :: '.' :: second.positionalChars := by
      simp [toText, Binary64.positional]
    rw [hchars]
    rcases List.mem_pair.mp h with rfl | rfl
    · exact List.subset_append_left _ _
    · exact fun c hc ↦ List.mem_append_right _ (by simp [hc])

/-- The text of a test with a number that is not finite is not read as a test. -/
theorem ofText?_toText_eq_none {test : NumberTest} {x : Binary64} (hx : x ∈ test.numbers)
    (h : x.isFinite = false) : ofText? test.toText = none := by
  cases hread : ofText? test.toText with
  | none => rfl
  | some other =>
    obtain ⟨f, -, hchars⟩ := exists_form_of_ofChars? hread
    obtain ⟨c, hletter, hc⟩ := x.exists_letter_mem_positionalChars h
    have hmem : c ∈ f.chars := hchars ▸ positionalChars_subset_toText hx hc
    rcases List.mem_pair.mp hletter with rfl | rfl
    · exact absurd (NumberForm.mem_chars_cases hmem) (by decide)
    · exact absurd (NumberForm.mem_chars_cases hmem) (by decide)

/-- The text of a number test is read as the test itself when its numbers are finite, and not as a
test otherwise. This holds of every test, so also of each one that is read from some text. -/
theorem ofText?_toText_eq_ite (test : NumberTest) :
    ofText? test.toText =
      if ∀ x ∈ test.numbers, x.isFinite = true then some test else none := by
  split
  · next hfinite =>
    obtain ⟨f, hchars, htest⟩ := exists_form_toText hfinite
    rw [ofText?, ← hchars, ofChars?_chars, htest]
  · next hinfinite =>
    simp only [not_forall, Bool.not_eq_true] at hinfinite
    obtain ⟨x, hx, h⟩ := hinfinite
    exact ofText?_toText_eq_none hx h

-- The text is not the one that a test was read from, but it has the same meaning.
example : (ofText? "-0.50").map toText = some "=-0.5" := by decide +kernel

end NumberTest
end Query
end CertCatalog
