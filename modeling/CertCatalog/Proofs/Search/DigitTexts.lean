import CertCatalog.Proofs.Number.Decimal
import CertCatalog.Proofs.Query.CanonicalText
import CertCatalog.Proofs.Query.NumberForms
import CertCatalog.Proofs.Record.SearchText
import CertCatalog.Proofs.Text.SmallLetters

/-!
# Values looked up in digits

A condition on the year or the price whose value is no number test looks for the value in the digits
of the year or the price. It never finds it there: any part of these digits is a number test
itself, a value is not blank, and no other text has digits as its lowercase. What is left is the
price label.
-/

namespace CertCatalog

/-! ### Rows of digits -/

private theorem Integer.isDigit_of_mem_toText {n : Nat} {c : Char} (h : c ∈ (toText n).toList) :
    c.isDigit = true := by
  have hnonneg : ¬((n : Int) < 0) := by omega
  rw [toText, if_neg hnonneg, List.nil_append, String.toList_ofList, Int.natAbs_natCast] at h
  exact Nat.isDigit_of_mem_toDigits (by decide) (by decide) h

private theorem Query.NumberTest.isSome_ofText?_of_isDigit {s : String} (hne : s ≠ "")
    (h : ∀ c ∈ s.toList, c.isDigit = true) : (ofText? s).isSome = true := by
  have hchars : s.toList ≠ [] := by simpa using hne
  have hdigits : Decimal.isDigits s.toList = true := DigitRow.isDigits_iff_forall.mpr ⟨hchars, h⟩
  let form : NumberForm := .plain ⟨false, .ofDigits _ hdigits, none⟩
  have hform : form.chars = s.toList := by
    simp [form, NumberForm.chars, Numeral.chars, Numeral.body, Numeral.fractionChars,
      DigitRow.ofDigits]
  have hascii : form.IsAscii := ⟨DigitRow.isAscii_ofDigits hdigits, by simp⟩
  rw [ofText?, ← hform, ofChars?_chars]
  exact form.isSome_test?_iff.mpr hascii

/-! ### Values of conditions -/

section Values

variable {aliases : KeyAliases} {tokens : List String} {p : Predicate}

/-- A value that is no number test has a character in its lowercase that is no digit. Were all of
them digits, the value would be these digits. -/
theorem Query.exists_isDigit_eq_false_of_mem_predicates
    (hp : p ∈ (ofTokens aliases tokens).predicates) (hnumber : p.number = none) :
    ∃ c ∈ p.valueLower.toList, c.isDigit = false := by
  obtain ⟨term, hterm, hpredicate⟩ := List.mem_filterMap.mp hp
  obtain ⟨token, -, rfl⟩ := List.mem_map.mp hterm
  have hmeaning : Term.ofToken aliases token = .predicate p := by
    cases hmeaning : Term.ofToken aliases token <;> simp_all [Term.predicate?]
  obtain ⟨key, value, -, -, -, hvalue, rfl⟩ := Term.ofToken_eq_predicate_iff.mp hmeaning
  -- Digits have no other lowercase form, so the value itself would be a number test.
  have hdigits : ¬∀ c ∈ Text.lowerChars (Text.trimChars value), c.isDigit = true := by
    intro hdigits
    have hself : Text.lowerFrom [] (Text.trimChars value) = Text.trimChars value := by
      apply Text.lowerFrom_eq_self_of_lt
      intro c hc
      have := (Text.isDigit_iff.mp (hdigits c hc)).2
      omega
    rw [Text.lowerChars, hself] at hdigits
    have hsome : (NumberTest.ofText? (Text.trim (String.ofList value))).isSome = true := by
      apply NumberTest.isSome_ofText?_of_isDigit
      · simpa [Text.trim] using hvalue
      · simpa using hdigits
    rw [Predicate.of] at hnumber
    dsimp only at hnumber
    rw [hnumber] at hsome
    cases hsome
  simpa [Predicate.of] using hdigits

variable (hp : p ∈ (Query.ofTokens aliases tokens).predicates) (hnumber : p.number = none)
include hp hnumber

private theorem Predicate.contains_toText_eq_false (n : Nat) :
    Text.contains (Integer.toText n) p.valueLower = false := by
  obtain ⟨c, hc, hdigit⟩ := Query.exists_isDigit_eq_false_of_mem_predicates hp hnumber
  rw [← Bool.not_eq_true, Text.contains_eq_true_iff]
  intro hcontained
  simp [Integer.isDigit_of_mem_toText (List.IsInfix.mem hc hcontained)] at hdigit

private theorem Predicate.startsWith_toText_eq_false (n : Nat) :
    Text.startsWith (Integer.toText n) p.valueLower = false := by
  have hcontains := Predicate.contains_toText_eq_false hp hnumber n
  rw [← Bool.not_eq_true, Text.contains_eq_true_iff] at hcontains
  rw [← Bool.not_eq_true, Text.startsWith_eq_true_iff]
  exact fun hstart ↦ hcontains hstart.isInfix

/-- Digits never decide a condition whose value is no number test. On the year, such a condition
accepts no record. On the price, when its value is no price kind either, it accepts the records
whose label holds the value, whatever the price. -/
theorem accepts_of_number_eq_none (r : Record) :
    (p.key = "year" → p.accepts r = false) ∧
    (p.key = "price" → p.valueLower ∉ ["paid", "free", "unknown", "concrete"] →
      p.accepts r = Text.contains (Text.lower r.priceLabel) p.valueLower) := by
  refine ⟨fun hkey ↦ ?_, fun hkey hkind ↦ ?_⟩
  · have hyear : SearchKey.named? p.key = some .year := by
      rw [hkey]
      exact SearchKey.year.named?_name
    simp only [Predicate.accepts, hyear, Predicate.acceptsKey, Predicate.acceptsYear, hnumber]
    exact Predicate.startsWith_toText_eq_false hp hnumber _
  · have hprice : SearchKey.named? p.key = some .price := by
      rw [hkey]
      exact SearchKey.price.named?_name
    have hnone : PriceKind.named? p.valueLower = none := by
      rw [PriceKind.named?, Text.named?, List.find?_eq_none]
      intro kind _ hname
      apply hkind
      rw [← eq_of_beq hname]
      cases kind <;> simp [PriceKind.name]
    have hdigits := Predicate.contains_toText_eq_false hp hnumber r.priceUsd.toNat
    simp only [Predicate.accepts, hprice, Predicate.acceptsKey, Predicate.acceptsPrice, hnone,
      hnumber, Record.priceText, hdigits, Bool.or_false]
    rfl

end Values

/-- Digits of another script under an alias of the year, and a part of a label under one of the
price. -/
theorem accepts_of_number_eq_none_foreign_digits :
    let tokens := ["Introduced:\uff12\uff10", "cost: $9"]
    let year := Predicate.of "year" "\uff12\uff10"
    let price := Predicate.of "price" "$9"
    year ∈ (Query.ofTokens .builtIn tokens).predicates ∧ year.number = none ∧
    price ∈ (Query.ofTokens .builtIn tokens).predicates ∧ price.number = none ∧
    price.valueLower ∉ ["paid", "free", "unknown", "concrete"] ∧
    ∀ r : Record, year.accepts r = false ∧
      price.accepts r = Text.contains (Text.lower r.priceLabel) "$9" := by
  intro tokens year price
  have hyear : year ∈ (Query.ofTokens .builtIn tokens).predicates := by decide
  have hprice : price ∈ (Query.ofTokens .builtIn tokens).predicates := by decide
  have hyearNumber : year.number = none := by decide
  have hpriceNumber : price.number = none := by decide
  have hkind : price.valueLower ∉ ["paid", "free", "unknown", "concrete"] := by decide
  have hlower : price.valueLower = "$9" := by decide
  refine ⟨hyear, hyearNumber, hprice, hpriceNumber, hkind, fun r ↦ ⟨?_, ?_⟩⟩
  · exact (accepts_of_number_eq_none hyear hyearNumber r).1 (by decide)
  · rw [← hlower]
    exact (accepts_of_number_eq_none hprice hpriceNumber r).2 (by decide) hkind

end CertCatalog
