import CertCatalog.Proofs.Audit.Clean

/-!
# Defaults behind a clean audit

The record of an entry takes a default for a blank text, a number beyond its range, or a name or
code that stands in for the other. The audit asks for most of the values that keep defaults out, but
not for all of them, and what it leaves open is exactly what `NeedsNoDefault` adds.
-/

namespace CertCatalog

/-- A text stays as it is unless it is empty and its substitute is not. -/
theorem orElse_eq_left_iff {s substitute : String} :
    orElse s substitute = s ↔ (s = "" → substitute = "") := by
  rw [orElse]
  by_cases hs : s = ""
  · simp [hs]
  · simp [hs]

theorem orElse_eq_empty_iff {s substitute : String} :
    orElse s substitute = "" ↔ s = "" ∧ substitute = "" := by
  rw [orElse]
  by_cases hs : s = ""
  · simp [hs]
  · simp [hs]

namespace Entry

private theorem recordName_eq_text_iff (e : Entry) :
    e.recordName = e.text .name ↔
      (e.text .name = "" → e.text .certCode = "" ∧ e.text .id = "") := by
  rw [recordName, orElse_eq_left_iff, orElse_eq_empty_iff]

private theorem recordCode_eq_text_iff (e : Entry) :
    e.recordCode = e.text .certCode ↔
      (e.text .certCode = "" → e.text .name = "" ∧ e.text .id = "") := by
  rw [recordCode, orElse_eq_left_iff, recordName, orElse_eq_empty_iff, orElse_eq_empty_iff]
  constructor
  · intro h hcode
    exact ⟨(h hcode).1, (h hcode).2.2⟩
  · intro h hcode
    exact ⟨(h hcode).1, hcode, (h hcode).2⟩

private theorem orElse_text_eq_iff {e : Entry} {key : ScalarKey} {substitute : String}
    (h : substitute ≠ "") : orElse (e.text key) substitute = e.text key ↔ e.text key ≠ "" := by
  rw [orElse_eq_left_iff]
  exact ⟨fun hs hempty ↦ h (hs hempty), fun hne hempty ↦ absurd hempty hne⟩

private theorem natural_le (e : Entry) (key : ScalarKey) (bound : Nat) :
    e.natural key bound ≤ bound := by
  rw [natural]
  split
  next n _ =>
    split
    next h => omega
    next => exact Nat.zero_le bound
  next => exact Nat.zero_le bound

/-- A natural number within the bound is kept. -/
theorem natural_of_asInt? {e : Entry} {key : ScalarKey} {n bound : Nat}
    (h : (e.scalar key).bind Scalar.asInt? = some (n : Int)) (hn : n ≤ bound) :
    e.natural key bound = n := by
  have hrange : (0 : Int) ≤ n ∧ (n : Int) ≤ bound := by omega
  rw [natural, h]
  simp [hrange]

/-- Without a natural number within the bound, none is known. -/
theorem natural_eq_zero {e : Entry} {key : ScalarKey} {bound : Nat}
    (h : ∀ n : Nat, n ≤ bound → (e.scalar key).bind Scalar.asInt? ≠ some (n : Int)) :
    e.natural key bound = 0 := by
  rw [natural]
  split
  next n hn =>
    split
    next hrange =>
      obtain ⟨m, rfl⟩ := Int.eq_ofNat_of_zero_le hrange.1
      exact absurd hn (h m (by omega))
    next => rfl
  next => rfl

/-- An integer is kept when it is within the bound, and only then. -/
theorem natural_eq_own_iff {e : Entry} {key : ScalarKey} {n : Int64}
    (h : e.scalar key = some (.int n)) (bound : Nat) :
    (∃ m, e.scalar key = some (.int m) ∧ (e.natural key bound : Int) = m.toInt) ↔
      0 ≤ n.toInt ∧ n.toInt ≤ bound := by
  have hnatural : e.natural key bound =
      if 0 ≤ n.toInt ∧ n.toInt ≤ bound then n.toInt.toNat else 0 := by
    simp [natural, h, Scalar.asInt?]
  constructor
  · rintro ⟨m, hm, hvalue⟩
    rw [h, Option.some.injEq, Scalar.int.injEq] at hm
    rw [← hm] at hvalue
    have hle := e.natural_le key bound
    omega
  · intro hrange
    refine ⟨n, h, ?_⟩
    rw [hnatural, if_pos hrange]
    exact Int.toNat_of_nonneg hrange.1

theorem toNat_introducedYear (e : Entry) :
    e.toRecord.introducedYear.toNat = e.natural .introducedYear 65535 := by
  have hle := e.natural_le .introducedYear 65535
  exact UInt16.toNat_ofNat_of_lt' (by rw [UInt16.size]; omega)

theorem toNat_priceUsd (e : Entry) :
    e.toRecord.priceUsd.toNat = e.natural .priceUsd 4294967295 := by
  have hle := e.natural_le .priceUsd 4294967295
  exact UInt32.toNat_ofNat_of_lt' (by rw [UInt32.size]; omega)

/-- The record of the entry repeats the texts and integers of the entry. -/
structure KeepsOwnValues (e : Entry) : Prop where
  name : e.toRecord.name = e.text .name
  provider : e.toRecord.provider = e.text .provider
  code : e.toRecord.code = e.text .certCode
  delivery : e.toRecord.delivery = e.text .delivery
  renewalPolicy : e.toRecord.renewalPolicy = e.text .renewal
  language : e.toRecord.language = e.text .language
  introducedYear : ∃ n, e.scalar .introducedYear = some (.int n) ∧
    (e.toRecord.introducedYear.toNat : Int) = n.toInt
  priceUsd : ∃ n, e.scalar .priceUsd = some (.int n) ∧
    (e.toRecord.priceUsd.toNat : Int) = n.toInt

/-- The texts with a default of their own that no check asks for. -/
def uncheckedTexts : List ScalarKey := [.provider, .delivery, .renewal, .language]

/-- What keeps defaults out of the record beyond the checks of an audit: no text is blank where a
default or another key stands in, and the integers fit into 16 and 32 bits. -/
structure NeedsNoDefault (e : Entry) : Prop where
  name : e.text .name = "" → e.text .certCode = "" ∧ e.text .id = ""
  code : e.text .certCode = "" → e.text .name = "" ∧ e.text .id = ""
  texts : ∀ key ∈ uncheckedTexts, e.text key ≠ ""
  introducedYear : ∀ n, e.scalar .introducedYear = some (.int n) → 0 ≤ n.toInt ∧ n.toInt ≤ 65535
  priceUsd : ∀ n, e.scalar .priceUsd = some (.int n) → n.toInt ≤ 4294967295

/-- An entry that keeps the rules of the audit keeps its own values in its record exactly when it
needs no default. -/
theorem keepsOwnValues_iff_of_conforms {earlier : List SourcedEntry} {s : SourcedEntry}
    (h : Audit.Conforms earlier s) : s.entry.KeepsOwnValues ↔ s.entry.NeedsNoDefault := by
  obtain ⟨year, hyear⟩ := h.year
  obtain ⟨price, hprice, hnonneg⟩ := h.price
  -- Year and price are integers by now, so they are kept when they lie within their bounds.
  have hyears := natural_eq_own_iff hyear 65535
  have hprices := natural_eq_own_iff hprice 4294967295
  rw [← toNat_introducedYear] at hyears
  rw [← toNat_priceUsd] at hprices
  constructor
  · intro hkeeps
    refine ⟨?_, ?_, ?_, ?_, ?_⟩
    · exact (recordName_eq_text_iff _).mp hkeeps.name
    · exact (recordCode_eq_text_iff _).mp hkeeps.code
    · simp only [uncheckedTexts, List.forall_mem_cons, List.not_mem_nil, false_imp_iff,
        implies_true, and_true]
      exact ⟨(orElse_text_eq_iff (by decide)).mp hkeeps.provider,
        (orElse_text_eq_iff (by decide)).mp hkeeps.delivery,
        (orElse_text_eq_iff (by decide)).mp hkeeps.renewalPolicy,
        (orElse_text_eq_iff (by decide)).mp hkeeps.language⟩
    · intro n hn
      cases hyear.symm.trans hn
      exact hyears.mp hkeeps.introducedYear
    · intro n hn
      cases hprice.symm.trans hn
      exact (hprices.mp hkeeps.priceUsd).2
  · intro hneeds
    have htext {key substitute} (hkey : key ∈ uncheckedTexts) (hne : substitute ≠ "") :
        orElse (s.entry.text key) substitute = s.entry.text key :=
      (orElse_text_eq_iff hne).mpr (hneeds.texts key hkey)
    refine ⟨?_, ?_, ?_, ?_, ?_, ?_, ?_, ?_⟩
    · exact (recordName_eq_text_iff _).mpr hneeds.name
    · exact htext (by decide) (by decide)
    · exact (recordCode_eq_text_iff _).mpr hneeds.code
    · exact htext (by decide) (by decide)
    · exact htext (by decide) (by decide)
    · exact htext (by decide) (by decide)
    · exact hyears.mpr (hneeds.introducedYear year hyear)
    · exact hprices.mpr ⟨hnonneg, hneeds.priceUsd price hprice⟩

/-- An entry without anything to complain about. -/
def exemplar : Entry where
  scalar
    | .id => some (.text "gcih")
    | .name => some (.text "Incident Handler")
    | .provider => some (.text "GIAC")
    | .certCode => some (.text "GCIH")
    | .url => some (.text "https://giac.org")
    | .domainArea => some (.text "Security Operations")
    | .level => some (.text "intermediate")
    | .status => some (.text "active")
    | .aiFocus => some (.bool false)
    | .introducedYear => some (.int 2000)
    | .lastUpdated => some (.text "2026-02-27")
    | .delivery => some (.text "exam")
    | .renewal => some (.text "4 years")
    | .language => some (.text "en")
    | .description => some (.text "Incident handling")
    | .summary => some (.text "Incident handling")
    | .priceUsd => some (.int 979)
    | .priceLabel => some (.text "$979")
    | .priceConfidence => some (.text "from-original-tooltip")
    | .tooltipLegacy => some (.text "GCIH")
  list
    | .subAreas => some (.many [.text "Incident Handling"])
    | .tracks => some (.many [.text "security-operations"])
    | .roleGroups => some (.many [.text "Blue Team Ops"])
    | .roles => some (.many [.text "incident-responder"])
    | .tags => some (.many [.text "incident-response"])
    | .prerequisites => some (.many [])

end Entry

namespace CatalogSource

/-- Behind a clean audit, a record repeats the values of its entry exactly when the entry needs no
default: the audit lets blank names, codes and other texts and integers out of range pass. -/
theorem keepsOwnValues_iff_of_isClean {source : CatalogSource} {s : SourcedEntry}
    (hclean : source.audit.isClean = true) (hs : s ∈ source.entries) :
    s.entry.KeepsOwnValues ↔ s.entry.NeedsNoDefault := by
  obtain ⟨before, hconforms⟩ := exists_conforms_of_isClean hclean hs
  exact Entry.keepsOwnValues_iff_of_conforms hconforms

/-- The record of an exemplary entry repeats its values. -/
theorem keepsOwnValues_iff_of_isClean_exemplar :
    let s : SourcedEntry := ⟨"gcih.yaml", true, .exemplar⟩
    let source : CatalogSource := ⟨.blank, [s], []⟩
    source.audit.isClean = true ∧ s ∈ source.entries ∧ s.entry.KeepsOwnValues := by
  intro s source
  have hclean : source.audit.isClean = true := by decide +kernel
  have hs : s ∈ source.entries := List.mem_singleton_self s
  refine ⟨hclean, hs, (keepsOwnValues_iff_of_isClean hclean hs).mpr ?_⟩
  refine ⟨by decide, by decide, by decide, ?_, ?_⟩
  · intro n hn
    cases hn
    decide
  · intro n hn
    cases hn
    decide

/-- A blank delivery passes the audit, although the record then takes the default. -/
theorem clean_source_takes_default :
    let s : SourcedEntry :=
      ⟨"gcih.yaml", true, Entry.exemplar.setScalar .delivery (some (.text "  "))⟩
    let source : CatalogSource := ⟨.blank, [s], []⟩
    source.audit.isClean = true ∧ s ∈ source.entries ∧ s.entry.text .delivery = "" ∧
      s.entry.toRecord.delivery = "exam" ∧ ¬s.entry.KeepsOwnValues := by
  intro s source
  have hclean : source.audit.isClean = true := by decide +kernel
  have htext : s.entry.text .delivery = "" := by decide +kernel
  have hrecord : s.entry.toRecord.delivery = "exam" := by
    show orElse (s.entry.text .delivery) defaultTexts.delivery = "exam"
    rw [htext]
    rfl
  refine ⟨hclean, List.mem_singleton_self s, htext, hrecord, ?_⟩
  intro hkeeps
  have hdelivery := hkeeps.delivery
  rw [htext, hrecord] at hdelivery
  exact absurd hdelivery (by decide)

end CatalogSource

end CertCatalog
