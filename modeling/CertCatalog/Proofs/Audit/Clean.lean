import CertCatalog.Audit

/-!
# Clean audits

An audit is clean when the source has entries, each file was readable, and no entry has a finding
after the entries before it. Every check is silent on exactly the entries that keep its rule, so an
entry without a finding keeps all the rules at once.
-/

namespace CertCatalog

namespace Audit

/-! ### Rules of the checks -/

private theorem report_eq_nil_iff {condition : Bool} {finding : Finding} :
    report condition finding = [] ↔ condition = false := by
  cases condition <;> simp [report]

private theorem report_not_eq_nil_iff {condition : Bool} {finding : Finding} :
    report (!condition) finding = [] ↔ condition = true := by
  cases condition <;> simp [report]

private theorem map_filter_not_eq_nil_iff {α : Type} {test : α → Bool} {finding : α → Finding}
    {items : List α} :
    (items.filter (!test ·)).map finding = [] ↔ ∀ a ∈ items, test a = true := by
  simp [List.filter_eq_nil_iff]

private theorem singleton_eq_nil_iff {α : Type} {finding : Finding} {shape rule : α → Prop}
    (hno : ∀ a, ¬shape a) : [finding] = [] ↔ ∃ a, shape a ∧ rule a := by
  constructor
  · intro h
    cases h
  · rintro ⟨a, hshape, -⟩
    exact absurd hshape (hno a)

private theorem isNone_named?_eq_false_iff {α : Type} {all : List α} {name : α → String}
    {s : String} :
    (Text.named? all name s).isNone = false ↔ ∃ a ∈ all, name a = s := by
  rw [Text.named?, Option.isNone_eq_false_iff, List.find?_isSome]
  simp

/-- Every key has a value. -/
theorem checkKeys_eq_nil_iff (e : Entry) : checkKeys e = [] ↔ ∀ key, e.has key = true := by
  rw [checkKeys, report_not_eq_nil_iff, List.isEmpty_iff_length_eq_zero, missingKeys,
    List.length_mergeSort, List.length_map, List.length_eq_zero_iff, List.filter_eq_nil_iff]
  constructor
  · intro h key
    simpa using h key key.mem_all
  · intro h key _
    simp [h key]

/-- An entry with a file of its own bears the stem of the file as id. -/
theorem checkStem_eq_nil_iff (s : SourcedEntry) :
    checkStem s = [] ↔ (s.hasOwnFile = true → s.entry.text .id = Files.stem s.path) := by
  rw [checkStem, report_eq_nil_iff]
  cases s.hasOwnFile <;> simp

/-- No earlier entry has the same id. -/
theorem checkUnique_eq_nil_iff (earlier : List SourcedEntry) (e : Entry) :
    checkUnique earlier e = [] ↔ ∀ t ∈ earlier, t.entry.text .id ≠ e.text .id := by
  rw [checkUnique, report_eq_nil_iff]
  simp

/-- The domain is known. -/
theorem checkDomain_eq_nil_iff (e : Entry) :
    checkDomain e = [] ↔ e.text .domainArea ∈ Vocabulary.domains := by
  rw [checkDomain, report_not_eq_nil_iff, List.contains_iff_mem]

/-- Sub-areas are written as a list and are sub-areas of the domain. -/
theorem checkSubAreas_eq_nil_iff (e : Entry) :
    checkSubAreas e = [] ↔
      ∃ values, e.list .subAreas = some (.many values) ∧
        ∀ subArea ∈ (Listed.many values).items,
          subArea ∈ Vocabulary.subAreasOf (e.text .domainArea) := by
  rw [checkSubAreas]
  split
  next values hvalues =>
    simp only [hvalues, Option.some.injEq, Listed.many.injEq, exists_eq_left']
    rw [List.append_eq_nil_iff, map_filter_not_eq_nil_iff]
    simp only [List.contains_iff_mem]
    -- The sub-areas of a domain are known ones, so the first findings bring nothing new.
    have hknown := Vocabulary.subAreasOf_subset (e.text .domainArea)
    split
    next hempty =>
      rw [List.isEmpty_iff] at hempty
      rw [report_not_eq_nil_iff, List.isEmpty_iff, hempty]
      constructor
      · rintro ⟨-, hitems⟩ subArea hmem
        rw [hitems] at hmem
        exact absurd hmem List.not_mem_nil
      · intro h
        have hitems := List.eq_nil_iff_forall_not_mem.mpr fun a ha ↦ List.not_mem_nil (h a ha)
        exact ⟨fun a ha ↦ absurd (h a ha) List.not_mem_nil, hitems⟩
    next =>
      rw [map_filter_not_eq_nil_iff]
      simp only [List.contains_iff_mem]
      exact ⟨And.right, fun h ↦ ⟨fun a ha ↦ hknown (h a ha), h⟩⟩
  next hno => exact singleton_eq_nil_iff hno

/-- Role groups are written as a list, there is one, and all are known. -/
theorem checkRoleGroups_eq_nil_iff (e : Entry) :
    checkRoleGroups e = [] ↔
      ∃ values, e.list .roleGroups = some (.many values) ∧ (Listed.many values).items ≠ [] ∧
        ∀ group ∈ (Listed.many values).items, group ∈ Vocabulary.roleGroups := by
  rw [checkRoleGroups]
  split
  next values hvalues =>
    simp only [hvalues, Option.some.injEq, Listed.many.injEq, exists_eq_left']
    split
    next hempty => simp [List.isEmpty_iff.mp hempty]
    next hitems =>
      rw [map_filter_not_eq_nil_iff]
      simp only [List.contains_iff_mem]
      exact ⟨fun h ↦ ⟨fun hnil ↦ hitems (List.isEmpty_iff.mpr hnil), h⟩, And.right⟩
  next hno => exact singleton_eq_nil_iff hno

/-- The level is spelled as its name. -/
theorem checkLevel_eq_nil_iff (e : Entry) :
    checkLevel e = [] ↔ ∃ level ∈ Level.all, level.name = e.text .level := by
  rw [checkLevel, report_eq_nil_iff, Level.named?, isNone_named?_eq_false_iff]

/-- The status is spelled as its name. -/
theorem checkStatus_eq_nil_iff (e : Entry) :
    checkStatus e = [] ↔ ∃ status ∈ Status.all, status.name = e.text .status := by
  rw [checkStatus, report_eq_nil_iff, isNone_named?_eq_false_iff]

/-- The focus on artificial intelligence is a Boolean. -/
theorem checkAiFocus_eq_nil_iff (e : Entry) :
    checkAiFocus e = [] ↔ ∃ b, e.scalar .aiFocus = some (.bool b) := by
  rw [checkAiFocus]
  split
  next b hb => simp [hb]
  next hno => simpa using hno

/-- The year is an integer. -/
theorem checkYear_eq_nil_iff (e : Entry) :
    checkYear e = [] ↔ ∃ n, e.scalar .introducedYear = some (.int n) := by
  rw [checkYear]
  split
  next n hn => simp [hn]
  next hno => simpa using hno

/-- The price is an integer from zero on. -/
theorem checkPrice_eq_nil_iff (e : Entry) :
    checkPrice e = [] ↔ ∃ n, e.scalar .priceUsd = some (.int n) ∧ 0 ≤ n.toInt := by
  rw [checkPrice]
  split
  next n hn => simp [hn, report_eq_nil_iff]
  next hno => exact singleton_eq_nil_iff hno

/-- No required text is blank. -/
theorem checkTexts_eq_nil_iff (e : Entry) :
    checkTexts e = [] ↔ ∀ key ∈ requiredTexts, e.text key ≠ "" := by
  rw [checkTexts]
  simp [List.filter_eq_nil_iff]

/-- The source of the price is spelled as its name. -/
theorem checkConfidence_eq_nil_iff (e : Entry) :
    checkConfidence e = [] ↔
      ∃ confidence ∈ PriceConfidence.all, confidence.name = e.text .priceConfidence := by
  rw [checkConfidence, report_eq_nil_iff, isNone_named?_eq_false_iff]

/-- The address is one of the web. -/
theorem checkUrl_eq_nil_iff (e : Entry) :
    checkUrl e = [] ↔
      Text.startsWith (e.text .url) "http://" = true ∨
        Text.startsWith (e.text .url) "https://" = true := by
  rw [checkUrl, report_not_eq_nil_iff, Bool.or_eq_true]

/-- The date has the right shape and exists. -/
theorem checkDate_eq_nil_iff (e : Entry) :
    checkDate e = [] ↔
      hasDateShape (e.text .lastUpdated).toList = true ∧
        (CalendarDate.ofText? (e.text .lastUpdated)).isSome = true := by
  rw [checkDate]
  cases hasDateShape (e.text .lastUpdated).toList with
  | false => simp
  | true => simp [report_eq_nil_iff]

/-- The tooltip mentions name, code or description. -/
theorem checkTooltip_eq_nil_iff (e : Entry) :
    checkTooltip e = [] ↔
      ∃ key ∈ tooltipKeys, Text.lower (e.text key) ≠ "" ∧
        Text.contains (Text.lower (e.text .tooltipLegacy)) (Text.lower (e.text key)) = true := by
  rw [checkTooltip]
  split
  next hempty =>
    -- A blank tooltip mentions nothing but the empty text.
    rw [String.isEmpty_iff.mp hempty]
    constructor
    · intro h
      cases h
    · rintro ⟨key, -, hne, hcontains⟩
      have hnil := List.infix_nil.mp (Text.contains_eq_true_iff.mp hcontains)
      exact absurd (String.toList_eq_nil_iff.mp hnil) hne
  next =>
    rw [report_not_eq_nil_iff, List.any_eq_true]
    simp

/-- A price label fits a price: one that looks like a price, says that it is unknown or free when
the price is zero, a positive price has digits in its label, and only the price zero is free. -/
structure LabelFits (label : String) (price : Int) : Prop where
  zero : price = 0 → (label.toList.any Char.isDigit || label.toList.contains '$') = true →
    Vocabulary.isUnknownPriceLabel (Text.lower label) = true ∨
      Text.contains (Text.lower label) Vocabulary.freeMarker = true
  positive : 0 < price → label.toList.any Char.isDigit = true
  free : Text.contains (Text.lower label) Vocabulary.freeMarker = true → price = 0

/-- Price and price label agree. -/
theorem checkPriceLabel_eq_nil_iff (e : Entry) :
    checkPriceLabel e = [] ↔
      LabelFits (e.text .priceLabel) (((e.scalar .priceUsd).bind Scalar.asInt?).getD 0) := by
  generalize hprice : ((e.scalar .priceUsd).bind Scalar.asInt?).getD 0 = price
  simp only [checkPriceLabel, hprice, List.append_eq_nil_iff, report_eq_nil_iff]
  constructor
  · rintro ⟨⟨hzero, hpositive⟩, hfree⟩
    refine ⟨?_, ?_, ?_⟩
    · intro h0 hlooks
      simp only [h0, hlooks, beq_self_eq_true, Bool.true_and, Bool.and_eq_false_iff,
        Bool.not_eq_false'] at hzero
      exact hzero
    · intro hpos
      simpa [hpos] using hpositive
    · intro hmarked
      simpa [hmarked] using hfree
  · rintro ⟨hzero, hpositive, hfree⟩
    refine ⟨⟨?_, ?_⟩, ?_⟩
    · by_cases h0 : price = 0
      · cases hlooks : (e.text .priceLabel).toList.any Char.isDigit ||
          (e.text .priceLabel).toList.contains '$' with
        | false => rw [Bool.and_false, Bool.false_and, Bool.false_and]
        | true =>
          rcases hzero h0 hlooks with hunknown | hmarked
          · rw [hunknown, Bool.not_true, Bool.and_false, Bool.false_and]
          · rw [hmarked, Bool.not_true, Bool.and_false]
      · simp [h0]
    · by_cases hpos : 0 < price
      · simp [hpositive hpos]
      · simp [hpos]
    · cases hmarked : Text.contains (Text.lower (e.text .priceLabel)) Vocabulary.freeMarker with
      | false => rfl
      | true => simp [hfree hmarked]

/-! ### Entries and sources without findings -/

/-- An entry that follows the earlier ones keeps the rules of all checks. -/
structure Conforms (earlier : List SourcedEntry) (s : SourcedEntry) : Prop where
  keys : ∀ key, s.entry.has key = true
  stem : s.hasOwnFile = true → s.entry.text .id = Files.stem s.path
  unique : ∀ t ∈ earlier, t.entry.text .id ≠ s.entry.text .id
  domain : s.entry.text .domainArea ∈ Vocabulary.domains
  subAreas : ∃ values, s.entry.list .subAreas = some (.many values) ∧
    ∀ subArea ∈ (Listed.many values).items,
      subArea ∈ Vocabulary.subAreasOf (s.entry.text .domainArea)
  roleGroups : ∃ values, s.entry.list .roleGroups = some (.many values) ∧
    (Listed.many values).items ≠ [] ∧
    ∀ group ∈ (Listed.many values).items, group ∈ Vocabulary.roleGroups
  level : ∃ level ∈ Level.all, level.name = s.entry.text .level
  status : ∃ status ∈ Status.all, status.name = s.entry.text .status
  aiFocus : ∃ b, s.entry.scalar .aiFocus = some (.bool b)
  year : ∃ n, s.entry.scalar .introducedYear = some (.int n)
  price : ∃ n, s.entry.scalar .priceUsd = some (.int n) ∧ 0 ≤ n.toInt
  texts : ∀ key ∈ requiredTexts, s.entry.text key ≠ ""
  confidence : ∃ confidence ∈ PriceConfidence.all,
    confidence.name = s.entry.text .priceConfidence
  url : Text.startsWith (s.entry.text .url) "http://" = true ∨
    Text.startsWith (s.entry.text .url) "https://" = true
  date : hasDateShape (s.entry.text .lastUpdated).toList = true ∧
    (CalendarDate.ofText? (s.entry.text .lastUpdated)).isSome = true
  tooltip : ∃ key ∈ tooltipKeys, Text.lower (s.entry.text key) ≠ "" ∧
    Text.contains (Text.lower (s.entry.text .tooltipLegacy))
      (Text.lower (s.entry.text key)) = true
  priceLabel : LabelFits (s.entry.text .priceLabel)
    (((s.entry.scalar .priceUsd).bind Scalar.asInt?).getD 0)

/-- Nothing is found about exactly the entries that keep all rules. -/
theorem findings_eq_nil_iff (earlier : List SourcedEntry) (s : SourcedEntry) :
    findings earlier s = [] ↔ Conforms earlier s := by
  simp only [findings, List.append_eq_nil_iff, and_assoc]
  rw [checkKeys_eq_nil_iff, checkStem_eq_nil_iff, checkUnique_eq_nil_iff, checkDomain_eq_nil_iff,
    checkSubAreas_eq_nil_iff, checkRoleGroups_eq_nil_iff, checkLevel_eq_nil_iff,
    checkStatus_eq_nil_iff, checkAiFocus_eq_nil_iff, checkYear_eq_nil_iff, checkPrice_eq_nil_iff,
    checkTexts_eq_nil_iff, checkConfidence_eq_nil_iff, checkUrl_eq_nil_iff, checkDate_eq_nil_iff,
    checkTooltip_eq_nil_iff, checkPriceLabel_eq_nil_iff]
  constructor
  · rintro ⟨keys, stem, unique, domain, subAreas, roleGroups, level, status, aiFocus, year, price,
      texts, confidence, url, date, tooltip, priceLabel⟩
    exact { keys, stem, unique, domain, subAreas, roleGroups, level, status, aiFocus, year, price,
            texts, confidence, url, date, tooltip, priceLabel }
  · intro h
    exact ⟨h.keys, h.stem, h.unique, h.domain, h.subAreas, h.roleGroups, h.level, h.status,
      h.aiFocus, h.year, h.price, h.texts, h.confidence, h.url, h.date, h.tooltip, h.priceLabel⟩

/-- No issue is raised when each entry keeps the rules after the ones before it. -/
theorem entryIssues_eq_nil_iff (earlier entries : List SourcedEntry) :
    entryIssues earlier entries = [] ↔
      ∀ before s after, entries = before ++ s :: after → Conforms (earlier ++ before) s := by
  induction entries generalizing earlier with
  | nil => simp [entryIssues]
  | cons t rest ih =>
    rw [entryIssues, List.append_eq_nil_iff, List.map_eq_nil_iff, findings_eq_nil_iff, ih]
    constructor
    · rintro ⟨hfirst, hrest⟩ before s after hsplit
      cases before with
      | nil =>
        cases hsplit
        rw [List.append_nil]
        exact hfirst
      | cons u before =>
        cases hsplit
        rw [List.append_cons]
        exact hrest before s after rfl
    · intro h
      refine ⟨?_, ?_⟩
      · have hfirst := h [] t rest rfl
        rwa [List.append_nil] at hfirst
      · intro before s after hsplit
        have hs := h (t :: before) s after (by rw [hsplit, List.cons_append])
        rwa [List.append_cons] at hs

end Audit

namespace CatalogSource

/-- A clean source has entries and no problems, and each entry keeps the rules after the ones before
it. -/
theorem isClean_audit_iff (source : CatalogSource) :
    source.audit.isClean = true ↔
      source.problems = [] ∧ source.entries ≠ [] ∧
        ∀ before s after, source.entries = before ++ s :: after → Audit.Conforms before s := by
  rw [AuditReport.isClean, audit, List.isEmpty_iff, List.append_eq_nil_iff,
    List.append_eq_nil_iff, List.map_eq_nil_iff, Audit.entryIssues_eq_nil_iff]
  simp only [List.nil_append]
  constructor
  · rintro ⟨⟨hrecords, hproblems⟩, hentries⟩
    refine ⟨hproblems, ?_, hentries⟩
    intro hnil
    rw [hproblems, hnil] at hrecords
    cases hrecords
  · rintro ⟨hproblems, hne, hentries⟩
    refine ⟨⟨?_, hproblems⟩, hentries⟩
    rw [List.isEmpty_eq_false_iff.mpr hne]
    rfl

/-- An entry of a clean source keeps all rules. -/
theorem exists_conforms_of_isClean {source : CatalogSource} {s : SourcedEntry}
    (hclean : source.audit.isClean = true) (hs : s ∈ source.entries) :
    ∃ before, Audit.Conforms before s := by
  obtain ⟨-, -, hentries⟩ := source.isClean_audit_iff.mp hclean
  obtain ⟨before, after, hsplit⟩ := List.append_of_mem hs
  exact ⟨before, hentries before s after hsplit⟩

end CatalogSource

end CertCatalog
