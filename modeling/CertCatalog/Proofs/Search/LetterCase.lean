import CertCatalog.Proofs.Entry.LetterCase
import CertCatalog.Proofs.Query.LetterCase
import CertCatalog.Proofs.Search.Conjunction
import CertCatalog.Proofs.Search.Positions

/-!
# Searches in any letter case

A search does not tell letters from their capitals, on either side. Entries, query and the names of
the criteria may be written in any letter case, and the results stand at the same positions.
-/

namespace CertCatalog

/-! ### Criteria -/

/-- Criteria with the same values, names up to case. -/
structure Criteria.EqUpToCase (c c' : Criteria) : Prop where
  domain : Option.Rel Text.EqUpToCase c.domain c'.domain
  provider : Option.Rel Text.EqUpToCase c.provider c'.provider
  roleGroup : Option.Rel Text.EqUpToCase c.roleGroup c'.roleGroup
  level : c.level = c'.level
  priceKind : c.priceKind = c'.priceKind
  minPrice : c.minPrice = c'.minPrice
  maxPrice : c.maxPrice = c'.maxPrice
  aiOnly : c.aiOnly = c'.aiOnly
  pricedOnly : c.pricedOnly = c'.pricedOnly
  goal : c.goal = c'.goal

namespace Criteria

theorem EqUpToCase.refl (c : Criteria) : c.EqUpToCase c := by
  have hname (name : Option String) : Option.Rel Text.EqUpToCase name name := by
    cases name with
    | none => exact .none
    | some s => exact .some (.refl s)
  exact ⟨hname _, hname _, hname _, rfl, rfl, rfl, rfl, rfl, rfl, rfl⟩

private theorem activeName?_rel {name name' : Option String}
    (h : Option.Rel Text.EqUpToCase name name') :
    Option.Rel Text.EqUpToCase (activeName? name) (activeName? name') := by
  cases h with
  | none => exact .none
  | @some a b h =>
    simp only [activeName?, Option.map_some, Option.filter_some, h.trim.isEmpty_eq]
    split
    · exact .some h.trim
    · exact .none

private theorem whenGiven_activeName?_eq {name name' : Option String} {test test' : String → Bool}
    (h : Option.Rel Text.EqUpToCase name name')
    (htest : ∀ a b, Text.EqUpToCase a b → test a = test' b) :
    whenGiven (activeName? name) test = whenGiven (activeName? name') test' := by
  have hactive := activeName?_rel h
  generalize activeName? name = active, activeName? name' = active' at hactive
  cases hactive with
  | none => rfl
  | some hname => exact htest _ _ hname

variable {c c' : Criteria} {r r' : Record}

/-- Agreeing criteria say the same about records that are searched alike. -/
theorem EqUpToCase.acceptsCriterion_eq (hc : c.EqUpToCase c') (hr : r.SearchedAlike r')
    (x : Criterion) : c.acceptsCriterion r x = c'.acceptsCriterion r' x := by
  have hpaid : r.isPaid = r'.isPaid := hr.priceKind_eq .paid
  cases x with
  | domain =>
    exact whenGiven_activeName?_eq hc.domain fun a b hab ↦ hr.domainArea.eqIgnoringAsciiCase_eq hab
  | provider =>
    exact whenGiven_activeName?_eq hc.provider fun a b hab ↦ hr.provider.eqIgnoringAsciiCase_eq hab
  | roleGroup =>
    apply whenGiven_activeName?_eq hc.roleGroup
    intro a b hab
    have hname : ∀ group, Text.eqIgnoringAsciiCase group a = Text.eqIgnoringAsciiCase group b :=
      fun group ↦ Text.EqUpToCase.eqIgnoringAsciiCase_eq (.refl group) hab
    simp only [hname]
    exact any_eq_of_forall₂ (fun g g' hg ↦ hg.eqIgnoringAsciiCase_eq (.refl b)) hr.roleGroups
  | level => simp only [acceptsCriterion, acceptsLevel, hc.level, hr.level]
  | priceKind => simp only [acceptsCriterion, acceptsPriceKind, hc.priceKind, hr.priceKind_eq]
  | minPrice =>
    simp only [acceptsCriterion, acceptsMinPrice, hc.minPrice, hpaid, priceOf, hr.priceUsd]
  | maxPrice =>
    simp only [acceptsCriterion, acceptsMaxPrice, hc.maxPrice, hpaid, priceOf, hr.priceUsd]
  | aiOnly => simp only [acceptsCriterion, acceptsAiFocus, hc.aiOnly, hr.aiFocus]
  | pricedOnly => simp only [acceptsCriterion, acceptsPriced, hc.pricedOnly, hpaid]
  | goal => simp only [acceptsCriterion, acceptsGoal, hc.goal, hr.goals]

/-- Agreeing criteria accept records that are searched alike both or not at all. -/
theorem EqUpToCase.accepts_eq (hc : c.EqUpToCase c') (hr : r.SearchedAlike r') :
    c.accepts r = c'.accepts r' := by
  apply Bool.eq_iff_iff.mpr
  rw [accepts_iff, accepts_iff]
  simp only [hc.acceptsCriterion_eq hr]

end Criteria

/-! ### Searches -/

/-- Agreeing query texts and criteria select records that are searched alike both or not at all. -/
theorem isSelected_ofText_eq (aliases : KeyAliases) {query query' : String}
    (hquery : Text.EqUpToCase query query') {criteria criteria' : Criteria}
    (hcriteria : criteria.EqUpToCase criteria') {r r' : Record} (hr : r.SearchedAlike r') :
    isSelected (.ofText aliases query) criteria r =
      isSelected (.ofText aliases query') criteria' r' := by
  rw [isSelected, isSelected, hcriteria.accepts_eq hr, Query.accepts_ofText_eq aliases hquery,
    hr.query_accepts_eq]

/-- A search finds the same in any letter case. When entries, query and criteria agree up to case,
the results of both searches stand at the same positions of their catalogs, as many records are
selected, and the cap cuts off some in both or in none. -/
theorem search_eqUpToCase (aliases : KeyAliases) {entries entries' : List Entry}
    (hentries : List.Forall₂ Entry.EqUpToCase entries entries') {query query' : String}
    (hquery : Text.EqUpToCase query query') {criteria criteria' : Criteria}
    (hcriteria : criteria.EqUpToCase criteria') (cap : Option Nat) :
    let records := entries.map Entry.toRecord
    let records' := entries'.map Entry.toRecord
    let answer := search aliases records query criteria cap
    let answer' := search aliases records' query' criteria' cap
    let positions := searchPositions aliases records query criteria cap
    answer.results.map some = positions.map (records[·]?) ∧
    searchPositions aliases records' query' criteria' cap = positions ∧
    answer'.results.map some = positions.map (records'[·]?) ∧
    answer'.total = answer.total ∧
    answer'.isTruncated = answer.isTruncated := by
  intro records records' answer answer' positions
  have halike : List.Forall₂ Record.SearchedAlike records records' :=
    List.rel_map (fun _ _ h ↦ h.toRecord) hentries
  have hselected : selectedPositions records (.ofText aliases query) criteria =
      selectedPositions records' (.ofText aliases query') criteria' :=
    selectedPositions_eq (fun _ _ hr ↦ isSelected_ofText_eq aliases hquery hcriteria hr) halike
  have hpositions : searchPositions aliases records' query' criteria' cap = positions :=
    congrArg (takeCap cap) hselected.symm
  have htotal : answer'.total = answer.total := by
    rw [total_eq_length, total_eq_length, hselected]
  refine ⟨map_some_results _ _ _ _ _, hpositions, ?_, htotal, ?_⟩
  · rw [map_some_results, hpositions]
  · rw [SearchResult.isTruncated, SearchResult.isTruncated, htotal, length_results, length_results,
      hpositions]

/-- A final sigma behind a capital, an alias, a price with an exponent and a domain, all in two
letter cases. Both searches select the entry. -/
theorem search_eqUpToCase_sigma :
    let entry := ((Entry.blank.setScalar .name (some (.text "BΣ"))).setScalar .priceUsd
      (some (.text "1E3"))).setScalar .domainArea (some (.text "Iam"))
    let entry' := ((Entry.blank.setScalar .name (some (.text "bΣ"))).setScalar .priceUsd
      (some (.text "1e3"))).setScalar .domainArea (some (.text "iAM"))
    let criteria := { Criteria.none with domain := some " iam" }
    let criteria' := { Criteria.none with domain := some " IAM" }
    let answer := search .builtIn [entry.toRecord] "Cost:>=1000 Bς" criteria (some 1)
    let answer' := search .builtIn [entry'.toRecord] "cOST:>=1000 bς" criteria' (some 1)
    List.Forall₂ Entry.EqUpToCase [entry] [entry'] ∧
    Text.EqUpToCase "Cost:>=1000 Bς" "cOST:>=1000 bς" ∧
    criteria.EqUpToCase criteria' ∧
    searchPositions .builtIn [entry'.toRecord] "cOST:>=1000 bς" criteria' (some 1) =
      searchPositions .builtIn [entry.toRecord] "Cost:>=1000 Bς" criteria (some 1) ∧
    answer.total = 1 ∧ answer'.total = answer.total ∧
    answer'.isTruncated = answer.isTruncated := by
  intro entry entry' criteria criteria' answer answer'
  have hentry : entry.EqUpToCase entry' :=
    (((Entry.EqUpToCase.refl .blank).setScalar .name (.text (by decide))).setScalar .priceUsd
      (.text (by decide))).setScalar .domainArea (.text (by decide))
  have hentries : List.Forall₂ Entry.EqUpToCase [entry] [entry'] := .cons hentry .nil
  have hquery : Text.EqUpToCase "Cost:>=1000 Bς" "cOST:>=1000 bς" := by decide
  have hcriteria : criteria.EqUpToCase criteria' :=
    ⟨.some (by decide), .none, .none, rfl, rfl, rfl, rfl, rfl, rfl, rfl⟩
  have hone : answer.total = 1 := by
    rw [total_eq_length, length_selectedPositions, length_select]
    decide +kernel
  obtain ⟨-, hpositions, -, htotal, htruncated⟩ :=
    search_eqUpToCase .builtIn hentries hquery hcriteria (some 1)
  exact ⟨hentries, hquery, hcriteria, hpositions, hone, htotal, htruncated⟩

end CertCatalog
