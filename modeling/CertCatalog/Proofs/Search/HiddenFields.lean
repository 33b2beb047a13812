import CertCatalog.Catalog
import CertCatalog.Proofs.Entry.Hidden
import CertCatalog.Proofs.Search.LetterCase
import CertCatalog.Proofs.Search.Places

/-!
# Hidden fields do not matter

What is found, how it is grouped and what is counted depends on the visible part of the records
only. Catalogs that differ in hidden fields yield the same positions in every answer and in all of
its groups, and the same overview.
-/

namespace CertCatalog

/-- A record is selected by its visible part. -/
theorem isSelected_visible (query : Query) (criteria : Criteria) (r : Record) :
    isSelected query criteria r.visible = isSelected query criteria r := by
  rw [isSelected, isSelected, r.searchedAlike_visible.query_accepts_eq,
    (Criteria.EqUpToCase.refl criteria).accepts_eq r.searchedAlike_visible]

/-- Records are ranked by their visible parts. -/
theorem ranksBefore_visible (a b : Record) : ranksBefore a.visible b.visible = ranksBefore a b := by
  rw [ranksBefore, ranksBefore, a.searchedAlike_visible.compareRecords_eq b.searchedAlike_visible]

/-! ### Places -/

/-- The place with the visible part of its record. -/
def visiblePlace (p : Record × Nat) : Record × Nat := p.map Record.visible id

private theorem selectedPlaces_map_visible (records : List Record) (query : Query)
    (criteria : Criteria) :
    selectedPlaces (records.map Record.visible) query criteria =
      (selectedPlaces records query criteria).map visiblePlace := by
  have hrank (places : List (Record × Nat)) :
      rankPlaces (places.map visiblePlace) = (rankPlaces places).map visiblePlace :=
    (List.map_mergeSort fun p _ q _ ↦ (ranksBefore_visible p.1 q.1).symm).symm
  have hselected : (fun p : Record × Nat ↦ isSelected query criteria p.1) ∘ visiblePlace =
      fun p ↦ isSelected query criteria p.1 :=
    funext fun p ↦ isSelected_visible query criteria p.1
  have hzip : (records.map Record.visible).zipIdx = records.zipIdx.map visiblePlace :=
    List.zipIdx_map
  rw [selectedPlaces, hzip, List.filter_map, hselected, hrank, selectedPlaces]

/-- A search of visible parts has its results at the same places. -/
theorem resultPlaces_map_visible (aliases : KeyAliases) (records : List Record) (query : String)
    (criteria : Criteria) (cap : Option Nat) :
    resultPlaces aliases (records.map Record.visible) query criteria cap =
      (resultPlaces aliases records query criteria cap).map visiblePlace := by
  rw [resultPlaces, selectedPlaces_map_visible, ← map_takeCap, resultPlaces]

private theorem map_snd_visiblePlace (places : List (Record × Nat)) :
    (places.map visiblePlace).map Prod.snd = places.map Prod.snd := by
  rw [List.map_map]
  rfl

private theorem placedBy_map_visible {κ : Type} {tests : List (κ × (Record → Bool))}
    (htests : ∀ t ∈ tests, ∀ r : Record, t.2 r.visible = t.2 r) (places : List (Record × Nat)) :
    placedBy (places.map visiblePlace) tests = placedBy places tests := by
  rw [placedBy, placedBy]
  congr 1
  apply List.map_congr_left
  intro t ht
  have htest : (fun p : Record × Nat ↦ t.2 p.1) ∘ visiblePlace = fun p ↦ t.2 p.1 :=
    funext fun p ↦ htests t ht p.1
  rw [positionsWhere, List.filter_map, htest, map_snd_visiblePlace, positionsWhere]

/-- The groups by domain of visible parts stand at the same positions. -/
theorem map_placed_groupByDomain_visible (places : List (Record × Nat)) :
    (groupByDomain ((places.map visiblePlace).map Prod.fst)).map
        (·.placed (places.map visiblePlace)) =
      (groupByDomain (places.map Prod.fst)).map (·.placed places) := by
  have hfst : (places.map visiblePlace).map Prod.fst =
      (places.map Prod.fst).map Record.visible := by
    rw [List.map_map, List.map_map]
    rfl
  have hdomains : domainsOf ((places.map Prod.fst).map Record.visible) =
      domainsOf (places.map Prod.fst) := by
    rw [domainsOf, List.map_map, domainsOf]
    rfl
  have hids (domain : String) :
      (inDomain ((places.map Prod.fst).map Record.visible) domain).map (·.id) =
        (inDomain (places.map Prod.fst) domain).map (·.id) := by
    rw [inDomain, List.filter_map, List.map_map]
    rfl
  -- Headings look at sub-areas, which the visible part keeps.
  have htests (domain : String) : ∀ t ∈ headingTests domain, ∀ r : Record,
      t.2 r.visible = t.2 r := by
    intro t ht r
    rcases List.mem_append.mp ht with h | h
    · obtain ⟨subArea, -, rfl⟩ := List.mem_map.mp h
      rfl
    · rw [List.mem_singleton.mp h]
      rfl
  rw [map_placed_groupByDomain, map_placed_groupByDomain, hfst, hdomains]
  apply List.map_congr_left
  intro domain _
  rw [hids, placedBy_map_visible (htests domain)]

/-- The groups by goal of visible parts stand at the same positions. -/
theorem map_placed_groupByGoal_visible (places : List (Record × Nat)) :
    (groupByGoal ((places.map visiblePlace).map Prod.fst)).map
        (·.placed (places.map visiblePlace)) =
      (groupByGoal (places.map Prod.fst)).map (·.placed places) := by
  have htests : ∀ t ∈ goalTests, ∀ r : Record, t.2 r.visible = t.2 r := by
    intro t ht r
    obtain ⟨g, -, rfl⟩ := List.mem_map.mp ht
    rfl
  rw [map_placed_groupByGoal, map_placed_groupByGoal, placedBy_map_visible htests]

/-! ### Overviews -/

/-- The overview of visible parts is the same. -/
theorem overview_map_visible (info : CatalogInfo) (records : List Record) :
    (Catalog.mk info (records.map Record.visible)).overview =
      (Catalog.mk info records).overview := by
  simp only [Catalog.overview, List.length_map, List.map_map, List.flatMap_map, List.countP_map]
  rfl

/-! ### Catalogs that agree visibly -/

/-- Hidden fields do not matter. When entries agree on all keys but the hidden ones, the results of
a search stand at the same positions in both catalogs, as many records are selected, the cap cuts
off some in both or in none, the groups by domain and by goal have the same headings and counts and
the same positions under them, and both catalogs have the same overview. -/
theorem search_agreesVisibly (aliases : KeyAliases) {entries entries' : List Entry}
    (h : List.Forall₂ Entry.AgreesVisibly entries entries') (query : String) (criteria : Criteria)
    (cap : Option Nat) (info : CatalogInfo) :
    let records := entries.map Entry.toRecord
    let records' := entries'.map Entry.toRecord
    let answer := search aliases records query criteria cap
    let answer' := search aliases records' query criteria cap
    let places := resultPlaces aliases records query criteria cap
    let places' := resultPlaces aliases records' query criteria cap
    (Locates places records answer.results ∧ Locates places' records' answer'.results) ∧
    places'.map Prod.snd = places.map Prod.snd ∧
    answer'.total = answer.total ∧
    answer'.isTruncated = answer.isTruncated ∧
    (groupByDomain answer'.results).map (·.placed places') =
      (groupByDomain answer.results).map (·.placed places) ∧
    (groupByGoal answer'.results).map (·.placed places') =
      (groupByGoal answer.results).map (·.placed places) ∧
    (Catalog.mk info records').overview = (Catalog.mk info records).overview := by
  intro records records' answer answer' places places'
  have hvisible : records'.map Record.visible = records.map Record.visible := by
    rw [List.map_map, List.map_map]
    exact (map_eq_of_forall₂ (fun _ _ h ↦ h.visible_toRecord) h).symm
  -- Both searches are compared with the one search of the common visible parts.
  have hplaces : places'.map visiblePlace = places.map visiblePlace := by
    rw [← resultPlaces_map_visible, ← resultPlaces_map_visible, hvisible]
  have hpositions : places'.map Prod.snd = places.map Prod.snd := by
    rw [← map_snd_visiblePlace, hplaces, map_snd_visiblePlace]
  have hresults : places.map Prod.fst = answer.results := map_fst_resultPlaces _ _ _ _ _
  have hresults' : places'.map Prod.fst = answer'.results := map_fst_resultPlaces _ _ _ _ _
  have htotal : answer'.total = answer.total := by
    have hselected := congrArg List.length
      (selectedPlaces_map_visible records' (.ofText aliases query) criteria)
    rw [hvisible, selectedPlaces_map_visible, List.length_map, List.length_map] at hselected
    rw [total_eq_length_selectedPlaces, total_eq_length_selectedPlaces, hselected]
  have hlength : answer'.results.length = answer.results.length := by
    have hsame := congrArg List.length hplaces
    rw [List.length_map, List.length_map] at hsame
    rw [← hresults, ← hresults', List.length_map, List.length_map, hsame]
  refine ⟨⟨locates_resultPlaces _ _ _ _ _, locates_resultPlaces _ _ _ _ _⟩, hpositions, htotal, ?_,
    ?_, ?_, ?_⟩
  · rw [SearchResult.isTruncated, SearchResult.isTruncated, htotal, hlength]
  · rw [← hresults, ← hresults', ← map_placed_groupByDomain_visible places', hplaces,
      map_placed_groupByDomain_visible]
  · rw [← hresults, ← hresults', ← map_placed_groupByGoal_visible places', hplaces,
      map_placed_groupByGoal_visible]
  · rw [← overview_map_visible, hvisible, overview_map_visible]

/-- An address, a language, a delivery and a prerequisite that only one of two entries has: the
records differ, and searches do not tell. -/
theorem search_agreesVisibly_delivery :
    let entry := Entry.blank.setScalar .name (some (.text "GCIH"))
    let entry' := (((entry.setScalar .url (some (.text "https://example.org"))).setScalar .language
      (some (.text "fr"))).setScalar .delivery (some (.text "remote"))).setList .prerequisites
        (some (.one (.text "remote")))
    let answer := search .builtIn [entry.toRecord] "code:gcih" .none (some 1)
    let answer' := search .builtIn [entry'.toRecord] "code:gcih" .none (some 1)
    let places := resultPlaces .builtIn [entry.toRecord] "code:gcih" .none (some 1)
    let places' := resultPlaces .builtIn [entry'.toRecord] "code:gcih" .none (some 1)
    List.Forall₂ Entry.AgreesVisibly [entry] [entry'] ∧
    entry.toRecord ≠ entry'.toRecord ∧
    (search .builtIn [entry'.toRecord] "delivery:remote" .none none).total =
      (search .builtIn [entry.toRecord] "delivery:remote" .none none).total ∧
    answer'.total = answer.total ∧ answer.total = 1 ∧
    places'.map Prod.snd = places.map Prod.snd ∧
    (groupByDomain answer'.results).map (·.placed places') =
      (groupByDomain answer.results).map (·.placed places) ∧
    (Catalog.mk .blank [entry'.toRecord]).overview =
      (Catalog.mk .blank [entry.toRecord]).overview := by
  intro entry entry' answer answer' places places'
  have hentry : entry.AgreesVisibly entry' :=
    (((Entry.AgreesVisibly.refl entry).setScalar (by decide) _).setScalar (by decide) _).setScalar
      (by decide) _ |>.setList (by decide) _
  have hentries : List.Forall₂ Entry.AgreesVisibly [entry] [entry'] := .cons hentry .nil
  have hdifferent : entry.toRecord ≠ entry'.toRecord := by
    intro heq
    have hlanguage := congrArg Record.language heq
    revert hlanguage
    decide
  have hone : answer.total = 1 := by
    rw [total_eq_length, length_selectedPositions, length_select]
    decide
  obtain ⟨-, hpositions, htotal, -, hdomains, -, hoverview⟩ :=
    search_agreesVisibly .builtIn hentries "code:gcih" .none (some 1) .blank
  have hdelivery :=
    (search_agreesVisibly .builtIn hentries "delivery:remote" .none none .blank).2.2.1
  exact ⟨hentries, hdifferent, hdelivery, htotal, hone, hpositions, hdomains, hoverview⟩

end CertCatalog
