import CertCatalog.Proofs.Grouping
import CertCatalog.Proofs.Search.Positions

/-!
# Groups by position

The groups of an answer are told by the positions of their records in the catalog, as its results
are. Every group and bucket holds the results that pass a test, so its positions are those of the
places that pass it.
-/

namespace CertCatalog

/-! ### Places of results -/

/-- Places of the selected records, in ranking order. -/
def selectedPlaces (records : List Record) (query : Query) (criteria : Criteria) :
    List (Record × Nat) :=
  rankPlaces (records.zipIdx.filter (isSelected query criteria ·.1))

/-- Places of the results of a search. -/
def resultPlaces (aliases : KeyAliases) (records : List Record) (query : String)
    (criteria : Criteria) (cap : Option Nat) : List (Record × Nat) :=
  takeCap cap (selectedPlaces records (.ofText aliases query) criteria)

theorem map_takeCap {α β : Type} (f : α → β) (cap : Option Nat) (items : List α) :
    (takeCap cap items).map f = takeCap cap (items.map f) := by
  cases cap with
  | none => rfl
  | some n => exact List.map_take

private theorem mem_of_mem_takeCap {α : Type} {cap : Option Nat} {items : List α} {a : α}
    (h : a ∈ takeCap cap items) : a ∈ items := by
  cases cap with
  | none => exact h
  | some n => exact List.mem_of_mem_take h

section Results

variable (aliases : KeyAliases) (records : List Record) (query : String) (criteria : Criteria)
  (cap : Option Nat)

/-- The results of a search are the records of their places. -/
theorem map_fst_resultPlaces :
    (resultPlaces aliases records query criteria cap).map Prod.fst =
      (search aliases records query criteria cap).results := by
  rw [resultPlaces, map_takeCap, selectedPlaces, ← select_eq_map_rankPlaces]
  rfl

/-- A search counts the places of the selected records. -/
theorem total_eq_length_selectedPlaces :
    (search aliases records query criteria cap).total =
      (selectedPlaces records (.ofText aliases query) criteria).length := by
  rw [total_eq_length, selectedPositions, List.length_map, selectedPlaces]

variable {aliases records query criteria cap} in
private theorem getElem?_of_mem_resultPlaces {p : Record × Nat}
    (h : p ∈ resultPlaces aliases records query criteria cap) : records[p.2]? = some p.1 := by
  have hranking := isRanking_rankPlaces (isSelected (.ofText aliases query) criteria) records
  exact ((hranking.mem_iff p.1 p.2).mp (mem_of_mem_takeCap h)).1

end Results

/-! ### Places of groups -/

/-- Positions of the places whose records are in a group. -/
def positionsIn (places : List (Record × Nat)) (group : List Record) : List Nat :=
  (places.filter (group.contains ·.1)).map Prod.snd

/-- Positions of the places whose records pass a test. -/
def positionsWhere (places : List (Record × Nat)) (test : Record → Bool) : List Nat :=
  (places.filter (test ·.1)).map Prod.snd

variable (places : List (Record × Nat))

private theorem positionsIn_filter (test : Record → Bool) :
    positionsIn places ((places.map Prod.fst).filter test) = positionsWhere places test := by
  rw [positionsIn, positionsWhere]
  congr 1
  apply List.filter_congr
  intro p hp
  rw [Bool.eq_iff_iff, List.contains_iff_mem, List.mem_filter]
  exact and_iff_right (List.mem_map_of_mem hp)

private theorem isEmpty_positionsWhere (test : Record → Bool) :
    (positionsWhere places test).isEmpty = ((places.map Prod.fst).filter test).isEmpty := by
  rw [positionsWhere, List.filter_map, List.isEmpty_map, List.isEmpty_map]
  rfl

/-- Positions by heading: where the tests of the headings are passed, if anywhere. -/
def placedBy {κ : Type} (tests : List (κ × (Record → Bool))) : List (κ × List Nat) :=
  (tests.map fun t ↦ (t.1, positionsWhere places t.2)).filter (!·.2.isEmpty)

/-- Groups of results by tests are told by the positions where these are passed. -/
theorem map_positionsIn_groups {κ β : Type} (tests : List (κ × (Record → Bool)))
    (group : κ → List Record → β) (heading : β → κ) (recordsOf : β → List Record)
    (hheading : ∀ k l, heading (group k l) = k) (hrecords : ∀ k l, recordsOf (group k l) = l) :
    (((tests.map fun t ↦ group t.1 ((places.map Prod.fst).filter t.2)).filter
        fun b ↦ !(recordsOf b).isEmpty).map fun b ↦ (heading b, positionsIn places (recordsOf b))) =
      placedBy places tests := by
  rw [List.filter_map, List.map_map, placedBy, List.filter_map]
  simp only [Function.comp_def, hheading, hrecords, positionsIn_filter, isEmpty_positionsWhere]

/-! ### Places of groups by domain -/

/-- The headings of a domain with the tests for the records under them. -/
def headingTests (domain : String) : List (String × (Record → Bool)) :=
  (Vocabulary.subAreasOf domain).map (fun subArea ↦
    (subArea, fun r ↦ r.subAreas.contains subArea && r.domainArea == domain)) ++
  [(Vocabulary.generalBucket, fun r ↦
    !listsAny (Vocabulary.subAreasOf domain) r && r.domainArea == domain)]

private theorem headingsOf_eq_map (records : List Record) (domain : String) :
    headingsOf records domain =
      (headingTests domain).map fun t ↦ ⟨t.1, records.filter t.2⟩ := by
  rw [headingsOf, headingTests, List.map_append, List.map_map]
  rfl

/-- A group by domain told by positions. -/
structure PlacedDomainGroup where
  domain : String
  recordCount : Nat
  buckets : List (String × List Nat)
  deriving DecidableEq

/-- The group told by positions. -/
def DomainGroup.placed (g : DomainGroup) : PlacedDomainGroup where
  domain := g.domain
  recordCount := g.recordCount
  buckets := g.buckets.map fun b ↦ (b.name, positionsIn places b.records)

/-- The group of a domain among results, told by positions. -/
theorem placed_domainGroup (domain : String) :
    (domainGroup (places.map Prod.fst) domain).placed places =
      ⟨domain, ((inDomain (places.map Prod.fst) domain).map (·.id)).eraseDups.length,
        placedBy places (headingTests domain)⟩ := by
  rw [DomainGroup.placed, recordCount_domainGroup, buckets_domainGroup, headingsOf_eq_map,
    map_positionsIn_groups places (headingTests domain) SubAreaBucket.mk (·.name) (·.records)
      (fun _ _ ↦ rfl) (fun _ _ ↦ rfl)]
  rfl

/-- The groups by domain of results, told by positions. -/
theorem map_placed_groupByDomain :
    (groupByDomain (places.map Prod.fst)).map (·.placed places) =
      (domainsOf (places.map Prod.fst)).map fun domain ↦
        ⟨domain, ((inDomain (places.map Prod.fst) domain).map (·.id)).eraseDups.length,
          placedBy places (headingTests domain)⟩ := by
  rw [groupByDomain_eq_map, List.map_map]
  exact List.map_congr_left fun domain _ ↦ placed_domainGroup places domain

/-! ### Places of groups by goal -/

/-- The goals with the tests for the records that serve them. -/
def goalTests : List (Goal × (Record → Bool)) := Goal.all.map fun g ↦ (g, (·.goals.contains g))

/-- The group by goal told by positions. -/
def GoalGroup.placed (b : GoalGroup) : Goal × List Nat := (b.goal, positionsIn places b.records)

/-- The groups by goal of results, told by positions. -/
theorem map_placed_groupByGoal :
    (groupByGoal (places.map Prod.fst)).map (·.placed places) = placedBy places goalTests := by
  rw [← map_positionsIn_groups places goalTests GoalGroup.mk (·.goal) (·.records)
    (fun _ _ ↦ rfl) (fun _ _ ↦ rfl), goalTests, List.map_map]
  rfl

/-! ### Faithful places -/

/-- Places tell the results of an answer and all their groups: the records of every list stand at
its positions in the catalog. -/
structure Locates (records results : List Record) : Prop where
  map_fst : places.map Prod.fst = results
  getElem? : ∀ p ∈ places, records[p.2]? = some p.1
  buckets : ∀ g ∈ groupByDomain results, ∀ b ∈ g.buckets,
    (positionsIn places b.records).map (records[·]?) = b.records.map some
  goals : ∀ b ∈ groupByGoal results,
    (positionsIn places b.records).map (records[·]?) = b.records.map some

variable {places} in
private theorem map_getElem?_positionsIn_filter {records : List Record}
    (h : ∀ p ∈ places, records[p.2]? = some p.1) (test : Record → Bool) :
    (positionsIn places ((places.map Prod.fst).filter test)).map (records[·]?) =
      ((places.map Prod.fst).filter test).map some := by
  rw [positionsIn_filter, positionsWhere, List.filter_map, List.map_map, List.map_map]
  apply List.map_congr_left
  intro p hp
  exact h p (List.mem_filter.mp hp).1

/-- The places of the results of a search tell them and their groups. -/
theorem locates_resultPlaces (aliases : KeyAliases) (records : List Record) (query : String)
    (criteria : Criteria) (cap : Option Nat) :
    Locates (resultPlaces aliases records query criteria cap) records
      (search aliases records query criteria cap).results where
  map_fst := map_fst_resultPlaces aliases records query criteria cap
  getElem? := fun p hp ↦ getElem?_of_mem_resultPlaces hp
  buckets := by
    intro g hg b hb
    rw [← map_fst_resultPlaces] at hg
    rw [eq_domainGroup_of_mem hg, buckets_domainGroup, headingsOf_eq_map] at hb
    obtain ⟨t, -, rfl⟩ := List.mem_map.mp (List.mem_filter.mp hb).1
    exact map_getElem?_positionsIn_filter (fun p hp ↦ getElem?_of_mem_resultPlaces hp) t.2
  goals := by
    intro b hb
    rw [← map_fst_resultPlaces] at hb
    rw [(mem_groupByGoal.mp hb).2]
    exact map_getElem?_positionsIn_filter (fun p hp ↦ getElem?_of_mem_resultPlaces hp) _

end CertCatalog
