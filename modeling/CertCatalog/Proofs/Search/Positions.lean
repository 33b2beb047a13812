import CertCatalog.Proofs.Record.SearchedAlike
import CertCatalog.Proofs.Search.Ranking

/-!
# Positions of results

A catalog may hold a record twice, so an answer is told by the positions of its results rather than
by the results. Catalogs of records that are searched alike, position by position, yield the same
positions.
-/

namespace CertCatalog

/-! ### Related lists -/

private theorem forall₂_mergeSort {α β : Type} {R : α → β → Prop} {le : α → α → Bool}
    {le' : β → β → Bool}
    (hle : ∀ a b a' b', R a a' → R b b' → le a b = le' a' b') {l : List α} {l' : List β}
    (h : List.Forall₂ R l l') : List.Forall₂ R (l.mergeSort le) (l'.mergeSort le') := by
  obtain ⟨hlength, hzip⟩ := List.forall₂_iff_zip.mp h
  -- Both lists are sorted at once, as pairs.
  have hleft : ((l.zip l').mergeSort fun p q ↦ le p.1 q.1).map Prod.fst = l.mergeSort le := by
    rw [List.map_mergeSort (f := Prod.fst) (s := le) fun _ _ _ _ ↦ rfl,
      List.map_fst_zip (Nat.le_of_eq hlength)]
  have hright : ((l.zip l').mergeSort fun p q ↦ le p.1 q.1).map Prod.snd = l'.mergeSort le' := by
    rw [List.map_mergeSort (f := Prod.snd) (s := le')
        fun p hp q hq ↦ hle _ _ _ _ (hzip hp) (hzip hq),
      List.map_snd_zip (Nat.le_of_eq hlength.symm)]
  rw [← hleft, ← hright, List.forall₂_map_left_iff, List.forall₂_map_right_iff, List.forall₂_same]
  intro p hp
  exact hzip (List.mem_mergeSort.mp hp)

private theorem forall₂_zipIdx {α β : Type} {R : α → β → Prop} {l : List α} {l' : List β}
    (h : List.Forall₂ R l l') (start : Nat) :
    List.Forall₂ (fun p q ↦ R p.1 q.1 ∧ p.2 = q.2) (l.zipIdx start) (l'.zipIdx start) := by
  induction h generalizing start with
  | nil => exact .nil
  | cons hitem _ ih => exact .cons ⟨hitem, rfl⟩ (ih (start + 1))

/-! ### Positions -/

/-- Positions of the selected records, in ranking order. -/
def selectedPositions (records : List Record) (query : Query) (criteria : Criteria) : List Nat :=
  (rankPlaces (records.zipIdx.filter (isSelected query criteria ·.1))).map Prod.snd

/-- Positions in the catalog of the results of a search. -/
def searchPositions (aliases : KeyAliases) (records : List Record) (query : String)
    (criteria : Criteria) (cap : Option Nat) : List Nat :=
  takeCap cap (selectedPositions records (.ofText aliases query) criteria)

/-- The selected records stand at their positions. -/
theorem map_some_select (records : List Record) (query : Query) (criteria : Criteria) :
    (select records query criteria).map some =
      (selectedPositions records query criteria).map (records[·]?) := by
  rw [select_eq_map_rankPlaces, selectedPositions, List.map_map, List.map_map]
  apply List.map_congr_left
  intro p hp
  have hmem := (isRanking_rankPlaces (isSelected query criteria) records).mem_iff p.1 p.2
  exact (hmem.mp hp).1.symm

theorem length_selectedPositions (records : List Record) (query : Query) (criteria : Criteria) :
    (selectedPositions records query criteria).length = (select records query criteria).length := by
  rw [select_eq_map_rankPlaces, selectedPositions, List.length_map, List.length_map]

section Search

variable (aliases : KeyAliases) (records : List Record) (query : String) (criteria : Criteria)
  (cap : Option Nat)

/-- The results of a search stand at their positions. -/
theorem map_some_results :
    (search aliases records query criteria cap).results.map some =
      (searchPositions aliases records query criteria cap).map (records[·]?) := by
  have hselect := map_some_select records (.ofText aliases query) criteria
  cases cap with
  | none => exact hselect
  | some n => simp only [search, searchPositions, takeCap, List.map_take, hselect]

/-- A search has as many results as positions. -/
theorem length_results :
    (search aliases records query criteria cap).results.length =
      (searchPositions aliases records query criteria cap).length := by
  have hlength := congrArg List.length (map_some_results aliases records query criteria cap)
  rwa [List.length_map, List.length_map] at hlength

/-- A search counts the positions of the selected records. -/
theorem total_eq_length :
    (search aliases records query criteria cap).total =
      (selectedPositions records (.ofText aliases query) criteria).length :=
  (length_selectedPositions _ _ _).symm

end Search

/-! ### Catalogs that are searched alike -/

/-- Tests that do not tell apart what is searched alike select the same positions. -/
theorem selectedPositions_eq {records records' : List Record} {query query' : Query}
    {criteria criteria' : Criteria}
    (hselected : ∀ r r', r.SearchedAlike r' →
      isSelected query criteria r = isSelected query' criteria' r')
    (h : List.Forall₂ Record.SearchedAlike records records') :
    selectedPositions records query criteria = selectedPositions records' query' criteria' := by
  have hplaces : List.Forall₂ (fun p q ↦ p.1.SearchedAlike q.1 ∧ p.2 = q.2)
      (rankPlaces (records.zipIdx.filter (isSelected query criteria ·.1)))
      (rankPlaces (records'.zipIdx.filter (isSelected query' criteria' ·.1))) := by
    apply forall₂_mergeSort
    · rintro p q p' q' ⟨hp, -⟩ ⟨hq, -⟩
      rw [ranksBefore, ranksBefore, hp.compareRecords_eq hq]
    · refine List.rel_filter ?_ (forall₂_zipIdx h 0)
      rintro p p' ⟨hp, -⟩
      exact iff_of_eq (congrArg (· = true) (hselected _ _ hp))
  exact map_eq_of_forall₂ (fun _ _ hp ↦ hp.2) hplaces

end CertCatalog
