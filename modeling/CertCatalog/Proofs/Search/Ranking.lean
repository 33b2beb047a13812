import CertCatalog.Search

/-!
# The ranking of a search

Records are compared by a total preorder that is no order: different records may rank alike. Over
the places of a catalog, which are its records with their positions, it becomes a strict order once
the earlier position wins. So a list of places has one ranking only, selecting records commutes
with ranking them, and a search returns the first places of that ranking.
-/

namespace CertCatalog

/-! ### Comparison of records -/

/-- Records are compared by a total preorder. -/
instance : Std.TransCmp compareRecords :=
  inferInstanceAs (Std.TransCmp (compareLex
    (fun a b : Record ↦ compareOn (·.level.rank) b a)
    (compareLex (fun a b : Record ↦ compareOn (·.introducedYear.toNat) b a)
      (compareOn fun r : Record ↦ Text.lower r.name))))

private theorem compareRecords_swap (a b : Record) : compareRecords b a =
    (compareRecords a b).swap :=
  Std.OrientedCmp.eq_swap

/-- A record does not rank behind another one when its level is higher, or equal with a later year,
or both are equal and its lower-cased name does not come later. -/
theorem isLE_compareRecords_iff (a b : Record) :
    (compareRecords a b).isLE = true ↔
      b.level.rank < a.level.rank ∨ b.level.rank = a.level.rank ∧
        (b.introducedYear.toNat < a.introducedYear.toNat ∨
          b.introducedYear.toNat = a.introducedYear.toNat ∧
            (compare (Text.lower a.name) (Text.lower b.name)).isLE = true) := by
  rw [compareRecords, Ordering.isLE_then_iff_or, Ordering.isLE_then_iff_or,
    Nat.compare_eq_lt, Nat.compare_eq_eq, Nat.compare_eq_lt, Nat.compare_eq_eq]

theorem ranksBefore_trans (a b c : Record) (hab : ranksBefore a b = true)
    (hbc : ranksBefore b c = true) : ranksBefore a c = true :=
  Std.TransCmp.isLE_trans hab hbc

theorem ranksBefore_total (a b : Record) : (ranksBefore a b || ranksBefore b a) = true := by
  rw [ranksBefore, ranksBefore, compareRecords_swap a b]
  cases compareRecords a b <;> rfl

/-! ### Places of a catalog -/

/-- A place ranks ahead of another one when its record does, or when the records rank alike and its
position comes earlier. -/
def RanksAhead (p q : Record × Nat) : Prop :=
  compareRecords p.1 q.1 = .lt ∨ compareRecords p.1 q.1 = .eq ∧ p.2 < q.2

private theorem RanksAhead.asymm {p q : Record × Nat} (hpq : RanksAhead p q) : ¬RanksAhead q p := by
  rw [RanksAhead, compareRecords_swap p.1]
  rcases hpq with h | ⟨h, hlt⟩
  · simp [h]
  · simp [h, Nat.le_of_lt hlt]

/-- Places in ranking order. Places whose records rank alike keep their order. -/
def rankPlaces (places : List (Record × Nat)) : List (Record × Nat) :=
  places.mergeSort fun p q ↦ ranksBefore p.1 q.1

/-- Ranking keeps the places. -/
theorem rankPlaces_perm (places : List (Record × Nat)) : (rankPlaces places).Perm places :=
  List.mergeSort_perm _ _

/-- The records of ranked places are the ranked records. -/
theorem map_fst_rankPlaces (places : List (Record × Nat)) :
    (rankPlaces places).map Prod.fst = rank (places.map Prod.fst) :=
  List.map_mergeSort fun _ _ _ _ ↦ rfl

/-- The place holds a record that ranks as `r` does. -/
def ranksLike (r : Record) (p : Record × Nat) : Bool := compareRecords r p.1 == .eq

private theorem filter_ranksLike_pairwise (r : Record) (places : List (Record × Nat)) :
    (places.filter (ranksLike r)).Pairwise fun p q ↦ ranksBefore p.1 q.1 = true := by
  apply List.Pairwise.imp_of_mem _ (List.pairwise_of_forall fun _ _ ↦ True.intro)
  intro p q hp hq _
  have hpr : compareRecords p.1 r = .eq :=
    Std.OrientedCmp.eq_symm (beq_iff_eq.mp (List.mem_filter.mp hp).2)
  have hrq : compareRecords r q.1 = .eq := beq_iff_eq.mp (List.mem_filter.mp hq).2
  exact Std.TransCmp.isLE_trans (Ordering.isLE_of_eq_eq hpr) (Ordering.isLE_of_eq_eq hrq)

/-- Places that rank alike are in the same order before and after ranking. -/
theorem filter_ranksLike_rankPlaces (r : Record) (places : List (Record × Nat)) :
    (rankPlaces places).filter (ranksLike r) = places.filter (ranksLike r) := by
  have hs : (places.filter (ranksLike r)).Sublist (rankPlaces places) :=
    List.sublist_mergeSort (fun p q s ↦ ranksBefore_trans p.1 q.1 s.1)
      (fun p q ↦ ranksBefore_total p.1 q.1) (filter_ranksLike_pairwise r places)
      List.filter_sublist
  have hf := hs.filter (ranksLike r)
  rw [List.filter_filter] at hf
  simp only [Bool.and_self] at hf
  exact (hf.eq_of_length ((rankPlaces_perm places).filter _).length_eq.symm).symm

/-- Ranked places stand in strict order when their positions rose before. -/
theorem pairwise_rankPlaces {places : List (Record × Nat)}
    (h : places.Pairwise fun p q ↦ p.2 < q.2) : (rankPlaces places).Pairwise RanksAhead := by
  have hsorted : (rankPlaces places).Pairwise fun p q ↦ ranksBefore p.1 q.1 = true :=
    List.pairwise_mergeSort (fun p q s ↦ ranksBefore_trans p.1 q.1 s.1)
      (fun p q ↦ ranksBefore_total p.1 q.1) places
  apply List.pairwise_of_forall_sublist
  intro p q hpq
  have hle : (compareRecords p.1 q.1).isLE = true := hsorted.forall_sublist hpq
  rcases Ordering.isLE_iff_eq_lt_or_eq_eq.mp hle with hlt | heq
  · exact .inl hlt
  · -- Among the places that rank as `p` does, ranking has changed nothing.
    have hlike := hpq.filter (ranksLike p.1)
    rw [filter_ranksLike_rankPlaces] at hlike
    have hpair : [p, q].filter (ranksLike p.1) = [p, q] := by
      simp [ranksLike, heq, Std.ReflCmp.compare_self]
    rw [hpair] at hlike
    exact .inr ⟨heq, h.forall_sublist (hlike.trans List.filter_sublist)⟩

/-- Lists of the same places in strict ranking order are equal. -/
theorem eq_of_pairwise_ranksAhead {l₁ l₂ : List (Record × Nat)} (h₁ : l₁.Pairwise RanksAhead)
    (h₂ : l₂.Pairwise RanksAhead) (h : l₁.Perm l₂) : l₁ = l₂ :=
  List.Perm.eq_of_pairwise (fun _ _ _ _ hpq hqp ↦ absurd hqp hpq.asymm) h₁ h₂ h

theorem pairwise_zipIdx (records : List Record) :
    records.zipIdx.Pairwise fun p q ↦ p.2 < q.2 := by
  rw [← List.pairwise_map (f := Prod.snd) (R := (· < ·)), List.zipIdx_map_snd]
  exact List.pairwise_lt_range'

/-- The records of the accepted places are the accepted records. -/
private theorem map_fst_filter (accepts : Record → Bool) (places : List (Record × Nat)) :
    (places.filter (accepts ·.1)).map Prod.fst = (places.map Prod.fst).filter accepts := by
  rw [List.filter_map]
  rfl

/-- Selecting records and ranking them commute. -/
theorem rank_filter (accepts : Record → Bool) (records : List Record) :
    rank (records.filter accepts) = (rank records).filter accepts := by
  have hplaces : rankPlaces (records.zipIdx.filter (accepts ·.1)) =
      (rankPlaces records.zipIdx).filter (accepts ·.1) := by
    apply eq_of_pairwise_ranksAhead
    · exact pairwise_rankPlaces ((pairwise_zipIdx records).filter _)
    · exact (pairwise_rankPlaces (pairwise_zipIdx records)).filter _
    · exact (rankPlaces_perm _).trans ((rankPlaces_perm _).filter _).symm
  have h := congrArg (List.map Prod.fst) hplaces
  rwa [map_fst_rankPlaces, map_fst_filter, map_fst_filter, map_fst_rankPlaces,
    List.zipIdx_map_fst] at h

/-- A selection keeps the selected records of the ranked catalog. -/
theorem select_eq_filter_rank (records : List Record) (query : Query) (criteria : Criteria) :
    select records query criteria = (rank records).filter (isSelected query criteria) :=
  rank_filter _ _

theorem mem_select {records : List Record} {query : Query} {criteria : Criteria} {r : Record} :
    r ∈ select records query criteria ↔ r ∈ records ∧ isSelected query criteria r = true := by
  rw [select, rank, List.mem_mergeSort, List.mem_filter]

/-! ### The ranking of the accepted places -/

/-- A list holds the accepted places of a catalog, each once, never steps back in the comparison of
records, and keeps the order of the catalog among records that compare equal. -/
structure IsRanking (accepts : Record → Bool) (records : List Record)
    (places : List (Record × Nat)) : Prop where
  mem_iff : ∀ r i, (r, i) ∈ places ↔ records[i]? = some r ∧ accepts r = true
  nodup : places.Nodup
  sorted : places.Pairwise fun p q ↦ (compareRecords p.1 q.1).isLE = true
  stable : places.Pairwise fun p q ↦ compareRecords p.1 q.1 = .eq → p.2 < q.2

private theorem IsRanking.pairwise_ranksAhead {accepts : Record → Bool} {records : List Record}
    {places : List (Record × Nat)} (h : IsRanking accepts records places) :
    places.Pairwise RanksAhead := by
  apply (h.sorted.and h.stable).imp
  rintro p q ⟨hle, hstable⟩
  rcases Ordering.isLE_iff_eq_lt_or_eq_eq.mp hle with hlt | heq
  · exact .inl hlt
  · exact .inr ⟨heq, hstable heq⟩

/-- There is at most one ranking of the accepted places. -/
theorem IsRanking.unique {accepts : Record → Bool} {records : List Record}
    {l₁ l₂ : List (Record × Nat)} (h₁ : IsRanking accepts records l₁)
    (h₂ : IsRanking accepts records l₂) : l₁ = l₂ := by
  apply eq_of_pairwise_ranksAhead h₁.pairwise_ranksAhead h₂.pairwise_ranksAhead
  apply (List.perm_ext_iff_of_nodup h₁.nodup h₂.nodup).mpr
  rintro ⟨r, i⟩
  rw [h₁.mem_iff, h₂.mem_iff]

/-- Ranking the accepted places yields their ranking. -/
theorem isRanking_rankPlaces (accepts : Record → Bool) (records : List Record) :
    IsRanking accepts records (rankPlaces (records.zipIdx.filter (accepts ·.1))) := by
  have hrise := (pairwise_zipIdx records).filter (accepts ·.1)
  have hahead := pairwise_rankPlaces hrise
  have hperm := rankPlaces_perm (records.zipIdx.filter (accepts ·.1))
  refine ⟨?_, ?_, ?_, ?_⟩
  · intro r i
    rw [hperm.mem_iff, List.mem_filter, List.mk_mem_zipIdx_iff_getElem?]
  · apply hperm.nodup_iff.mpr
    apply hrise.imp
    rintro p q hlt rfl
    exact Nat.lt_irrefl _ hlt
  · apply hahead.imp
    rintro p q (h | ⟨h, -⟩) <;> simp [h]
  · apply hahead.imp
    rintro p q (h | ⟨-, h⟩) heq
    · rw [h] at heq
      cases heq
    · exact h

/-- A selection holds the records of the ranking of its places. -/
theorem select_eq_map_rankPlaces (records : List Record) (query : Query) (criteria : Criteria) :
    select records query criteria =
      (rankPlaces (records.zipIdx.filter (isSelected query criteria ·.1))).map Prod.fst := by
  rw [map_fst_rankPlaces, map_fst_filter, List.zipIdx_map_fst, select]

theorem length_select (records : List Record) (query : Query) (criteria : Criteria) :
    (select records query criteria).length = records.countP (isSelected query criteria) := by
  rw [select, rank, List.length_mergeSort, List.countP_eq_length_filter]

/-- A search returns the first records of the one ranking of the accepted places, as many as the
cap allows, and counts all of them. Records are compared by a total preorder: level and year fall,
lower-cased names rise. A higher cap only adds records at the end. -/
theorem search_eq_take_ranking (aliases : KeyAliases) (records : List Record) (query : String)
    (criteria : Criteria) (cap : Option Nat) :
    let answer := search aliases records query criteria cap
    let accepts := isSelected (Query.ofText aliases query) criteria
    (∃ places, IsRanking accepts records places ∧
      (∀ others, IsRanking accepts records others → others = places) ∧
      answer.total = places.length ∧
      answer.results =
        match cap with
        | some n => (places.map Prod.fst).take (min n answer.total)
        | none => places.map Prod.fst) ∧
    answer.total = records.countP accepts ∧
    (answer.isTruncated = true ↔ answer.results.length < answer.total) ∧
    (∀ a b, compareRecords b a = (compareRecords a b).swap) ∧
    (∀ a b c, (compareRecords a b).isLE = true → (compareRecords b c).isLE = true →
      (compareRecords a c).isLE = true) ∧
    (∀ a b, (compareRecords a b).isLE = true ↔
      b.level.rank < a.level.rank ∨ b.level.rank = a.level.rank ∧
        (b.introducedYear.toNat < a.introducedYear.toNat ∨
          b.introducedYear.toNat = a.introducedYear.toNat ∧
            (compare (Text.lower a.name) (Text.lower b.name)).isLE = true)) ∧
    (∀ c c', c ≤ c' → (search aliases records query criteria (some c)).results <+:
      (search aliases records query criteria (some c')).results) := by
  intro answer accepts
  -- Equal records may stand at several places, so the ranking is one of places.
  have hselect := select_eq_map_rankPlaces records (Query.ofText aliases query) criteria
  have hranking := isRanking_rankPlaces accepts records
  have htotal : answer.total = (rankPlaces (records.zipIdx.filter (accepts ·.1))).length := by
    rw [← List.length_map (f := Prod.fst), ← hselect]
    rfl
  refine ⟨⟨_, hranking, fun others h ↦ h.unique hranking, htotal, ?_⟩, length_select _ _ _,
    decide_eq_true_iff, compareRecords_swap, fun _ _ _ ↦ Std.TransCmp.isLE_trans,
    isLE_compareRecords_iff, ?_⟩
  · cases cap with
    | none => exact hselect
    | some n =>
      dsimp only
      rw [htotal, ← List.length_map (f := Prod.fst), ← List.take_eq_take_min, ← hselect]
      rfl
  · intro c c' hc
    exact List.take_prefix_take_left hc

end CertCatalog
