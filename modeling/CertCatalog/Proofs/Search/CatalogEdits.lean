import CertCatalog.Entry.Normal
import CertCatalog.Proofs.Search.Ranking
import Mathlib.Data.List.Nodup

/-!
# Searches of an edited catalog

A record is accepted for what it says itself, and two records are ranked by their own keys. So
records that are added to a catalog or removed from it do not touch the results among the others.
The order of a catalog decides between results with the same key and nowhere else: a rearranged
catalog has the same results with the same keys in a row.
-/

namespace CertCatalog

/-! ### Keys of the ranking -/

/-- What the ranking compares of a record. -/
structure RankKey where
  level : Level
  introducedYear : UInt16
  name : String
  deriving DecidableEq

/-- Ranking of two keys: level and year fall, names rise. -/
def RankKey.compare (k l : RankKey) : Ordering :=
  (Ord.compare l.level.rank k.level.rank).then
    ((Ord.compare l.introducedYear.toNat k.introducedYear.toNat).then (Ord.compare k.name l.name))

/-- The key of a record: its level, its year and its lower-cased name. -/
def Record.rankKey (r : Record) : RankKey := ⟨r.level, r.introducedYear, Text.lower r.name⟩

private theorem Level.eq_of_rank_eq {a b : Level} (h : a.rank = b.rank) : a = b := by
  cases a <;> cases b <;> first | rfl | exact absurd h (by decide)

namespace RankKey

/-- Keys are compared by a total preorder. -/
instance : Std.TransCmp RankKey.compare :=
  inferInstanceAs (Std.TransCmp (compareLex
    (fun k l : RankKey ↦ compareOn (·.level.rank) l k)
    (compareLex (fun k l : RankKey ↦ compareOn (·.introducedYear.toNat) l k)
      (compareOn fun k : RankKey ↦ k.name))))

/-- Only equal keys rank alike. -/
instance : Std.LawfulEqCmp RankKey.compare where
  eq_of_compare {k l} h := by
    rw [RankKey.compare, Ordering.then_eq_eq, Ordering.then_eq_eq, Nat.compare_eq_eq,
      Nat.compare_eq_eq, Std.LawfulEqCmp.compare_eq_iff_eq] at h
    obtain ⟨hlevel, hyear, hname⟩ := h
    cases k
    cases l
    rw [RankKey.mk.injEq]
    exact ⟨(Level.eq_of_rank_eq hlevel).symm, (UInt16.toNat_inj.mp hyear).symm, hname⟩

private theorem eq_of_isLE {k l : RankKey} (hkl : (k.compare l).isLE = true)
    (hlk : (l.compare k).isLE = true) : k = l :=
  Std.LawfulEqCmp.eq_of_compare (Std.OrientedCmp.isLE_antisymm hkl hlk)

end RankKey

/-- The keys of ranked records do not step back. -/
theorem pairwise_rankKey_rank (records : List Record) :
    ((rank records).map Record.rankKey).Pairwise fun k l ↦ (k.compare l).isLE = true := by
  -- Records are compared by their keys, so this is what sorting them achieves.
  rw [List.pairwise_map]
  exact List.pairwise_mergeSort ranksBefore_trans ranksBefore_total records

/-! ### Rearranged records -/

section Rearranged

variable {records records' : List Record} (h : records'.Perm records)
include h

private theorem rank_perm_rank : (rank records').Perm (rank records) :=
  (List.mergeSort_perm _ _).trans (h.trans (List.mergeSort_perm _ _).symm)

/-- Rearranged records are ranked to the same keys in a row. -/
theorem map_rankKey_rank_of_perm :
    (rank records').map Record.rankKey = (rank records).map Record.rankKey :=
  ((rank_perm_rank h).map _).eq_of_pairwise (fun _ _ _ _ ↦ RankKey.eq_of_isLE)
    (pairwise_rankKey_rank records') (pairwise_rankKey_rank records)

/-- Records with different keys have one ranking, however they are arranged. -/
theorem rank_eq_of_perm (hkeys : (records.map Record.rankKey).Nodup) :
    rank records' = rank records := by
  have hinjective : ∀ a ∈ rank records', ∀ b ∈ rank records,
      a.rankKey = b.rankKey → a = b := by
    intro a ha b hb
    exact List.inj_on_of_nodup_map hkeys (h.mem_iff.mp (List.mem_mergeSort.mp ha))
      (List.mem_mergeSort.mp hb)
  apply (rank_perm_rank h).eq_of_pairwise
      (fun a b ha hb hab hba ↦ hinjective a ha b hb (RankKey.eq_of_isLE hab hba))
  · exact List.pairwise_map.mp (pairwise_rankKey_rank records')
  · exact List.pairwise_map.mp (pairwise_rankKey_rank records)

end Rearranged

/-! ### Added and removed records -/

/-- Records that are kept in their order keep it in the ranking. -/
theorem rank_sublist_rank {kept records : List Record} (h : kept.Sublist records) :
    (rank kept).Sublist (rank records) := by
  -- Of equal records, one may be kept and another one removed, so places are kept.
  have hrank : rank records = (rankPlaces records.zipIdx).map Prod.fst := by
    rw [map_fst_rankPlaces, List.zipIdx_map_fst]
  rw [← List.zipIdx_map_fst 0 records, List.sublist_map_iff] at h
  obtain ⟨places, hplaces, rfl⟩ := h
  have hrise := pairwise_zipIdx records
  have hnodup : records.zipIdx.Nodup := by
    apply hrise.imp
    rintro p q hlt rfl
    exact Nat.lt_irrefl _ hlt
  have hkept : rankPlaces places = (rankPlaces records.zipIdx).filter (places.contains ·) := by
    apply eq_of_pairwise_ranksAhead
    · exact pairwise_rankPlaces (hrise.sublist hplaces)
    · exact (pairwise_rankPlaces hrise).filter _
    · apply (List.perm_ext_iff_of_nodup _ _).mpr
      · intro p
        rw [(rankPlaces_perm places).mem_iff, List.mem_filter, List.contains_iff_mem,
          (rankPlaces_perm records.zipIdx).mem_iff]
        exact ⟨fun hp ↦ ⟨hplaces.mem hp, hp⟩, And.right⟩
      · exact (rankPlaces_perm places).nodup_iff.mpr (hnodup.sublist hplaces)
      · exact ((rankPlaces_perm _).nodup_iff.mpr hnodup).filter _
  rw [← map_fst_rankPlaces, hkept, hrank]
  exact List.filter_sublist.map _

/-- A search of an edited catalog. Among the records that satisfy a test, it finds what it found
among all records that satisfies the test, and in that order. Records that are kept when others are
removed yield the same results of theirs in the same order, none less and none more. A rearranged
catalog yields the same results with the same keys in a row, and the same list when no two accepted
records have one key. -/
theorem selectText_edited (aliases : KeyAliases) {records records' : List Record}
    (h : records'.Perm records) (query : String) (criteria : Criteria) :
    let find (catalog : List Record) := selectText aliases catalog query criteria
    let accepts := isSelected (.ofText aliases query) criteria
    (∀ test : Record → Bool, find (records.filter test) = (find records).filter test) ∧
    (∀ kept, kept.Sublist records →
      (find kept).Sublist (find records) ∧ (find kept).Perm (kept.filter accepts)) ∧
    (find records').Perm (find records) ∧
    (find records').map Record.rankKey = (find records).map Record.rankKey ∧
    (((records.filter accepts).map Record.rankKey).Nodup → find records' = find records) := by
  intro find accepts
  have haccepted : (records'.filter accepts).Perm (records.filter accepts) := h.filter accepts
  refine ⟨?_, ?_, rank_perm_rank haccepted, map_rankKey_rank_of_perm haccepted,
    rank_eq_of_perm haccepted⟩
  · intro test
    show select _ _ _ = (select _ _ _).filter test
    rw [select_eq_filter_rank, select_eq_filter_rank, rank_filter, List.filter_comm]
  · intro kept hkept
    exact ⟨rank_sublist_rank (hkept.filter accepts), List.mergeSort_perm _ _⟩

/-- A catalog read backwards. Two of its records have one key, but only one of them is accepted. -/
theorem selectText_edited_backwards :
    let giac : Entry := Entry.blank.setScalar .provider (some (.text "GIAC"))
    let alpha := (giac.setScalar .name (some (.text "Alpha"))).toRecord
    let twin := (Entry.blank.setScalar .name (some (.text "ALPHA"))).toRecord
    let zed := (giac.setScalar .name (some (.text "Zed"))).toRecord
    let records := [zed, alpha, twin]
    let find (catalog : List Record) := selectText .builtIn catalog "provider:giac" .none
    (records.reverse.Perm records ∧ alpha.rankKey = twin.rankKey ∧
      ((records.filter (isSelected (.ofText .builtIn "provider:giac") .none)).map
        Record.rankKey).Nodup ∧
      find records.reverse = find records) ∧
    [alpha, twin].Sublist records ∧ (find [alpha, twin]).Sublist (find records) := by
  intro giac alpha twin zed records find
  have hperm : records.reverse.Perm records := List.reverse_perm records
  have hkeys : ((records.filter (isSelected (.ofText .builtIn "provider:giac") .none)).map
      Record.rankKey).Nodup := by
    decide +kernel
  have hkept : [alpha, twin].Sublist records := List.sublist_cons_self _ _
  obtain ⟨-, hsublist, -, -, hequal⟩ := selectText_edited .builtIn hperm "provider:giac" .none
  exact ⟨⟨hperm, by decide +kernel, hkeys, hequal hkeys⟩, hkept, (hsublist _ hkept).1⟩

end CertCatalog
