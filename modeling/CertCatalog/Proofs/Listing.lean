import CertCatalog.Vocabulary

/-!
# Laws of canonical listings

A canonical listing repeats nothing. Its items from the reference list stand in front, in the order
of that list, and the others rise in code point order behind them.
-/

namespace CertCatalog

private theorem nodup_eraseDups {α : Type} [BEq α] [LawfulBEq α] : (l : List α) → l.eraseDups.Nodup
  | [] => List.nodup_nil
  | a :: l => by
    rw [List.eraseDups_cons, List.nodup_cons, List.mem_eraseDups]
    refine ⟨?_, nodup_eraseDups _⟩
    simp
termination_by l => l.length
decreasing_by
  simp only [List.length_cons]
  exact Nat.lt_succ_of_le (List.length_filter_le _ _)

theorem length_eraseDups_congr {α : Type} [BEq α] [LawfulBEq α] {l l' : List α}
    (h : ∀ a, a ∈ l ↔ a ∈ l') : l.eraseDups.length = l'.eraseDups.length := by
  apply List.Perm.length_eq
  apply (List.perm_ext_iff_of_nodup (nodup_eraseDups l) (nodup_eraseDups l')).mpr
  intro a
  rw [List.mem_eraseDups, List.mem_eraseDups, h]

theorem length_eraseDups_of_nodup {α : Type} [BEq α] [LawfulBEq α] {l : List α} (h : l.Nodup) :
    l.eraseDups.length = l.length := by
  apply List.Perm.length_eq
  apply (List.perm_ext_iff_of_nodup (nodup_eraseDups l) h).mpr
  intro a
  exact List.mem_eraseDups

theorem textLe_trans (a b c : String) (hab : textLe a b = true) (hbc : textLe b c = true) :
    textLe a c = true :=
  Std.TransCmp.isLE_trans hab hbc

theorem textLe_total (a b : String) : (textLe a b || textLe b a) = true := by
  have hswap : compare b a = (compare a b).swap := Std.OrientedCmp.eq_swap
  rw [textLe, textLe, hswap]
  cases compare a b <;> rfl

theorem lt_of_textLe {a b : String} (h : textLe a b = true) (hne : a ≠ b) : a < b := by
  have hcompare : (compareOfLessAndEq a b).isLE = true := h
  unfold compareOfLessAndEq at hcompare
  by_cases hlt : a < b
  · exact hlt
  · simp [hlt, hne] at hcompare

/-- Items with different keys rise strictly once they are sorted by their keys. -/
theorem pairwise_mergeSort_of_nodup {α κ : Type} {le : α → α → Bool} {lt : α → α → Prop}
    {key : α → κ} (htrans : ∀ a b c, le a b = true → le b c = true → le a c = true)
    (htotal : ∀ a b, (le a b || le b a) = true)
    (hlt : ∀ a b, le a b = true → key a ≠ key b → lt a b) {l : List α} (h : (l.map key).Nodup) :
    (l.mergeSort le).Pairwise lt := by
  have hsorted : (l.mergeSort le).Pairwise fun a b ↦ le a b = true :=
    List.pairwise_mergeSort htrans htotal l
  have hnodup : ((l.mergeSort le).map key).Nodup :=
    ((List.mergeSort_perm l le).map key).nodup_iff.mpr h
  apply (hsorted.and (List.pairwise_map.mp hnodup)).imp
  rintro a b ⟨hle, hne⟩
  exact hlt a b hle hne

/-- Different texts rise strictly once they are sorted. -/
theorem pairwise_lt_mergeSort {l : List String} (h : l.Nodup) :
    (l.mergeSort textLe).Pairwise (· < ·) := by
  have hkeys : (l.map id).Nodup := by rwa [List.map_id]
  exact pairwise_mergeSort_of_nodup textLe_trans textLe_total (fun _ _ ↦ lt_of_textLe) hkeys

/-- The items of a listing beyond its reference list. -/
def extras (reference items : List String) : List String :=
  (items.filter (!reference.contains ·)).eraseDups.mergeSort textLe

/-- A listing is the part of the reference that is asked for, then the extras. -/
theorem arrange_eq_append (reference items : List String) :
    arrange reference items =
      reference.eraseDups.filter items.contains ++ extras reference items :=
  rfl

theorem mem_extras {reference items : List String} {s : String} :
    s ∈ extras reference items ↔ s ∈ items ∧ s ∉ reference := by
  simp [extras, List.mem_eraseDups]

/-- The extras rise in code point order, none of them twice. -/
theorem pairwise_extras (reference items : List String) :
    (extras reference items).Pairwise (· < ·) :=
  pairwise_lt_mergeSort (nodup_eraseDups _)

private theorem nodup_extras (reference items : List String) : (extras reference items).Nodup := by
  apply (pairwise_extras reference items).imp
  rintro a b hlt rfl
  exact String.lt_irrefl a hlt

/-- A listing holds each item once. -/
theorem nodup_arrange (reference items : List String) : (arrange reference items).Nodup := by
  rw [arrange_eq_append, List.nodup_append]
  refine ⟨(nodup_eraseDups reference).filter _, nodup_extras reference items, ?_⟩
  rintro s hknown t hextra rfl
  have hmem := List.mem_eraseDups.mp (List.mem_filter.mp hknown).1
  exact (mem_extras.mp hextra).2 hmem

/-- Lists with the same items have the same listing. -/
theorem arrange_congr (reference : List String) {items items' : List String}
    (h : ∀ s, s ∈ items ↔ s ∈ items') : arrange reference items = arrange reference items' := by
  have hknown : reference.eraseDups.filter items.contains =
      reference.eraseDups.filter items'.contains := by
    apply List.filter_congr
    intro s _
    rw [Bool.eq_iff_iff, List.contains_iff_mem, List.contains_iff_mem, h]
  have hextras : extras reference items = extras reference items' := by
    have hperm : (extras reference items).Perm (extras reference items') := by
      apply (List.perm_ext_iff_of_nodup (nodup_extras _ _) (nodup_extras _ _)).mpr
      intro s
      rw [mem_extras, mem_extras, h]
    exact hperm.eq_of_pairwise (fun a b _ _ hab hba ↦ absurd hba (String.lt_asymm hab))
      (pairwise_extras _ _) (pairwise_extras _ _)
  rw [arrange_eq_append, arrange_eq_append, hknown, hextras]

end CertCatalog
