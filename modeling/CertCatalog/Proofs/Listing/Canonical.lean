import CertCatalog.Proofs.Listing
import Mathlib.Data.List.Sort

/-!
# Listings as normal forms of sets

A listing is the only arrangement of its items in which the ones of the reference list stand in
front, by their first places there, and the others rise in code point order behind them. It is a
normal form of the set of its items. Going through the items once, with the known ones kept by
their places and the others apart, arrives at the same listing.
-/

namespace CertCatalog

/-! ### Order of a listing -/

/-- A text comes before another one in a listing: both are in the reference list and the first place
of the one is before that of the other, or only the one is there, or none and code points decide. -/
def ListedBefore (reference : List String) (a b : String) : Prop :=
  a ∈ reference ∧ b ∈ reference ∧ reference.idxOf a < reference.idxOf b ∨
    a ∈ reference ∧ b ∉ reference ∨
    a ∉ reference ∧ b ∉ reference ∧ a < b

namespace ListedBefore

variable {reference : List String} {a b : String}

private theorem asymm (h : ListedBefore reference a b) : ¬ListedBefore reference b a := by
  rintro (⟨hb, ha, hplace'⟩ | ⟨hb, ha⟩ | ⟨hb, ha, hlt'⟩)
  · rcases h with ⟨-, -, hplace⟩ | ⟨-, hnone⟩ | ⟨hnone, -⟩
    · omega
    · exact hnone hb
    · exact hnone ha
  · rcases h with ⟨ha', -⟩ | ⟨ha', -⟩ | ⟨-, hnone, -⟩
    · exact ha ha'
    · exact ha ha'
    · exact hnone hb
  · rcases h with ⟨ha', -⟩ | ⟨ha', -⟩ | ⟨-, -, hlt⟩
    · exact ha ha'
    · exact ha ha'
    · exact String.lt_asymm hlt hlt'

end ListedBefore

instance (reference : List String) : Std.Asymm (ListedBefore reference) :=
  ⟨fun _ _ ↦ ListedBefore.asymm⟩

private theorem idxOf_lt_of_filter {keep : String → Bool} {a b : String} (hb : keep b = true)
    {l : List String} (h : (l.filter keep).idxOf a < (l.filter keep).idxOf b) :
    l.idxOf a < l.idxOf b := by
  induction l with
  | nil => exact h
  | cons c l ih =>
    by_cases hcb : c = b
    · subst hcb
      rw [List.filter_cons_of_pos hb, List.idxOf_cons_self] at h
      exact absurd h (Nat.not_lt_zero _)
    by_cases hca : c = a
    · subst hca
      rw [List.idxOf_cons_self, List.idxOf_cons_ne l hcb]
      exact Nat.succ_pos _
    · rw [List.idxOf_cons_ne l hca, List.idxOf_cons_ne l hcb]
      apply Nat.succ_lt_succ
      apply ih
      by_cases hc : keep c = true
      · rw [List.filter_cons_of_pos hc, List.idxOf_cons_ne _ hca, List.idxOf_cons_ne _ hcb] at h
        exact Nat.lt_of_succ_lt_succ h
      · rwa [List.filter_cons_of_neg hc] at h

private theorem pairwise_idxOf_eraseDups : (l : List String) →
    l.eraseDups.Pairwise fun a b ↦ l.idxOf a < l.idxOf b
  | [] => List.Pairwise.nil
  | s :: l => by
    have hne : ∀ a ∈ (l.filter fun b ↦ !b == s).eraseDups, (!a == s) = true ∧ s ≠ a := by
      intro a ha
      have hkept := (List.mem_filter.mp (List.mem_eraseDups.mp ha)).2
      have hdifferent : a ≠ s := by simpa using hkept
      exact ⟨hkept, hdifferent.symm⟩
    rw [List.eraseDups_cons, List.pairwise_cons]
    constructor
    · intro b hb
      rw [List.idxOf_cons_self, List.idxOf_cons_ne l (hne b hb).2]
      exact Nat.succ_pos _
    · refine (pairwise_idxOf_eraseDups (l.filter fun b ↦ !b == s)).imp_of_mem ?_
      intro a b ha hb hlt
      rw [List.idxOf_cons_ne l (hne a ha).2, List.idxOf_cons_ne l (hne b hb).2]
      exact Nat.succ_lt_succ (idxOf_lt_of_filter (hne b hb).1 hlt)
termination_by l => l.length
decreasing_by
  simp only [List.length_cons]
  exact Nat.lt_succ_of_le (List.length_filter_le _ _)

/-- A listing is in order. -/
theorem pairwise_arrange (reference items : List String) :
    (arrange reference items).Pairwise (ListedBefore reference) := by
  rw [arrange_eq_append, List.pairwise_append]
  refine ⟨?_, ?_, ?_⟩
  · refine ((pairwise_idxOf_eraseDups reference).filter items.contains).imp_of_mem ?_
    intro a b ha hb hlt
    have ha := List.mem_eraseDups.mp (List.mem_filter.mp ha).1
    have hb := List.mem_eraseDups.mp (List.mem_filter.mp hb).1
    exact .inl ⟨ha, hb, hlt⟩
  · refine (pairwise_extras reference items).imp_of_mem ?_
    intro a b ha hb hlt
    exact .inr (.inr ⟨(mem_extras.mp ha).2, (mem_extras.mp hb).2, hlt⟩)
  · intro a ha b hb
    have ha := List.mem_eraseDups.mp (List.mem_filter.mp ha).1
    exact .inr (.inl ⟨ha, (mem_extras.mp hb).2⟩)

/-- The listing is the only row of the items that is in order. -/
theorem eq_arrange_iff {reference items l : List String} :
    l = arrange reference items ↔
      l.Pairwise (ListedBefore reference) ∧ ∀ s, s ∈ l ↔ s ∈ items := by
  constructor
  · rintro rfl
    exact ⟨pairwise_arrange reference items, fun s ↦ mem_arrange⟩
  · rintro ⟨horder, hmem⟩
    refine horder.eq_of_mem_iff (pairwise_arrange reference items) fun s ↦ ?_
    rw [hmem, mem_arrange]

/-! ### One pass over the items -/

/-- Items that have been met: those of the reference list with their places there, and the others,
each in the order of their first occurrence. -/
structure Collected where
  known : List (Nat × String)
  others : List String

namespace Collected

/-- Nothing has been met. -/
def none : Collected := ⟨[], []⟩

/-- One more item is met. An item of the reference list is kept unless something is kept for its
place, any other one unless it is kept already. -/
def meet (reference : List String) (c : Collected) (item : String) : Collected :=
  match reference.idxOf? item with
  | some place =>
    if c.known.any (·.1 == place) then c else { c with known := c.known ++ [(place, item)] }
  | .none => if c.others.contains item then c else { c with others := c.others ++ [item] }

/-- Order of known items by their places. -/
def placeLe (a b : Nat × String) : Bool := decide (a.1 ≤ b.1)

/-- The known items by their places, then the others by code points. -/
def toList (c : Collected) : List String :=
  (c.known.mergeSort placeLe).map (·.2) ++ c.others.mergeSort textLe

/-- The items have been met, and nothing else: one is kept for each place of the reference list that
holds an item, and each item beyond the reference list is kept once. -/
structure Holds (reference items : List String) (c : Collected) : Prop where
  nodup_places : (c.known.map (·.1)).Nodup
  mem_known : ∀ place s, (place, s) ∈ c.known ↔ s ∈ items ∧ reference.idxOf? s = some place
  nodup_others : c.others.Nodup
  mem_others : ∀ s, s ∈ c.others ↔ s ∈ items ∧ s ∉ reference

variable {reference items : List String} {c : Collected}

private theorem holds_none (reference : List String) : Holds reference [] none := by
  constructor <;> simp [none]

private theorem Holds.of_mem (h : Holds reference items c) {item : String} (hitem : item ∈ items) :
    Holds reference (items ++ [item]) c := by
  have hmem : ∀ s, s ∈ items ++ [item] ↔ s ∈ items := by
    intro s
    rw [List.mem_append, List.mem_singleton]
    constructor
    · rintro (hs | rfl)
      · exact hs
      · exact hitem
    · exact .inl
  exact ⟨h.nodup_places, fun place s ↦ by rw [h.mem_known, hmem], h.nodup_others,
    fun s ↦ by rw [h.mem_others, hmem]⟩

private theorem eq_of_idxOf?_eq {a b : String} {place : Nat} (ha : reference.idxOf? a = some place)
    (hb : reference.idxOf? b = some place) : a = b := by
  obtain ⟨_, hplace, -⟩ := List.idxOf?_eq_some_iff.mp ha
  obtain ⟨_, hplace', -⟩ := List.idxOf?_eq_some_iff.mp hb
  exact hplace.symm.trans hplace'

private theorem Holds.mem_and_idxOf_eq (h : Holds reference items c) {place : Nat} {s : String}
    (hkept : (place, s) ∈ c.known) : s ∈ reference ∧ reference.idxOf s = place := by
  have hplace := ((h.mem_known place s).mp hkept).2
  refine ⟨List.isSome_idxOf?.mp (by rw [hplace]; rfl), ?_⟩
  rw [List.idxOf_eq_getD_idxOf?, hplace, Option.getD_some]

private theorem Holds.add_known (h : Holds reference items c) {item : String} {place : Nat}
    (hplace : reference.idxOf? item = some place) (hfree : place ∉ c.known.map (·.1)) :
    Holds reference (items ++ [item]) { c with known := c.known ++ [(place, item)] } where
  nodup_places := by
    rw [List.map_append, List.map_singleton, ← List.concat_eq_append]
    exact List.Nodup.concat hfree h.nodup_places
  mem_known place' s := by
    have hnew : (place', s) = (place, item) ↔ s = item ∧ reference.idxOf? s = some place' := by
      rw [Prod.mk.injEq]
      constructor
      · rintro ⟨rfl, rfl⟩
        exact ⟨rfl, hplace⟩
      · rintro ⟨rfl, hsame⟩
        exact ⟨Option.some.inj (hsame.symm.trans hplace), rfl⟩
    rw [List.mem_append, List.mem_append, List.mem_singleton, List.mem_singleton, h.mem_known,
      hnew, ← or_and_right]
  nodup_others := h.nodup_others
  mem_others s := by
    have hin : item ∈ reference := List.isSome_idxOf?.mp (by rw [hplace]; rfl)
    rw [h.mem_others, List.mem_append, List.mem_singleton]
    constructor
    · rintro ⟨hs, hout⟩
      exact ⟨.inl hs, hout⟩
    · rintro ⟨hs | rfl, hout⟩
      · exact ⟨hs, hout⟩
      · exact absurd hin hout

private theorem Holds.add_other (h : Holds reference items c) {item : String}
    (hout : item ∉ reference)
    (hnew : item ∉ c.others) :
    Holds reference (items ++ [item]) { c with others := c.others ++ [item] } where
  nodup_places := h.nodup_places
  mem_known place s := by
    rw [h.mem_known, List.mem_append, List.mem_singleton]
    constructor
    · rintro ⟨hs, hplace⟩
      exact ⟨.inl hs, hplace⟩
    · rintro ⟨hs | rfl, hplace⟩
      · exact ⟨hs, hplace⟩
      · exact absurd (List.isSome_idxOf?.mp (by rw [hplace]; rfl)) hout
  nodup_others := by
    rw [← List.concat_eq_append]
    exact List.Nodup.concat hnew h.nodup_others
  mem_others s := by
    rw [List.mem_append, List.mem_append, List.mem_singleton, h.mem_others]
    constructor
    · rintro (⟨hs, hout⟩ | rfl)
      · exact ⟨.inl hs, hout⟩
      · exact ⟨.inr rfl, hout⟩
    · rintro ⟨hs | rfl, hout⟩
      · exact .inl ⟨hs, hout⟩
      · exact .inr rfl

/-- One more item keeps what is met in step with the items. -/
theorem Holds.meet (h : Holds reference items c) (item : String) :
    Holds reference (items ++ [item]) (c.meet reference item) := by
  rw [Collected.meet]
  cases hplace : reference.idxOf? item with
  | some place =>
    dsimp only
    split
    · next htaken =>
      obtain ⟨⟨place', s⟩, hkept, hsame⟩ := List.any_eq_true.mp htaken
      obtain rfl : place' = place := beq_iff_eq.mp hsame
      obtain ⟨hs, hplace'⟩ := (h.mem_known place' s).mp hkept
      exact h.of_mem (eq_of_idxOf?_eq hplace hplace' ▸ hs)
    · next hfree =>
      refine h.add_known hplace fun htaken ↦ hfree ?_
      obtain ⟨kept, hkept, hsame⟩ := List.mem_map.mp htaken
      exact List.any_eq_true.mpr ⟨kept, hkept, beq_iff_eq.mpr hsame⟩
  | none =>
    have hout : item ∉ reference := List.idxOf?_eq_none_iff.mp hplace
    dsimp only
    split
    · next hkept => exact h.of_mem ((h.mem_others item).mp (List.contains_iff_mem.mp hkept)).1
    · next hnew => exact h.add_other hout fun hkept ↦ hnew (List.contains_iff_mem.mpr hkept)

/-- Going through further items keeps what is met in step with the items. -/
theorem Holds.foldl (h : Holds reference items c) (more : List String) :
    Holds reference (items ++ more) (more.foldl (Collected.meet reference) c) := by
  induction more generalizing items c with
  | nil => simpa using h
  | cons item more ih => simpa using ih (h.meet item)

private theorem Holds.mem_toList (h : Holds reference items c) (s : String) :
    s ∈ c.toList ↔ s ∈ items := by
  have hknown : s ∈ (c.known.mergeSort placeLe).map (·.2) ↔ s ∈ items ∧ s ∈ reference := by
    rw [List.mem_map]
    constructor
    · rintro ⟨⟨place, t⟩, hkept, rfl⟩
      obtain ⟨hs, hplace⟩ := (h.mem_known place t).mp (List.mem_mergeSort.mp hkept)
      exact ⟨hs, List.isSome_idxOf?.mp (by rw [hplace]; rfl)⟩
    · rintro ⟨hs, hin⟩
      obtain ⟨place, hplace⟩ := Option.isSome_iff_exists.mp (List.isSome_idxOf?.mpr hin)
      exact ⟨(place, s), List.mem_mergeSort.mpr ((h.mem_known place s).mpr ⟨hs, hplace⟩), rfl⟩
  rw [toList, List.mem_append, hknown, List.mem_mergeSort, h.mem_others]
  by_cases hin : s ∈ reference <;> simp [hin]

private theorem pairwise_mergeSort_placeLe {known : List (Nat × String)}
    (h : (known.map (·.1)).Nodup) :
    (known.mergeSort placeLe).Pairwise fun a b ↦ a.1 < b.1 := by
  have htrans : ∀ a b c, placeLe a b = true → placeLe b c = true → placeLe a c = true := by
    intro a b c hab hbc
    simp only [placeLe, decide_eq_true_eq] at hab hbc ⊢
    omega
  have htotal : ∀ a b, (placeLe a b || placeLe b a) = true := by
    intro a b
    simp only [placeLe, Bool.or_eq_true, decide_eq_true_eq]
    omega
  exact pairwise_mergeSort_of_nodup htrans htotal
    (fun _ _ hle hne ↦ Nat.lt_of_le_of_ne (of_decide_eq_true hle) hne) h

private theorem Holds.pairwise_toList (h : Holds reference items c) :
    c.toList.Pairwise (ListedBefore reference) := by
  rw [toList, List.pairwise_append]
  refine ⟨List.pairwise_map.mpr ((pairwise_mergeSort_placeLe h.nodup_places).imp_of_mem ?_),
    (pairwise_lt_mergeSort h.nodup_others).imp_of_mem ?_, ?_⟩
  · rintro ⟨place, s⟩ ⟨place', s'⟩ hs hs' hlt
    obtain ⟨hin, hplace⟩ := h.mem_and_idxOf_eq (List.mem_mergeSort.mp hs)
    obtain ⟨hin', hplace'⟩ := h.mem_and_idxOf_eq (List.mem_mergeSort.mp hs')
    exact .inl ⟨hin, hin', by rw [hplace, hplace']; exact hlt⟩
  · intro s s' hs hs' hlt
    exact .inr (.inr ⟨((h.mem_others s).mp (List.mem_mergeSort.mp hs)).2,
      ((h.mem_others s').mp (List.mem_mergeSort.mp hs')).2, hlt⟩)
  · intro s hs s' hs'
    obtain ⟨⟨place, t⟩, hkept, rfl⟩ := List.mem_map.mp hs
    exact .inr (.inl ⟨(h.mem_and_idxOf_eq (List.mem_mergeSort.mp hkept)).1,
      ((h.mem_others s').mp (List.mem_mergeSort.mp hs')).2⟩)

/-- What is met of the items is listed as their listing. -/
theorem Holds.toList_eq (h : Holds reference items c) : c.toList = arrange reference items :=
  eq_arrange_iff.mpr ⟨h.pairwise_toList, h.mem_toList⟩

end Collected

/-- A listing is the normal form of the set of its items. It holds each item once, the ones of the
reference list in front by their first places, the others behind them in code point order, and
nothing else is a row of the items in this order. It is the same for all lists of these items, and
stays as it is when it is listed again. One pass over the items arrives at it. -/
theorem arrange_is_canonical (reference items : List String) :
    (arrange reference items).Nodup ∧
    (∀ s, s ∈ arrange reference items ↔ s ∈ items) ∧
    (arrange reference items).Pairwise (ListedBefore reference) ∧
    (∀ l : List String, l.Pairwise (ListedBefore reference) → (∀ s, s ∈ l ↔ s ∈ items) →
      l = arrange reference items) ∧
    (∀ items', (∀ s, s ∈ items' ↔ s ∈ items) →
      arrange reference items' = arrange reference items) ∧
    arrange reference (arrange reference items) = arrange reference items ∧
    (items.foldl (Collected.meet reference) .none).toList = arrange reference items := by
  refine ⟨nodup_arrange reference items, fun s ↦ mem_arrange, pairwise_arrange reference items,
    fun l horder hmem ↦ eq_arrange_iff.mpr ⟨horder, hmem⟩,
    fun items' hmem ↦ arrange_congr reference hmem,
    arrange_congr reference fun s ↦ mem_arrange, ?_⟩
  have hmet := (Collected.holds_none reference).foldl items
  rw [List.nil_append] at hmet
  exact hmet.toList_eq

/-- A reference list with a repeated name, and items with repetitions and two extras. -/
theorem arrange_is_canonical_of_repeated :
    let reference := ["IAM", "Operations", "IAM", "Assets"]
    let items := ["Zeta", "Assets", "IAM", "Alpha", "IAM"]
    let shuffled := ["IAM", "Alpha", "Assets", "Zeta", "Zeta"]
    ["IAM", "Assets", "Alpha", "Zeta"] = arrange reference items ∧
    arrange reference shuffled = arrange reference items := by
  intro reference items shuffled
  obtain ⟨-, -, -, hunique, hset, -⟩ := arrange_is_canonical reference items
  refine ⟨hunique _ ?_ ?_, hset shuffled ?_⟩
  · unfold ListedBefore
    decide
  · intro s
    simp only [items, List.mem_cons, List.not_mem_nil, or_false]
    tauto
  · intro s
    simp only [items, shuffled, List.mem_cons, List.not_mem_nil, or_false]
    tauto

end CertCatalog
