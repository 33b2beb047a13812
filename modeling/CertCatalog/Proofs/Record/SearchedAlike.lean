import CertCatalog.Proofs.Text.LetterCase
import CertCatalog.Query.Match
import CertCatalog.Record
import CertCatalog.Search
import Mathlib.Data.List.Forall2

/-!
# Records that searches do not tell apart

A query compares texts in lowercase, criteria compare them up to the case of ASCII letters, and both
look at a part of the fields only. Records that agree on that part are searched alike: they satisfy
the same queries, serve the same goals, have the same search text and rank alike.
-/

namespace CertCatalog

theorem map_eq_of_forall₂ {α β γ : Type} {R : α → β → Prop} {f : α → γ} {g : β → γ}
    (hfg : ∀ a b, R a b → f a = g b) {l : List α} {l' : List β} (h : List.Forall₂ R l l') :
    l.map f = l'.map g := by
  rw [← List.forall₂_eq_eq_eq, List.forall₂_map_left_iff, List.forall₂_map_right_iff]
  exact h.imp hfg

theorem any_eq_of_forall₂ {α : Type} {R : α → α → Prop} {test : α → Bool}
    (htest : ∀ a b, R a b → test a = test b) {l l' : List α} (h : List.Forall₂ R l l') :
    l.any test = l'.any test := by
  have hmap := congrArg (List.any · id) (map_eq_of_forall₂ htest h)
  rwa [List.any_map, List.any_map] at hmap

/-- Texts of two lists agree up to case one by one. -/
abbrev AgreeUpToCase : List String → List String → Prop := List.Forall₂ Text.EqUpToCase

namespace Record

/-- Records that agree on what a search looks at, texts up to case. -/
structure SearchedAlike (r r' : Record) : Prop where
  name : Text.EqUpToCase r.name r'.name
  provider : Text.EqUpToCase r.provider r'.provider
  code : Text.EqUpToCase r.code r'.code
  domainArea : Text.EqUpToCase r.domainArea r'.domainArea
  level : r.level = r'.level
  status : r.status = r'.status
  introducedYear : r.introducedYear = r'.introducedYear
  description : Text.EqUpToCase r.description r'.description
  summary : Text.EqUpToCase r.summary r'.summary
  subAreas : AgreeUpToCase r.subAreas r'.subAreas
  tracks : AgreeUpToCase r.tracks r'.tracks
  roleGroups : AgreeUpToCase r.roleGroups r'.roleGroups
  roles : AgreeUpToCase r.roles r'.roles
  tags : AgreeUpToCase r.tags r'.tags
  aiFocus : r.aiFocus = r'.aiFocus
  priceUsd : r.priceUsd = r'.priceUsd
  priceLabel : Text.EqUpToCase r.priceLabel r'.priceLabel
  searchText : r.searchText = r'.searchText
  goals : r.goals = r'.goals

namespace SearchedAlike

variable {r r' : Record} (h : r.SearchedAlike r')
include h

theorem withDerived {text text' : String} {goals goals' : GoalSet} (htext : text = text')
    (hgoals : goals = goals') :
    SearchedAlike { r with searchText := text, goals := goals }
      { r' with searchText := text', goals := goals' } :=
  { h with searchText := htext, goals := hgoals }

/-! ### Derived attributes -/

private theorem yearText_eq : r.yearText = r'.yearText := by
  rw [yearText, yearText, h.introducedYear]

private theorem priceText_eq : r.priceText = r'.priceText := by
  rw [priceText, priceText, h.priceUsd]

private theorem searchableFields : AgreeUpToCase r.searchableFields r'.searchableFields := by
  have hsingle : AgreeUpToCase
      [ r.name, r.provider, r.code, r.domainArea, r.level.name, r.status.name, r.yearText,
        r.description, r.summary, r.priceLabel, r.priceText ]
      [ r'.name, r'.provider, r'.code, r'.domainArea, r'.level.name, r'.status.name, r'.yearText,
        r'.description, r'.summary, r'.priceLabel, r'.priceText ] := by
    rw [h.level, h.status, h.yearText_eq, h.priceText_eq]
    simp only [List.forall₂_cons, List.forall₂_nil_left_iff, and_true]
    exact ⟨h.name, h.provider, h.code, h.domainArea, .refl _, .refl _, .refl _, h.description,
      h.summary, h.priceLabel, .refl _⟩
  have hsubAreas := List.rel_append hsingle h.subAreas
  have htracks := List.rel_append hsubAreas h.tracks
  have hroleGroups := List.rel_append htracks h.roleGroups
  have hroles := List.rel_append hroleGroups h.roles
  exact List.rel_append hroles h.tags

/-- Searched alike, records have the same joined fields in lowercase. -/
theorem searchTextOf_eq : r.searchTextOf = r'.searchTextOf := by
  have hfields : AgreeUpToCase (r.searchableFields.filter (!·.isEmpty))
      (r'.searchableFields.filter (!·.isEmpty)) := by
    refine List.rel_filter (fun a b hab ↦ ?_) h.searchableFields
    simp only [hab.isEmpty_eq]
  rw [searchTextOf, searchTextOf, Text.lower_intercalate, Text.lower_intercalate,
    map_eq_of_forall₂ (fun a b hab ↦ hab.lower_eq) hfields]

/-- Searched alike, records are given the same goals by the rules. -/
theorem suggests_eq : r.suggests = r'.suggests := by
  funext g
  have hvalues := List.rel_append h.tracks h.tags
  rw [suggests, suggests, h.domainArea.lower_eq]
  congr 1
  · congr 1
    · congr 1
      exact any_eq_of_forall₂ (fun a b hab ↦ by rw [hab.lower_eq]) h.roleGroups
    · exact any_eq_of_forall₂ (fun a b hab ↦ by rw [hab.lower_eq]) h.subAreas
  · exact any_eq_of_forall₂ (fun a b hab ↦ by rw [hab.lower_eq]) hvalues

/-- Searched alike, records are classified alike. -/
theorem classify_eq : r.classify = r'.classify := by
  rw [classify, classify, suggestedGoals, suggestedGoals, h.suggests_eq]

/-- Searched alike, records are paid, free or of unknown price alike. -/
theorem priceKind_eq (kind : PriceKind) : kind.accepts r = kind.accepts r' := by
  have hpaid : r.isPaid = r'.isPaid := by rw [isPaid, isPaid, h.priceUsd]
  have hfree : r.isFree = r'.isFree := by
    rw [isFree, isFree, h.priceUsd, h.priceLabel.lower_eq]
  have hunknown : r.isUnknownPrice = r'.isUnknownPrice := by
    rw [isUnknownPrice, isUnknownPrice, h.priceUsd, hfree]
  cases kind with
  | paid => exact hpaid
  | free => exact hfree
  | unknown => exact hunknown
  | concrete => exact congrArg (!·) hunknown

/-! ### Queries -/

/-- Searched alike, records satisfy the same conditions on a key. -/
theorem acceptsKey_eq (p : Predicate) (key : SearchKey) :
    p.acceptsKey r key = p.acceptsKey r' key := by
  have hoccurs : ∀ a b, Text.EqUpToCase a b → p.occursIn a = p.occursIn b := by
    intro a b hab
    rw [Predicate.occursIn, Predicate.occursIn, hab.lower_eq]
  cases key with
  | provider => exact hoccurs _ _ h.provider
  | domain => exact hoccurs _ _ h.domainArea
  | code => exact hoccurs _ _ h.code
  | subArea => exact any_eq_of_forall₂ hoccurs h.subAreas
  | track => exact any_eq_of_forall₂ hoccurs h.tracks
  | role => exact any_eq_of_forall₂ hoccurs h.roles
  | roleGroup => exact any_eq_of_forall₂ hoccurs h.roleGroups
  | tag => exact any_eq_of_forall₂ hoccurs h.tags
  | level => simp only [Predicate.acceptsKey, h.level]
  | status => simp only [Predicate.acceptsKey, h.status]
  | ai => simp only [Predicate.acceptsKey, h.aiFocus]
  | year => simp only [Predicate.acceptsKey, Predicate.acceptsYear, h.introducedYear, h.yearText_eq]
  | price =>
    have hunknown : r.isUnknownPrice = r'.isUnknownPrice := h.priceKind_eq .unknown
    simp only [Predicate.acceptsKey, Predicate.acceptsPrice, h.priceKind_eq, hunknown, h.priceUsd,
      hoccurs _ _ h.priceLabel, h.priceText_eq]

/-- Searched alike, records satisfy the same queries. -/
theorem query_accepts_eq (q : Query) : q.accepts r = q.accepts r' := by
  simp only [Query.accepts, Query.termAccepts, Predicate.accepts, h.acceptsKey_eq, h.searchText]

end SearchedAlike

/-- Searched alike, records compare alike. -/
theorem SearchedAlike.compareRecords_eq {a a' b b' : Record} (ha : a.SearchedAlike a')
    (hb : b.SearchedAlike b') : compareRecords a b = compareRecords a' b' := by
  rw [compareRecords, compareRecords, ha.level, hb.level, ha.introducedYear, hb.introducedYear,
    ha.name.lower_eq, hb.name.lower_eq]

end Record
end CertCatalog
