import CertCatalog.Entry.Normal
import CertCatalog.Proofs.Record.SearchedAlike

/-!
# Hidden fields

Some fields of a record are only shown with it: no search, group or count looks at them. Blanked,
they leave the visible part of the record. Each of them comes from a key of its own, so entries that
agree on all other keys have records with the same visible part.
-/

namespace CertCatalog

/-- The record with its hidden fields blank. -/
def Record.visible (r : Record) : Record :=
  { r with
    url := ""
    delivery := ""
    renewalPolicy := ""
    language := ""
    lastUpdated := none
    prerequisites := []
    priceConfidence := .fallback }

/-- A record and its visible part are searched alike. -/
theorem Record.searchedAlike_visible (r : Record) : r.visible.SearchedAlike r where
  name := .refl _
  provider := .refl _
  code := .refl _
  domainArea := .refl _
  level := rfl
  status := rfl
  introducedYear := rfl
  description := .refl _
  summary := .refl _
  subAreas := List.forall₂_same.mpr fun s _ ↦ .refl s
  tracks := List.forall₂_same.mpr fun s _ ↦ .refl s
  roleGroups := List.forall₂_same.mpr fun s _ ↦ .refl s
  roles := List.forall₂_same.mpr fun s _ ↦ .refl s
  tags := List.forall₂_same.mpr fun s _ ↦ .refl s
  aiFocus := rfl
  priceUsd := rfl
  priceLabel := .refl _
  searchText := rfl
  goals := rfl

namespace Entry

/-- The keys of hidden fields. No record has anything from an old tooltip. -/
def hiddenKeys : List EntryKey :=
  [ .scalar .url, .scalar .lastUpdated, .scalar .delivery, .scalar .renewal, .scalar .language,
    .list .prerequisites, .scalar .priceConfidence, .scalar .tooltipLegacy ]

/-- Entries with the same values of all keys but the hidden ones. -/
structure AgreesVisibly (e e' : Entry) : Prop where
  scalar : ∀ key, .scalar key ∉ hiddenKeys → e.scalar key = e'.scalar key
  list : ∀ key, .list key ∉ hiddenKeys → e.list key = e'.list key

namespace AgreesVisibly

theorem refl (e : Entry) : e.AgreesVisibly e := ⟨fun _ _ ↦ rfl, fun _ _ ↦ rfl⟩

variable {e e' : Entry} (h : e.AgreesVisibly e')
include h

theorem setScalar {key : ScalarKey} (hkey : .scalar key ∈ hiddenKeys) (value : Option Scalar) :
    e.AgreesVisibly (e'.setScalar key value) where
  scalar k hk := by
    have hne : k ≠ key := fun heq ↦ hk (heq ▸ hkey)
    rw [h.scalar k hk, Entry.setScalar]
    exact (if_neg hne).symm
  list := h.list

theorem setList {key : ListKey} (hkey : .list key ∈ hiddenKeys) (value : Option Listed) :
    e.AgreesVisibly (e'.setList key value) where
  scalar := h.scalar
  list k hk := by
    have hne : k ≠ key := fun heq ↦ hk (heq ▸ hkey)
    rw [h.list k hk, Entry.setList]
    exact (if_neg hne).symm

private theorem visible_plainRecord : e.plainRecord.visible = e'.plainRecord.visible := by
  have htext : ∀ key, .scalar key ∉ hiddenKeys → e.text key = e'.text key := by
    intro key hkey
    rw [text, text, h.scalar key hkey]
  have hitems : ∀ key, .list key ∉ hiddenKeys → e.items key = e'.items key := by
    intro key hkey
    rw [items, items, h.list key hkey]
  have hnatural : ∀ key, .scalar key ∉ hiddenKeys → ∀ bound,
      e.natural key bound = e'.natural key bound := by
    intro key hkey bound
    rw [natural, natural, h.scalar key hkey]
  have hname : e.recordName = e'.recordName := by
    rw [recordName, recordName, htext .name (by decide), htext .certCode (by decide),
      htext .id (by decide)]
  have hdomain : e.recordDomain = e'.recordDomain := by
    simp only [recordDomain, htext .domainArea (by decide)]
  simp only [Record.visible, plainRecord, recordId, recordCode, hname, hdomain,
    htext .id (by decide), htext .certCode (by decide), htext .provider (by decide),
    htext .level (by decide), htext .status (by decide), htext .description (by decide),
    htext .summary (by decide), htext .priceLabel (by decide),
    hnatural .introducedYear (by decide), hnatural .priceUsd (by decide),
    hitems .subAreas (by decide), hitems .tracks (by decide), hitems .roleGroups (by decide),
    hitems .roles (by decide), hitems .tags (by decide), h.scalar .aiFocus (by decide)]

/-- Agreeing entries have the same visible part of their records. -/
theorem visible_toRecord : e.toRecord.visible = e'.toRecord.visible := by
  have hderived (r : Record) :
      { r with searchText := r.searchTextOf, goals := r.classify }.visible =
        { r.visible with searchText := r.visible.searchTextOf, goals := r.visible.classify } := by
    rw [r.searchedAlike_visible.searchTextOf_eq, r.searchedAlike_visible.classify_eq]
    rfl
  rw [toRecord, toRecord, hderived, hderived, h.visible_plainRecord]

end AgreesVisibly
end Entry
end CertCatalog
