import CertCatalog.Proofs.Audit.CheckedValues
import CertCatalog.Proofs.Audit.Ids
import CertCatalog.Proofs.Entry.Trimmed

/-!
# Records written back

The record of an entry has a normal form: texts are trimmed, defaults are filled in, and vocabulary
names have their own spelling. Written back as an entry, field by field, a normal record yields
itself, so the records of entries are stable after one step.
-/

namespace CertCatalog

/-! ### Texts -/

private theorem IsFilled.orElse_trim {s : String} (h : IsFilled s) (substitute : String) :
    CertCatalog.orElse (Text.trim s) substitute = s := by
  rw [h.1, orElse_eq_left_iff]
  exact fun hempty ↦ absurd hempty h.2

@[simp] theorem Text.looselyNamed?_trim {α : Type} (all : List α) (name : α → String)
    (s : String) : looselyNamed? all name (trim s) = looselyNamed? all name s := by
  rw [looselyNamed?, trim_trim, looselyNamed?]

private theorem canonical_canonical {known : List String} (h : AreDistinct known) (s : String) :
    canonical known (canonical known s) = canonical known s := by
  rcases canonical_eq_or_mem known s with heq | hmem
  · rw [heq, heq]
  · exact canonical_of_mem h hmem

/-! ### Normal records -/

namespace Record

/-- A record as entries yield it: nothing is left to trim, to fill in or to spell otherwise, and
search text and goals follow from the other fields. -/
structure IsNormal (r : Record) : Prop where
  id : IsFilled r.id
  name : IsFilled r.name
  provider : IsFilled r.provider
  code : IsFilled r.code
  url : Text.trim r.url = r.url
  domainArea : r.domainArea ∈ Vocabulary.domains
  delivery : IsFilled r.delivery
  renewalPolicy : IsFilled r.renewalPolicy
  language : IsFilled r.language
  lastUpdated : ∀ d, r.lastUpdated = some d → 0 ≤ d.year ∧ d.year ≤ 9999
  description : Text.trim r.description = r.description
  summary : Text.trim r.summary = r.summary
  summary_eq_empty_iff : r.summary = "" ↔ r.description = ""
  subAreas : ∀ s ∈ r.subAreas, IsFilled s ∧ canonical Vocabulary.subAreas s = s
  tracks : ∀ s ∈ r.tracks, IsFilled s
  roleGroups : ∀ s ∈ r.roleGroups, IsFilled s ∧ canonical Vocabulary.roleGroups s = s
  roles : ∀ s ∈ r.roles, IsFilled s
  tags : ∀ s ∈ r.tags, IsFilled s
  prerequisites : ∀ s ∈ r.prerequisites, IsFilled s
  priceLabel : IsFilled r.priceLabel
  searchText : r.searchText = r.searchTextOf
  goals : r.goals = r.classify

/-- The entry that writes a record field by field. -/
def toEntry (r : Record) : Entry where
  scalar
    | .id => some (.text r.id)
    | .name => some (.text r.name)
    | .provider => some (.text r.provider)
    | .certCode => some (.text r.code)
    | .url => some (.text r.url)
    | .domainArea => some (.text r.domainArea)
    | .level => some (.text r.level.name)
    | .status => some (.text r.status.name)
    | .aiFocus => some (.bool r.aiFocus)
    | .introducedYear => some (.int (.ofNat r.introducedYear.toNat))
    | .lastUpdated => r.lastUpdated.map fun d ↦ .text d.toText
    | .delivery => some (.text r.delivery)
    | .renewal => some (.text r.renewalPolicy)
    | .language => some (.text r.language)
    | .description => some (.text r.description)
    | .summary => some (.text r.summary)
    | .priceUsd => some (.int (.ofNat r.priceUsd.toNat))
    | .priceLabel => some (.text r.priceLabel)
    | .priceConfidence => some (.text r.priceConfidence.name)
    | .tooltipLegacy => none
  list
    | .subAreas => some (.many (r.subAreas.map .text))
    | .tracks => some (.many (r.tracks.map .text))
    | .roleGroups => some (.many (r.roleGroups.map .text))
    | .roles => some (.many (r.roles.map .text))
    | .tags => some (.many (r.tags.map .text))
    | .prerequisites => some (.many (r.prerequisites.map .text))

end Record

/-! ### Records of entries are normal -/

namespace Entry

variable (e : Entry)

/-- The items of a list in the spelling of a vocabulary are filled and keep their spelling. -/
theorem isFilled_and_canonical_of_mem {known : List String} (hknown : ∀ k ∈ known, IsFilled k)
    (hdistinct : AreDistinct known) {key : ListKey} {s : String}
    (h : s ∈ (e.items key).map (canonical known)) : IsFilled s ∧ canonical known s = s := by
  refine ⟨e.isFilled_of_mem_canonical hknown h, ?_⟩
  obtain ⟨item, -, rfl⟩ := List.mem_map.mp h
  exact canonical_canonical hdistinct item

private theorem recordName_ne_empty
    (h : e.text .id ≠ "" ∨ e.text .name ≠ "" ∨ e.text .certCode ≠ "") : e.recordName ≠ "" := by
  rw [recordName, ne_eq, orElse_eq_empty_iff, orElse_eq_empty_iff]
  tauto

/-- The date of a record is read from its entry. -/
theorem lastUpdated_toRecord :
    e.toRecord.lastUpdated = CalendarDate.ofText? (e.text .lastUpdated) := by
  simp only [toRecord, plainRecord]

/-- Description and summary of a record are empty together. -/
theorem summary_eq_empty_iff_toRecord :
    e.toRecord.summary = "" ↔ e.toRecord.description = "" := by
  simp only [toRecord, plainRecord, orElse_eq_empty_iff]
  exact And.comm

/-- The goals of the record of an entry are the ones of that record. -/
theorem goals_toRecord : e.toRecord.goals = e.toRecord.classify := by
  have hderived (r : Record) (searchText : String) (goals : GoalSet) :
      r.classify = { r with searchText := searchText, goals := goals }.classify := rfl
  exact hderived e.plainRecord _ _

/-- The record of an entry with an id, a name or a code is normal, unless its date has a year that
takes more than four digits. -/
theorem isNormal_toRecord
    (hnamed : e.text .id ≠ "" ∨ e.text .name ≠ "" ∨ e.text .certCode ≠ "")
    (hdate : ∀ d, CalendarDate.ofText? (e.text .lastUpdated) = some d →
      0 ≤ d.year ∧ d.year ≤ 9999) : e.toRecord.IsNormal := by
  obtain ⟨hprovider, hdelivery, hrenewal, hlanguage, hlabel⟩ := isFilled_defaultTexts
  have hname : IsFilled e.recordName := ⟨e.trim_recordName, e.recordName_ne_empty hnamed⟩
  refine
    { id := .orElse (e.trim_text _) ⟨Text.trim_slug _, Text.slug_ne_empty _⟩
      name := hname
      provider := .orElse (e.trim_text _) hprovider
      code := .orElse (e.trim_text _) hname
      url := e.trim_text _
      domainArea := e.recordDomain_mem
      delivery := .orElse (e.trim_text _) hdelivery
      renewalPolicy := .orElse (e.trim_text _) hrenewal
      language := .orElse (e.trim_text _) hlanguage
      lastUpdated := by rwa [e.lastUpdated_toRecord]
      description := trim_orElse (e.trim_text .description) (e.trim_text .summary)
      summary := trim_orElse (e.trim_text .summary) (e.trim_text .description)
      summary_eq_empty_iff := e.summary_eq_empty_iff_toRecord
      subAreas := fun s ↦
        e.isFilled_and_canonical_of_mem (fun _ ↦ Vocabulary.isFilled_of_mem_subAreas)
          Vocabulary.areDistinct_subAreas
      tracks := fun s ↦ e.isFilled_of_mem_items
      roleGroups := fun s ↦
        e.isFilled_and_canonical_of_mem (fun _ ↦ Vocabulary.isFilled_of_mem_roleGroups)
          Vocabulary.areDistinct_roleGroups
      roles := fun s ↦ e.isFilled_of_mem_items
      tags := fun s ↦ e.isFilled_of_mem_items
      prerequisites := fun s ↦ e.isFilled_of_mem_items
      priceLabel := .orElse (e.trim_text _) hlabel
      searchText := e.toRecord_searchText
      goals := e.goals_toRecord }

/-! ### Normal records are written back -/

private theorem orElse_text_of_isFilled (key : ScalarKey) {s : String}
    (hkey : e.scalar key = some (.text s)) (hs : IsFilled s) (substitute : String) :
    orElse (e.text key) substitute = s := by
  rw [text, hkey]
  exact hs.orElse_trim substitute

private theorem items_of_isFilled (key : ListKey) {texts : List String}
    (hkey : e.list key = some (.many (texts.map .text))) (hs : ∀ s ∈ texts, IsFilled s) :
    e.items key = texts := by
  have hmap : (texts.map Scalar.text).map Scalar.asText = texts := by
    rw [List.map_map]
    calc texts.map (Scalar.asText ∘ Scalar.text) = texts.map (fun s ↦ s) :=
          List.map_congr_left fun s h ↦ (hs s h).1
      _ = texts := List.map_id' texts
  rw [items, hkey, Option.map_some, Option.getD_some, Listed.items, Listed.values, hmap,
    List.filter_eq_self]
  intro s h
  simpa using (hs s h).2

private theorem map_canonical_items_of_isFilled (key : ListKey) {known texts : List String}
    (hkey : e.list key = some (.many (texts.map .text)))
    (hs : ∀ s ∈ texts, IsFilled s ∧ canonical known s = s) :
    (e.items key).map (canonical known) = texts := by
  rw [e.items_of_isFilled key hkey fun s h ↦ (hs s h).1]
  calc texts.map (canonical known) = texts.map (fun s ↦ s) :=
        List.map_congr_left fun s h ↦ (hs s h).2
    _ = texts := List.map_id' texts

private theorem natural_of_int {key : ScalarKey} {n bound : Nat}
    (h : e.scalar key = some (.int (.ofNat n))) (hn : n ≤ bound) (hbound : bound < 2 ^ 63) :
    e.natural key bound = n := by
  have hint : (Int64.ofNat n).toInt = n := Int64.toInt_ofNat_of_lt (by omega)
  apply natural_of_asInt? _ hn
  rw [h, Option.bind_some, Scalar.asInt?, hint]

end Entry

namespace Record

variable {r : Record}

private theorem lastUpdated_toEntry (h : ∀ d, r.lastUpdated = some d → 0 ≤ d.year ∧ d.year ≤ 9999) :
    CalendarDate.ofText? (r.toEntry.text .lastUpdated) = r.lastUpdated := by
  have htext : r.toEntry.text .lastUpdated =
      ((r.lastUpdated.map fun d ↦ .text d.toText).map Scalar.asText).getD "" := rfl
  rw [htext]
  cases hupdated : r.lastUpdated with
  | none => decide
  | some d =>
    obtain ⟨hlow, hhigh⟩ := h d hupdated
    have hread := CalendarDate.ofText?_toText hlow hhigh
    simpa [Scalar.asText, CalendarDate.ofText?] using hread

private theorem recordDomain_toEntry (h : r.domainArea ∈ Vocabulary.domains) :
    r.toEntry.recordDomain = r.domainArea := by
  have htext : r.toEntry.text .domainArea = r.domainArea :=
    (Vocabulary.isFilled_of_mem_domains h).1
  have hspelling := canonical_of_mem Vocabulary.areDistinct_domains h
  simp [Entry.recordDomain, htext, hspelling, h]

/-- The entry of a normal record yields its fields. -/
theorem IsNormal.plainRecord_toEntry (h : r.IsNormal) :
    r.toEntry.plainRecord = { r with searchText := "", goals := .empty } := by
  -- The entry holds the value of each field, and reading a normal value changes nothing.
  have hid : r.toEntry.recordId = r.id := h.id.orElse_trim _
  have hname : r.toEntry.recordName = r.name := h.name.orElse_trim _
  have hcode : r.toEntry.recordCode = r.code := h.code.orElse_trim _
  have hyear : r.toEntry.natural .introducedYear 65535 = r.introducedYear.toNat :=
    Entry.natural_of_int _ rfl (Nat.le_of_lt_succ r.introducedYear.toNat_lt) (by decide)
  have hprice : r.toEntry.natural .priceUsd 4294967295 = r.priceUsd.toNat :=
    Entry.natural_of_int _ rfl (Nat.le_of_lt_succ r.priceUsd.toNat_lt) (by decide)
  have hurl : r.toEntry.text .url = r.url := h.url
  have hdescription : r.toEntry.text .description = r.description := h.description
  have hsummary : r.toEntry.text .summary = r.summary := h.summary
  -- A name out of a fixed list is trimmed before it is looked up.
  have hlevel : Level.ofText (r.toEntry.text .level) = r.level := by
    have htext : r.toEntry.text .level = Text.trim r.level.name := rfl
    rw [htext, Level.ofText, Level.ofText?, Text.looselyNamed?_trim]
    exact r.level.ofText_name
  have hstatus : Status.ofText? (r.toEntry.text .status) = some r.status := by
    have htext : r.toEntry.text .status = Text.trim r.status.name := rfl
    rw [htext, Status.ofText?, Text.looselyNamed?_trim]
    exact r.status.ofText?_name
  have hconfidence : PriceConfidence.ofText? (r.toEntry.text .priceConfidence) =
      some r.priceConfidence := by
    have htext : r.toEntry.text .priceConfidence = Text.trim r.priceConfidence.name := rfl
    rw [htext, PriceConfidence.ofText?, Text.looselyNamed?_trim]
    exact r.priceConfidence.ofText?_name
  rw [Entry.plainRecord, hid, hname, hcode, recordDomain_toEntry h.domainArea,
    lastUpdated_toEntry h.lastUpdated, hyear, hprice, hurl, hlevel, hstatus, hconfidence,
    hdescription, hsummary, orElse_eq_left_iff.mpr h.summary_eq_empty_iff.mp,
    orElse_eq_left_iff.mpr h.summary_eq_empty_iff.mpr,
    r.toEntry.orElse_text_of_isFilled .provider rfl h.provider,
    r.toEntry.orElse_text_of_isFilled .delivery rfl h.delivery,
    r.toEntry.orElse_text_of_isFilled .renewal rfl h.renewalPolicy,
    r.toEntry.orElse_text_of_isFilled .language rfl h.language,
    r.toEntry.orElse_text_of_isFilled .priceLabel rfl h.priceLabel,
    r.toEntry.map_canonical_items_of_isFilled .subAreas rfl h.subAreas,
    r.toEntry.map_canonical_items_of_isFilled .roleGroups rfl h.roleGroups,
    r.toEntry.items_of_isFilled .tracks rfl h.tracks,
    r.toEntry.items_of_isFilled .roles rfl h.roles,
    r.toEntry.items_of_isFilled .tags rfl h.tags,
    r.toEntry.items_of_isFilled .prerequisites rfl h.prerequisites,
    UInt16.ofNat_toNat, UInt32.ofNat_toNat]
  rfl

/-- A normal record is the record of its own entry. -/
theorem IsNormal.toRecord_toEntry (h : r.IsNormal) : r.toEntry.toRecord = r := by
  have hsearchText : r.toEntry.plainRecord.searchTextOf = r.searchText := by
    rw [h.plainRecord_toEntry, h.searchText]
    exact searchTextOf_congr rfl
  have hgoals : r.toEntry.plainRecord.classify = r.goals := by
    rw [h.plainRecord_toEntry, h.goals]
    rfl
  rw [Entry.toRecord, hsearchText, hgoals, h.plainRecord_toEntry]

end Record

/-- The record of an entry is its own normal form: written back field by field and read again, it is
the same record, unless nothing names the entry or its date has a year that takes more than four
digits. -/
theorem Entry.toRecord_toEntry_toRecord (e : Entry)
    (hnamed : e.text .id ≠ "" ∨ e.text .name ≠ "" ∨ e.text .certCode ≠ "")
    (hdate : ∀ d, CalendarDate.ofText? (e.text .lastUpdated) = some d →
      0 ≤ d.year ∧ d.year ≤ 9999) : e.toRecord.toEntry.toRecord = e.toRecord :=
  (e.isNormal_toRecord hnamed hdate).toRecord_toEntry

/-- An entry with a code, a price as a text and a date between blanks yields a record that is
written back. -/
theorem Entry.toRecord_toEntry_toRecord_of_code :
    let e := ((Entry.blank.setScalar .certCode (some (.text " gcih "))).setScalar .priceUsd
      (some (.text "979.5"))).setScalar .lastUpdated (some (.text " 2026-02-27"))
    e.text .certCode ≠ "" ∧
      (∀ d, CalendarDate.ofText? (e.text .lastUpdated) = some d → 0 ≤ d.year ∧ d.year ≤ 9999) ∧
      e.toRecord.id = "gcih" ∧ e.toRecord.toEntry.toRecord = e.toRecord := by
  intro e
  have hcode : e.text .certCode ≠ "" := by decide
  have hread : CalendarDate.ofText? (e.text .lastUpdated) =
      some ⟨2026, 2, 27, by decide, by decide⟩ := by decide
  have hdate : ∀ d, CalendarDate.ofText? (e.text .lastUpdated) = some d →
      0 ≤ d.year ∧ d.year ≤ 9999 := by
    intro d hd
    rw [hread, Option.some.injEq] at hd
    subst hd
    decide
  have hid : e.toRecord.id = "gcih" := by decide
  exact ⟨hcode, hdate, hid, e.toRecord_toEntry_toRecord (.inr (.inr hcode)) hdate⟩

end CertCatalog
