import CertCatalog.Proofs.Entry.WriteBack
import CertCatalog.Proofs.Record.GoalRules
import CertCatalog.Proofs.Text.Padding
import CertCatalog.Record

/-!
# The data model of records

Whatever an entry writes or leaves out, its record satisfies the data model: texts are trimmed, the
ones with a default are filled, vocabulary names have their own spelling, search text and goals are
derived from the other fields, and the price is of one class. The only texts that a record may lack
are those that its entry has under none of the keys that stand in for each other.
-/

namespace CertCatalog

namespace Record

/-- The texts of a record that stand by themselves and are not derived from others. -/
def singleTexts (r : Record) : List String :=
  [ r.id, r.name, r.provider, r.code, r.url, r.domainArea, r.delivery, r.renewalPolicy, r.language,
    r.description, r.summary, r.priceLabel ]

/-- The texts that every record has. -/
def requiredTexts (r : Record) : List String :=
  [r.id, r.provider, r.delivery, r.renewalPolicy, r.language, r.priceLabel]

/-- The texts in the lists of a record. -/
def listedTexts (r : Record) : List String :=
  r.subAreas ++ r.tracks ++ r.roleGroups ++ r.roles ++ r.tags ++ r.prerequisites

/-- One of the three conditions on prices holds, the one that the price class names, and a price is
known when it is paid or free. -/
structure HasPriceOfOneClass (r : Record) : Prop where
  isPaid_iff : r.isPaid = true ↔ r.priceClass = .paid
  isFree_iff : r.isFree = true ↔ r.priceClass = .free
  isUnknownPrice_iff : r.isUnknownPrice = true ↔ r.priceClass = .unknown
  hasConcretePrice_iff : r.hasConcretePrice = true ↔ r.isPaid = true ∨ r.isFree = true

/-- What search, grouping and counting rely on in a record. -/
structure MeetsDataModel (r : Record) : Prop where
  trim_singleTexts : ∀ s ∈ r.singleTexts, Text.trim s = s
  trim_searchText : Text.trim r.searchText = r.searchText
  requiredTexts : ∀ s ∈ r.requiredTexts, s ≠ ""
  listedTexts : ∀ s ∈ r.listedTexts, Text.trim s = s ∧ s ≠ ""
  domainArea : r.domainArea ∈ Vocabulary.domains
  subAreas : ∀ s ∈ r.subAreas, ∀ k ∈ Vocabulary.subAreas,
    Text.eqIgnoringAsciiCase k s = true → s = k
  roleGroups : ∀ s ∈ r.roleGroups, ∀ k ∈ Vocabulary.roleGroups,
    Text.eqIgnoringAsciiCase k s = true → s = k
  name_eq_empty_iff : r.name = "" ↔ r.code = ""
  id_of_name : r.name = "" → r.id = Text.emptySlug
  description_eq_empty_iff : r.description = "" ↔ r.summary = ""
  goals : r.goals = r.classify
  goals_ne_empty : r.goals ≠ .empty
  lower_searchText : Text.lower r.searchText = r.searchText
  price : r.HasPriceOfOneClass

private theorem hasPriceOfOneClass (r : Record) : r.HasPriceOfOneClass := by
  have hpaid : r.isPaid = (r.priceClass == .paid) := PriceClass.paid.accepts_kind r
  have hfree : r.isFree = (r.priceClass == .free) := PriceClass.free.accepts_kind r
  have hunknown : r.isUnknownPrice = (r.priceClass == .unknown) := PriceClass.unknown.accepts_kind r
  refine ⟨by simp [hpaid], by simp [hfree], by simp [hunknown], ?_⟩
  rw [hasConcretePrice, hpaid, hfree, hunknown]
  cases r.priceClass <;> decide

end Record

/-! ### Search texts -/

private theorem Text.trim_intercalate {texts : List String} (h : ∀ s ∈ texts, IsFilled s) :
    trim (String.intercalate " " texts) = String.intercalate " " texts := by
  induction texts with
  | nil => decide
  | cons s texts ih =>
    obtain ⟨hs, htexts⟩ := List.forall_mem_cons.mp h
    cases texts with
    | nil =>
      rw [String.intercalate_singleton]
      exact hs.1
    | cons s' texts =>
      -- The first text begins the join and the rest ends it, so neither may be empty.
      have hspace : " ".toList = [' '] := rfl
      have hne : s.toList ≠ [] := by simpa using hs.2
      have hjoined : (String.intercalate " " (s' :: texts)).toList ≠ [] := by
        intro hnil
        have hinfix : s'.toList <:+: (String.intercalate " " (s' :: texts)).toList := by
          rw [String.toList_intercalate]
          exact infix_intercalate_of_mem List.mem_cons_self
        rw [hnil, List.infix_nil] at hinfix
        exact (htexts s' List.mem_cons_self).2 (by simpa using hinfix)
      have hfirst : trimChars s.toList = s.toList := by rw [← toList_trim, hs.1]
      have hlast := congrArg String.toList (ih htexts)
      rw [toList_trim] at hlast
      rw [String.intercalate_cons_cons, ← String.toList_inj, toList_trim, String.toList_append,
        String.toList_append, hspace, List.append_assoc]
      exact trimChars_append_append hne hjoined hfirst hlast [' ']

namespace Entry

variable (e : Entry)

private theorem trim_of_mem_singleTexts : ∀ s ∈ e.toRecord.singleTexts, Text.trim s = s := by
  obtain ⟨hprovider, hdelivery, hrenewal, hlanguage, hlabel⟩ := isFilled_defaultTexts
  simp only [Record.singleTexts, toRecord, plainRecord, List.forall_mem_cons]
  exact ⟨trim_orElse (e.trim_text .id) (Text.trim_slug _),
    e.trim_recordName,
    trim_orElse (e.trim_text .provider) hprovider.1,
    trim_orElse (e.trim_text .certCode) e.trim_recordName,
    e.trim_text .url,
    (Vocabulary.isFilled_of_mem_domains e.recordDomain_mem).1,
    trim_orElse (e.trim_text .delivery) hdelivery.1,
    trim_orElse (e.trim_text .renewal) hrenewal.1,
    trim_orElse (e.trim_text .language) hlanguage.1,
    trim_orElse (e.trim_text .description) (e.trim_text .summary),
    trim_orElse (e.trim_text .summary) (e.trim_text .description),
    trim_orElse (e.trim_text .priceLabel) hlabel.1,
    by simp⟩

private theorem isFilled_of_mem_listedTexts {s : String} (h : s ∈ e.toRecord.listedTexts) :
    IsFilled s := by
  simp only [Record.listedTexts, toRecord, plainRecord, List.mem_append] at h
  rcases h with ((((h | h) | h) | h) | h) | h
  · exact e.isFilled_of_mem_canonical (fun _ ↦ Vocabulary.isFilled_of_mem_subAreas) h
  · exact e.isFilled_of_mem_items h
  · exact e.isFilled_of_mem_canonical (fun _ ↦ Vocabulary.isFilled_of_mem_roleGroups) h
  · exact e.isFilled_of_mem_items h
  · exact e.isFilled_of_mem_items h
  · exact e.isFilled_of_mem_items h

private theorem trim_of_searchesField {s : String} (h : e.toRecord.SearchesField s) :
    Text.trim s = s := by
  cases h with
  | level => cases e.toRecord.level <;> decide
  | status => cases e.toRecord.status <;> decide
  | introducedYear => exact Integer.trim_toText _
  | priceUsd => exact Integer.trim_toText _
  | subArea h | track h | roleGroup h | role h | tag h =>
    apply And.left
    apply e.isFilled_of_mem_listedTexts
    simp [Record.listedTexts, h]
  | name | provider | code | domainArea | description | summary | priceLabel =>
    apply e.trim_of_mem_singleTexts
    simp [Record.singleTexts]

/-- The search text of a record is trimmed. -/
theorem trim_searchText_toRecord : Text.trim e.toRecord.searchText = e.toRecord.searchText := by
  rw [e.toRecord_searchText, Record.searchTextOf, Text.trim_lower, Text.trim_intercalate]
  intro s hs
  obtain ⟨hfield, hne⟩ := List.mem_filter.mp hs
  exact ⟨e.trim_of_searchesField (Record.mem_searchableFields_iff.mp hfield), by simpa using hne⟩

/-! ### Records of entries -/

private theorem ne_empty_of_mem_requiredTexts : ∀ s ∈ e.toRecord.requiredTexts, s ≠ "" := by
  obtain ⟨hprovider, hdelivery, hrenewal, hlanguage, hlabel⟩ := isFilled_defaultTexts
  simp only [Record.requiredTexts, toRecord, plainRecord, List.forall_mem_cons]
  exact ⟨orElse_ne_empty (Text.slug_ne_empty _) _, orElse_ne_empty hprovider.2 _,
    orElse_ne_empty hdelivery.2 _, orElse_ne_empty hrenewal.2 _, orElse_ne_empty hlanguage.2 _,
    orElse_ne_empty hlabel.2 _, by simp⟩

/-- Name and code of a record stand in for each other. -/
theorem name_eq_empty_iff_toRecord : e.toRecord.name = "" ↔ e.toRecord.code = "" := by
  have hname : e.toRecord.name = e.recordName := rfl
  have hcode : e.toRecord.code = e.recordCode := rfl
  rw [hname, hcode, recordCode, orElse_eq_empty_iff, recordName, orElse_eq_empty_iff,
    orElse_eq_empty_iff]
  tauto

/-- A record without a name has the slug of the empty text as its id. -/
theorem id_of_name_eq_empty (h : e.toRecord.name = "") : e.toRecord.id = Text.emptySlug := by
  have hname : e.recordName = "" := h
  have hid : e.text .id = "" := (orElse_eq_empty_iff.mp (orElse_eq_empty_iff.mp hname).2).2
  have hslug : Text.slug "" = Text.emptySlug := by decide
  have hrecord : e.toRecord.id = e.recordId := rfl
  rw [hrecord, recordId_of_eq hid, hname, hslug]

private theorem eq_of_mem_canonical {known : List String} (hknown : ∀ k ∈ known, IsFilled k)
    (hdistinct : AreDistinct known) {key : ListKey} {s k : String}
    (hs : s ∈ (e.items key).map (canonical known)) (hk : k ∈ known)
    (heq : Text.eqIgnoringAsciiCase k s = true) : s = k := by
  rw [← (e.isFilled_and_canonical_of_mem hknown hdistinct hs).2]
  exact canonical_of_eqIgnoringAsciiCase hdistinct hk heq

/-- The record of any entry satisfies the data model. -/
theorem meetsDataModel_toRecord : e.toRecord.MeetsDataModel where
  trim_singleTexts := e.trim_of_mem_singleTexts
  trim_searchText := e.trim_searchText_toRecord
  requiredTexts := e.ne_empty_of_mem_requiredTexts
  listedTexts := fun s ↦ e.isFilled_of_mem_listedTexts
  domainArea := e.recordDomain_mem
  subAreas := fun s hs k ↦ e.eq_of_mem_canonical (fun _ ↦ Vocabulary.isFilled_of_mem_subAreas)
    Vocabulary.areDistinct_subAreas hs
  roleGroups := fun s hs k ↦ e.eq_of_mem_canonical (fun _ ↦ Vocabulary.isFilled_of_mem_roleGroups)
    Vocabulary.areDistinct_roleGroups hs
  name_eq_empty_iff := e.name_eq_empty_iff_toRecord
  id_of_name := e.id_of_name_eq_empty
  description_eq_empty_iff := e.summary_eq_empty_iff_toRecord.symm
  goals := e.goals_toRecord
  goals_ne_empty := by
    rw [e.goals_toRecord]
    exact e.toRecord.classify_ne_empty
  lower_searchText := by
    rw [e.toRecord_searchText, Record.searchTextOf, Text.lower_lower]
  price := e.toRecord.hasPriceOfOneClass

end Entry
end CertCatalog
