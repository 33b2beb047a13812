import CertCatalog.Proofs.Audit.Defaults
import CertCatalog.Proofs.CalendarDate
import CertCatalog.Proofs.Entry.Trimmed
import CertCatalog.Proofs.Grouping

/-!
# Checked values behind a clean audit

What the audit checks against a vocabulary, a list of names, the calendar or the price label, the
record repeats as its entry writes it. So no spelling is replaced, no fallback is taken, the record
is grouped under the sub-areas that it lists, and its price class agrees with its label.
-/

namespace CertCatalog

/-! ### Names are their own values -/

theorem Level.ofText_name (level : Level) : Level.ofText level.name = level := by
  cases level <;> decide

theorem Status.ofText?_name (status : Status) : Status.ofText? status.name = some status := by
  cases status <;> decide

theorem PriceConfidence.ofText?_name (confidence : PriceConfidence) :
    PriceConfidence.ofText? confidence.name = some confidence := by
  cases confidence <;> decide

/-! ### Records of entries that keep the rules -/

private theorem Record.belongsUnder_iff_of_defined {r : Record}
    (h : ∀ s ∈ r.subAreas, s ∈ Vocabulary.subAreasOf r.domainArea) (heading : String) :
    r.BelongsUnder heading ↔
      heading ∈ r.subAreas ∨ heading = Vocabulary.generalBucket ∧ r.subAreas = [] := by
  rw [BelongsUnder]
  constructor
  · rintro (⟨-, hlisted⟩ | ⟨hgeneral, hnone⟩)
    · exact .inl hlisted
    · refine .inr ⟨hgeneral, ?_⟩
      apply List.eq_nil_iff_forall_not_mem.mpr
      intro s hs
      exact hnone s hs (h s hs)
  · rintro (hlisted | ⟨hgeneral, hnil⟩)
    · exact .inl ⟨h heading hlisted, hlisted⟩
    · refine .inr ⟨hgeneral, ?_⟩
      rw [hnil]
      exact fun s hs ↦ absurd hs List.not_mem_nil

namespace Record

/-- The price class agrees with the label: free exactly when the label says so, paid only with a
digit in it, and unknown only when it looks like no price or says that the price is not known. -/
structure ClassFitsLabel (r : Record) : Prop where
  free : r.priceClass = .free ↔
    Text.contains (Text.lower r.priceLabel) Vocabulary.freeMarker = true
  paid : r.priceClass = .paid → r.priceLabel.toList.any Char.isDigit = true
  unknown : r.priceClass = .unknown →
    r.priceLabel.toList.any Char.isDigit = false ∧ '$' ∉ r.priceLabel.toList ∨
      Vocabulary.isUnknownPriceLabel (Text.lower r.priceLabel) = true

private theorem priceClass_eq (r : Record) :
    r.priceClass =
      if r.priceUsd = 0 then
        if Text.contains (Text.lower r.priceLabel) Vocabulary.freeMarker then .free else .unknown
      else .paid := by
  rw [priceClass, isPaid, isFree]
  by_cases h : r.priceUsd = 0
  · simp [h]
  · have hpos : 0 < r.priceUsd := UInt32.pos_iff_ne_zero.mpr h
    simp [hpos, h]

private theorem classFitsLabel_of_labelFits {r : Record} {price : Int}
    (h : Audit.LabelFits r.priceLabel price) (hprice : (r.priceUsd.toNat : Int) = price) :
    r.ClassFitsLabel := by
  have hzero : r.priceUsd = 0 ↔ price = 0 := by
    rw [← UInt32.toNat_inj, UInt32.toNat_zero]
    omega
  have hclass := r.priceClass_eq
  -- The label decides about the class only when the price is zero.
  by_cases h0 : price = 0
  · rw [if_pos (hzero.mpr h0)] at hclass
    cases hmarked : Text.contains (Text.lower r.priceLabel) Vocabulary.freeMarker with
    | true =>
      rw [hmarked, if_pos rfl] at hclass
      refine ⟨?_, ?_, ?_⟩ <;> simp [hclass, hmarked]
    | false =>
      rw [hmarked, if_neg Bool.false_ne_true] at hclass
      refine ⟨by simp [hclass, hmarked], by simp [hclass], fun _ ↦ ?_⟩
      cases hlooks : r.priceLabel.toList.any Char.isDigit || r.priceLabel.toList.contains '$' with
      | true =>
        refine .inr ((h.zero h0 hlooks).resolve_right ?_)
        rw [hmarked]
        exact Bool.false_ne_true
      | false =>
        rw [Bool.or_eq_false_iff] at hlooks
        refine .inl ⟨hlooks.1, ?_⟩
        rw [← List.contains_iff_mem, hlooks.2]
        exact Bool.false_ne_true
  · rw [if_neg fun hprice0 ↦ h0 (hzero.mp hprice0)] at hclass
    refine ⟨?_, fun _ ↦ h.positive (by omega), by simp [hclass]⟩
    rw [hclass]
    exact ⟨fun heq ↦ absurd heq (by decide), fun hfree ↦ absurd (h.free hfree) h0⟩

end Record

namespace Entry

/-- The record of the entry repeats every value that the audit checks, as the entry writes it. -/
structure RepeatsCheckedValues (e : Entry) : Prop where
  domain : e.toRecord.domainArea = e.text .domainArea
  domain_mem : e.toRecord.domainArea ∈ Vocabulary.domains
  subAreas : e.toRecord.subAreas = e.items .subAreas
  subAreas_mem : ∀ s ∈ e.toRecord.subAreas, s ∈ Vocabulary.subAreasOf e.toRecord.domainArea
  buckets : ∀ records, e.toRecord ∈ records → ∀ domain heading,
    IsShownUnder (groupByDomain records) domain heading e.toRecord ↔
      domain = e.toRecord.domainArea ∧
        (heading ∈ e.toRecord.subAreas ∨
          heading = Vocabulary.generalBucket ∧ e.toRecord.subAreas = [])
  roleGroups : e.toRecord.roleGroups = e.items .roleGroups
  roleGroups_ne_nil : e.toRecord.roleGroups ≠ []
  roleGroups_mem : ∀ group ∈ e.toRecord.roleGroups, group ∈ Vocabulary.roleGroups
  level : e.toRecord.level.name = e.text .level
  status : e.toRecord.status.name = e.text .status
  priceConfidence : e.toRecord.priceConfidence.name = e.text .priceConfidence
  aiFocus : e.scalar .aiFocus = some (.bool e.toRecord.aiFocus)
  description : e.toRecord.description = e.text .description
  summary : e.toRecord.summary = e.text .summary
  priceLabel : e.toRecord.priceLabel = e.text .priceLabel
  lastUpdated : ∃ d, e.toRecord.lastUpdated = some d ∧ d.toText = e.text .lastUpdated
  priceClass : ∀ n, e.scalar .priceUsd = some (.int n) → n.toInt ≤ 4294967295 →
    e.toRecord.ClassFitsLabel

private theorem domainArea_of_mem {e : Entry} (h : e.text .domainArea ∈ Vocabulary.domains) :
    e.toRecord.domainArea = e.text .domainArea := by
  show e.recordDomain = e.text .domainArea
  rw [recordDomain, canonical_of_mem Vocabulary.areDistinct_domains h]
  exact if_pos (List.contains_iff_mem.mpr h)

private theorem subAreas_of_subset {e : Entry}
    (h : ∀ s ∈ e.items .subAreas, s ∈ Vocabulary.subAreas) :
    e.toRecord.subAreas = e.items .subAreas :=
  map_canonical_of_subset Vocabulary.areDistinct_subAreas h

private theorem roleGroups_of_subset {e : Entry}
    (h : ∀ group ∈ e.items .roleGroups, group ∈ Vocabulary.roleGroups) :
    e.toRecord.roleGroups = e.items .roleGroups :=
  map_canonical_of_subset Vocabulary.areDistinct_roleGroups h

private theorem items_of_list {e : Entry} {key : ListKey} {l : Listed} (h : e.list key = some l) :
    e.items key = l.items := by
  rw [items, h]
  rfl

private theorem orElse_text_of_ne {e : Entry} {key : ScalarKey} (h : e.text key ≠ "")
    (substitute : String) : orElse (e.text key) substitute = e.text key :=
  orElse_eq_left_iff.mpr fun hempty ↦ absurd hempty h

section Conforms

variable {earlier : List SourcedEntry} {s : SourcedEntry} (h : Audit.Conforms earlier s)
include h

private theorem subAreas_of_conforms :
    s.entry.toRecord.subAreas = s.entry.items .subAreas ∧
      ∀ subArea ∈ s.entry.toRecord.subAreas,
        subArea ∈ Vocabulary.subAreasOf s.entry.toRecord.domainArea := by
  obtain ⟨values, hvalues, hdefined⟩ := h.subAreas
  rw [← items_of_list hvalues] at hdefined
  have hrecord := subAreas_of_subset fun subArea hmem ↦
    Vocabulary.subAreasOf_subset _ (hdefined subArea hmem)
  rw [hrecord, domainArea_of_mem h.domain]
  exact ⟨rfl, hdefined⟩

private theorem roleGroups_of_conforms :
    s.entry.toRecord.roleGroups = s.entry.items .roleGroups ∧
      s.entry.toRecord.roleGroups ≠ [] ∧
      ∀ group ∈ s.entry.toRecord.roleGroups, group ∈ Vocabulary.roleGroups := by
  obtain ⟨values, hvalues, hne, hknown⟩ := h.roleGroups
  rw [← items_of_list hvalues] at hne hknown
  rw [roleGroups_of_subset hknown]
  exact ⟨rfl, hne, hknown⟩

private theorem lastUpdated_of_conforms :
    ∃ d, s.entry.toRecord.lastUpdated = some d ∧ d.toText = s.entry.text .lastUpdated := by
  obtain ⟨hshape, hsome⟩ := h.date
  obtain ⟨d, hd⟩ := Option.isSome_iff_exists.mp hsome
  refine ⟨d, ?_, Audit.toText_of_hasDateShape hshape hd⟩
  rw [← hd]
  simp only [toRecord, plainRecord]

private theorem priceLabel_of_conforms : s.entry.toRecord.priceLabel = s.entry.text .priceLabel :=
  orElse_text_of_ne (h.texts .priceLabel (by decide)) _

private theorem classFitsLabel_of_conforms {n : Int64}
    (hn : s.entry.scalar .priceUsd = some (.int n))
    (hle : n.toInt ≤ 4294967295) : s.entry.toRecord.ClassFitsLabel := by
  obtain ⟨price, hprice, hnonneg⟩ := h.price
  cases hn.symm.trans hprice
  have hlabel := h.priceLabel
  have hvalue : ((s.entry.scalar .priceUsd).bind Scalar.asInt?).getD 0 = n.toInt := by
    rw [hn]
    rfl
  rw [← priceLabel_of_conforms h, hvalue] at hlabel
  apply Record.classFitsLabel_of_labelFits hlabel
  obtain ⟨m, hm, hown⟩ := (natural_eq_own_iff hn 4294967295).mpr ⟨hnonneg, hle⟩
  cases hn.symm.trans hm
  rw [toNat_priceUsd, hown]

/-- An entry that keeps the rules of the audit yields a record with its checked values. -/
theorem repeatsCheckedValues_of_conforms : s.entry.RepeatsCheckedValues := by
  have hdomain := domainArea_of_mem h.domain
  obtain ⟨hsubAreas, hdefined⟩ := subAreas_of_conforms h
  obtain ⟨hroleGroups, hne, hknown⟩ := roleGroups_of_conforms h
  refine
    { domain := hdomain
      domain_mem := hdomain ▸ h.domain
      subAreas := hsubAreas
      subAreas_mem := hdefined
      buckets := ?_
      roleGroups := hroleGroups
      roleGroups_ne_nil := hne
      roleGroups_mem := hknown
      level := ?_
      status := ?_
      priceConfidence := ?_
      aiFocus := ?_
      description := orElse_text_of_ne (h.texts .description (by decide)) _
      summary := orElse_text_of_ne (h.texts .summary (by decide)) _
      priceLabel := priceLabel_of_conforms h
      lastUpdated := lastUpdated_of_conforms h
      priceClass := fun n hn hle ↦ classFitsLabel_of_conforms h hn hle }
  · intro records hmem domain heading
    rw [isShownUnder_groupByDomain_iff, Record.belongsUnder_iff_of_defined hdefined]
    exact ⟨fun hshown ↦ ⟨hshown.2.1.symm, hshown.2.2⟩, fun hshown ↦ ⟨hmem, hshown.1.symm, hshown.2⟩⟩
  -- The checks let only names pass, and a value is read back from its name.
  · obtain ⟨level, -, hname⟩ := h.level
    simp only [toRecord, plainRecord]
    rw [← hname, Level.ofText_name]
  · obtain ⟨status, -, hname⟩ := h.status
    simp only [toRecord, plainRecord]
    rw [← hname, Status.ofText?_name, Option.getD_some]
  · obtain ⟨confidence, -, hname⟩ := h.confidence
    simp only [toRecord, plainRecord]
    rw [← hname, PriceConfidence.ofText?_name, Option.getD_some]
  · obtain ⟨b, hb⟩ := h.aiFocus
    simp only [toRecord, plainRecord]
    rw [hb, Option.map_some, Option.getD_some, Scalar.asFlag]

end Conforms

end Entry

namespace CatalogSource

/-- Behind a clean audit, a record repeats what the audit checks: its domain, sub-areas and role
groups are known and as the entry writes them, names, texts and the date read the same, groups show
it under its own sub-areas, and its price class agrees with its label. -/
theorem repeatsCheckedValues_of_isClean {source : CatalogSource} {s : SourcedEntry}
    (hclean : source.audit.isClean = true) (hs : s ∈ source.entries) :
    s.entry.RepeatsCheckedValues := by
  obtain ⟨before, hconforms⟩ := exists_conforms_of_isClean hclean hs
  exact Entry.repeatsCheckedValues_of_conforms hconforms

/-- The record of an exemplary entry is paid, shows a price with a digit, and lies in the bucket of
its one sub-area. -/
theorem repeatsCheckedValues_of_isClean_exemplar :
    let s : SourcedEntry := ⟨"gcih.yaml", true, .exemplar⟩
    let source : CatalogSource := ⟨.blank, [s], []⟩
    let r := s.entry.toRecord
    source.audit.isClean = true ∧ s ∈ source.entries ∧ s.entry.RepeatsCheckedValues ∧
      IsShownUnder (groupByDomain [r]) "Security Operations" "Incident Handling" r ∧
      r.ClassFitsLabel := by
  intro s source r
  have hclean : source.audit.isClean = true := by decide +kernel
  have hs : s ∈ source.entries := List.mem_singleton_self s
  have hrepeats := repeatsCheckedValues_of_isClean hclean hs
  refine ⟨hclean, hs, hrepeats, ?_, ?_⟩
  · apply (hrepeats.buckets [r] (List.mem_singleton_self r) _ _).mpr
    refine ⟨?_, .inl ?_⟩
    · rw [hrepeats.domain]
      decide
    · rw [hrepeats.subAreas]
      decide
  · exact hrepeats.priceClass 979 rfl (by decide)

end CatalogSource

end CertCatalog
