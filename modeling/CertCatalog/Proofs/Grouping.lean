import CertCatalog.Catalog
import CertCatalog.Entry.Normal
import CertCatalog.Proofs.Listing
import Mathlib.Algebra.BigOperators.Group.List.Lemmas
import Mathlib.Algebra.GroupWithZero.Nat
import Mathlib.Data.List.Dedup

/-!
# Laws of groups

Every domain of the records has one group, and a group divides the records of its domain by the
sub-areas that the domain defines. No record is lost, since the ones outside all these sub-areas
have a bucket of their own, and none is counted twice, although it may lie in several buckets. A
record has a group for each of its goals, and the record of an entry has a goal at least.
-/

namespace CertCatalog

private theorem Vocabulary.generalBucket_notMem_subAreasOf (domain : String) :
    generalBucket ∉ subAreasOf domain := by
  intro h
  exact absurd (subAreasOf_subset domain h) (by decide)

/-! ### Buckets of a domain -/

private theorem listsAny_eq_false_iff {subAreas : List String} {r : Record} :
    listsAny subAreas r = false ↔ ∀ s ∈ r.subAreas, s ∉ subAreas := by
  simp [listsAny]

/-- A bucket holds the records of a sub-area of the domain, or those outside all its sub-areas, and
there are some. -/
theorem mem_bucketsOf {domain : String} {records : List Record} {b : SubAreaBucket} :
    b ∈ bucketsOf domain records ↔
      b.records ≠ [] ∧
        (b.name ∈ Vocabulary.subAreasOf domain ∧
            b.records = records.filter (·.subAreas.contains b.name) ∨
          b.name = Vocabulary.generalBucket ∧
            b.records = records.filter (!listsAny (Vocabulary.subAreasOf domain) ·)) := by
  obtain ⟨name, inBucket⟩ := b
  simp only [bucketsOf, List.mem_filter, List.mem_append, List.mem_map, List.mem_singleton,
    SubAreaBucket.mk.injEq, Bool.not_eq_true', List.isEmpty_eq_false_iff]
  constructor
  · rintro ⟨⟨s, hs, rfl, rfl⟩ | ⟨rfl, rfl⟩, hne⟩
    · exact ⟨hne, .inl ⟨hs, rfl⟩⟩
    · exact ⟨hne, .inr ⟨rfl, rfl⟩⟩
  · rintro ⟨hne, ⟨hs, rfl⟩ | ⟨rfl, rfl⟩⟩
    · exact ⟨.inl ⟨name, hs, rfl, rfl⟩, hne⟩
    · exact ⟨.inr ⟨rfl, rfl⟩, hne⟩

/-- A record belongs under a heading of its domain: under each sub-area of the domain that it lists,
or under the general one when it lists none. -/
def Record.BelongsUnder (r : Record) (heading : String) : Prop :=
  heading ∈ Vocabulary.subAreasOf r.domainArea ∧ heading ∈ r.subAreas ∨
    heading = Vocabulary.generalBucket ∧
      ∀ s ∈ r.subAreas, s ∉ Vocabulary.subAreasOf r.domainArea

/-- Every record belongs under some heading. -/
theorem Record.exists_belongsUnder (r : Record) : ∃ heading, r.BelongsUnder heading := by
  by_cases h : ∃ s ∈ r.subAreas, s ∈ Vocabulary.subAreasOf r.domainArea
  · obtain ⟨s, hlisted, hdefined⟩ := h
    exact ⟨s, .inl ⟨hdefined, hlisted⟩⟩
  · refine ⟨Vocabulary.generalBucket, .inr ⟨rfl, fun s hlisted hdefined ↦ h ⟨s, hlisted, hdefined⟩⟩⟩

/-- A record belongs under the general heading when it belongs under no other one, and only then. -/
theorem Record.belongsUnder_generalBucket_iff (r : Record) :
    r.BelongsUnder Vocabulary.generalBucket ↔
      ∀ heading, heading ≠ Vocabulary.generalBucket → ¬r.BelongsUnder heading := by
  have hgeneral := Vocabulary.generalBucket_notMem_subAreasOf r.domainArea
  constructor
  · rintro (⟨hdefined, -⟩ | ⟨-, hnone⟩) heading hne
    · exact absurd hdefined hgeneral
    · rintro (⟨hdefined, hlisted⟩ | ⟨heq, -⟩)
      · exact hnone heading hlisted hdefined
      · exact hne heq
  · intro h
    refine .inr ⟨rfl, ?_⟩
    intro s hlisted hdefined
    apply h s _ (.inl ⟨hdefined, hlisted⟩)
    rintro rfl
    exact hgeneral hdefined

/-- Among records of one domain, those of a heading lie in the bucket with its name. -/
theorem exists_mem_bucketsOf_iff {domain heading : String} {records : List Record} {r : Record}
    (hdomain : r.domainArea = domain) :
    (∃ b ∈ bucketsOf domain records, b.name = heading ∧ r ∈ b.records) ↔
      r ∈ records ∧ r.BelongsUnder heading := by
  subst hdomain
  simp only [mem_bucketsOf, Record.BelongsUnder]
  constructor
  · rintro ⟨b, ⟨-, ⟨hdefined, hrecords⟩ | ⟨hname, hrecords⟩⟩, rfl, hr⟩
    · rw [hrecords, List.mem_filter, List.contains_iff_mem] at hr
      exact ⟨hr.1, .inl ⟨hdefined, hr.2⟩⟩
    · rw [hrecords, List.mem_filter, Bool.not_eq_true', listsAny_eq_false_iff] at hr
      exact ⟨hr.1, .inr ⟨hname, hr.2⟩⟩
  · rintro ⟨hr, ⟨hdefined, hlisted⟩ | ⟨rfl, hnone⟩⟩
    · have hmem : r ∈ records.filter (·.subAreas.contains heading) := by
        rw [List.mem_filter, List.contains_iff_mem]
        exact ⟨hr, hlisted⟩
      exact ⟨⟨heading, _⟩, ⟨List.ne_nil_of_mem hmem, .inl ⟨hdefined, rfl⟩⟩, rfl, hmem⟩
    · have hmem : r ∈ records.filter
          (!listsAny (Vocabulary.subAreasOf r.domainArea) ·) := by
        rw [List.mem_filter, Bool.not_eq_true', listsAny_eq_false_iff]
        exact ⟨hr, hnone⟩
      exact ⟨⟨_, _⟩, ⟨List.ne_nil_of_mem hmem, .inr ⟨rfl, rfl⟩⟩, rfl, hmem⟩

/-! ### Groups -/

/-- The records of a domain. -/
def inDomain (records : List Record) (domain : String) : List Record :=
  records.filter (·.domainArea == domain)

/-- The group of a domain. -/
def domainGroup (records : List Record) (domain : String) : DomainGroup :=
  ⟨domain, bucketsOf domain (inDomain records domain)⟩

/-- The domains of records, known ones first. -/
def domainsOf (records : List Record) : List String :=
  arrange Vocabulary.domains (records.map (·.domainArea))

/-- A record lies in a domain when it is one of the records and names that domain. -/
theorem mem_inDomain {records : List Record} {domain : String} {r : Record} :
    r ∈ inDomain records domain ↔ r ∈ records ∧ r.domainArea = domain := by
  rw [inDomain, List.mem_filter, beq_iff_eq]

theorem mem_domainsOf {records : List Record} {domain : String} :
    domain ∈ domainsOf records ↔ ∃ r ∈ records, r.domainArea = domain := by
  rw [domainsOf, mem_arrange, List.mem_map]

private theorem nodup_domainsOf (records : List Record) : (domainsOf records).Nodup :=
  nodup_arrange _ _

/-- The records of a domain lie in buckets of its group, each under its headings. -/
theorem exists_mem_domainGroup_iff {records : List Record} {domain heading : String} {r : Record} :
    (∃ b ∈ (domainGroup records domain).buckets, b.name = heading ∧ r ∈ b.records) ↔
      r ∈ records ∧ r.domainArea = domain ∧ r.BelongsUnder heading := by
  constructor
  · rintro ⟨b, hb, hname, hr⟩
    have hin : r ∈ inDomain records domain := by
      rcases (mem_bucketsOf.mp hb).2 with ⟨-, hrecords⟩ | ⟨-, hrecords⟩
      · exact (List.mem_filter.mp (hrecords ▸ hr)).1
      · exact (List.mem_filter.mp (hrecords ▸ hr)).1
    obtain ⟨hmem, hdomain⟩ := mem_inDomain.mp hin
    exact ⟨hmem, hdomain, ((exists_mem_bucketsOf_iff hdomain).mp ⟨b, hb, hname, hr⟩).2⟩
  · rintro ⟨hmem, hdomain, hbelongs⟩
    exact (exists_mem_bucketsOf_iff hdomain).mpr ⟨mem_inDomain.mpr ⟨hmem, hdomain⟩, hbelongs⟩

/-- A record of a domain lies in some bucket of its group, and only such records do. -/
theorem exists_bucket_iff {records : List Record} {domain : String} {r : Record} :
    (∃ b ∈ (domainGroup records domain).buckets, r ∈ b.records) ↔
      r ∈ records ∧ r.domainArea = domain := by
  constructor
  · rintro ⟨b, hb, hr⟩
    obtain ⟨hmem, hdomain, -⟩ := exists_mem_domainGroup_iff.mp ⟨b, hb, rfl, hr⟩
    exact ⟨hmem, hdomain⟩
  · rintro ⟨hmem, hdomain⟩
    obtain ⟨heading, hbelongs⟩ := r.exists_belongsUnder
    obtain ⟨b, hb, -, hr⟩ := exists_mem_domainGroup_iff.mpr ⟨hmem, hdomain, hbelongs⟩
    exact ⟨b, hb, hr⟩

/-- Every domain of the records has its group, in the order of the domains: none is empty. -/
theorem groupByDomain_eq_map (records : List Record) :
    groupByDomain records = (domainsOf records).map (domainGroup records) := by
  apply List.filter_eq_self.mpr
  intro g hg
  obtain ⟨domain, hdomain, rfl⟩ := List.mem_map.mp hg
  obtain ⟨r, hr, hname⟩ := mem_domainsOf.mp hdomain
  obtain ⟨b, hb, -⟩ := exists_bucket_iff.mpr ⟨hr, hname⟩
  rw [Bool.not_eq_true', List.isEmpty_eq_false_iff]
  exact List.ne_nil_of_mem hb

/-- The headings of a domain in order, each with the records that a group shows under it. -/
def headingsOf (records : List Record) (domain : String) : List SubAreaBucket :=
  (Vocabulary.subAreasOf domain).map (fun subArea ↦
    ⟨subArea, records.filter fun r ↦ r.subAreas.contains subArea && r.domainArea == domain⟩) ++
  [⟨Vocabulary.generalBucket, records.filter fun r ↦
    !listsAny (Vocabulary.subAreasOf domain) r && r.domainArea == domain⟩]

/-- The buckets of a group are the headings of its domain with some record under them. -/
theorem buckets_domainGroup (records : List Record) (domain : String) :
    (domainGroup records domain).buckets =
      (headingsOf records domain).filter (!·.records.isEmpty) := by
  simp only [domainGroup, bucketsOf, inDomain, List.filter_filter, headingsOf]

/-! ### Counting -/

/-- A group counts the different ids of its domain, however many buckets a record lies in. -/
theorem recordCount_domainGroup (records : List Record) (domain : String) :
    (domainGroup records domain).recordCount =
      ((inDomain records domain).map (·.id)).eraseDups.length := by
  apply length_eraseDups_congr
  intro id
  simp only [List.mem_map, List.mem_flatMap, exists_bucket_iff, mem_inDomain]

/-- With different ids, a group counts the records of its domain. -/
theorem recordCount_domainGroup_of_nodup {records : List Record}
    (hids : (records.map (·.id)).Nodup) (domain : String) :
    (domainGroup records domain).recordCount = (inDomain records domain).length := by
  have hdomain : ((inDomain records domain).map (·.id)).Nodup :=
    hids.sublist (List.filter_sublist.map _)
  rw [recordCount_domainGroup, length_eraseDups_of_nodup hdomain, List.length_map]

private theorem sum_length_inDomain (records : List Record) :
    ((domainsOf records).map fun domain ↦ (inDomain records domain).length).sum =
      records.length := by
  have hperm : (domainsOf records).Perm (records.map (·.domainArea)).dedup := by
    apply (List.perm_ext_iff_of_nodup (nodup_domainsOf records) (List.nodup_dedup _)).mpr
    intro domain
    rw [mem_domainsOf, List.mem_dedup, List.mem_map]
  have hcount (domain : String) :
      (inDomain records domain).length = (records.map (·.domainArea)).count domain := by
    rw [List.count_eq_countP, List.countP_map, List.countP_eq_length_filter, inDomain]
    rfl
  simp only [hcount]
  rw [(hperm.map _).sum_eq, List.sum_map_count_dedup_eq_length, List.length_map]

/-- With different ids, the counts of the groups add up to the number of records. -/
theorem sum_recordCount_of_nodup {records : List Record} (hids : (records.map (·.id)).Nodup) :
    ((groupByDomain records).map (·.recordCount)).sum = records.length := by
  rw [groupByDomain_eq_map, List.map_map, ← sum_length_inDomain records]
  congr 1
  apply List.map_congr_left
  intro domain _
  exact recordCount_domainGroup_of_nodup hids domain

/-! ### The grouping of a list of records -/

theorem map_domain_groupByDomain (records : List Record) :
    (groupByDomain records).map (·.domain) = domainsOf records := by
  rw [groupByDomain_eq_map, List.map_map]
  exact List.map_id _

/-- A group is the one of its domain. -/
theorem eq_domainGroup_of_mem {records : List Record} {g : DomainGroup}
    (h : g ∈ groupByDomain records) : g = domainGroup records g.domain := by
  rw [groupByDomain_eq_map] at h
  obtain ⟨domain, -, rfl⟩ := List.mem_map.mp h
  rfl

private theorem domainGroup_mem {records : List Record} {r : Record} (hr : r ∈ records) :
    domainGroup records r.domainArea ∈ groupByDomain records := by
  rw [groupByDomain_eq_map]
  exact List.mem_map_of_mem (mem_domainsOf.mpr ⟨r, hr, rfl⟩)

/-- The domains that the vocabulary knows come first, in its order. -/
theorem domainsOf_eq_append (records : List Record) :
    domainsOf records =
      Vocabulary.domains.filter (fun domain ↦ records.any (·.domainArea == domain)) ++
        extras Vocabulary.domains (records.map (·.domainArea)) := by
  have hreference : Vocabulary.domains.eraseDups = Vocabulary.domains := by decide
  rw [domainsOf, arrange_eq_append, hreference]
  congr 2
  funext domain
  rw [List.contains_eq_any_beq, List.any_map]
  congr 1
  funext r
  exact Bool.beq_comm

/-- Groups of records by domain. Each domain of the records has one group, the known domains first
and in their order, the others sorted. The buckets of a group are the headings of its domain that
have records, and each holds its records in their order. Every record lies in buckets of one group,
and in the general bucket when it lies in no other. With different ids, the counts add up. -/
structure IsGroupedByDomain (records : List Record) (groups : List DomainGroup) : Prop where
  nodup : (groups.map (·.domain)).Nodup
  mem_iff : ∀ domain, domain ∈ groups.map (·.domain) ↔ ∃ r ∈ records, r.domainArea = domain
  order : ∃ others : List String,
    groups.map (·.domain) =
      Vocabulary.domains.filter (fun domain ↦ records.any (·.domainArea == domain)) ++ others ∧
    (∀ domain ∈ others, domain ∉ Vocabulary.domains) ∧ others.Pairwise (· < ·)
  buckets : ∀ g ∈ groups, g.buckets = (headingsOf records g.domain).filter (!·.records.isEmpty)
  ne_nil : ∀ g ∈ groups, g.buckets ≠ [] ∧ ∀ b ∈ g.buckets, b.records ≠ []
  place : ∀ r ∈ records, ∃ g ∈ groups, g.domain = r.domainArea ∧
    (∃ b ∈ g.buckets, r ∈ b.records) ∧
    (∀ g' ∈ groups, (∃ b ∈ g'.buckets, r ∈ b.records) → g' = g) ∧
    ((∃ b ∈ g.buckets, b.name = Vocabulary.generalBucket ∧ r ∈ b.records) ↔
      ∀ b ∈ g.buckets, b.name ≠ Vocabulary.generalBucket → r ∉ b.records)
  count : (records.map (·.id)).Nodup → (groups.map (·.recordCount)).sum = records.length

/-- A record is shown under a heading of the group of a domain. -/
def IsShownUnder (groups : List DomainGroup) (domain heading : String) (r : Record) : Prop :=
  ∃ g ∈ groups, g.domain = domain ∧ ∃ b ∈ g.buckets, b.name = heading ∧ r ∈ b.records

/-- A record is shown under the headings where it belongs, in its own domain. -/
theorem isShownUnder_groupByDomain_iff {records : List Record} {domain heading : String}
    {r : Record} :
    IsShownUnder (groupByDomain records) domain heading r ↔
      r ∈ records ∧ r.domainArea = domain ∧ r.BelongsUnder heading := by
  rw [← exists_mem_domainGroup_iff]
  constructor
  · rintro ⟨g, hg, rfl, hbucket⟩
    rwa [eq_domainGroup_of_mem hg] at hbucket
  · rintro ⟨b, hb, hname, hr⟩
    obtain ⟨hmem, rfl⟩ := exists_bucket_iff.mp ⟨b, hb, hr⟩
    exact ⟨_, domainGroup_mem hmem, rfl, b, hb, hname, hr⟩

/-- A record lies in the general bucket of its group when it lies in no other bucket there. -/
theorem mem_generalBucket_iff {records : List Record} {r : Record} (hr : r ∈ records) :
    let g := domainGroup records r.domainArea
    (∃ b ∈ g.buckets, b.name = Vocabulary.generalBucket ∧ r ∈ b.records) ↔
      ∀ b ∈ g.buckets, b.name ≠ Vocabulary.generalBucket → r ∉ b.records := by
  intro g
  rw [exists_mem_domainGroup_iff, Record.belongsUnder_generalBucket_iff]
  constructor
  · rintro ⟨-, -, hnone⟩ b hb hne hmem
    exact hnone b.name hne (exists_mem_domainGroup_iff.mp ⟨b, hb, rfl, hmem⟩).2.2
  · intro h
    refine ⟨hr, rfl, ?_⟩
    intro heading hne hbelongs
    obtain ⟨b, hb, rfl, hmem⟩ := exists_mem_domainGroup_iff.mpr ⟨hr, rfl, hbelongs⟩
    exact h b hb hne hmem

/-- Grouping by domain loses, adds and misplaces no record. -/
theorem isGroupedByDomain_groupByDomain (records : List Record) :
    IsGroupedByDomain records (groupByDomain records) where
  nodup := by
    rw [map_domain_groupByDomain]
    exact nodup_domainsOf records
  mem_iff := by
    intro domain
    rw [map_domain_groupByDomain, mem_domainsOf]
  order := by
    refine ⟨extras Vocabulary.domains (records.map (·.domainArea)), ?_, ?_, pairwise_extras _ _⟩
    · rw [map_domain_groupByDomain, domainsOf_eq_append]
    · intro domain h
      exact (mem_extras.mp h).2
  buckets := by
    intro g hg
    rw [eq_domainGroup_of_mem hg]
    exact buckets_domainGroup records g.domain
  ne_nil := by
    intro g hg
    refine ⟨?_, ?_⟩
    · simpa using (List.mem_filter.mp hg).2
    · intro b hb
      rw [eq_domainGroup_of_mem hg] at hb
      exact (mem_bucketsOf.mp hb).1
  place := by
    intro r hr
    refine ⟨domainGroup records r.domainArea, domainGroup_mem hr, rfl,
      exists_bucket_iff.mpr ⟨hr, rfl⟩, ?_, mem_generalBucket_iff hr⟩
    intro g' hg' hmem
    rw [eq_domainGroup_of_mem hg'] at hmem
    rw [eq_domainGroup_of_mem hg', (exists_bucket_iff.mp hmem).2]
  count := sum_recordCount_of_nodup

/-- A record of two sub-areas and one of a domain that no vocabulary knows. -/
theorem isGroupedByDomain_groupByDomain_pair :
    let hunter : Record := { Entry.blank.toRecord with
      id := "hunter", domainArea := "Security Operations"
      subAreas := ["Exploitation", "Forensics"] }
    let pilot : Record := { Entry.blank.toRecord with
      id := "pilot", domainArea := "Aviation", subAreas := ["Forensics"] }
    let records := [hunter, pilot]
    hunter ∈ records ∧ (records.map (·.id)).Nodup ∧
      IsGroupedByDomain records (groupByDomain records) ∧
      ((groupByDomain records).map (·.recordCount)).sum = 2 := by
  intro hunter pilot records
  have hids : (records.map (·.id)).Nodup := by decide
  have hgrouped := isGroupedByDomain_groupByDomain records
  exact ⟨List.mem_cons_self, hids, hgrouped, hgrouped.count hids⟩

/-! ### Groups by goal -/

/-- A goal has a group when some record serves it, and the group holds the records that do. -/
theorem mem_groupByGoal {records : List Record} {b : GoalGroup} :
    b ∈ groupByGoal records ↔
      b.records ≠ [] ∧ b.records = records.filter (·.goals.contains b.goal) := by
  obtain ⟨goal, inGroup⟩ := b
  simp only [groupByGoal, List.mem_filter, List.mem_map, GoalGroup.mk.injEq, Bool.not_eq_true',
    List.isEmpty_eq_false_iff]
  constructor
  · rintro ⟨⟨_, -, rfl, rfl⟩, hne⟩
    exact ⟨hne, rfl⟩
  · rintro ⟨hne, rfl⟩
    exact ⟨⟨goal, goal.mem_all, rfl, rfl⟩, hne⟩

/-- A record lies in the group of each of its goals. -/
theorem exists_mem_groupByGoal_iff {records : List Record} {goal : Goal} {r : Record} :
    (∃ b ∈ groupByGoal records, b.goal = goal ∧ r ∈ b.records) ↔
      r ∈ records ∧ r.goals.contains goal = true := by
  constructor
  · rintro ⟨b, hb, rfl, hr⟩
    rwa [(mem_groupByGoal.mp hb).2, List.mem_filter] at hr
  · intro h
    have hmem : r ∈ records.filter (·.goals.contains goal) := List.mem_filter.mpr h
    exact ⟨⟨goal, _⟩, mem_groupByGoal.mpr ⟨List.ne_nil_of_mem hmem, rfl⟩, rfl, hmem⟩

/-- Number of records in the group of a goal, zero without a group. -/
def goalGroupSize (groups : List GoalGroup) (goal : Goal) : Nat :=
  ((groups.find? (·.goal == goal)).map (·.records.length)).getD 0

/-- The group of a goal has as many records as serve the goal. -/
theorem goalGroupSize_groupByGoal (records : List Record) (goal : Goal) :
    goalGroupSize (groupByGoal records) goal = records.countP (·.goals.contains goal) := by
  rw [goalGroupSize, List.countP_eq_length_filter]
  cases hfind : (groupByGoal records).find? (·.goal == goal) with
  | none =>
    have hempty : records.filter (·.goals.contains goal) = [] := by
      rw [List.filter_eq_nil_iff]
      intro r hr hserves
      obtain ⟨b, hb, hgoal, -⟩ := exists_mem_groupByGoal_iff.mpr ⟨hr, hserves⟩
      exact List.find?_eq_none.mp hfind b hb (by simpa using hgoal)
    rw [hempty]
    rfl
  | some b =>
    have hgoal : b.goal = goal := by simpa using List.find?_some hfind
    have hrecords := (mem_groupByGoal.mp (List.mem_of_find?_eq_some hfind)).2
    rw [hgoal] at hrecords
    rw [← hrecords]
    rfl

/-- A record is never classified without a goal. -/
theorem Record.exists_mem_classify (r : Record) : ∃ goal, r.classify.contains goal = true := by
  rw [classify]
  split
  · exact ⟨defaultGoal, by decide⟩
  · next hne =>
    apply Classical.byContradiction
    intro hnone
    apply hne
    ext goal
    rw [GoalSet.empty, GoalSet.contains_ofPred, Bool.eq_false_iff]
    exact fun hgoal ↦ hnone ⟨goal, hgoal⟩

end CertCatalog
