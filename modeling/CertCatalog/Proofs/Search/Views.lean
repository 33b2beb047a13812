import CertCatalog.Catalog
import CertCatalog.Proofs.Entry.Trimmed
import CertCatalog.Proofs.Grouping
import CertCatalog.Proofs.Search.Conjunction
import CertCatalog.Record

/-!
# Searches and views agree

Price classes, goals and domains are told apart in several places: by a criterion, by a condition of
the query, by the groups of a result and by the counts of an overview. All of them divide the
records in the same way, so a part of a result is the result of the search for that part.
-/

namespace CertCatalog

/-! ### Price classes -/

/-- A condition on prices that names a kind asks for that kind. -/
theorem Predicate.accepts_priceKind (kind : PriceKind) (r : Record) :
    (Predicate.of "price" kind.name).accepts r = kind.accepts r := by
  have hkind : PriceKind.named? (Predicate.of SearchKey.price.name kind.name).valueLower =
      some kind := by
    cases kind <;> decide
  have hkey := Predicate.accepts_of_name .price kind.name r
  rw [acceptsKey, acceptsPrice, hkind] at hkey
  exact hkey

private theorem Predicate.accepts_price (p : PriceClass) (r : Record) :
    (Predicate.of "price" p.name).accepts r = (r.priceClass == p) := by
  have hname : p.name = p.kind.name := by cases p <;> rfl
  rw [hname, accepts_priceKind, p.accepts_kind]

private theorem flatMap_filter_perm {α κ : Type} [DecidableEq κ] (classOf : α → κ)
    {classes : List κ}
    (hnodup : classes.Nodup) (l : List α) :
    (classes.flatMap fun k ↦ l.filter (classOf · == k)).Perm
      (l.filter fun a ↦ classes.contains (classOf a)) := by
  induction classes with
  | nil => simp
  | cons k classes ih =>
    obtain ⟨hk, hrest⟩ := List.nodup_cons.mp hnodup
    -- The items of the listed classes are those of the first class and those of the others.
    have hsplit := List.filter_append_perm (classOf · == k)
      (l.filter fun a ↦ (k :: classes).contains (classOf a))
    have hfirst : (l.filter fun a ↦ (k :: classes).contains (classOf a)).filter (classOf · == k) =
        l.filter (classOf · == k) := by
      rw [List.filter_filter]
      apply List.filter_congr
      intro a _
      by_cases h : classOf a = k <;> simp [h]
    have hsecond : (l.filter fun a ↦ (k :: classes).contains (classOf a)).filter
        (fun a ↦ !(classOf a == k)) = l.filter fun a ↦ classes.contains (classOf a) := by
      rw [List.filter_filter]
      apply List.filter_congr
      intro a _
      by_cases h : classOf a = k <;> simp [h, hk]
    rw [hfirst, hsecond] at hsplit
    rw [List.flatMap_cons]
    exact ((ih hrest).append_left _).trans hsplit

/-- Lists of records by price class that divide a list: each in its order, none with a record of
another one, and together all records. -/
structure IsDividedByPrice (records : List Record) (part : PriceClass → List Record) : Prop where
  sublist : ∀ p, (part p).Sublist records
  disjoint : ∀ p p', p ≠ p' → (part p).Disjoint (part p')
  perm : (PriceClass.all.flatMap part).Perm records

private theorem flatMap_priceClass_perm {classes : List PriceClass} (hnodup : classes.Nodup)
    (hall : ∀ p, p ∈ classes) (records : List Record) :
    (classes.flatMap fun p ↦ records.filter (·.priceClass == p)).Perm records := by
  have hperm := flatMap_filter_perm Record.priceClass hnodup records
  have hself : records.filter (fun r ↦ classes.contains r.priceClass) = records :=
    List.filter_eq_self.mpr fun r _ ↦ List.contains_iff_mem.mpr (hall r.priceClass)
  rwa [hself] at hperm

/-- The price classes divide every list of records. -/
theorem isDividedByPrice_filter (records : List Record) :
    IsDividedByPrice records fun p ↦ records.filter (·.priceClass == p) where
  sublist p := List.filter_sublist
  disjoint := by
    intro p p' hne r hr hr'
    rw [List.mem_filter, beq_iff_eq] at hr hr'
    exact hne (hr.2.symm.trans hr'.2)
  perm := flatMap_priceClass_perm (by decide) PriceClass.mem_all records

/-! ### Parts of a result -/

/-- A query with one more predicate. -/
def Query.withPredicate (q : Query) (p : Predicate) : Query :=
  { q with predicates := q.predicates ++ [p] }

section Parts

variable (records : List Record) (query : Query) {c : Criteria}

/-- The price kind of a class selects the results of that class. -/
theorem select_priceKind (hprice : c.priceKind = none) (p : PriceClass) :
    select records query { c with priceKind := some p.kind } =
      (select records query c).filter (·.priceClass == p) := by
  have hfree : ∀ r, c.acceptsCriterion r .priceKind = true := by
    intro r
    rw [Criteria.acceptsCriterion, Criteria.acceptsPriceKind, hprice]
    rfl
  have hreset : { c with priceKind := some p.kind }.reset .priceKind = c.reset .priceKind := rfl
  rw [select_of_reset_eq hreset hfree]
  apply List.filter_congr
  intro r _
  exact p.accepts_kind r

private theorem select_withPredicate_price (p : PriceClass) :
    select records (query.withPredicate (.of "price" p.name)) c =
      (select records query c).filter (·.priceClass == p) := by
  refine select_eq_filter_select (fun r ↦ ?_) records
  simp only [isSelected, Query.accepts, Query.withPredicate, List.all_append, List.all_cons,
    List.all_nil, Bool.and_true, Predicate.accepts_price]
  ac_rfl

/-- A goal selects the results that serve it. -/
theorem select_goal (hgoal : c.goal = none) (g : Goal) :
    select records query { c with goal := some g } =
      (select records query c).filter (·.goals.contains g) := by
  have hfree : ∀ r, c.acceptsCriterion r .goal = true := by
    intro r
    rw [Criteria.acceptsCriterion, Criteria.acceptsGoal, hgoal]
    rfl
  have hreset : { c with goal := some g }.reset .goal = c.reset .goal := rfl
  exact select_of_reset_eq hreset hfree records query

/-- Among records of known domains, a known domain selects the results that lie in it. -/
theorem select_domain (hdomain : Criteria.activeName? c.domain = none)
    (hknown : ∀ r ∈ records, r.domainArea ∈ Vocabulary.domains) {domain : String}
    (hmem : domain ∈ Vocabulary.domains) :
    select records query { c with domain := some domain } =
      inDomain (select records query c) domain := by
  have hfree : ∀ r, c.acceptsCriterion r .domain = true := by
    intro r
    rw [Criteria.acceptsCriterion, Criteria.acceptsDomain, hdomain]
    rfl
  have hactive : ∀ d ∈ Vocabulary.domains, Criteria.activeName? (some d) = some d := by
    decide
  have hreset : { c with domain := some domain }.reset .domain = c.reset .domain := rfl
  rw [select_of_reset_eq hreset hfree]
  apply List.filter_congr
  intro r hr
  rw [Criteria.acceptsCriterion, Criteria.acceptsDomain, hactive domain hmem, Bool.eq_iff_iff,
    beq_iff_eq]
  -- The criterion ignores case and groups do not, but no two known names agree up to case.
  constructor
  · exact Vocabulary.areDistinct_domains _ (hknown r (mem_select.mp hr).1) _ hmem
  · rintro rfl
    exact Text.eqIgnoringAsciiCase_refl _

end Parts

/-! ### Groups of a result -/

/-- The record lies in the group. -/
def DomainGroup.holds (g : DomainGroup) (r : Record) : Bool := g.buckets.any (·.records.contains r)

private theorem filter_holds_of_mem {records : List Record} {g : DomainGroup}
    (hg : g ∈ groupByDomain records) : records.filter g.holds = inDomain records g.domain := by
  apply List.filter_congr
  intro r hr
  rw [eq_domainGroup_of_mem hg, DomainGroup.holds, Bool.eq_iff_iff, beq_iff_eq, List.any_eq_true]
  simp only [List.contains_iff_mem, exists_bucket_iff]
  exact and_iff_right hr

private theorem domainsOf_of_known {records : List Record}
    (hknown : ∀ r ∈ records, r.domainArea ∈ Vocabulary.domains) :
    domainsOf records =
      Vocabulary.domains.filter fun domain ↦ !(inDomain records domain).isEmpty := by
  have hextras : extras Vocabulary.domains (records.map (·.domainArea)) = [] := by
    apply List.eq_nil_iff_forall_not_mem.mpr
    intro domain hdomain
    obtain ⟨hmem, hunknown⟩ := mem_extras.mp hdomain
    obtain ⟨r, hr, rfl⟩ := List.mem_map.mp hmem
    exact hunknown (hknown r hr)
  rw [domainsOf_eq_append, hextras, List.append_nil]
  apply List.filter_congr
  intro domain _
  rw [Bool.eq_iff_iff, List.any_eq_true, Bool.not_eq_true', List.isEmpty_eq_false_iff_exists_mem]
  simp only [mem_inDomain, beq_iff_eq]

/-! ### The overview of a catalog -/

section Overview

variable (aliases : KeyAliases) (records : List Record)

/-- A search without query and criteria finds the whole catalog. -/
theorem selectText_empty_perm : (selectText aliases records "" .none).Perm records := by
  have hall : records.filter (isSelected (.ofText aliases "") .none) = records :=
    List.filter_eq_self.mpr fun r _ ↦ rfl
  rw [selectText, select, hall]
  exact List.mergeSort_perm _ _

/-- The price counts are the numbers of records that the price kinds select. -/
theorem priceCounts_overview (info : CatalogInfo) :
    (Catalog.mk info records).overview.priceCounts =
      priceClassesByName.map fun p ↦
        (p, (selectText aliases records "" { Criteria.none with priceKind := some p.kind }).length)
    := by
  apply List.map_congr_left
  intro p _
  rw [selectText, select_priceKind records _ rfl p, ← List.countP_eq_length_filter, ← selectText,
    (selectText_empty_perm aliases records).countP_eq]

/-- The price counts add up to the number of records. -/
theorem sum_priceCounts_overview (info : CatalogInfo) :
    ((Catalog.mk info records).overview.priceCounts.map Prod.snd).sum = records.length := by
  have hall : ∀ p, p ∈ priceClassesByName := by
    intro p
    cases p <;> decide
  have hperm := flatMap_priceClass_perm (by decide) hall records
  rw [← hperm.length_eq, List.length_flatMap, Catalog.overview, List.map_map]
  congr 1
  apply List.map_congr_left
  intro p _
  exact List.countP_eq_length_filter

/-- The goal counts are the sizes of the groups by goal. -/
theorem goalCounts_overview (info : CatalogInfo) :
    (Catalog.mk info records).overview.goalCounts =
      Goal.all.map fun g ↦
        (g, goalGroupSize (groupByGoal (selectText aliases records "" .none)) g) := by
  apply List.map_congr_left
  intro g _
  rw [goalGroupSize_groupByGoal, (selectText_empty_perm aliases records).countP_eq]

/-- The domains are those of the groups by domain. -/
theorem domains_overview (info : CatalogInfo) :
    (Catalog.mk info records).overview.domains =
      (groupByDomain (selectText aliases records "" .none)).map (·.domain) := by
  rw [map_domain_groupByDomain]
  apply arrange_congr
  intro domain
  exact ((selectText_empty_perm aliases records).map _).mem_iff.symm

end Overview

/-- Searches, groups and overview agree. Under criteria without domain, price kind and goal, the
price kinds divide what is found, as the conditions on prices do; the groups by goal are what the
goals select, and every record lies in one; the groups by domain are what the domains select; and
the overview of the catalog counts and lists what a search for everything shows. -/
theorem selectText_views_agree (aliases : KeyAliases) (entries : List Entry) (info : CatalogInfo)
    (query : String) {c : Criteria} (hdomain : Criteria.activeName? c.domain = none)
    (hprice : c.priceKind = none) (hgoal : c.goal = none) :
    let records := entries.map Entry.toRecord
    let found := selectText aliases records query c
    let ofPrice (p : PriceClass) :=
      selectText aliases records query { c with priceKind := some p.kind }
    let ofGoal (g : Goal) := selectText aliases records query { c with goal := some g }
    let ofDomain (d : String) := selectText aliases records query { c with domain := some d }
    let whole := selectText aliases records "" .none
    let overview := (Catalog.mk info records).overview
    (IsDividedByPrice found ofPrice ∧
      ∀ p, ofPrice p =
        select records ((Query.ofText aliases query).withPredicate (.of "price" p.name)) c) ∧
    (groupByGoal found = (Goal.all.map fun g ↦ ⟨g, ofGoal g⟩).filter (!·.records.isEmpty) ∧
      ∀ r ∈ found, ∃ b ∈ groupByGoal found, r ∈ b.records) ∧
    ((groupByDomain found).map (·.domain) =
        Vocabulary.domains.filter (fun d ↦ !(ofDomain d).isEmpty) ∧
      ∀ g ∈ groupByDomain found, found.filter g.holds = ofDomain g.domain) ∧
    (overview.recordCount = records.length ∧
      overview.priceCounts = priceClassesByName.map (fun p ↦
        (p, (selectText aliases records "" { Criteria.none with priceKind := some p.kind }).length)
        ) ∧
      (overview.priceCounts.map Prod.snd).sum = records.length ∧
      overview.goalCounts =
        Goal.all.map (fun g ↦ (g, goalGroupSize (groupByGoal whole) g)) ∧
      overview.domains = (groupByDomain whole).map (·.domain)) := by
  intro records found ofPrice ofGoal ofDomain whole overview
  have hentry : ∀ r ∈ records, ∃ e : Entry, e.toRecord = r := by
    intro r hr
    obtain ⟨e, -, he⟩ := List.mem_map.mp hr
    exact ⟨e, he⟩
  have hknown : ∀ r ∈ records, r.domainArea ∈ Vocabulary.domains := by
    intro r hr
    obtain ⟨e, rfl⟩ := hentry r hr
    exact e.recordDomain_mem
  have hknownFound : ∀ r ∈ found, r.domainArea ∈ Vocabulary.domains :=
    fun r hr ↦ hknown r (mem_select.mp hr).1
  -- One criterion more leaves the found records that pass it.
  have hofPrice : ∀ p, ofPrice p = found.filter (·.priceClass == p) :=
    select_priceKind records _ hprice
  have hofGoal : ∀ g, ofGoal g = found.filter (·.goals.contains g) := select_goal records _ hgoal
  have hofDomain : ∀ d ∈ Vocabulary.domains, ofDomain d = inDomain found d :=
    fun d hd ↦ select_domain records _ hdomain hknown hd
  refine ⟨⟨?_, ?_⟩, ⟨?_, ?_⟩, ⟨?_, ?_⟩, rfl, priceCounts_overview aliases records info,
    sum_priceCounts_overview records info, goalCounts_overview aliases records info,
    domains_overview aliases records info⟩
  · rw [funext hofPrice]
    exact isDividedByPrice_filter found
  · intro p
    rw [hofPrice, select_withPredicate_price]
    rfl
  · rw [funext hofGoal]
    rfl
  · intro r hr
    obtain ⟨e, rfl⟩ := hentry r (mem_select.mp hr).1
    obtain ⟨g, hg⟩ := e.plainRecord.exists_mem_classify
    obtain ⟨b, hb, -, hmem⟩ := exists_mem_groupByGoal_iff.mpr ⟨hr, hg⟩
    exact ⟨b, hb, hmem⟩
  -- A domain has a group when a found record lies in it, and its search finds such a record.
  · rw [map_domain_groupByDomain, domainsOf_of_known hknownFound]
    apply List.filter_congr
    intro d hd
    rw [hofDomain d hd]
  · intro g hg
    have hmem : g.domain ∈ domainsOf found := by
      rw [← map_domain_groupByDomain]
      exact List.mem_map_of_mem hg
    obtain ⟨r, hr, hd⟩ := mem_domainsOf.mp hmem
    rw [filter_holds_of_mem hg, hofDomain g.domain (hd ▸ hknownFound r hr)]

/-- A free and a paid entry of two domains, a blank domain beside a provider and a query with a
price. -/
theorem selectText_views_agree_blank_domain :
    let free := ((Entry.blank.setScalar .priceLabel (some (.text "Free"))).setScalar .domainArea
      (some (.text "iam"))).setScalar .provider (some (.text "GIAC"))
    let paid := (Entry.blank.setScalar .priceUsd (some (.int 979))).setScalar .provider
      (some (.text "giac"))
    let records := [free, paid].map Entry.toRecord
    let c := { Criteria.none with domain := some " \t", provider := some "GIAC" }
    let found := selectText .builtIn records "price:>=0" c
    Criteria.activeName? c.domain = none ∧ c.priceKind = none ∧ c.goal = none ∧
    IsDividedByPrice found (fun p ↦
      selectText .builtIn records "price:>=0" { c with priceKind := some p.kind }) ∧
    (∀ r ∈ found, ∃ b ∈ groupByGoal found, r ∈ b.records) ∧
    (∀ g ∈ groupByDomain found, found.filter g.holds =
      selectText .builtIn records "price:>=0" { c with domain := some g.domain }) ∧
    ((Catalog.mk .blank records).overview.priceCounts.map Prod.snd).sum = 2 ∧
    found.length = 2 := by
  intro free paid records c found
  have hdomain : Criteria.activeName? c.domain = none := by decide
  obtain ⟨⟨hprice, -⟩, ⟨-, hgoal⟩, ⟨-, hgroups⟩, -, -, hsum, -⟩ :=
    selectText_views_agree .builtIn [free, paid] .blank "price:>=0" hdomain rfl rfl
  have htwo : (selectText .builtIn records "price:>=0" c).length = 2 := by
    rw [selectText, length_select]
    decide +kernel
  exact ⟨hdomain, rfl, rfl, hprice, hgoal, hgroups, hsum, htwo⟩

end CertCatalog
