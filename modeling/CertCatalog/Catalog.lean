import CertCatalog.Record
import CertCatalog.Vocabulary

/-!
# Catalogs and their views

A catalog is a list of records with what it says about itself. Its overview lists the domains and
sub-areas that occur in it and counts its records by goal and by price class. Records are grouped by
domain and, within a domain, by its sub-areas, or by career goal. Groups keep the order of the
records, and no group is empty.
-/

namespace CertCatalog

/-! ### Overview -/

/-- What a catalog says about itself. -/
structure CatalogInfo where
  title : Option String
  version : Option String
  lastReviewed : Option CalendarDate
  deriving DecidableEq, Repr

/-- A catalog that says nothing about itself. -/
def CatalogInfo.blank : CatalogInfo := ⟨none, none, none⟩

/-- The records of a catalog with what it says about itself. -/
structure Catalog where
  info : CatalogInfo
  records : List Record
  deriving DecidableEq

/-- What occurs in a catalog, and how often. -/
structure Overview where
  info : CatalogInfo
  recordCount : Nat
  domains : List String
  subAreas : List String
  goalCounts : List (Goal × Nat)
  priceCounts : List (PriceClass × Nat)
  searchableFields : List String
  deriving DecidableEq

/-- Price classes by name. -/
def priceClassesByName : List PriceClass := [.free, .paid, .unknown]

/-- The overview of a catalog. -/
def Catalog.overview (c : Catalog) : Overview where
  info := c.info
  recordCount := c.records.length
  domains := arrange Vocabulary.domains (c.records.map (·.domainArea))
  subAreas := arrange Vocabulary.subAreas (c.records.flatMap (·.subAreas))
  goalCounts := Goal.all.map fun goal ↦ (goal, c.records.countP (·.goals.contains goal))
  priceCounts := priceClassesByName.map fun price ↦
    (price, c.records.countP (·.priceClass == price))
  searchableFields := searchableFieldNames

/-! ### Groups -/

/-- A way to group records. -/
inductive GroupView
  | domain
  | goal
  deriving DecidableEq, Repr

namespace GroupView

/-- Every view. -/
def all : List GroupView := [domain, goal]

/-- Name of a view. -/
def name : GroupView → String
  | domain => "domain"
  | goal => "goal"

/-- The view with exactly this name. -/
def named? (s : String) : Option GroupView := Text.named? all name s

end GroupView

/-- The records of one sub-area, or of none, within a domain. -/
structure SubAreaBucket where
  name : String
  records : List Record
  deriving DecidableEq

/-- The records of one domain by sub-area. -/
structure DomainGroup where
  domain : String
  buckets : List SubAreaBucket
  deriving DecidableEq

/-- Number of different ids in the buckets of a domain. -/
def DomainGroup.recordCount (g : DomainGroup) : Nat :=
  ((g.buckets.flatMap (·.records)).map (·.id)).eraseDups.length

/-- The records of one career goal. -/
structure GoalGroup where
  goal : Goal
  records : List Record
  deriving DecidableEq

/-- The record lists some of the sub-areas. -/
def listsAny (subAreas : List String) (r : Record) : Bool := r.subAreas.any subAreas.contains

/-- One bucket for each sub-area that a domain defines and one for the other records, without the
empty ones. -/
def bucketsOf (domain : String) (records : List Record) : List SubAreaBucket :=
  let defined := Vocabulary.subAreasOf domain
  let named := defined.map fun subArea ↦
    { name := subArea, records := records.filter (·.subAreas.contains subArea) : SubAreaBucket }
  let general :=
    { name := Vocabulary.generalBucket
      records := records.filter (!listsAny defined ·) : SubAreaBucket }
  (named ++ [general]).filter (!·.records.isEmpty)

/-- The records by domain and sub-area. Known domains come first in their order, then the others
sorted. -/
def groupByDomain (records : List Record) : List DomainGroup :=
  let domains := arrange Vocabulary.domains (records.map (·.domainArea))
  let groups := domains.map fun domain ↦
    { domain, buckets := bucketsOf domain (records.filter (·.domainArea == domain)) : DomainGroup }
  groups.filter (!·.buckets.isEmpty)

/-- The records by career goal, in goal order. -/
def groupByGoal (records : List Record) : List GoalGroup :=
  let groups := Goal.all.map fun goal ↦
    { goal, records := records.filter (·.goals.contains goal) : GoalGroup }
  groups.filter (!·.records.isEmpty)

end CertCatalog
