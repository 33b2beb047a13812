import CertCatalog.Attribute
import CertCatalog.CalendarDate
import CertCatalog.Number.Decimal
import CertCatalog.Vocabulary

/-!
# Catalog records

A record is one certification with every attribute settled. Its price class follows from price and
price label together, prices are selected by kind, and the search text joins all fields that a
search may find. The career goals that a record serves are inferred from its role groups, its
domain, its sub-areas and the hints in its tracks and tags: every rule contributes, and a record
without any hint serves the default goal.
-/

namespace CertCatalog

/-- A certification of the catalog. A zero year or price means that none is known. -/
structure Record where
  id : String
  name : String
  provider : String
  code : String
  url : String
  domainArea : String
  level : Level
  status : Status
  delivery : String
  renewalPolicy : String
  language : String
  introducedYear : UInt16
  lastUpdated : Option CalendarDate
  description : String
  summary : String
  subAreas : List String
  tracks : List String
  roleGroups : List String
  roles : List String
  tags : List String
  prerequisites : List String
  aiFocus : Bool
  priceUsd : UInt32
  priceLabel : String
  priceConfidence : PriceConfidence
  searchText : String
  goals : GoalSet
  deriving DecidableEq, Repr

namespace Record

/-- A price above zero. -/
def isPaid (r : Record) : Bool := decide (0 < r.priceUsd)

/-- A zero price whose label says free. -/
def isFree (r : Record) : Bool :=
  r.priceUsd == 0 && Text.contains (Text.lower r.priceLabel) Vocabulary.freeMarker

/-- A zero price whose label does not say free. -/
def isUnknownPrice (r : Record) : Bool := r.priceUsd == 0 && !r.isFree

/-- A price that is known, paid or free. -/
def hasConcretePrice (r : Record) : Bool := !r.isUnknownPrice

/-- The price class of a record. -/
def priceClass (r : Record) : PriceClass :=
  if r.isPaid then .paid else if r.isFree then .free else .unknown

/-- Decimal digits of the year. -/
def yearText (r : Record) : String := Integer.toText r.introducedYear.toNat

/-- Decimal digits of the price. -/
def priceText (r : Record) : String := Integer.toText r.priceUsd.toNat

/-- The fields that a search may find, in search text order. -/
def searchableFields (r : Record) : List String :=
  [ r.name, r.provider, r.code, r.domainArea, r.level.name, r.status.name, r.yearText,
    r.description, r.summary, r.priceLabel, r.priceText ] ++
  r.subAreas ++ r.tracks ++ r.roleGroups ++ r.roles ++ r.tags

/-- The searchable fields that are not empty, joined by spaces and lower-cased. -/
def searchTextOf (r : Record) : String :=
  Text.lower (String.intercalate " " (r.searchableFields.filter (!·.isEmpty)))

end Record

/-- Names of the searchable fields in search text order. -/
def searchableFieldNames : List String :=
  [ "name", "provider", "cert_code", "domain_area", "level", "status", "introduced_year",
    "description", "summary", "price_label", "price_usd", "sub_areas", "tracks", "role_groups",
    "roles", "tags" ]

/-! ### Price kinds -/

/-- A selection of records by what their price says. -/
inductive PriceKind
  | paid
  | free
  | unknown
  | concrete
  deriving DecidableEq, Repr

namespace PriceKind

/-- Every price kind. -/
def all : List PriceKind := [paid, free, unknown, concrete]

/-- Name of a price kind. -/
def name : PriceKind → String
  | paid => "paid"
  | free => "free"
  | unknown => "unknown"
  | concrete => "concrete"

/-- The price kind with exactly this name. -/
def named? (s : String) : Option PriceKind := Text.named? all name s

/-- The price of a record is of a kind. -/
def accepts : PriceKind → Record → Bool
  | paid, r => r.isPaid
  | free, r => r.isFree
  | unknown, r => r.isUnknownPrice
  | concrete, r => r.hasConcretePrice

end PriceKind

/-! ### Price classes -/

/-- The price kind of one class. -/
def PriceClass.kind : PriceClass → PriceKind
  | paid => .paid
  | free => .free
  | unknown => .unknown

theorem PriceClass.mem_all (p : PriceClass) : p ∈ all := by cases p <;> decide

/-- A price is known or not, and a record with a price is not free. -/
theorem Record.price_cases (r : Record) :
    r.isPaid = true ∧ r.isFree = false ∧ r.isUnknownPrice = false ∨
      r.isPaid = false ∧ r.isUnknownPrice = !r.isFree := by
  by_cases hzero : r.priceUsd = 0
  · exact .inr ⟨by simp [isPaid, hzero], by simp [isUnknownPrice, hzero]⟩
  · exact .inl ⟨by simp [isPaid, UInt32.pos_iff_ne_zero, hzero], by simp [isFree, hzero],
      by simp [isUnknownPrice, hzero]⟩

/-- A record is of the price kind of its class and of no other class. -/
theorem PriceClass.accepts_kind (p : PriceClass) (r : Record) :
    p.kind.accepts r = (r.priceClass == p) := by
  rcases r.price_cases with ⟨hpaid, hfree, hunknown⟩ | ⟨hpaid, hunknown⟩
  · cases p <;> simp [kind, PriceKind.accepts, Record.priceClass, hpaid, hfree, hunknown]
  · cases hfree : r.isFree <;> cases p <;>
      simp [kind, PriceKind.accepts, Record.priceClass, hpaid, hfree, hunknown]

namespace Record

/-! ### Goals -/

/-- Goal of a record without any hint. -/
def defaultGoal : Goal := .blue

/-- The goal of a lower-cased role group. -/
def roleGroupGoal? (group : String) : Option Goal :=
  [("blue team ops", Goal.blue), ("red team ops", .red), ("management", .grc)].lookup group

/-- Parts of a lower-cased domain name that imply a goal. -/
def domainHints : Goal → List String
  | .grc => ["risk management"]
  | .red => ["assessment and testing"]
  | _ => []

/-- The goal of a lower-cased sub-area. -/
def subAreaGoal? (subArea : String) : Option Goal :=
  [ ("grc", Goal.grc), ("cloud/sysops", .cloud), ("penetration testing", .red),
    ("exploitation", .red), ("forensics", .blue), ("incident handling", .blue) ].lookup subArea

/-- Some part occurs in a text. -/
def containsAny (text : String) (parts : List String) : Bool :=
  parts.any fun part ↦ Text.contains text part

/-- Some rule gives the record a goal. -/
def suggests (r : Record) (g : Goal) : Bool :=
  r.roleGroups.any (fun group ↦ roleGroupGoal? (Text.lower group) == some g) ||
  containsAny (Text.lower r.domainArea) (domainHints g) ||
  r.subAreas.any (fun subArea ↦ subAreaGoal? (Text.lower subArea) == some g) ||
  (r.tracks ++ r.tags).any (fun value ↦ containsAny (Text.lower value) (Vocabulary.goalHints g))

/-- The goals that the rules give to a record. -/
def suggestedGoals (r : Record) : GoalSet := .ofPred r.suggests

/-- The goals of a record, never none. -/
def classify (r : Record) : GoalSet :=
  if r.suggestedGoals = .empty then .singleton defaultGoal else r.suggestedGoals

end Record
end CertCatalog
