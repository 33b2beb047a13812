import CertCatalog.Number.Binary64
import CertCatalog.Query.Match
import CertCatalog.Record
import CertCatalog.Text.LetterCase

/-!
# Searching

Criteria stand beside the query and restrict a search to records with given attributes. An absent
value, a blank name, a bound that is not finite and a toggle that is off restrict nothing. A search
keeps the records that satisfy the criteria and the query and ranks them: higher levels first, then
later years, then names in lowercase. Records that rank alike keep their order. A cap cuts the
ranked list.
-/

namespace CertCatalog

/-! ### Selection criteria -/

/-- Independent conditions on the attributes of a record. -/
structure Criteria where
  domain : Option String
  level : Option Level
  provider : Option String
  roleGroup : Option String
  priceKind : Option PriceKind
  minPrice : Option Binary64
  maxPrice : Option Binary64
  aiOnly : Bool
  pricedOnly : Bool
  goal : Option Goal
  deriving DecidableEq

namespace Criteria

/-- Criteria that restrict nothing. -/
def none : Criteria where
  domain := .none
  level := .none
  provider := .none
  roleGroup := .none
  priceKind := .none
  minPrice := .none
  maxPrice := .none
  aiOnly := false
  pricedOnly := false
  goal := .none

/-- No value is given, not even a blank one. -/
def isNone (c : Criteria) : Bool := decide (c = none)

/-- The trimmed name of a criterion that is not blank. -/
def activeName? (name : Option String) : Option String :=
  (name.map Text.trim).filter (!·.isEmpty)

/-- The finite bound of a criterion. -/
def activeBound? (bound : Option Binary64) : Option Binary64 := bound.filter Binary64.isFinite

/-- The price of a record as a number. -/
def priceOf (r : Record) : Binary64 := .ofNat r.priceUsd.toNat

/-- The record satisfies the condition of a value that is given. -/
def whenGiven {α : Type} (value : Option α) (accepts : α → Bool) : Bool := value.all accepts

/-- The record lies in the named domain. -/
def acceptsDomain (c : Criteria) (r : Record) : Bool :=
  whenGiven (activeName? c.domain) fun name ↦ Text.eqIgnoringAsciiCase r.domainArea name

/-- The record has the level. -/
def acceptsLevel (c : Criteria) (r : Record) : Bool :=
  whenGiven c.level fun level ↦ r.level == level

/-- The record comes from the named provider. -/
def acceptsProvider (c : Criteria) (r : Record) : Bool :=
  whenGiven (activeName? c.provider) fun name ↦ Text.eqIgnoringAsciiCase r.provider name

/-- The record lists the named role group. -/
def acceptsRoleGroup (c : Criteria) (r : Record) : Bool :=
  whenGiven (activeName? c.roleGroup) fun name ↦
    r.roleGroups.any fun group ↦ Text.eqIgnoringAsciiCase group name

/-- The price is of the kind. -/
def acceptsPriceKind (c : Criteria) (r : Record) : Bool :=
  whenGiven c.priceKind fun kind ↦ kind.accepts r

/-- The record has a price, and it is not below the bound. -/
def acceptsMinPrice (c : Criteria) (r : Record) : Bool :=
  whenGiven (activeBound? c.minPrice) fun bound ↦ r.isPaid && !Binary64.lt (priceOf r) bound

/-- The record has a price, and it is not above the bound. -/
def acceptsMaxPrice (c : Criteria) (r : Record) : Bool :=
  whenGiven (activeBound? c.maxPrice) fun bound ↦ r.isPaid && !Binary64.lt bound (priceOf r)

/-- The record is about artificial intelligence, if the toggle asks for that. -/
def acceptsAiFocus (c : Criteria) (r : Record) : Bool := !c.aiOnly || r.aiFocus

/-- The record has a price, if the toggle asks for that. -/
def acceptsPriced (c : Criteria) (r : Record) : Bool := !c.pricedOnly || r.isPaid

/-- The record serves the goal. -/
def acceptsGoal (c : Criteria) (r : Record) : Bool :=
  whenGiven c.goal fun goal ↦ r.goals.contains goal

/-- The record satisfies every criterion. -/
def accepts (c : Criteria) (r : Record) : Bool :=
  c.acceptsDomain r && c.acceptsLevel r && c.acceptsProvider r && c.acceptsRoleGroup r &&
  c.acceptsPriceKind r && c.acceptsMinPrice r && c.acceptsMaxPrice r && c.acceptsAiFocus r &&
  c.acceptsPriced r && c.acceptsGoal r

end Criteria

/-! ### Ranked results -/

/-- Ranking of two records: level and year fall, lower-cased names rise. -/
def compareRecords (a b : Record) : Ordering :=
  (compare b.level.rank a.level.rank).then
    ((compare b.introducedYear.toNat a.introducedYear.toNat).then
      (compare (Text.lower a.name) (Text.lower b.name)))

/-- The first record does not rank behind the second. -/
def ranksBefore (a b : Record) : Bool := (compareRecords a b).isLE

/-- The records in ranking order. -/
def rank (records : List Record) : List Record := records.mergeSort ranksBefore

/-- The record satisfies the criteria and the query. -/
def isSelected (query : Query) (criteria : Criteria) (r : Record) : Bool :=
  criteria.accepts r && query.accepts r

/-- The selected records in ranking order. -/
def select (records : List Record) (query : Query) (criteria : Criteria) : List Record :=
  rank (records.filter (isSelected query criteria))

/-- The selected records of a query text. -/
def selectText (aliases : KeyAliases) (records : List Record) (query : String)
    (criteria : Criteria) : List Record :=
  select records (.ofText aliases query) criteria

/-- The answer of a search: its query, the number of selected records, and those within the cap. -/
structure SearchResult where
  query : Query
  total : Nat
  results : List Record
  deriving DecidableEq

/-- Some selected records lie beyond the cap. -/
def SearchResult.isTruncated (s : SearchResult) : Bool := decide (s.results.length < s.total)

/-- At most `cap` records, all of them without a cap. -/
def takeCap {α : Type} (cap : Option Nat) (items : List α) : List α :=
  match cap with
  | some n => items.take n
  | none => items

/-- The answer of a search for a query text. -/
def search (aliases : KeyAliases) (records : List Record) (query : String) (criteria : Criteria)
    (cap : Option Nat) : SearchResult :=
  let query := Query.ofText aliases query
  let selected := select records query criteria
  { query := query
    total := selected.length
    results := takeCap cap selected }

end CertCatalog
