import CertCatalog.Entry.Basic
import CertCatalog.Query.Basic
import CertCatalog.Record

/-!
# Matching

A record matches a query when it satisfies every predicate and contains every free term. Thirteen
keys have a meaning of their own; a predicate with any other key looks at the whole search text, as
a free term does.
-/

namespace CertCatalog

/-- A search key with a meaning of its own. -/
inductive SearchKey
  | ai
  | code
  | domain
  | level
  | price
  | provider
  | role
  | roleGroup
  | status
  | subArea
  | tag
  | track
  | year
  deriving DecidableEq, Repr

namespace SearchKey

/-- Every search key, by name. -/
def all : List SearchKey :=
  [ai, code, domain, level, price, provider, role, roleGroup, status, subArea, tag, track, year]

/-- Name of a search key in queries. -/
def name : SearchKey → String
  | ai => "ai"
  | code => "code"
  | domain => "domain"
  | level => "level"
  | price => "price"
  | provider => "provider"
  | role => "role"
  | roleGroup => "rolegroup"
  | status => "status"
  | subArea => "subarea"
  | tag => "tag"
  | track => "track"
  | year => "year"

/-- The search key with a name. -/
def named? (s : String) : Option SearchKey := Text.named? all name s

end SearchKey

namespace Predicate

/-- The lower-cased value occurs in the lower-cased text. -/
def occursIn (p : Predicate) (text : String) : Bool := Text.contains (Text.lower text) p.valueLower

/-- The year passes the number test, or starts with the value when there is none. -/
def acceptsYear (p : Predicate) (r : Record) : Bool :=
  match p.number with
  | some test => test.accepts (.ofNat r.introducedYear.toNat)
  | none => Text.startsWith r.yearText p.valueLower

/-- The price is of the kind that the value names, or passes the number test, which an unknown
price never does. Any other value is looked up in the label and in the digits of the price. -/
def acceptsPrice (p : Predicate) (r : Record) : Bool :=
  match PriceKind.named? p.valueLower with
  | some kind => kind.accepts r
  | none =>
    match p.number with
    | some test => !r.isUnknownPrice && test.accepts (.ofNat r.priceUsd.toNat)
    | none => p.occursIn r.priceLabel || Text.contains r.priceText p.valueLower

/-- The record satisfies the condition of a search key. -/
def acceptsKey (p : Predicate) (r : Record) : SearchKey → Bool
  | .provider => p.occursIn r.provider
  | .domain => p.occursIn r.domainArea
  | .code => p.occursIn r.code
  | .subArea => r.subAreas.any p.occursIn
  | .track => r.tracks.any p.occursIn
  | .role => r.roles.any p.occursIn
  | .roleGroup => r.roleGroups.any p.occursIn
  | .tag => r.tags.any p.occursIn
  | .level => r.level.name == p.valueLower
  | .status => r.status.name == p.valueLower
  | .ai => r.aiFocus == isAffirmative p.valueLower
  | .year => p.acceptsYear r
  | .price => p.acceptsPrice r

/-- The record satisfies the predicate. -/
def accepts (p : Predicate) (r : Record) : Bool :=
  match SearchKey.named? p.key with
  | some key => p.acceptsKey r key
  | none => Text.contains r.searchText p.valueLower

end Predicate

namespace Query

/-- A free term occurs in the search text. -/
def termAccepts (term : String) (r : Record) : Bool := Text.contains r.searchText term

/-- The record satisfies every predicate and contains every free term. -/
def accepts (q : Query) (r : Record) : Bool :=
  q.predicates.all (·.accepts r) && q.terms.all (termAccepts · r)

end Query
end CertCatalog
