import CertCatalog.Audit
import CertCatalog.Catalog
import CertCatalog.Json.Basic
import CertCatalog.Report.Suggestion
import CertCatalog.Search

/-!
# JSON reports

The JSON form of records and of the answer of every command. Members stand in a fixed order, and
the ones without a value are left out.
-/

namespace CertCatalog

/-- A record. -/
def Record.toJson (r : Record) : Json :=
  .ofMembers
    [ ("id", some (.text r.id)),
      ("name", some (.text r.name)),
      ("provider", some (.text r.provider)),
      ("code", some (.text r.code)),
      ("url", some (.text r.url)),
      ("domain_area", some (.text r.domainArea)),
      ("level", some (.text r.level.name)),
      ("status", some (.text r.status.name)),
      ("delivery", some (.text r.delivery)),
      ("renewal_policy", some (.text r.renewalPolicy)),
      ("language", some (.text r.language)),
      ("introduced_year", some (.nat r.introducedYear.toNat)),
      ("last_updated", r.lastUpdated.map fun d ↦ .text d.toText),
      ("description", some (.text r.description)),
      ("summary", some (.text r.summary)),
      ("sub_areas", some (.texts r.subAreas)),
      ("tracks", some (.texts r.tracks)),
      ("role_groups", some (.texts r.roleGroups)),
      ("roles", some (.texts r.roles)),
      ("tags", some (.texts r.tags)),
      ("prerequisites", some (.texts r.prerequisites)),
      ("ai_focus", some (.bool r.aiFocus)),
      ("price_usd", some (.nat r.priceUsd.toNat)),
      ("price_label", some (.text r.priceLabel)),
      ("price_confidence", some (.text r.priceConfidence.name)),
      ("goal_categories", some (.texts (r.goals.toList.map Goal.name))) ]

namespace Report

/-- A number test with its kind. -/
def numberTest : Query.NumberTest → Json
  | .compare op bound =>
    .object [("kind", .text "compare"), ("op", .text op.symbol), ("value", .float bound)]
  | .range first second =>
    .object [("kind", .text "range"), ("lo", .float first), ("hi", .float second)]

/-- A predicate with its number test, if it has one. -/
def predicate (p : Predicate) : Json :=
  .ofMembers
    [ ("key", some (.text p.key)),
      ("value", some (.text p.value)),
      ("value_lower", some (.text p.valueLower)),
      ("numeric", p.number.map numberTest) ]

/-- A diagnostic with the token that it dropped. -/
def diagnostic (d : Query.Diagnostic) : Json :=
  .ofMembers [("kind", some (.text d.kind)), ("token", d.token?.map .text)]

/-- The diagnostics of a query, nothing when there are none. -/
def diagnostics? (q : Query) : Option Json :=
  if q.diagnostics.isEmpty then none else some (.list (q.diagnostics.map diagnostic))

/-- The answer of a search. -/
def search (query : String) (s : SearchResult) : Json :=
  .ofMembers
    [ ("query", some (.text query)),
      ("total", some (.nat s.total)),
      ("returned", some (.nat s.results.length)),
      ("truncated", some (.bool s.isTruncated)),
      ("diagnostics", diagnostics? s.query),
      ("results", some (.list (s.results.map Record.toJson))) ]

/-- How a query is understood. -/
def parsedQuery (query : String) (tokens : List String) (q : Query) : Json :=
  .ofMembers
    [ ("query", some (.text query)),
      ("tokens", some (.texts tokens)),
      ("structured", some (.list (q.predicates.map predicate))),
      ("free", some (.texts q.terms)),
      ("diagnostics", diagnostics? q),
      ("fallback_keys", some (.texts (fallbackKeys q))) ]

/-- A named list of records by id and name. -/
def bucket (name : String) (records : List Record) : Json :=
  let reference (r : Record) : Json := .object [("id", .text r.id), ("name", .text r.name)]
  .object [("name", .text name), ("records", .list (records.map reference))]

/-- A group with its number of records and its buckets. -/
def group (name : String) (count : Nat) (buckets : List Json) : Json :=
  .object [("name", .text name), ("count", .nat count), ("buckets", .list buckets)]

/-- The groups by domain. -/
def domainGroups (groups : List DomainGroup) : Json :=
  .list (groups.map fun g ↦
    group g.domain g.recordCount (g.buckets.map fun b ↦ bucket b.name b.records))

/-- The groups by goal, each of one bucket. -/
def goalGroups (groups : List GoalGroup) : Json :=
  .list (groups.map fun g ↦
    group g.goal.name g.records.length [bucket g.goal.name g.records])

/-- What a catalog says about itself. -/
def info (i : CatalogInfo) : Json :=
  .ofMembers
    [ ("catalog", i.title.map .text),
      ("version", i.version.map .text),
      ("last_reviewed", i.lastReviewed.map fun d ↦ .text d.toText) ]

/-- The overview of a catalog. -/
def overview (o : Overview) : Json :=
  .object
    [ ("meta", info o.info),
      ("records", .nat o.recordCount),
      ("domains", .texts o.domains),
      ("sub_areas", .texts o.subAreas),
      ("goals", .object (o.goalCounts.map fun (goal, n) ↦ (goal.name, .nat n))),
      ("prices", .object (o.priceCounts.map fun (price, n) ↦ (price.name, .nat n))),
      ("searchable_fields", .texts o.searchableFields) ]

/-- The report of an audit. -/
def audit (a : AuditReport) : Json :=
  let issue (i : Issue) : Json :=
    .object [("source", .text i.source), ("message", .text i.finding.message)]
  .object [("checked", .nat a.checked), ("issues", .list (a.issues.map issue))]

end Report
end CertCatalog
