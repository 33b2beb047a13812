import CertCatalog.Audit
import CertCatalog.Catalog
import CertCatalog.Report.Payload
import CertCatalog.Report.Suggestion
import CertCatalog.Search
import CertCatalog.Text.Shorten

/-!
# Plain reports

The answer of every command as lines of text.
-/

namespace CertCatalog.Report.Plain

/-- Lines as one text, each with its end. -/
def unlines (lines : List String) : String := String.join (lines.map (· ++ "\n"))

/-- A text with blanks behind it up to a width. -/
def padded (width : Nat) (s : String) : String :=
  s ++ String.ofList (List.replicate (width - s.length) ' ')

/-- Decimal digits of a number. -/
def number (n : Nat) : String := Integer.toText n

/-- Most characters of a summary that are shown. -/
def summaryWidth : Nat := 110

/-- The year of a record, or that none is known. -/
def year (r : Record) : String := if r.introducedYear = 0 then "year n/a" else r.yearText

/-- The price of a record, or what its label says instead. -/
def price (r : Record) : String :=
  match r.priceClass with
  | .paid => "$" ++ r.priceText
  | .free => "free"
  | .unknown => r.priceLabel

/-- A record with its attributes and its summary. -/
def record (r : Record) : List String :=
  let goals := String.intercalate "," (r.goals.toList.map Goal.name)
  let attributes := String.intercalate " · " [r.domainArea, year r, price r, goals]
  let summary := if r.summary.isEmpty then [] else [Text.shorten summaryWidth r.summary]
  indented 2 ["[" ++ r.level.name ++ "] " ++ r.name ++ " (" ++ r.code ++ ") " ++ r.provider] ++
    indented 6 (attributes :: summary)

/-- The answer of a search. -/
def search (query : String) (s : SearchResult) : List String :=
  if s.results.isEmpty then ["✗ " ++ noResults query]
  else
    let heading := if query.isEmpty then [] else ["", "🔍 Searching for: " ++ query, ""]
    let shown := if s.isTruncated then " (showing " ++ number s.results.length ++ ")" else ""
    heading ++ s.results.flatMap record ++
      ["", "✓ Found " ++ number s.total ++ " certifications" ++ shown]

/-- The heading of a group. -/
def groupHeading (name : String) (count : Nat) : List String :=
  ["", name ++ " (" ++ number count ++ ")"]

/-- A record by name and code. -/
def reference (r : Record) : String := r.name ++ " " ++ r.code

/-- The lines of groups, or that there is nothing to group. -/
def orNothing (groups : List (List String)) : List String :=
  if groups.isEmpty then ["✗ No certifications to group"] else groups.flatten

/-- The groups by domain. -/
def domainGroups (groups : List DomainGroup) : List String :=
  orNothing (groups.map fun g ↦
    groupHeading g.domain g.recordCount ++ g.buckets.flatMap fun b ↦
      indented 2 [b.name] ++ indented 4 (b.records.map reference))

/-- The groups by goal. -/
def goalGroups (groups : List GoalGroup) : List String :=
  orNothing (groups.map fun g ↦
    groupHeading g.goal.label g.records.length ++ indented 2 (g.records.map reference))

/-- Title of a catalog that has none. -/
def defaultTitle : String := "Certification catalog"

/-- A heading with the lines below it. -/
def titled (heading : String) (lines : List String) : List String :=
  ["", heading] ++ indented 2 lines

/-- The overview of a catalog. -/
def overview (o : Overview) : List String :=
  let version := o.info.version.toList.map ("version       " ++ ·)
  let reviewed := o.info.lastReviewed.toList.map fun d ↦ "last reviewed " ++ d.toText
  let count (width : Nat) (name : String) (n : Nat) : String := padded width name ++ " " ++ number n
  [o.info.title.getD defaultTitle] ++
    indented 2 (version ++ reviewed ++ ["records       " ++ number o.recordCount]) ++
    titled "Domains" o.domains ++
    titled "Sub-areas" o.subAreas ++
    titled "Goals" (o.goalCounts.map fun (goal, n) ↦ count 6 goal.name n) ++
    titled "Prices" (o.priceCounts.map fun (price, n) ↦ count 8 price.name n)

/-- The report of an audit. -/
def audit (a : AuditReport) : List String :=
  if a.isClean then
    ["✓ Catalog validation passed for " ++ number a.checked ++ " record(s)."]
  else
    "✗ Catalog validation failed:" ::
      a.issues.map fun i ↦ "- " ++ i.text

end CertCatalog.Report.Plain
