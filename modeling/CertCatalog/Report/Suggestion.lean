import CertCatalog.Query.Match

/-!
# Suggestions

What a report says about a query beside the records that it selects: how it is understood, what it
recovered from, and advice when it selects nothing or has keys without a meaning of their own.
-/

namespace CertCatalog.Report

/-- Advice for a query that selects no record. -/
def noResults (query : String) : String :=
  "No certifications matched '" ++ query ++ "'\n\n" ++
  "Try:\n" ++
  "- Fewer or broader terms\n" ++
  "- Checking key names with 'certq parse \"" ++ query ++ "\"'\n" ++
  "- Dropping --min-price/--max-price (they exclude unknown prices)"

/-- The keys of a query that have no meaning of their own, once each. -/
def fallbackKeys (q : Query) : List String :=
  ((q.predicates.map (·.key)).filter fun key ↦ (SearchKey.named? key).isNone).eraseDups

/-- The list of search keys with an example. -/
def supportedKeys (keys : List SearchKey) : String :=
  "Supported keys: " ++ String.intercalate ", " (keys.map SearchKey.name) ++ "\n\n" ++
  "Unknown keys search the whole record.\n" ++
  "Example: certq search \"provider:giac level:expert price:<=1000\""

namespace Plain

/-- Lines moved to the right. -/
def indented (width : Nat) (lines : List String) : List String :=
  lines.map (String.ofList (List.replicate width ' ') ++ ·)

/-- The lines of a list, or that there are none. -/
def orNone (lines : List String) : List String := if lines.isEmpty then ["(none)"] else lines

/-- The warning about what a query recovered from. -/
def warning (d : Query.Diagnostic) : String := "warning: " ++ d.message

/-- A predicate with its number test, and whether it searches the whole record. -/
def predicate (p : Predicate) : String :=
  let test := match p.number with
    | some test => " [numeric " ++ test.toText ++ "]"
    | none => ""
  let fallback := if (SearchKey.named? p.key).isNone then " (whole-record search)" else ""
  p.key ++ ":" ++ p.value ++ test ++ fallback

/-- How a query is understood. -/
def parsedQuery (tokens : List String) (q : Query) : List String :=
  let keys := if (fallbackKeys q).isEmpty then [] else ["", supportedKeys SearchKey.all]
  ["Tokens: " ++ String.intercalate " | " tokens, "Structured:"] ++
    indented 2 (orNone (q.predicates.map predicate)) ++
    ["Free terms:"] ++ indented 2 (orNone q.terms) ++ q.diagnostics.map warning ++ keys

end Plain
end CertCatalog.Report
