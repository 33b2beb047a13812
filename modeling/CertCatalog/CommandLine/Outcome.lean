import CertCatalog.CatalogSource.Loading
import CertCatalog.CommandLine.Invocation
import CertCatalog.Json.Printer
import CertCatalog.Report.Plain

/-!
# Outcomes of invocations

The outcome of an invocation is an exit status with the texts on both output streams. It follows
from the surroundings of the program: its settings, its environment and the files there are.
-/

namespace CertCatalog.CommandLine

/-- What the program finds when it starts. -/
structure Surroundings where
  settings : Settings
  environmentCatalog : Option String
  nodeAt : String → Option Files.Node
  formats : Formats

/-- What the program leaves behind. -/
structure Outcome where
  status : UInt32
  output : String
  errors : String
  deriving DecidableEq, Repr

namespace Outcome

/-- Status of an invocation that succeeds. -/
def success : UInt32 := 0

/-- Status of an invocation that fails or finds issues. -/
def failure : UInt32 := 1

/-- Status of arguments that ask for nothing. -/
def misuse : UInt32 := 2

/-- A successful outcome with lines of output. -/
def ofLines (lines : List String) : Outcome := ⟨success, Report.Plain.unlines lines, ""⟩

/-- An outcome with nothing but an error. -/
def ofError (status : UInt32) (message : String) : Outcome :=
  ⟨status, "", Report.Plain.unlines ["Error: " ++ message]⟩

/-- The outcome with warnings. -/
def withWarnings (o : Outcome) (warnings : List String) : Outcome :=
  { o with errors := o.errors ++ Report.Plain.unlines warnings }

end Outcome

/-- The version of the program. -/
def versionText : String := "certq 0.3.0"

/-- How the program is used. -/
def usage : String := "usage: certq [OPTIONS] <COMMAND>"

/-- An error with its causes, behind what the program tried at a path. -/
def loadFailure (attempt path : String) (e : LoadError) : String :=
  String.intercalate ": " ((attempt ++ " " ++ path) :: e.message :: e.causes)

namespace Surroundings

/-- Path of the catalog. -/
def catalogPath (s : Surroundings) (options : GeneralOptions) : String :=
  s.settings.catalogPath options.catalog s.environmentCatalog

/-- The form of reports. -/
def format (s : Surroundings) (options : GeneralOptions) : ReportFormat :=
  (options.format <|> s.settings.format?).getD .text

/-- A report in the form that is asked for. -/
def report (s : Surroundings) (options : GeneralOptions) (plain : Outcome) (json : Json) :
    Outcome :=
  match s.format options with
  | .text => plain
  | .json => .ofLines [json.toText (if options.isCompact then .compact else .pretty)]

/-- The outcome of a task on the source of the catalog, if that can be loaded. -/
def withSource (s : Surroundings) (options : GeneralOptions) (attempt : String)
    (task : CatalogSource → Outcome) : Outcome :=
  let path := s.catalogPath options
  match CatalogSource.load s.formats path (s.nodeAt path) with
  | .ok source => task source
  | .error e => .ofError Outcome.failure (loadFailure attempt path e)

/-- The outcome of a task on the catalog, if that can be loaded. -/
def withCatalog (s : Surroundings) (options : GeneralOptions) (task : Catalog → Outcome) :
    Outcome :=
  s.withSource options "Failed to load catalog from" fun source ↦ task source.toCatalog

/-- The outcome of a search. -/
def search (s : Surroundings) (options : GeneralOptions) (query : String) (criteria : Criteria)
    (limit : Option Nat) : Outcome :=
  s.withCatalog options fun catalog ↦
    let result :=
      CertCatalog.search s.settings.aliases catalog.records query criteria (s.settings.cap limit)
    let plain := Outcome.ofLines (Report.Plain.search query result)
    s.report options (plain.withWarnings (result.query.diagnostics.map Report.Plain.warning))
      (Report.search query result)

/-- The outcome of explaining a query. -/
def parse (s : Surroundings) (options : GeneralOptions) (query : String) : Outcome :=
  let tokens := (Query.Tokens.ofText query).toList
  let parsed := Query.ofText s.settings.aliases query
  s.report options (.ofLines (Report.Plain.parsedQuery tokens parsed))
    (Report.parsedQuery query tokens parsed)

/-- The outcome of grouping the selected records. -/
def groups (s : Surroundings) (options : GeneralOptions) (query : String) (view : GroupView)
    (criteria : Criteria) : Outcome :=
  s.withCatalog options fun catalog ↦
    let selected := selectText s.settings.aliases catalog.records query criteria
    match view with
    | .domain =>
      let groups := groupByDomain selected
      s.report options (.ofLines (Report.Plain.domainGroups groups)) (Report.domainGroups groups)
    | .goal =>
      let groups := groupByGoal selected
      s.report options (.ofLines (Report.Plain.goalGroups groups)) (Report.goalGroups groups)

/-- The outcome of an audit. Issues make it fail. -/
def validate (s : Surroundings) (options : GeneralOptions) : Outcome :=
  s.withSource options "Failed to read catalog from" fun source ↦
    let audit := source.audit
    { s.report options (.ofLines (Report.Plain.audit audit)) (Report.audit audit) with
      status := if audit.isClean then Outcome.success else Outcome.failure }

/-- The outcome of an overview. -/
def summary (s : Surroundings) (options : GeneralOptions) : Outcome :=
  s.withCatalog options fun catalog ↦
    let overview := catalog.overview
    s.report options (.ofLines (Report.Plain.overview overview)) (Report.overview overview)

/-- The outcome of a task. -/
def perform (s : Surroundings) (options : GeneralOptions) : Task → Outcome
  | .search query criteria limit => s.search options query criteria limit
  | .parse query => s.parse options query
  | .groups query view criteria => s.groups options query view criteria
  | .validate => s.validate options
  | .summary => s.summary options

/-- The outcome of an invocation. -/
def invoke (s : Surroundings) : Invocation → Outcome
  | .version => .ofLines [versionText]
  | .task options task => s.perform options task

/-- The outcome of the arguments of the program. -/
def run (s : Surroundings) (arguments : List String) : Outcome :=
  match Invocation.ofArguments? arguments with
  | some invocation => s.invoke invocation
  | none => ⟨Outcome.misuse, "", Report.Plain.unlines [usage]⟩

end Surroundings
end CertCatalog.CommandLine
