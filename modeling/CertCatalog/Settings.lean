import CertCatalog.Query.Basic
import CertCatalog.Text.LetterCase
import CertCatalog.Toml.Reader

/-!
# Settings

Settings come from a TOML text, and a text that cannot be used as a whole leaves every default. Of
two places for it the first that holds a text counts. The command line and the environment go before
settings.
-/

namespace CertCatalog

/-- The form of reports. -/
inductive ReportFormat
  | text
  | json
  deriving DecidableEq, Repr

namespace ReportFormat

/-- Every form. -/
def all : List ReportFormat := [text, json]

/-- Name of a form. -/
def name : ReportFormat → String
  | text => "text"
  | json => "json"

/-- The form with exactly this name. -/
def named? (s : String) : Option ReportFormat := Text.named? all name s

end ReportFormat

/-- The settings of a text. Aliases keep the order of the text. -/
structure Settings where
  catalog : Option String
  maxResults : Option Nat
  defaultFormat : Option String
  searchAliases : List (String × String)
  deriving DecidableEq, Repr

namespace Settings

/-- Settings that leave every default. -/
def blank : Settings := ⟨none, none, none, []⟩

/-- File for settings in the working folder. -/
def localFile : String := ".certqrc.toml"

/-- File for settings in the home folder. -/
def homeFile : String := ".config/certq/config.toml"

/-- A value that is a text. -/
def text? : Toml.Value → Option String
  | .text s => some s
  | _ => none

/-- A value that is a natural number. -/
def natural? : Toml.Value → Option Nat
  | .int n => if 0 ≤ n then some n.toNat else none
  | _ => none

/-- The texts of table entries, each of which must be one. -/
def texts? : List (String × Toml.Value) → Option (List (String × String))
  | [] => some []
  | (key, v) :: rest => do
    let s ← text? v
    let pairs ← texts? rest
    return (key, s) :: pairs

/-- Key under which a date counts as a table of its text. -/
def dateKey : String := "$__toml_private_datetime"

/-- A value that is a table of texts. -/
def textTable? : Toml.Value → Option (List (String × String))
  | .table entries => texts? entries
  | .date s => some [(dateKey, s)]
  | _ => none

/-- The value under a key, read in some way, if the key is there. -/
def field? {α : Type} (entries : List (String × Toml.Value)) (key : String)
    (read : Toml.Value → Option α) : Option (Option α) :=
  match entries.lookup key with
  | none => some none
  | some v => (read v).map some

/-- The settings of the entries of a text, if every known key has a value of its kind. -/
def ofEntries? (entries : List (String × Toml.Value)) : Option Settings := do
  let catalog ← field? entries "catalog" text?
  let maxResults ← field? entries "max_results" natural?
  let defaultFormat ← field? entries "default_format" text?
  let searchAliases ← field? entries "search_aliases" textTable?
  return ⟨catalog, maxResults, defaultFormat, searchAliases.getD []⟩

/-- The settings of a text, or the blank ones. -/
def ofText (s : String) : Settings := ((Toml.ofText? s).bind ofEntries?).getD blank

/-- The settings of the first place that holds a text. -/
def ofPlaces (places : List (Option String)) : Settings := (places.findSome? id).elim blank ofText

/-- The form of reports that the settings name, in any letter case. -/
def format? (s : Settings) : Option ReportFormat :=
  s.defaultFormat.bind fun name ↦ ReportFormat.named? (Text.lower name)

/-- Number of results without any other limit. -/
def defaultMaxResults : Nat := 120

/-- The greatest number of results, given that of the command line. Zero means no limit. -/
def cap (s : Settings) (requested : Option Nat) : Option Nat :=
  let limit := (requested <|> s.maxResults).getD defaultMaxResults
  if limit = 0 then none else some limit

/-- Path of the catalog when nothing else names one. -/
def defaultCatalog : String := "data"

/-- Path of the catalog: that of the command line, else a nonempty one of the environment, else that
of the settings. -/
def catalogPath (s : Settings) (requested environment : Option String) : String :=
  (requested <|> environment.filter (!·.isEmpty) <|> s.catalog).getD defaultCatalog

/-- The built-in key aliases with those of the settings. -/
def aliases (s : Settings) : KeyAliases := .extended s.searchAliases

end Settings
end CertCatalog
