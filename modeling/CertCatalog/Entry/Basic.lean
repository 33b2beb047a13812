import CertCatalog.Number.Decimal
import CertCatalog.Number.Layout
import CertCatalog.Text.LetterCase
import CertCatalog.Text.Shorten

/-!
# Catalog entries

A catalog document may write one thing in several ways. A scalar is read as text, as a whole number
or as a flag, and a list field may hold a single scalar in place of a list. An entry is one
certification as a document writes it: at most one value for each of 26 keys, of which six hold
lists.
-/

namespace CertCatalog

/-! ### Loose values -/

/-- A scalar as a document writes it. -/
inductive Scalar
  | bool (value : Bool)
  | int (value : Int64)
  | float (value : Binary64)
  | text (value : String)
  deriving DecidableEq

/-- A lower-cased text that affirms. -/
def isAffirmative (s : String) : Bool := ["true", "1", "yes"].contains (Text.trim s)

namespace Scalar

/-- The scalar as a text, without surrounding blanks. -/
def asText : Scalar → String
  | bool b => if b then "true" else "false"
  | int n => Integer.toText n.toInt
  | float x => x.positional
  | text s => Text.trim s

/-- The whole part of a finite number, within the integers of 64 bits. -/
def wholePart? (x : Binary64) : Option Int := x.truncate?.map Integer.clampInt64

/-- The scalar as a whole number. A text is read as an integer first, then as any number. -/
def asInt? : Scalar → Option Int
  | bool _ => none
  | int n => some n.toInt
  | float x => wholePart? x
  | text s =>
    Integer.int64OfText? (Text.trim s) <|> (Binary64.ofText? (Text.trim s)).bind wholePart?

/-- The scalar as a flag. -/
def asFlag : Scalar → Bool
  | bool b => b
  | int n => n == 1
  | float _ => false
  | text s => isAffirmative (Text.lower s)

end Scalar

/-- A list field: a list of scalars, or one scalar alone. -/
inductive Listed
  | many (values : List Scalar)
  | one (value : Scalar)
  deriving DecidableEq

namespace Listed

/-- The scalars of a list field. -/
def values : Listed → List Scalar
  | many values => values
  | one value => [value]

/-- The texts of a list field that are not blank, in order. -/
def items (l : Listed) : List String := (l.values.map Scalar.asText).filter (!·.isEmpty)

/-- Written as a list. -/
def isList : Listed → Bool
  | many _ => true
  | one _ => false

end Listed

/-! ### Entries -/

/-- Keys that hold one scalar. -/
inductive ScalarKey
  | id
  | name
  | provider
  | certCode
  | url
  | domainArea
  | level
  | status
  | aiFocus
  | introducedYear
  | lastUpdated
  | delivery
  | renewal
  | language
  | description
  | summary
  | priceUsd
  | priceLabel
  | priceConfidence
  | tooltipLegacy
  deriving DecidableEq, Repr

/-- Keys that hold a list. -/
inductive ListKey
  | subAreas
  | tracks
  | roleGroups
  | roles
  | tags
  | prerequisites
  deriving DecidableEq, Repr

/-- Name of a scalar key in documents. -/
def ScalarKey.label : ScalarKey → String
  | id => "id"
  | name => "name"
  | provider => "provider"
  | certCode => "cert_code"
  | url => "url"
  | domainArea => "domain_area"
  | level => "level"
  | status => "status"
  | aiFocus => "ai_focus"
  | introducedYear => "introduced_year"
  | lastUpdated => "last_updated"
  | delivery => "delivery"
  | renewal => "renewal"
  | language => "language"
  | description => "description"
  | summary => "summary"
  | priceUsd => "price_usd"
  | priceLabel => "price_label"
  | priceConfidence => "price_confidence"
  | tooltipLegacy => "tooltip_legacy"

/-- Name of a list key in documents. -/
def ListKey.label : ListKey → String
  | subAreas => "sub_areas"
  | tracks => "tracks"
  | roleGroups => "role_groups"
  | roles => "roles"
  | tags => "tags"
  | prerequisites => "prerequisites"

/-- A key of an entry. -/
inductive EntryKey
  | scalar (key : ScalarKey)
  | list (key : ListKey)
  deriving DecidableEq, Repr

namespace EntryKey

/-- Every key, in the order of entries that are written as plain lists. -/
def all : List EntryKey :=
  [ scalar .id, scalar .name, scalar .provider, scalar .certCode, scalar .url, scalar .domainArea,
    list .subAreas, list .tracks, scalar .level, scalar .status, scalar .aiFocus,
    scalar .introducedYear, scalar .lastUpdated, scalar .delivery, scalar .renewal,
    scalar .language, list .roleGroups, list .roles, list .tags, list .prerequisites,
    scalar .description, scalar .summary, scalar .priceUsd, scalar .priceLabel,
    scalar .priceConfidence, scalar .tooltipLegacy ]

/-- Name of a key in documents. -/
def label : EntryKey → String
  | scalar key => key.label
  | list key => key.label

/-- The key with a name. -/
def named? (s : String) : Option EntryKey := all.find? fun key ↦ key.label == s

theorem mem_all (key : EntryKey) : key ∈ all := by
  cases key with
  | scalar key => cases key <;> decide
  | list key => cases key <;> decide

end EntryKey

/-- The values that a document gives to the keys of a certification. -/
structure Entry where
  scalar : ScalarKey → Option Scalar
  list : ListKey → Option Listed

namespace Entry

/-- The entry without any value. -/
def blank : Entry where
  scalar _ := none
  list _ := none

/-- The key has a value. -/
def has (e : Entry) : EntryKey → Bool
  | .scalar key => (e.scalar key).isSome
  | .list key => (e.list key).isSome

/-- The entry with the value of a scalar key replaced. -/
def setScalar (e : Entry) (key : ScalarKey) (value : Option Scalar) : Entry where
  scalar k := if k = key then value else e.scalar k
  list := e.list

/-- The entry with the value of a list key replaced. -/
def setList (e : Entry) (key : ListKey) (value : Option Listed) : Entry where
  scalar := e.scalar
  list k := if k = key then value else e.list k

/-- The text of a scalar key, empty without a value. -/
def text (e : Entry) (key : ScalarKey) : String := ((e.scalar key).map Scalar.asText).getD ""

/-- The texts of a list key that are not blank, none without a value. -/
def items (e : Entry) (key : ListKey) : List String := ((e.list key).map Listed.items).getD []

end Entry
end CertCatalog
