import CertCatalog.Entry.Basic
import CertCatalog.Record
import CertCatalog.Text.LetterCase

/-!
# Records of entries

Every entry yields a record. Missing or unusable values give way to defaults, vocabulary names take
their own spelling, and name, code and id stand in for each other.
-/

namespace CertCatalog

/-- Texts of a record whose entry has none. -/
structure DefaultTexts where
  provider : String
  delivery : String
  renewalPolicy : String
  language : String
  priceLabel : String

/-- The texts that fill an entry without them. -/
def defaultTexts : DefaultTexts where
  provider := "Unknown"
  delivery := "exam"
  renewalPolicy := "See provider policy"
  language := "en"
  priceLabel := "Price not listed"

/-- A text, or a substitute when it is empty. -/
def orElse (s substitute : String) : String := if s.isEmpty then substitute else s

/-- A text in the spelling of the list that it matches up to ASCII case. -/
def canonical (known : List String) (s : String) : String :=
  (known.find? fun k ↦ Text.eqIgnoringAsciiCase k s).getD s

namespace Entry

/-- The whole number of a key within `0` to `bound`, zero otherwise. -/
def natural (e : Entry) (key : ScalarKey) (bound : Nat) : Nat :=
  match (e.scalar key).bind Scalar.asInt? with
  | some n => if 0 ≤ n ∧ n ≤ bound then n.toNat else 0
  | none => 0

/-- The name, else the code, else the id. -/
def recordName (e : Entry) : String :=
  orElse (e.text .name) (orElse (e.text .certCode) (e.text .id))

/-- The id, else the slug of the name. -/
def recordId (e : Entry) : String := orElse (e.text .id) (Text.slug e.recordName)

/-- The code, else the name. -/
def recordCode (e : Entry) : String := orElse (e.text .certCode) e.recordName

/-- The domain in its own spelling, or the fallback domain. -/
def recordDomain (e : Entry) : String :=
  let domain := canonical Vocabulary.domains (e.text .domainArea)
  if Vocabulary.domains.contains domain then domain else Vocabulary.fallbackDomain

/-- The record of an entry before its search text and goals are derived. -/
def plainRecord (e : Entry) : Record where
  id := e.recordId
  name := e.recordName
  provider := orElse (e.text .provider) defaultTexts.provider
  code := e.recordCode
  url := e.text .url
  domainArea := e.recordDomain
  level := Level.ofText (e.text .level)
  status := (Status.ofText? (e.text .status)).getD .fallback
  delivery := orElse (e.text .delivery) defaultTexts.delivery
  renewalPolicy := orElse (e.text .renewal) defaultTexts.renewalPolicy
  language := orElse (e.text .language) defaultTexts.language
  introducedYear := .ofNat (e.natural .introducedYear 65535)
  lastUpdated := CalendarDate.ofText? (e.text .lastUpdated)
  description := orElse (e.text .description) (e.text .summary)
  summary := orElse (e.text .summary) (e.text .description)
  subAreas := (e.items .subAreas).map (canonical Vocabulary.subAreas)
  tracks := e.items .tracks
  roleGroups := (e.items .roleGroups).map (canonical Vocabulary.roleGroups)
  roles := e.items .roles
  tags := e.items .tags
  prerequisites := e.items .prerequisites
  aiFocus := ((e.scalar .aiFocus).map Scalar.asFlag).getD false
  priceUsd := .ofNat (e.natural .priceUsd 4294967295)
  priceLabel := orElse (e.text .priceLabel) defaultTexts.priceLabel
  priceConfidence := (PriceConfidence.ofText? (e.text .priceConfidence)).getD .fallback
  searchText := ""
  goals := .empty

/-- The record of an entry. -/
def toRecord (e : Entry) : Record :=
  { e.plainRecord with
    searchText := e.plainRecord.searchTextOf
    goals := e.plainRecord.classify }

end Entry
end CertCatalog
