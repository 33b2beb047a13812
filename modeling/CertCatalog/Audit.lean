import CertCatalog.CatalogSource.Basic
import CertCatalog.Files
import CertCatalog.Text.CharacterClass

/-!
# Catalog audit

Loading is lenient and fills gaps. The audit reports where a source relies on that: missing keys,
values outside the vocabularies, values of the wrong kind, and prices that disagree with their
labels. Findings are listed entry by entry.
-/

namespace CertCatalog

/-- What an audit finds. -/
inductive Finding
  | noRecords
  | unreadable (reason : String)
  | missingKeys (keys : List String)
  | idIsNotStem (id stem : String)
  | duplicateId (id : String)
  | unknownDomain (domain : String)
  | subAreasNotListed
  | unknownSubArea (subArea : String)
  | subAreasUndefined (domain : String)
  | foreignSubArea (subArea domain : String)
  | roleGroupsNotListed
  | unknownRoleGroup (group : String)
  | unknownLevel (level : String)
  | unknownStatus (status : String)
  | aiFocusNotBoolean
  | yearNotInteger
  | negativePrice
  | priceNotInteger
  | emptyText (key : String)
  | unknownConfidence (confidence : String)
  | urlWithoutScheme
  | dateShape
  | dateNotInCalendar
  | emptyTooltip
  | unrelatedTooltip
  | zeroPriceWithNumericLabel
  | priceWithoutNumericLabel
  | priceWithFreeLabel
  deriving DecidableEq, Repr

/-- A text between apostrophes. -/
def quoted (s : String) : String := "'" ++ s ++ "'"

/-- The wording of a finding. -/
def Finding.message : Finding → String
  | noRecords => "no certification records found"
  | unreadable reason => "could not be parsed: " ++ reason
  | missingKeys keys => "missing keys " ++ String.intercalate ", " keys
  | idIsNotStem id stem => "id " ++ quoted id ++ " must match filename " ++ quoted stem
  | duplicateId id => "duplicate id " ++ quoted id
  | unknownDomain domain => "invalid domain_area " ++ quoted domain
  | subAreasNotListed => "sub_areas must be a list"
  | unknownSubArea subArea => "invalid sub_area " ++ quoted subArea
  | subAreasUndefined domain =>
    "domain_area " ++ quoted domain ++ " does not define sub-areas, so sub_areas must be empty"
  | foreignSubArea subArea domain =>
    "sub_area " ++ quoted subArea ++ " is incompatible with domain_area " ++ quoted domain
  | roleGroupsNotListed => "role_groups must be a non-empty list"
  | unknownRoleGroup group => "invalid role_group " ++ quoted group
  | unknownLevel level => "invalid level " ++ quoted level
  | unknownStatus status => "invalid status " ++ quoted status
  | aiFocusNotBoolean => "ai_focus must be boolean"
  | yearNotInteger => "introduced_year must be integer"
  | negativePrice => "price_usd must be >= 0"
  | priceNotInteger => "price_usd must be integer"
  | emptyText key => key ++ " must not be empty"
  | unknownConfidence confidence =>
    "price_confidence " ++ quoted confidence ++
      " must be one of estimated, from-original-tooltip"
  | urlWithoutScheme => "url must start with http:// or https://"
  | dateShape => "last_updated must use YYYY-MM-DD"
  | dateNotInCalendar => "last_updated is not a valid calendar date"
  | emptyTooltip => "tooltip_legacy must not be empty"
  | unrelatedTooltip => "tooltip_legacy should contain name, cert_code, or description"
  | zeroPriceWithNumericLabel =>
    "price_usd is 0 but price_label looks numeric; " ++
      "set a numeric price_usd or use an unknown/free label"
  | priceWithoutNumericLabel => "price_usd is > 0 but price_label has no numeric hint"
  | priceWithFreeLabel => "price_label says free but price_usd is not 0"

/-- A finding with the label of the document or entry it is about. -/
structure Issue where
  source : String
  finding : Finding
  deriving DecidableEq, Repr

/-- The text of an issue. -/
def Issue.text (i : Issue) : String := i.source ++ ": " ++ i.finding.message

/-- How many entries and files were examined, and what was found. -/
structure AuditReport where
  checked : Nat
  issues : List Issue
  deriving DecidableEq, Repr

/-- Nothing was found. -/
def AuditReport.isClean (r : AuditReport) : Bool := r.issues.isEmpty

namespace Audit

/-- A finding when a condition holds. -/
def report (condition : Bool) (finding : Finding) : List Finding :=
  if condition then [finding] else []

/-- Names of the keys without a value, sorted. -/
def missingKeys (e : Entry) : List String :=
  ((EntryKey.all.filter (!e.has ·)).map EntryKey.label).mergeSort textLe

/-- Missing keys are reported together. -/
def checkKeys (e : Entry) : List Finding :=
  report (!(missingKeys e).isEmpty) (.missingKeys (missingKeys e))

/-- An entry with a file of its own bears the stem of the file as id. -/
def checkStem (s : SourcedEntry) : List Finding :=
  let id := s.entry.text .id
  let stem := Files.stem s.path
  report (s.hasOwnFile && id != stem) (.idIsNotStem id stem)

/-- No earlier entry has the same id. -/
def checkUnique (earlier : List SourcedEntry) (e : Entry) : List Finding :=
  let id := e.text .id
  report (earlier.any (·.entry.text .id == id)) (.duplicateId id)

/-- The domain is known. -/
def checkDomain (e : Entry) : List Finding :=
  let domain := e.text .domainArea
  report (!Vocabulary.domains.contains domain) (.unknownDomain domain)

/-- Sub-areas are written as a list, are known, and belong to the domain. -/
def checkSubAreas (e : Entry) : List Finding :=
  match e.list .subAreas with
  | some (.many values) =>
    let subAreas := (Listed.many values).items
    let domain := e.text .domainArea
    let allowed := Vocabulary.subAreasOf domain
    (subAreas.filter (!Vocabulary.subAreas.contains ·)).map Finding.unknownSubArea ++
    if allowed.isEmpty then report (!subAreas.isEmpty) (.subAreasUndefined domain)
    else (subAreas.filter (!allowed.contains ·)).map (Finding.foreignSubArea · domain)
  | _ => [.subAreasNotListed]

/-- Role groups are written as a list, are known, and there is one. -/
def checkRoleGroups (e : Entry) : List Finding :=
  match e.list .roleGroups with
  | some (.many values) =>
    let groups := (Listed.many values).items
    if groups.isEmpty then [.roleGroupsNotListed]
    else (groups.filter (!Vocabulary.roleGroups.contains ·)).map Finding.unknownRoleGroup
  | _ => [.roleGroupsNotListed]

/-- The level is spelled as its name. -/
def checkLevel (e : Entry) : List Finding :=
  let level := e.text .level
  report ((Level.named? level).isNone) (.unknownLevel level)

/-- The status is spelled as its name. -/
def checkStatus (e : Entry) : List Finding :=
  let status := e.text .status
  report ((Text.named? Status.all Status.name status).isNone) (.unknownStatus status)

/-- The focus on artificial intelligence is a Boolean. -/
def checkAiFocus (e : Entry) : List Finding :=
  match e.scalar .aiFocus with
  | some (.bool _) => []
  | _ => [.aiFocusNotBoolean]

/-- The year is an integer. -/
def checkYear (e : Entry) : List Finding :=
  match e.scalar .introducedYear with
  | some (.int _) => []
  | _ => [.yearNotInteger]

/-- The price is an integer from zero on. -/
def checkPrice (e : Entry) : List Finding :=
  match e.scalar .priceUsd with
  | some (.int price) => report (decide (price.toInt < 0)) .negativePrice
  | _ => [.priceNotInteger]

/-- The texts that every entry needs, in the order of their findings. -/
def requiredTexts : List ScalarKey := [.description, .priceLabel, .summary]

/-- Required texts are not blank. -/
def checkTexts (e : Entry) : List Finding :=
  (requiredTexts.filter fun key ↦ (e.text key).isEmpty).map fun key ↦ .emptyText key.label

/-- The source of the price is spelled as its name. -/
def checkConfidence (e : Entry) : List Finding :=
  let confidence := e.text .priceConfidence
  report ((Text.named? PriceConfidence.all PriceConfidence.name confidence).isNone)
    (.unknownConfidence confidence)

/-- The address is one of the web. -/
def checkUrl (e : Entry) : List Finding :=
  let url := e.text .url
  report (!(Text.startsWith url "http://" || Text.startsWith url "https://")) .urlWithoutScheme

/-- The shape of a date: four, two and two decimal digits of any script between hyphens. -/
def hasDateShape (cs : List Char) : Bool :=
  cs.map (fun c ↦ if Text.isDecimalDigit c then '0' else c) == "0000-00-00".toList

/-- The date has the right shape and exists. -/
def checkDate (e : Entry) : List Finding :=
  let date := e.text .lastUpdated
  if !hasDateShape date.toList then [.dateShape]
  else report (CalendarDate.ofText? date).isNone .dateNotInCalendar

/-- The keys of which a tooltip mentions one. -/
def tooltipKeys : List ScalarKey := [.name, .certCode, .description]

/-- The tooltip is not blank and mentions name, code or description. -/
def checkTooltip (e : Entry) : List Finding :=
  let tooltip := Text.lower (e.text .tooltipLegacy)
  let mentions (key : ScalarKey) : Bool :=
    let value := Text.lower (e.text key)
    !value.isEmpty && Text.contains tooltip value
  if tooltip.isEmpty then [.emptyTooltip]
  else report (!tooltipKeys.any mentions) .unrelatedTooltip

/-- Price and price label agree. -/
def checkPriceLabel (e : Entry) : List Finding :=
  let price := ((e.scalar .priceUsd).bind Scalar.asInt?).getD 0
  let label := e.text .priceLabel
  let hasDigit := label.toList.any Char.isDigit
  let saysFree := Text.contains (Text.lower label) Vocabulary.freeMarker
  report
    (price == 0 && (hasDigit || label.toList.contains '$') &&
      !Vocabulary.isUnknownPriceLabel (Text.lower label) && !saysFree)
    .zeroPriceWithNumericLabel ++
  report (decide (0 < price) && !hasDigit) .priceWithoutNumericLabel ++
  report (saysFree && price != 0) .priceWithFreeLabel

/-- The findings about an entry after the earlier ones. -/
def findings (earlier : List SourcedEntry) (s : SourcedEntry) : List Finding :=
  checkKeys s.entry ++ checkStem s ++ checkUnique earlier s.entry ++ checkDomain s.entry ++
  checkSubAreas s.entry ++ checkRoleGroups s.entry ++ checkLevel s.entry ++
  checkStatus s.entry ++ checkAiFocus s.entry ++ checkYear s.entry ++ checkPrice s.entry ++
  checkTexts s.entry ++ checkConfidence s.entry ++ checkUrl s.entry ++ checkDate s.entry ++
  checkTooltip s.entry ++ checkPriceLabel s.entry

/-- The label of an entry: its file name, and in a shared document also its position there. -/
def label (earlier : List SourcedEntry) (s : SourcedEntry) : String :=
  if s.hasOwnFile then Files.fileLabel s.path
  else
    let position := earlier.countP fun t ↦ Files.samePath t.path s.path
    Files.fileLabel s.path ++ "[" ++ Integer.toText position ++ "]"

/-- The issues of entries that follow the earlier ones. -/
def entryIssues (earlier : List SourcedEntry) : List SourcedEntry → List Issue
  | [] => []
  | s :: rest =>
    let source := label earlier s
    (findings earlier s).map (fun finding ↦ ⟨source, finding⟩) ++
      entryIssues (earlier ++ [s]) rest

/-- The issue of an unreadable file. -/
def problemIssue (p : SourceProblem) : Issue := ⟨Files.fileLabel p.path, .unreadable p.reason⟩

/-- Label of issues about the whole catalog. -/
def catalogLabel : String := "catalog"

end Audit

/-- The audit of a source: first the unreadable files, then the entries in order. -/
def CatalogSource.audit (s : CatalogSource) : AuditReport where
  checked := s.entries.length + s.problems.length
  issues :=
    (if s.entries.isEmpty && s.problems.isEmpty then [⟨Audit.catalogLabel, .noRecords⟩] else []) ++
    s.problems.map Audit.problemIssue ++ Audit.entryIssues [] s.entries

end CertCatalog
