import CertCatalog.Goal
import CertCatalog.Text.CharacterClass
import CertCatalog.Text.Shorten

/-!
# Controlled vocabularies

The fixed names of domains, sub-areas and role groups, the words that classify prices, and the
fragments of tracks and tags that hint at a career goal. A collection of texts is listed once each:
the ones of a reference list first and in its order, the others sorted by code points.
-/

namespace CertCatalog.Vocabulary

/-- Knowledge domains in display order. -/
def domains : List String :=
  [ "Communication and Network Security",
    "IAM",
    "Security Architecture and Engineering",
    "Asset Security",
    "Security and Risk Management",
    "Security Assessment and Testing",
    "Software Security",
    "Security Operations" ]

/-- Domain of a record that names none or an unknown one. -/
def fallbackDomain : String := "Security Operations"

/-- Sub-areas in display order. -/
def subAreas : List String :=
  [ "Cloud/SysOps",
    "*nix",
    "ICS/IoT",
    "GRC",
    "Forensics",
    "Incident Handling",
    "Penetration Testing",
    "Exploitation" ]

/-- The domains that are divided, with their sub-areas in display order. -/
def domainSubAreas : List (String × List String) :=
  [ ("Security Architecture and Engineering", ["Cloud/SysOps", "*nix", "ICS/IoT"]),
    ("Security and Risk Management", ["GRC"]),
    ("Security Operations",
      ["Forensics", "Incident Handling", "Penetration Testing", "Exploitation"]) ]

/-- Sub-areas of a domain, none when it is not divided. -/
def subAreasOf (domain : String) : List String := (domainSubAreas.lookup domain).getD []

/-- Heading for the records of a domain outside all its sub-areas. -/
def generalBucket : String := "General"

/-- Role groups in display order. -/
def roleGroups : List String :=
  [ "Network",
    "Asset",
    "Engineer",
    "Management",
    "Testing",
    "Software",
    "Blue Team Ops",
    "Red Team Ops",
    "IAM" ]

/-- Part of a lower-cased price label that makes a certification free. -/
def freeMarker : String := "free"

/-- Parts of a lower-cased price label that say the price is not known. -/
def unknownPriceHints : List String :=
  ["not listed", "unknown", "tbd", "see provider", "n/a", "varies"]

/-- A lower-cased price label says that the price is not known. -/
def isUnknownPriceLabel (label : String) : Bool :=
  unknownPriceHints.any fun hint ↦ Text.contains label hint

/-- Parts of a lower-cased track or tag that hint at a goal. -/
def goalHints : Goal → List String
  | .blue =>
    [ "soc-analyst", "security-operations-center", "incident", "forensic", "blue-team",
      "threat-hunt", "detection", "defen" ]
  | .red => ["pentest", "penetration", "exploit", "red-team", "offensive", "ethical-hack"]
  | .grc => ["grc", "audit", "compliance", "governance", "risk", "privacy"]
  | .cloud => ["cloud", "amazon-web-services", "azure", "gcp", "kubernetes", "devsecops"]

theorem fallbackDomain_mem : fallbackDomain ∈ domains := by decide

/-- Every sub-area of a domain is a sub-area. -/
theorem subAreasOf_subset (domain : String) : subAreasOf domain ⊆ subAreas := by
  unfold subAreasOf
  intro s hs
  cases h : domainSubAreas.lookup domain with
  | none => simp [h] at hs
  | some list =>
    rw [h] at hs
    have hall : ∀ entry ∈ domainSubAreas, ∀ s ∈ entry.2, s ∈ subAreas := by decide
    obtain ⟨l₁, l₂, e, -⟩ := List.lookup_eq_some_iff.mp h
    exact hall (domain, list) (by rw [e]; simp) s hs

end CertCatalog.Vocabulary

namespace CertCatalog

/-! ### Canonical listings -/

/-- The distinct items in the order of the reference list, then the remaining ones sorted. -/
def arrange (reference items : List String) : List String :=
  reference.eraseDups.filter items.contains ++
    (items.filter (!reference.contains ·)).eraseDups.mergeSort textLe

/-- The listing holds exactly the items. -/
theorem mem_arrange {reference items : List String} {s : String} :
    s ∈ arrange reference items ↔ s ∈ items := by
  simp only [arrange, List.mem_append, List.mem_filter, List.mem_eraseDups, List.mem_mergeSort,
    List.contains_iff_mem, Bool.not_eq_true', ← Bool.not_eq_true]
  by_cases h : s ∈ reference <;> simp [h]

end CertCatalog
