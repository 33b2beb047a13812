import CertCatalog.Text.LetterCase

/-!
# Attributes of a certification

Difficulty level, lifecycle status, source of the price and price class, each with its names.
-/

namespace CertCatalog

/-- Difficulty of a certification, from entry level to expert. -/
inductive Level
  | foundational
  | intermediate
  | advanced
  | expert
  deriving DecidableEq, Repr

namespace Level

/-- Every level, easiest first. -/
def all : List Level := [foundational, intermediate, advanced, expert]

/-- Name of a level. -/
def name : Level → String
  | foundational => "foundational"
  | intermediate => "intermediate"
  | advanced => "advanced"
  | expert => "expert"

/-- Place of a level in the order of difficulty, from one to four. -/
def rank : Level → Nat
  | foundational => 1
  | intermediate => 2
  | advanced => 3
  | expert => 4

/-- Level of a record that names none. -/
def fallback : Level := foundational

/-- The level with exactly this name. -/
def named? (s : String) : Option Level := Text.named? all name s

/-- The level of a name in any letter case. -/
def ofText? (s : String) : Option Level := Text.looselyNamed? all name s

/-- The level of a name, or the fallback. -/
def ofText (s : String) : Level := (ofText? s).getD fallback

end Level

/-- Lifecycle of a certification. -/
inductive Status
  | active
  | beta
  | retired
  deriving DecidableEq, Repr

namespace Status

/-- Every status. -/
def all : List Status := [active, beta, retired]

/-- Name of a status. -/
def name : Status → String
  | active => "active"
  | beta => "beta"
  | retired => "retired"

/-- Status of a record that names none. -/
def fallback : Status := active

/-- The status of a name in any letter case. -/
def ofText? (s : String) : Option Status := Text.looselyNamed? all name s

end Status

/-- Where a price comes from. -/
inductive PriceConfidence
  | fromTooltip
  | estimated
  deriving DecidableEq, Repr

namespace PriceConfidence

/-- Every source of a price. -/
def all : List PriceConfidence := [fromTooltip, estimated]

/-- Name of a price source. -/
def name : PriceConfidence → String
  | fromTooltip => "from-original-tooltip"
  | estimated => "estimated"

/-- Price source of a record that names none. -/
def fallback : PriceConfidence := estimated

/-- The price source of a name in any letter case. -/
def ofText? (s : String) : Option PriceConfidence := Text.looselyNamed? all name s

end PriceConfidence

/-- What price and price label say together. -/
inductive PriceClass
  | paid
  | free
  | unknown
  deriving DecidableEq, Repr

namespace PriceClass

/-- Every price class. -/
def all : List PriceClass := [paid, free, unknown]

/-- Name of a price class. -/
def name : PriceClass → String
  | paid => "paid"
  | free => "free"
  | unknown => "unknown"

end PriceClass
end CertCatalog
