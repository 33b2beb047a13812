/-!
# Commands and their options

The commands of the program with their names and options. Every option has one or more long names,
and some have a letter. An option either takes a value or stands alone.
-/

namespace CertCatalog.CommandLine

/-! ### Options -/

/-- An option of the command line. -/
inductive OptionKey
  | format
  | compact
  | catalog
  | verbose
  | quiet
  | version
  | limit
  | view
  | domain
  | level
  | provider
  | roleGroup
  | price
  | minPrice
  | maxPrice
  | aiOnly
  | pricedOnly
  | goal
  deriving DecidableEq, Repr

namespace OptionKey

/-- Options of every command. They may also stand in front of its name. -/
def general : List OptionKey := [format, compact, catalog, verbose, quiet]

/-- Options that restrict the records of a command. -/
def criteria : List OptionKey :=
  [domain, level, provider, roleGroup, price, minPrice, maxPrice, aiOnly, pricedOnly, goal]

/-- Long names of an option. -/
def longNames : OptionKey → List String
  | format => ["format"]
  | compact => ["compact"]
  | catalog => ["catalog"]
  | verbose => ["verbose"]
  | quiet => ["quiet"]
  | version => ["version"]
  | limit => ["limit", "max-results"]
  | view => ["by"]
  | domain => ["domain"]
  | level => ["level"]
  | provider => ["provider"]
  | roleGroup => ["role-group"]
  | price => ["price"]
  | minPrice => ["min-price"]
  | maxPrice => ["max-price"]
  | aiOnly => ["ai-only"]
  | pricedOnly => ["priced-only"]
  | goal => ["goal"]

/-- Letter of an option. -/
def letter? : OptionKey → Option Char
  | verbose => some 'v'
  | quiet => some 'q'
  | version => some 'V'
  | limit => some 'm'
  | _ => none

/-- The option stands alone. -/
def isToggle : OptionKey → Bool
  | compact | verbose | quiet | version | aiOnly | pricedOnly => true
  | _ => false

/-- The option may be given more than once. -/
def isRepeatable (key : OptionKey) : Bool := key == verbose

/-- The option of a long name among some options. -/
def ofName? (known : List OptionKey) (name : String) : Option OptionKey :=
  known.find? (·.longNames.contains name)

/-- The option of a letter among some options. -/
def ofLetter? (known : List OptionKey) (c : Char) : Option OptionKey :=
  known.find? (·.letter? == some c)

end OptionKey

/-! ### Commands -/

/-- A command. -/
inductive Command
  | search
  | parse
  | groups
  | validate
  | summary
  deriving DecidableEq, Repr

namespace Command

/-- Every command. -/
def all : List Command := [search, parse, groups, validate, summary]

/-- Names of a command. -/
def names : Command → List String
  | search => ["search", "s", "find"]
  | parse => ["parse", "p"]
  | groups => ["groups", "g"]
  | validate => ["validate"]
  | summary => ["summary", "index"]

/-- The command of a name. -/
def named? (s : String) : Option Command := all.find? (·.names.contains s)

/-- Options that a command has beside the general ones. -/
def ownOptions : Command → List OptionKey
  | search => OptionKey.criteria ++ [.limit]
  | groups => .view :: OptionKey.criteria
  | parse | validate | summary => []

/-- Options of a command. -/
def options (c : Command) : List OptionKey := OptionKey.general ++ c.ownOptions

end Command
end CertCatalog.CommandLine
