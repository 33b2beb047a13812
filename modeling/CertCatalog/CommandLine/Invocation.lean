import CertCatalog.Catalog
import CertCatalog.CommandLine.Argument
import CertCatalog.CommandLine.Command
import CertCatalog.Search
import CertCatalog.Settings

/-!
# Invocations

The arguments of the program ask for its version or for a task. Every value has to be one that its
option admits, and no option but a repeatable one may be given twice on one side of the command
name. A general option behind the command name goes before the same option in front of it.
-/

namespace CertCatalog.CommandLine

/-- Options that every command has. -/
structure GeneralOptions where
  format : Option ReportFormat
  isCompact : Bool
  catalog : Option String
  deriving DecidableEq, Repr

/-- What a command shall do. -/
inductive Task
  | search (query : String) (criteria : Criteria) (limit : Option Nat)
  | parse (query : String)
  | groups (query : String) (view : GroupView) (criteria : Criteria)
  | validate
  | summary
  deriving DecidableEq

/-- What the program shall do. -/
inductive Invocation
  | version
  | task (options : GeneralOptions) (task : Task)
  deriving DecidableEq

/-- No option is given twice, unless it is repeatable. -/
def isUnambiguous (given : List GivenOption) : Bool :=
  decide ((given.map (·.key)).filter (!·.isRepeatable)).Nodup

/-- An option is given. -/
def hasOption (given : List GivenOption) (key : OptionKey) : Bool := given.any (·.key == key)

/-- The value of an option, read in some way, if the option is given. -/
def readOption? {α : Type} (given : List GivenOption) (key : OptionKey)
    (read : String → Option α) : Option (Option α) :=
  match given.find? (·.key == key) with
  | none => some none
  | some option => (read option.value).map some

/-- A finite price bound, with blanks around it. -/
def priceBound? (s : String) : Option Binary64 :=
  (Binary64.ofText? (Text.trim s)).filter Binary64.isFinite

namespace GeneralOptions

/-- The general options of some given ones. A path is not empty. -/
def ofGiven? (given : List GivenOption) : Option GeneralOptions := do
  return {
    format := ← readOption? given .format ReportFormat.named?
    isCompact := hasOption given .compact
    catalog := ← readOption? given .catalog fun path ↦ if path.isEmpty then none else some path }

/-- The options of either, where the first ones go before. -/
def merge (first second : GeneralOptions) : GeneralOptions where
  format := first.format <|> second.format
  isCompact := first.isCompact || second.isCompact
  catalog := first.catalog <|> second.catalog

end GeneralOptions

/-- The criteria of some given options. -/
def criteriaOfGiven? (given : List GivenOption) : Option Criteria := do
  return {
    domain := ← readOption? given .domain some
    level := ← readOption? given .level Level.named?
    provider := ← readOption? given .provider some
    roleGroup := ← readOption? given .roleGroup some
    priceKind := ← readOption? given .price PriceKind.named?
    minPrice := ← readOption? given .minPrice priceBound?
    maxPrice := ← readOption? given .maxPrice priceBound?
    aiOnly := hasOption given .aiOnly
    pricedOnly := hasOption given .pricedOnly
    goal := ← readOption? given .goal Goal.named? }

namespace Task

/-- The task of a command and its arguments. Some commands have an operand, and one needs it. -/
def ofArguments? (command : Command) (arguments : CommandArguments) : Option Task := do
  let given := arguments.given
  match command, arguments.operand with
  | .search, query =>
    return search (query.getD "") (← criteriaOfGiven? given)
      (← readOption? given .limit Integer.uint64OfText?)
  | .parse, some query => return parse query
  | .groups, query =>
    return groups (query.getD "") ((← readOption? given .view GroupView.named?).getD .domain)
      (← criteriaOfGiven? given)
  | .validate, none => return validate
  | .summary, none => return summary
  | _, _ => none

end Task

namespace Invocation

/-- The invocation of the arguments of the program. -/
def ofArguments? (arguments : List String) : Option Invocation := do
  let leading ← LeadingOptions.ofArguments? (.version :: OptionKey.general) arguments
  guard (isUnambiguous leading.given)
  let options ← GeneralOptions.ofGiven? leading.given
  if hasOption leading.given .version then return version
  match leading.rest with
  | [] => none
  | name :: rest =>
    let command ← Command.named? name
    let commandArguments ← CommandArguments.ofArguments? command.options rest
    guard (isUnambiguous commandArguments.given)
    let closer ← GeneralOptions.ofGiven? commandArguments.given
    return task (closer.merge options) (← Task.ofArguments? command commandArguments)

end Invocation
end CertCatalog.CommandLine
