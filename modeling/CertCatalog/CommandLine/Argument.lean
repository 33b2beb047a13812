import CertCatalog.CommandLine.Command

/-!
# Command line arguments

An argument is a plain text, a separator, a long option or a row of option letters. The value of an
option is attached to it or is the next argument, which then has to be plain. An option that shows
the version ends the reading.
-/

namespace CertCatalog.CommandLine

/-- An argument by its shape. -/
inductive Argument
  | plain (text : String)
  | separator
  | long (name : String) (attached : Option String)
  | letters (cs : List Char)
  deriving DecidableEq, Repr

/-- An option with its value, which is empty for a toggle. -/
structure GivenOption where
  key : OptionKey
  value : String
  deriving DecidableEq, Repr

/-- The options of one argument, and one more whose value is the next argument. -/
structure ArgumentOptions where
  given : List GivenOption
  awaiting : Option OptionKey
  deriving DecidableEq, Repr

namespace Argument

/-- The shape of a text. A single hyphen is plain. -/
def ofText (s : String) : Argument :=
  match s.toList with
  | ['-', '-'] => separator
  | '-' :: '-' :: cs =>
    let attached := match cs.dropWhile (· != '=') with
      | [] => none
      | _ :: value => some (String.ofList value)
    long (String.ofList (cs.takeWhile (· != '='))) attached
  | '-' :: c :: cs => letters (c :: cs)
  | _ => plain s

/-- The argument is a plain text. -/
def isPlain : Argument → Bool
  | plain _ => true
  | _ => false

/-- The argument is an option or a row of options. -/
def isOption : Argument → Bool
  | long .. | letters _ => true
  | _ => false

/-- The option of a long name. -/
def longOption? (known : List OptionKey) (name : String) (attached : Option String) :
    Option ArgumentOptions := do
  let key ← OptionKey.ofName? known name
  match key.isToggle, attached with
  | true, none => return ⟨[⟨key, ""⟩], none⟩
  | true, some _ => none
  | false, none => return ⟨[], some key⟩
  | false, some value => return ⟨[⟨key, value⟩], none⟩

/-- The options of a row of letters. What follows the letter of an option with a value is its value,
after an equals sign or directly. -/
def letterOptions? (known : List OptionKey) : List Char → Option ArgumentOptions
  | [] => some ⟨[], none⟩
  | c :: cs =>
    match OptionKey.ofLetter? known c with
    | none => none
    | some key =>
      if key == .version then some ⟨[⟨key, ""⟩], none⟩
      else if key.isToggle then
        (letterOptions? known cs).map fun options ↦
          { options with given := ⟨key, ""⟩ :: options.given }
      else
        match cs with
        | [] => some ⟨[], some key⟩
        | '=' :: value => some ⟨[⟨key, String.ofList value⟩], none⟩
        | value => some ⟨[⟨key, String.ofList value⟩], none⟩

/-- The options of an argument among some known ones. -/
def options? (known : List OptionKey) : Argument → Option ArgumentOptions
  | long name attached => longOption? known name attached
  | letters cs => letterOptions? known cs
  | _ => none

end Argument

/-- The options at the head of some arguments, and the arguments behind them. -/
structure LeadingOptions where
  given : List GivenOption
  rest : List String
  deriving DecidableEq, Repr

namespace LeadingOptions

/-- The leading options with some more in front. -/
def after (given : List GivenOption) (l : LeadingOptions) : LeadingOptions :=
  { l with given := given ++ l.given }

/-- The leading options of some arguments, up to the first argument that is none. -/
def ofArguments? (known : List OptionKey) : List String → Option LeadingOptions
  | [] => some ⟨[], []⟩
  | text :: rest =>
    if !(Argument.ofText text).isOption then some ⟨[], text :: rest⟩
    else
      match (Argument.ofText text).options? known, rest with
      | none, _ => none
      | some ⟨given, none⟩, rest =>
        if given.any (·.key == .version) then some ⟨given, []⟩
        else (ofArguments? known rest).map (after given)
      | some ⟨given, some key⟩, value :: rest =>
        if (Argument.ofText value).isPlain then
          (ofArguments? known rest).map (after (given ++ [⟨key, value⟩]))
        else none
      | some ⟨_, some _⟩, [] => none

end LeadingOptions

/-- The arguments of a command: its options and at most one operand among or behind them. -/
structure CommandArguments where
  given : List GivenOption
  operand : Option String
  deriving DecidableEq, Repr

namespace CommandArguments

/-- At most one operand. -/
def operand? : List String → Option (Option String)
  | [] => some none
  | [text] => some (some text)
  | _ => none

/-- The arguments of a command. Behind a separator every argument is an operand. -/
def ofArguments? (known : List OptionKey) (arguments : List String) :
    Option CommandArguments := do
  let leading ← LeadingOptions.ofArguments? known arguments
  match leading.rest with
  | [] => return ⟨leading.given, none⟩
  | text :: rest =>
    if Argument.ofText text = .separator then return ⟨leading.given, ← operand? rest⟩
    else
      let trailing ← LeadingOptions.ofArguments? known rest
      match trailing.rest with
      | [] => return ⟨leading.given ++ trailing.given, some text⟩
      | [last] =>
        if Argument.ofText last = .separator then
          return ⟨leading.given ++ trailing.given, some text⟩
        else none
      | _ => none

end CommandArguments
end CertCatalog.CommandLine
