import CertCatalog.Query.NumberTest
import CertCatalog.Text.LetterCase
import CertCatalog.Text.Shorten

/-!
# Queries

Blanks separate the tokens of a query. A quote character opens a span that runs to the next quote
of the same kind, or to the end of the query: blanks and the other quote are ordinary inside it.
The quotes that open and close spans belong to no token.

Every token is a predicate `key:value`, a free term, or dropped because its key or value is empty.
Only the first colon separates. A key may have other names: the table of aliases starts with the
built-in ones, and further pairs replace earlier ones with the same name. Resolution is one step,
never a chain. Dropped tokens and an open quote are reported and never change what matches.
-/

namespace CertCatalog.Query

/-! ### Tokens -/

/-- A character that opens a quoted span. -/
def isQuote (c : Char) : Bool := c == '"' || c == '\''

/-- The tokens of a text, and the quote that is still open at its end. -/
structure Tokens where
  words : List (List Char)
  openQuote : Option Char
  deriving DecidableEq, Repr

namespace Tokens

/-- Tokens with one more in front, unless it is empty. -/
def push (word : List Char) (t : Tokens) : Tokens :=
  if word.isEmpty then t else { t with words := word :: t.words }

/-- The tokens of a text that starts inside a span, if one is open, after the characters `current`
of its first token. -/
def scan (openQuote : Option Char) (current : List Char) : List Char → Tokens
  | [] => push current ⟨[], openQuote⟩
  | c :: cs =>
    match openQuote with
    | some quote =>
      if c = quote then scan none current cs else scan (some quote) (current ++ [c]) cs
    | none =>
      if isQuote c then scan (some c) current cs
      else if Text.isBlank c then push current (scan none [] cs)
      else scan none (current ++ [c]) cs

/-- The tokens of a query. -/
def ofText (s : String) : Tokens := scan none [] s.toList

/-- The tokens as texts. -/
def toList (t : Tokens) : List String := t.words.map String.ofList

/-- A quoted span runs to the end of the query. -/
def isUnterminated (t : Tokens) : Bool := t.openQuote.isSome

end Tokens

/-- Characters each wrapped in a quote of the kind that it is not. -/
def quote (cs : List Char) : List Char :=
  cs.flatMap fun c ↦ if c = '"' then ['\'', c, '\''] else ['"', c, '"']

end CertCatalog.Query

namespace CertCatalog

/-! ### Key aliases -/

/-- Pairs of an alias and the key it stands for. The first pair of an alias counts. -/
structure KeyAliases where
  pairs : List (String × String)
  deriving DecidableEq, Repr

namespace KeyAliases

/-- The aliases that every query knows. -/
def builtIn : KeyAliases where
  pairs :=
    [ ("sub", "subarea"),
      ("sub-area", "subarea"),
      ("sub_area", "subarea"),
      ("subareas", "subarea"),
      ("vendor", "provider"),
      ("issuer", "provider"),
      ("rolecategory", "rolegroup"),
      ("role_group", "rolegroup"),
      ("role-group", "rolegroup"),
      ("rolegroups", "rolegroup"),
      ("roles", "role"),
      ("tags", "tag"),
      ("tracks", "track"),
      ("cert", "code"),
      ("cert_code", "code"),
      ("certcode", "code"),
      ("domain_area", "domain"),
      ("area", "domain"),
      ("cost", "price"),
      ("introduced", "year") ]

/-- The key that a lower-cased name stands for, the name itself when it is no alias. -/
def resolve (aliases : KeyAliases) (key : String) : String := (aliases.pairs.lookup key).getD key

/-- A pair in trimmed lowercase, in front of the earlier ones. A pair with a blank side is
ignored. -/
def insert (aliases : KeyAliases) (pair : String × String) : KeyAliases :=
  let source := Text.lower (Text.trim pair.1)
  let target := Text.lower (Text.trim pair.2)
  if source.isEmpty || target.isEmpty then aliases else ⟨(source, target) :: aliases.pairs⟩

/-- The built-in aliases with further pairs, later ones first. -/
def extended (extra : List (String × String)) : KeyAliases := extra.foldl insert builtIn

end KeyAliases

/-! ### Conditions -/

/-- A condition `key:value`. The value is trimmed, and kept as written and in lowercase. -/
structure Predicate where
  key : String
  value : String
  valueLower : String
  number : Option Query.NumberTest
  deriving DecidableEq

/-- The predicate of a key and a value. -/
def Predicate.of (key value : String) : Predicate where
  key := Text.lower key
  value := Text.trim value
  valueLower := Text.lower (Text.trim value)
  number := Query.NumberTest.ofText? (Text.trim value)

namespace Query

/-- What a query recovered from. -/
inductive Diagnostic
  | unterminatedQuote
  | emptyKey (token : String)
  | emptyValue (token : String)
  deriving DecidableEq, Repr

namespace Diagnostic

/-- The wording of a diagnostic. -/
def message : Diagnostic → String
  | unterminatedQuote => "unterminated quote runs to end of query"
  | emptyKey token => "dropped '" ++ token ++ "': empty key"
  | emptyValue token => "dropped '" ++ token ++ "': empty value"

/-- The token that was dropped. -/
def token? : Diagnostic → Option String
  | unterminatedQuote => none
  | emptyKey token => some token
  | emptyValue token => some token

/-- Name of the kind of diagnostic. -/
def kind : Diagnostic → String
  | unterminatedQuote => "unterminated_quote"
  | emptyKey _ => "empty_key"
  | emptyValue _ => "empty_value"

end Diagnostic

/-- The meaning of one token. -/
inductive Term
  | predicate (p : Predicate)
  | free (term : String)
  | dropped (diagnostic : Diagnostic)
  deriving DecidableEq

namespace Term

/-- The texts before and after the first colon. -/
def splitColon? (cs : List Char) : Option (List Char × List Char) :=
  match cs.dropWhile (· != ':') with
  | [] => none
  | _ :: value => some (cs.takeWhile (· != ':'), value)

/-- The meaning of a token under a table of key aliases. -/
def ofToken (aliases : KeyAliases) (token : String) : Term :=
  match splitColon? token.toList with
  | none => free (Text.lower token)
  | some (key, value) =>
    if key.isEmpty then dropped (.emptyKey token)
    else if (Text.trimChars value).isEmpty then dropped (.emptyValue token)
    else
      predicate (.of (aliases.resolve (Text.lower (String.ofList key))) (String.ofList value))

/-- The predicate of a term. -/
def predicate? : Term → Option Predicate
  | predicate p => some p
  | _ => none

/-- The text of a free term. -/
def free? : Term → Option String
  | free term => some term
  | _ => none

/-- The diagnostic of a dropped token. -/
def diagnostic? : Term → Option Diagnostic
  | dropped diagnostic => some diagnostic
  | _ => none

end Term
end Query

/-- The conditions of a query: predicates and free terms, with what was recovered from. -/
structure Query where
  predicates : List Predicate
  terms : List String
  diagnostics : List Query.Diagnostic
  deriving DecidableEq

namespace Query

/-- The query of a list of terms. -/
def ofTerms (terms : List Term) : Query where
  predicates := terms.filterMap Term.predicate?
  terms := terms.filterMap Term.free?
  diagnostics := terms.filterMap Term.diagnostic?

/-- The query of a list of tokens. -/
def ofTokens (aliases : KeyAliases) (tokens : List String) : Query :=
  ofTerms (tokens.map (Term.ofToken aliases))

/-- The query of a text. An open quote is reported first. -/
def ofText (aliases : KeyAliases) (s : String) : Query :=
  let tokens := Tokens.ofText s
  let query := ofTokens aliases tokens.toList
  if tokens.isUnterminated then
    { query with diagnostics := .unterminatedQuote :: query.diagnostics }
  else query

/-- A query without conditions. -/
def isEmpty (q : Query) : Bool := q.predicates.isEmpty && q.terms.isEmpty

end Query
end CertCatalog
