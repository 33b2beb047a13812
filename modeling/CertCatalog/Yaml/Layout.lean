import CertCatalog.Yaml.Block
import CertCatalog.Yaml.FlowScalar
import CertCatalog.Yaml.Token

/-!
# Layout of a YAML text

The tokens of a text follow from its characters and its layout. Outside brackets the column of a
dash or key opens a block, and a lesser column closes it. A token on one line with a colon behind
it turns out to be a key, so the key indicator is put in front of it afterwards.
-/

namespace CertCatalog.Yaml

/-- A token that may turn out to be a key: the number of tokens before it and its place. A required
one must. -/
structure PendingKey where
  position : Nat
  index : Nat
  line : Nat
  column : Nat
  required : Bool
  deriving DecidableEq, Repr

/-- Greatest distance in characters between a key and its colon. -/
def maxKeyLength : Nat := 1024

/-- A key that must have met its colon before this place. -/
def PendingKey.isStale (key : PendingKey) (c : Cursor) : Bool :=
  key.line < c.line || key.index + maxKeyLength < c.index

/-- The tokens of a text up to a place, with the open blocks and brackets there: the reversed tokens
and their number, the columns of the open blocks, whether a key may begin, and the pending keys of
the innermost brackets and of those around them. -/
structure Layout where
  cursor : Cursor
  tokens : List Token
  count : Nat
  blocks : List Nat
  keyAllowed : Bool
  pending : Option PendingKey
  outer : List (Option PendingKey)

namespace Layout

/-- The layout at the start of a text. -/
def start (cs : List Char) : Layout where
  cursor := .start cs
  tokens := []
  count := 0
  blocks := []
  keyAllowed := true
  pending := none
  outer := []

/-- Brackets are open. -/
def inFlow (l : Layout) : Bool := !l.outer.isEmpty

/-- First column inside the innermost block. -/
def margin (l : Layout) : Nat :=
  match l.blocks with
  | [] => 0
  | column :: _ => column + 1

/-- The layout with a token at its end. -/
def push (l : Layout) (t : Token) : Layout :=
  { l with tokens := t :: l.tokens, count := l.count + 1 }

/-- The layout with a token put in front of those behind a position. -/
def insert (l : Layout) (position : Nat) (t : Token) : Layout :=
  let behind := l.count - position
  { l with
    tokens := l.tokens.take behind ++ t :: l.tokens.drop behind
    count := l.count + 1 }

/-- The layout at another place. -/
def moveTo (l : Layout) (c : Cursor) : Layout := { l with cursor := c }

/-- The layout with whether a key may begin. -/
def allowKey (l : Layout) (allowed : Bool) : Layout := { l with keyAllowed := allowed }

/-- The place of the next token, and whether a line break outside brackets precedes it. -/
def skipBetween (inFlow : Bool) (keyAllowed : Bool) : Nat → Cursor → Bool × Cursor
  | 0, c => (keyAllowed, c)
  | fuel + 1, c =>
    let c := if c.index = 0 ∧ c.rest.head? = some '\uFEFF' then c.skip 1 else c
    let c := c.skipWhile fun d ↦ d == ' ' || (d == '\t' && (inFlow || !keyAllowed))
    let c := c.skipComment
    match c.takeBreak? with
    | some (_, next) => skipBetween inFlow (keyAllowed || !inFlow) fuel next
    | none => (keyAllowed, c)

/-- A pending key that a place makes impossible is dropped, unless it is required. -/
def dropStaleKey (c : Cursor) : Option PendingKey → Except Error (Option PendingKey)
  | none => .ok none
  | some key =>
    if !key.isStale c then .ok (some key)
    else if key.required then .error .missingColon
    else .ok none

/-- The layout without the pending keys that its place makes impossible. -/
def dropStaleKeys (l : Layout) : Except Error Layout := do
  let pending ← dropStaleKey l.cursor l.pending
  let outer ← l.outer.mapM (dropStaleKey l.cursor)
  return { l with pending, outer }

/-- The layout without the pending key of the innermost brackets, unless it is required. -/
def dropKey (l : Layout) : Except Error Layout :=
  match l.pending with
  | some key => if key.required then .error .missingColon else .ok { l with pending := none }
  | none => .ok l

/-- The layout with the next token as pending key, where a key may begin. -/
def expectKey (l : Layout) : Except Error Layout := do
  if !l.keyAllowed then return l
  let c := l.cursor
  let l ← l.dropKey
  return { l with
    pending := some {
      position := l.count
      index := c.index
      line := c.line
      column := c.column
      required := !l.inFlow && l.margin == c.column + 1 } }

/-- The layout with the blocks closed whose column satisfies a test. -/
def closeBlocks (l : Layout) (closes : Nat → Bool) : Layout :=
  if l.inFlow then l
  else
    let closed := (l.blocks.takeWhile closes).length
    { l with
      tokens := List.replicate closed .blockEnd ++ l.tokens
      count := l.count + closed
      blocks := l.blocks.drop closed }

/-- The layout with a block opened at a column in front of the tokens behind a position, unless the
innermost block stands there already. -/
def openBlock (l : Layout) (column position : Nat) (t : Token) : Layout :=
  if l.inFlow || column < l.margin then l
  else { l.insert position t with blocks := column :: l.blocks }

/-- The layout at the next token: blanks, comments and line breaks are past, keys that came to
nothing are dropped, and blocks further in are closed. -/
def settle (l : Layout) : Except Error Layout := do
  let (allowed, c) := skipBetween l.inFlow l.keyAllowed (l.cursor.rest.length + 1) l.cursor
  let l ← dropStaleKeys { l with cursor := c, keyAllowed := allowed }
  return l.closeBlocks (c.column < ·)

/-- The layout with every block closed and no pending key. -/
def closeAll (l : Layout) : Except Error Layout := (l.closeBlocks fun _ ↦ true).dropKey

/-- A directive. -/
def directive (l : Layout) : Except Error Layout := do
  let l ← l.closeAll
  let (t, c) ← Token.takeDirective l.cursor
  return ((l.allowKey false).push t).moveTo c

/-- A document marker. -/
def marker (l : Layout) (t : Token) : Except Error Layout := do
  let l ← l.closeAll
  return ((l.allowKey false).push t).moveTo (l.cursor.skip 3)

/-- An opening bracket. -/
def openFlow (l : Layout) (t : Token) : Except Error Layout := do
  let l ← l.expectKey
  let l := { l with outer := l.pending :: l.outer, pending := none }
  return ((l.allowKey true).push t).moveTo (l.cursor.skip 1)

/-- A closing bracket. -/
def closeFlow (l : Layout) (t : Token) : Except Error Layout := do
  let l ← l.dropKey
  let l := match l.outer with
    | key :: outer => { l with pending := key, outer := outer }
    | [] => l
  return ((l.allowKey false).push t).moveTo (l.cursor.skip 1)

/-- A comma. -/
def comma (l : Layout) : Except Error Layout := do
  let l ← l.dropKey
  return ((l.allowKey true).push .comma).moveTo (l.cursor.skip 1)

/-- The dash of a list entry. -/
def dash (l : Layout) : Except Error Layout := do
  if !l.inFlow && !l.keyAllowed then throw .misplacedDash
  let l ← (l.openBlock l.cursor.column l.count .blockList).dropKey
  return ((l.allowKey true).push .dash).moveTo (l.cursor.skip 1)

/-- The question mark of a key. -/
def key (l : Layout) : Except Error Layout := do
  if !l.inFlow && !l.keyAllowed then throw .misplacedKey
  let l ← (l.openBlock l.cursor.column l.count .blockMap).dropKey
  return ((l.allowKey (!l.inFlow)).push .key).moveTo (l.cursor.skip 1)

/-- The colon of a value, which makes a pending key a key. -/
def value (l : Layout) : Except Error Layout := do
  let l ← match l.pending with
    | some key =>
      let l := (l.insert key.position .key).openBlock key.column key.position .blockMap
      pure ({ l with pending := none }.allowKey false)
    | none =>
      if !l.inFlow && !l.keyAllowed then throw .misplacedValue
      pure ((l.openBlock l.cursor.column l.count .blockMap).allowKey (!l.inFlow))
  return (l.push .value).moveTo (l.cursor.skip 1)

/-- An anchor or alias. -/
def name (l : Layout) (t : String → Token) : Except Error Layout := do
  let l ← l.expectKey
  let (s, c) ← Token.takeName l.cursor
  return ((l.allowKey false).push (t s)).moveTo c

/-- A tag. -/
def tag (l : Layout) : Except Error Layout := do
  let l ← l.expectKey
  let (t, c) ← Token.takeTag l.inFlow l.cursor
  return ((l.allowKey false).push t).moveTo c

/-- A block scalar. -/
def blockScalar (l : Layout) (folded : Bool) : Except Error Layout := do
  let l ← l.dropKey
  let (chars, c) ← Block.take folded l.margin l.cursor
  return ((l.allowKey true).push (.scalar false (String.ofList chars))).moveTo c

/-- A quoted scalar. -/
def quotedScalar (l : Layout) (kind : Quoted.Kind) : Except Error Layout := do
  let l ← l.expectKey
  let (chars, c) ← Quoted.take kind l.cursor
  return ((l.allowKey false).push (.scalar false (String.ofList chars))).moveTo c

/-- A plain scalar. -/
def plainScalar (l : Layout) : Except Error Layout := do
  let l ← l.expectKey
  let taken ← Plain.take l.inFlow l.margin l.cursor
  return ((l.allowKey taken.afterBreak).push (.scalar true (String.ofList taken.chars))).moveTo
    taken.next

/-- Characters that cannot begin a plain scalar, or only with a suitable character behind them. -/
def indicators : List Char :=
  ['-', '?', ':', ',', '[', ']', '\x7b', '\x7d', '#', '&', '*', '!', '|', '>', '\'', '"', '%', '@',
    '\x60']

/-- A plain scalar begins with a character in front of others. -/
def startsPlain (inFlow : Bool) (c : Char) (rest : List Char) : Bool :=
  !(isGapChar c || isBreak c || indicators.contains c) ||
    (c == '-' && !rest.head?.any isGapChar) ||
    (!inFlow && (c == '?' || c == ':') && !startsBlank rest)

/-- The layout behind the next token, which begins with a character in front of others. -/
def next (l : Layout) (c : Char) (rest : List Char) : Except Error Layout :=
  if l.cursor.column == 0 && c == '%' then l.directive
  else if l.cursor.isAtMark '-' then l.marker .documentStart
  else if l.cursor.isAtMark '.' then l.marker .documentEnd
  else if c == '[' then l.openFlow .flowList
  else if c == '\x7b' then l.openFlow .flowMap
  else if c == ']' then l.closeFlow .flowListEnd
  else if c == '\x7d' then l.closeFlow .flowMapEnd
  else if c == ',' then l.comma
  else if c == '-' && startsBlank rest then l.dash
  else if c == '?' && (l.inFlow || startsBlank rest) then l.key
  else if c == ':' && (l.inFlow || startsBlank rest) then l.value
  else if c == '*' then l.name .reference
  else if c == '&' then l.name .anchor
  else if c == '!' then l.tag
  else if c == '|' && !l.inFlow then l.blockScalar false
  else if c == '>' && !l.inFlow then l.blockScalar true
  else if c == '\'' then l.quotedScalar .single
  else if c == '"' then l.quotedScalar .double
  else if startsPlain l.inFlow c rest then l.plainScalar
  else .error .noToken

/-- The tokens of a text from a place on. Each step of `fuel` reads a token. -/
def finish : Nat → Layout → Except Error (List Token)
  | 0, _ => .error .noToken
  | fuel + 1, l => do
    let l ← l.settle
    match l.cursor.rest with
    | [] => return (.streamEnd :: (← l.closeAll).tokens).reverse
    | c :: rest => finish fuel (← l.next c rest)

end Layout

/-- The tokens of a text. -/
def Token.ofText (s : String) : Except Error (List Token) :=
  if s.toList.all isAllowed then (Layout.start s.toList).finish (s.toList.length + 1)
  else .error .forbiddenCharacter

end CertCatalog.Yaml
