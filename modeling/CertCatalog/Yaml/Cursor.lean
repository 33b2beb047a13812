import CertCatalog.Text.Shorten

/-!
# Positions in a YAML text

A cursor is the rest of a text with its place: the number of characters before it, its line and its
column. Character classes and line breaks of YAML are defined here, and so are the reasons why a
text is not a YAML document that a catalog can use.
-/

namespace CertCatalog.Yaml

/-! ### Errors -/

/-- A cause for refusing a YAML text. -/
inductive Error
  | forbiddenCharacter
  | tabIndentation
  | noToken
  | missingColon
  | misplacedDash
  | misplacedKey
  | misplacedValue
  | flowColon
  | unclosedQuote
  | markerInQuote
  | unknownEscape
  | escapeCode
  | blockHeader
  | zeroIndent
  | directive
  | unknownDirective
  | repeatedDirective
  | version
  | anchorName
  | tag
  | undefinedHandle
  | expectedDash
  | expectedKey
  | expectedComma
  | expectedNode
  | expectedDocumentStart
  | severalDocuments
  | unknownAnchor
  | tooDeep
  | tooRepetitive
  | localTag
  | taggedScalar
  | integerRange
  | unexpectedShape
  deriving DecidableEq, Repr

/-- The wording of an error. -/
def Error.message : Error → String
  | forbiddenCharacter => "control characters are not allowed"
  | tabIndentation => "found a tab character that violates indentation"
  | noToken => "found a character that cannot start any token"
  | missingColon => "could not find an expected colon"
  | misplacedDash => "list entries are not allowed in this context"
  | misplacedKey => "map keys are not allowed in this context"
  | misplacedValue => "map values are not allowed in this context"
  | flowColon => "found an unexpected colon"
  | unclosedQuote => "the text ends inside a quoted scalar"
  | markerInQuote => "found a document marker inside a quoted scalar"
  | unknownEscape => "found an unknown escape character"
  | escapeCode => "found an invalid escape code"
  | blockHeader => "did not find an expected comment or line break"
  | zeroIndent => "found an indentation indicator equal to 0"
  | directive => "found a malformed directive"
  | unknownDirective => "found an unknown directive"
  | repeatedDirective => "found a repeated directive"
  | version => "found an incompatible document version"
  | anchorName => "found a malformed anchor"
  | tag => "found a malformed tag"
  | undefinedHandle => "found an undefined tag handle"
  | expectedDash => "did not find an expected dash"
  | expectedKey => "did not find an expected key"
  | expectedComma => "did not find an expected comma or bracket"
  | expectedNode => "did not find expected node content"
  | expectedDocumentStart => "did not find an expected document start"
  | severalDocuments => "more than one document"
  | unknownAnchor => "unknown anchor"
  | tooDeep => "nesting limit exceeded"
  | tooRepetitive => "repetition limit exceeded"
  | localTag => "local tags are not supported"
  | taggedScalar => "the scalar does not fit its tag"
  | integerRange => "integer out of range"
  | unexpectedShape => "the document does not have the expected fields"

/-! ### Cursors -/

/-- A character that a YAML text may hold. -/
def isAllowed (c : Char) : Bool :=
  let n := c.toNat
  n == 0x09 || n == 0x0A || n == 0x0D || (0x20 ≤ n && n ≤ 0x7E) || n == 0x85 ||
    (0xA0 ≤ n && n ≤ 0xD7FF) || (0xE000 ≤ n && n ≤ 0xFFFD) || 0x10000 ≤ n

/-- A space or a tab. -/
def isGapChar (c : Char) : Bool := c == ' ' || c == '\t'

/-- A character that breaks lines. -/
def isBreak (c : Char) : Bool :=
  c == '\r' || c == '\n' || c == '\u0085' || c == '\u2028' || c == '\u2029'

/-- A character of anchors, handles and directive names. -/
def isWordChar (c : Char) : Bool := c.isAlphanum || c == '_' || c == '-'

/-- The text begins with a space, a tab or a line break, or is empty. -/
def startsBlank : List Char → Bool
  | [] => true
  | c :: _ => isGapChar c || isBreak c

/-- The text begins with a line break or is empty. -/
def startsBreak : List Char → Bool
  | [] => true
  | c :: _ => isBreak c

/-- The rest of a text with its place. -/
structure Cursor where
  rest : List Char
  index : Nat
  line : Nat
  column : Nat
  deriving Repr

namespace Cursor

/-- The start of a text. -/
def start (cs : List Char) : Cursor := ⟨cs, 0, 0, 0⟩

/-- The place after `n` characters of the same line. -/
def skip (c : Cursor) (n : Nat) : Cursor := ⟨c.rest.drop n, c.index + n, c.line, c.column + n⟩

/-- The place at the start of the next line, after `n` characters of a line break. -/
def nextLine (c : Cursor) (n : Nat) : Cursor := ⟨c.rest.drop n, c.index + n, c.line + 1, 0⟩

/-- A line break in its written form, and the place after it. The breaks of ASCII and the next line
character are all written as a line feed. -/
def takeBreak? (c : Cursor) : Option (Char × Cursor) :=
  match c.rest with
  | '\r' :: '\n' :: _ => some ('\n', c.nextLine 2)
  | b :: _ =>
    if b == '\u2028' || b == '\u2029' then some (b, c.nextLine 1)
    else if isBreak b then some ('\n', c.nextLine 1)
    else none
  | [] => none

/-- The place after a line break, if one is there. -/
def skipBreak (c : Cursor) : Cursor :=
  match c.takeBreak? with
  | some (_, next) => next
  | none => c

/-- The characters in front that satisfy a test, none of which breaks a line, and the place after
them. -/
def takeWhile (c : Cursor) (keep : Char → Bool) : List Char × Cursor :=
  let taken := c.rest.takeWhile keep
  (taken, c.skip taken.length)

/-- The place after the characters that satisfy a test, none of which breaks a line. -/
def skipWhile (c : Cursor) (keep : Char → Bool) : Cursor := (c.takeWhile keep).2

/-- The place after spaces and tabs. -/
def skipGap (c : Cursor) : Cursor := c.skipWhile isGapChar

/-- The place at the end of the line. -/
def skipLine (c : Cursor) : Cursor := c.skipWhile (!isBreak ·)

/-- The place after a comment, if one is there. -/
def skipComment (c : Cursor) : Cursor := if c.rest.head? == some '#' then c.skipLine else c

/-- Three characters at the start of a line with a blank behind them. -/
def isAtMark (c : Cursor) (mark : Char) : Bool :=
  c.column == 0 && (c.rest.take 3 == [mark, mark, mark]) && startsBlank (c.rest.drop 3)

/-- A document marker. -/
def isAtMarker (c : Cursor) : Bool := c.isAtMark '-' || c.isAtMark '.'

end Cursor

/-- Spaces and tabs of a line, or the line breaks of several lines. -/
structure Gap where
  blanks : List Char
  breaks : List Char
  deriving Repr

namespace Gap

/-- Nothing. -/
def empty : Gap := ⟨[], []⟩

/-- The text of a gap inside a scalar: its blanks, a space for a single line feed, or all its line
breaks but a first line feed. -/
def fold (g : Gap) : List Char :=
  match g.breaks with
  | [] => g.blanks
  | ['\n'] => [' ']
  | '\n' :: more => more
  | breaks => breaks

/-- The gap in front, after the reversed parts of it, and the place after it. Blanks count only
before the first line break. Beyond it no tab may stand left of `margin`. -/
def takeFrom? (margin : Nat) (blanks breaks : List Char) (broken : Bool) :
    Nat → Cursor → Option (Gap × Cursor)
  | 0, c => some (⟨blanks.reverse, breaks.reverse⟩, c)
  | fuel + 1, c =>
    match c.takeBreak? with
    | some (b, next) => takeFrom? margin [] (b :: breaks) true fuel next
    | none =>
      match c.rest with
      | b :: _ =>
        if b == '\t' && broken && c.column < margin then none
        else if isGapChar b then
          takeFrom? margin (if broken then blanks else b :: blanks) breaks broken fuel (c.skip 1)
        else some (⟨blanks.reverse, breaks.reverse⟩, c)
      | [] => some (⟨blanks.reverse, breaks.reverse⟩, c)

/-- The gap in front, which may begin after a line break, and the place after it. -/
def take? (margin : Nat) (broken : Bool) (c : Cursor) : Option (Gap × Cursor) :=
  takeFrom? margin [] [] broken (c.rest.length + 1) c

end Gap
end CertCatalog.Yaml
