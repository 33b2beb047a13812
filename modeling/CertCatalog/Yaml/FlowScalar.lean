import CertCatalog.Number.Decimal
import CertCatalog.Yaml.Cursor

/-!
# Plain and quoted scalars

A scalar without quotes ends before a colon with a blank behind it, before a comment, and where a
line is indented less than its block. Inside brackets it also ends before a comma or a bracket.

A scalar between quotes may span lines, which are folded into one. Between single quotes a quote is
written twice. Between double quotes a backslash introduces an escape, and a backslash at the end of
a line joins it to the next.
-/

namespace CertCatalog.Yaml.Plain

/-- Characters that end a plain scalar inside brackets. -/
def flowEnds : List Char := [',', '[', ']', '\x7b', '\x7d']

/-- Characters that must not follow a colon inside a plain scalar in brackets. -/
def flowClashes : List Char := [',', '?', '[', ']', '\x7b', '\x7d']

/-- Number of characters in front that belong to a word of a plain scalar. -/
def wordLength (inFlow : Bool) : List Char → Except Error Nat
  | [] => .ok 0
  | c :: cs =>
    if isGapChar c || isBreak c then .ok 0
    else if inFlow && c == ':' && cs.head?.any flowClashes.contains then .error .flowColon
    else if (c == ':' && startsBlank cs) || (inFlow && flowEnds.contains c) then .ok 0
    else (wordLength inFlow cs).map (· + 1)

/-- The text of a plain scalar, whether it ends after a line break, and the place after it. -/
structure Taken where
  chars : List Char
  afterBreak : Bool
  next : Cursor

/-- The rest of a plain scalar after its reversed characters `read` and a gap. Each step of `fuel`
reads a word. -/
def takeFrom (inFlow : Bool) (margin : Nat) (read : List Char) (gap : Gap) :
    Nat → Cursor → Except Error Taken
  | 0, c => .ok ⟨read.reverse, !gap.breaks.isEmpty, c⟩
  | fuel + 1, c =>
    let ended : Except Error Taken := .ok ⟨read.reverse, !gap.breaks.isEmpty, c⟩
    if c.isAtMarker || c.rest.head? == some '#' then ended
    else
      match wordLength inFlow c.rest with
      | .error e => .error e
      | .ok 0 => ended
      | .ok n =>
        let read := (gap.fold ++ c.rest.take n).reverse ++ read
        let c := c.skip n
        match Gap.take? margin false c with
        | none => .error .tabIndentation
        | some (gap, next) =>
          if !inFlow && next.column < margin then .ok ⟨read.reverse, !gap.breaks.isEmpty, next⟩
          else takeFrom inFlow margin read gap fuel next

/-- The plain scalar in front. Outside brackets its lines stand at `margin` or further in. -/
def take (inFlow : Bool) (margin : Nat) (c : Cursor) : Except Error Taken :=
  takeFrom inFlow margin [] .empty (c.rest.length + 1) c

end CertCatalog.Yaml.Plain

namespace CertCatalog.Yaml.Quoted

/-- The two kinds of quotes. -/
inductive Kind
  | single
  | double
  deriving DecidableEq, Repr

/-- The character of a kind. -/
def Kind.quote : Kind → Char
  | single => '\''
  | double => '"'

/-- Escape letters with the characters they stand for. -/
def escapes : List (Char × Char) :=
  [ ('0', '\x00'), ('a', '\x07'), ('b', '\x08'), ('t', '\t'), ('\t', '\t'), ('n', '\n'),
    ('v', '\x0b'), ('f', '\x0c'), ('r', '\r'), ('e', '\x1b'), (' ', ' '), ('"', '"'), ('/', '/'),
    ('\\', '\\'), ('N', '\u0085'), ('_', '\u00a0'), ('L', '\u2028'), ('P', '\u2029') ]

/-- Number of hexadecimal digits behind an escape letter. -/
def codeLength? (letter : Char) : Option Nat :=
  [('x', 2), ('u', 4), ('U', 8)].lookup letter

/-- A code point that is no surrogate. -/
def charOfCode? (n : Nat) : Option Char := if n.isValidChar then some (Char.ofNat n) else none

/-- The character of an escape whose letter is in front, and the place after it. -/
def takeEscape (c : Cursor) : Except Error (Char × Cursor) :=
  match c.rest with
  | [] => .error .unknownEscape
  | letter :: rest =>
    match escapes.lookup letter, codeLength? letter with
    | some d, _ => .ok (d, c.skip 1)
    | none, some n =>
      let digits := rest.take n
      match (Integer.natOfBase? 16 digits).bind charOfCode? with
      | some d => if digits.length = n then .ok (d, c.skip (n + 1)) else .error .escapeCode
      | none => .error .escapeCode
    | none, none => .error .unknownEscape

/-- The characters up to the closing quote after the reversed `read`, and the place after it. Each
step of `fuel` reads a character or a gap. -/
def takeFrom (kind : Kind) (read : List Char) : Nat → Cursor → Except Error (List Char × Cursor)
  | 0, _ => .error .unclosedQuote
  | fuel + 1, c =>
    let gap (broken : Bool) (c : Cursor) : Except Error (List Char × Cursor) :=
      match Gap.take? 0 broken c with
      | some (g, next) =>
        let text := if broken then g.breaks else g.fold
        takeFrom kind (text.reverse ++ read) fuel next
      | none => .error .tabIndentation
    if c.isAtMarker then .error .markerInQuote
    else
      match c.rest with
      | [] => .error .unclosedQuote
      | d :: rest =>
        if d = kind.quote then
          if kind = .single ∧ rest.head? = some d then takeFrom kind (d :: read) fuel (c.skip 2)
          else .ok (read.reverse, c.skip 1)
        else if isGapChar d || isBreak d then gap false c
        else if kind = .double ∧ d = '\\' then
          match (c.skip 1).takeBreak? with
          | some (_, next) => gap true next
          | none =>
            match takeEscape (c.skip 1) with
            | .ok (e, next) => takeFrom kind (e :: read) fuel next
            | .error e => .error e
        else takeFrom kind (d :: read) fuel (c.skip 1)

/-- The characters of a scalar whose opening quote is in front, and the place after it. -/
def take (kind : Kind) (c : Cursor) : Except Error (List Char × Cursor) :=
  takeFrom kind [] c.rest.length (c.skip 1)

end CertCatalog.Yaml.Quoted
