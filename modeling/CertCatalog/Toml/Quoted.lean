import CertCatalog.Number.Decimal

/-!
# TOML texts

A text stands between quotation marks, with escapes, or between apostrophes, as it is. Three marks
on either side make a text of several lines, whose first line break does not count and which may
hold one or two marks in a row, also at its end.
-/

namespace CertCatalog.Toml

/-- A space or a tab. -/
def isSpace (c : Char) : Bool := c == ' ' || c == '\t'

/-- The rest after spaces and tabs. -/
def skipSpace (cs : List Char) : List Char := cs.dropWhile isSpace

/-- A character that may stand in a comment or text: no control character but the tab. -/
def isPrinted (c : Char) : Bool := c == '\t' || (0x20 ≤ c.toNat && c.toNat != 0x7F)

/-- The rest after a line break, if there is one in front. -/
def takeBreak? : List Char → Option (List Char)
  | '\n' :: cs => some cs
  | '\r' :: '\n' :: cs => some cs
  | _ => none

/-- The rest after the spaces, tabs and line breaks in front. Each step of `fuel` passes one. -/
def skipBlank : Nat → List Char → List Char
  | 0, cs => cs
  | fuel + 1, cs =>
    match takeBreak? cs, cs with
    | some rest, _ => skipBlank fuel rest
    | none, c :: rest => if isSpace c then skipBlank fuel rest else c :: rest
    | none, [] => []

/-- The two kinds of texts. -/
inductive TextKind
  | basic
  | literal
  deriving DecidableEq, Repr

/-- The mark around a text. -/
def TextKind.mark : TextKind → Char
  | basic => '"'
  | literal => '\''

/-- Escape letters with the characters they stand for. -/
def escapes : List (Char × Char) :=
  [('b', '\x08'), ('t', '\t'), ('n', '\n'), ('f', '\x0c'), ('r', '\r'), ('"', '"'), ('\\', '\\')]

/-- The character of so many hexadecimal digits in front, and the rest. -/
def takeCode? (length : Nat) (cs : List Char) : Option (Char × List Char) := do
  let digits := cs.take length
  let code ← Integer.natOfBase? 16 digits
  if digits.length = length ∧ code.isValidChar then some (Char.ofNat code, cs.drop length) else none

/-- The character of an escape whose backslash is past, and the rest. -/
def takeEscape? : List Char → Option (Char × List Char)
  | 'u' :: cs => takeCode? 4 cs
  | 'U' :: cs => takeCode? 8 cs
  | c :: cs => (escapes.lookup c).map (·, cs)
  | [] => none

/-- The rest after the blanks that an escaped line break joins, if it is one. The backslash is
past. -/
def takeJoin? (cs : List Char) : Option (List Char) :=
  (takeBreak? (skipSpace cs)).map fun rest ↦ skipBlank rest.length rest

/-- The characters of a text up to its closing mark after the reversed `read`, and the rest. Each
step of `fuel` reads a character. -/
def takeLine? (kind : TextKind) (read : List Char) : Nat → List Char → Option (String × List Char)
  | 0, _ => none
  | _ + 1, [] => none
  | fuel + 1, c :: cs =>
    if c = kind.mark then some (String.ofList read.reverse, cs)
    else if kind = .basic ∧ c = '\\' then
      match takeEscape? cs with
      | some (d, rest) => takeLine? kind (d :: read) fuel rest
      | none => none
    else if isPrinted c then takeLine? kind (c :: read) fuel cs
    else none

/-- The characters of a text of several lines up to its closing marks after the reversed `read`, and
the rest. Each step of `fuel` reads a character or a run of marks. -/
def takeLines? (kind : TextKind) (read : List Char) : Nat → List Char → Option (String × List Char)
  | 0, _ => none
  | _ + 1, [] => none
  | fuel + 1, c :: cs =>
    if c = kind.mark then
      let marks := (c :: cs).takeWhile (· = kind.mark)
      let rest := (c :: cs).dropWhile (· = kind.mark)
      if marks.length < 3 then takeLines? kind (marks ++ read) fuel rest
      else if marks.length ≤ 5 then
        some (String.ofList (read.reverse ++ marks.drop 3), rest)
      else none
    else
      match takeBreak? (c :: cs) with
      | some rest => takeLines? kind ('\n' :: read) fuel rest
      | none =>
        if kind = .basic ∧ c = '\\' then
          match takeJoin? cs, takeEscape? cs with
          | some rest, _ => takeLines? kind read fuel rest
          | none, some (d, rest) => takeLines? kind (d :: read) fuel rest
          | none, none => none
        else if isPrinted c then takeLines? kind (c :: read) fuel cs
        else none

/-- The kind of text that a mark begins. -/
def textKind? (c : Char) : Option TextKind :=
  if c = '"' then some .basic else if c = '\'' then some .literal else none

/-- The text of one line whose mark is in front, and the rest. -/
def takeLineText? (cs : List Char) : Option (String × List Char) :=
  match cs with
  | c :: rest => (textKind? c).bind fun kind ↦ takeLine? kind [] cs.length rest
  | [] => none

/-- The text of one or several lines whose mark is in front, and the rest. -/
def takeText? (cs : List Char) : Option (String × List Char) :=
  match cs with
  | a :: b :: c :: rest =>
    if a = b ∧ b = c then
      (textKind? a).bind fun kind ↦ takeLines? kind [] cs.length ((takeBreak? rest).getD rest)
    else takeLineText? cs
  | _ => takeLineText? cs

end CertCatalog.Toml
