import CertCatalog.Yaml.Cursor

/-!
# Block scalars

A block scalar holds the indented lines below its header. The header says whether lines are kept or
folded, how the line breaks at the end are kept, and optionally how far the lines are indented.
-/

namespace CertCatalog.Yaml.Block

/-- What happens to the line breaks at the end. -/
inductive Chomping
  | clip
  | strip
  | keep
  deriving DecidableEq, Repr

/-- The header behind the bar or angle bracket. -/
structure Header where
  chomping : Chomping
  increment : Option Nat
  deriving DecidableEq, Repr

/-- The chomping of a header character. -/
def chomping? (c : Char) : Option Chomping :=
  if c = '+' then some .keep else if c = '-' then some .strip else none

/-- A digit that is not zero in front, if there is a digit. -/
def takeIncrement (c : Cursor) : Except Error (Option Nat × Cursor) :=
  match c.rest with
  | d :: _ =>
    if d = '0' then .error .zeroIndent
    else if d.isDigit then .ok (some (d.toNat - '0'.toNat), c.skip 1)
    else .ok (none, c)
  | [] => .ok (none, c)

/-- A chomping character in front, if there is one. -/
def takeChomping (c : Cursor) : Option Chomping × Cursor :=
  match c.rest with
  | d :: _ => if (chomping? d).isSome then (chomping? d, c.skip 1) else (none, c)
  | [] => (none, c)

/-- The header in front, with its two parts in either order. -/
def takeHeader (c : Cursor) : Except Error (Header × Cursor) := do
  let (before, c) := takeChomping c
  let (increment, c) ← takeIncrement c
  let (after, c) := if before.isNone && increment.isSome then takeChomping c else (none, c)
  return (⟨(before <|> after).getD .clip, increment⟩, c)

/-- The line breaks in front of a line that is not empty, the greatest column met, and the place
there. Without a known indentation all spaces are skipped. -/
def takeBreaksFrom (indent : Option Nat) (breaks : List Char) (widest : Nat) :
    Nat → Cursor → Except Error (List Char × Nat × Cursor)
  | 0, c => .ok (breaks.reverse, widest, c)
  | fuel + 1, c =>
    let spaces := (c.rest.takeWhile (· == ' ')).length
    let c := c.skip ((indent.map fun n ↦ min spaces (n - c.column)).getD spaces)
    let widest := max widest c.column
    if c.rest.head? == some '\t' && (indent.map fun n ↦ decide (c.column < n)).getD true then
      .error .tabIndentation
    else
      match c.takeBreak? with
      | some (b, next) => takeBreaksFrom indent (b :: breaks) widest fuel next
      | none => .ok (breaks.reverse, widest, c)

/-- The line breaks in front of a line that is not empty, and the place there. -/
def takeBreaks (indent : Option Nat) (c : Cursor) : Except Error (List Char × Nat × Cursor) :=
  takeBreaksFrom indent [] 0 (c.rest.length + 1) c

/-- The line break at the end of the line before, and how that line began. -/
structure LineEnd where
  lineBreak : List Char
  startsBlank : Bool

/-- The text of the breaks between two lines. A folded line feed is a space or, next to empty lines,
nothing. -/
def joinLines (folded : Bool) (last : LineEnd) (breaks : List Char) (nextBlank : Bool) :
    List Char :=
  if folded && last.lineBreak == ['\n'] && !last.startsBlank && !nextBlank then
    if breaks.isEmpty then [' '] else breaks
  else last.lineBreak ++ breaks

/-- The lines of a block scalar after the reversed characters `read`, and the place after them. Each
step of `fuel` reads a line. -/
def takeLinesFrom (folded : Bool) (chomping : Chomping) (indent : Nat) (read : List Char)
    (last : LineEnd) (breaks : List Char) : Nat → Cursor → Except Error (List Char × Cursor)
  | 0, c => .ok (read.reverse, c)
  | fuel + 1, c =>
    if c.column = indent ∧ !c.rest.isEmpty then
      let nextBlank := c.rest.head?.any isGapChar
      let between := joinLines folded last breaks nextBlank
      let (line, c) := c.takeWhile (!isBreak ·)
      let read := (between ++ line).reverse ++ read
      let (lineBreak, c) := match c.takeBreak? with
        | some (b, next) => ([b], next)
        | none => ([], c)
      match takeBreaks (some indent) c with
      | .error e => .error e
      | .ok (breaks, _, c) =>
        takeLinesFrom folded chomping indent read ⟨lineBreak, nextBlank⟩ breaks fuel c
    else
      let kept := match chomping with
        | .strip => []
        | .clip => last.lineBreak
        | .keep => last.lineBreak ++ breaks
      .ok (read.reverse ++ kept, c)

/-- Column of the lines: that of the widest leading spaces, but further in than the block around
it. -/
def detectIndent (margin widest : Nat) : Nat := max widest (max margin 1)

/-- The characters of a block scalar whose bar or angle bracket is in front, and the place after it.
Lines stand at `margin` or further in. -/
def take (folded : Bool) (margin : Nat) (c : Cursor) : Except Error (List Char × Cursor) := do
  let (header, c) ← takeHeader (c.skip 1)
  let c := c.skipGap.skipComment
  if !startsBreak c.rest then throw .blockHeader
  let c := c.skipBreak
  let known := header.increment.map fun n ↦ margin - 1 + n
  let (breaks, widest, c) ← takeBreaks known c
  let indent := known.getD (detectIndent margin widest)
  takeLinesFrom folded header.chomping indent [] ⟨[], false⟩ breaks (c.rest.length + 1) c

end CertCatalog.Yaml.Block
