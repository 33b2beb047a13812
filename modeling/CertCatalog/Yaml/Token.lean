import CertCatalog.Number.Decimal
import CertCatalog.Yaml.Cursor

/-!
# YAML tokens

Tokens are indicators, scalars, and the properties and directives that are written in words: tags,
anchors and aliases, and the version and tag handles of a document.
-/

namespace CertCatalog.Yaml

/-- A tag as written: a handle and what follows it. The handle of a full tag is empty. -/
structure TagText where
  handle : String
  suffix : String
  deriving DecidableEq, Repr

/-- A token. The starts and ends of blocks have no characters of their own. -/
inductive Token
  | streamEnd
  | version (major minor : Nat)
  | tagHandle (name start : String)
  | documentStart
  | documentEnd
  | blockList
  | blockMap
  | blockEnd
  | flowList
  | flowListEnd
  | flowMap
  | flowMapEnd
  | dash
  | comma
  | key
  | value
  | reference (name : String)
  | anchor (name : String)
  | tag (text : TagText)
  | scalar (plain : Bool) (text : String)
  deriving DecidableEq, Repr

namespace Token

/-- Characters that may follow the name of an anchor. -/
def nameEnds : List Char := ['?', ':', ',', ']', '\x7d', '%', '@', '\x60']

/-- The name behind the indicator of an anchor or alias in front, and the place after it. -/
def takeName (c : Cursor) : Except Error (String × Cursor) :=
  let (name, next) := (c.skip 1).takeWhile isWordChar
  if name.isEmpty || !(startsBlank next.rest || next.rest.head?.any nameEnds.contains) then
    .error .anchorName
  else .ok (String.ofList name, next)

/-- Characters of a tag besides words. -/
def tagChars : List Char :=
  [';', '/', '?', ':', '@', '&', '=', '+', '$', '.', '!', '~', '*', '\'', '(', ')']

/-- Brackets and the comma, which belong to a tag only where no collection can end it. -/
def enclosedTagChars : List Char := [',', '[', ']']

/-- A character of a tag. -/
def isTagChar (enclosed : Bool) (c : Char) : Bool :=
  isWordChar c || tagChars.contains c || (enclosed && enclosedTagChars.contains c)

/-- An escaped octet in front, and the place after it. -/
def takeOctet? (c : Cursor) : Option (Nat × Cursor) :=
  match c.rest with
  | '%' :: a :: b :: _ => (Integer.natOfBase? 16 [a, b]).map (·, c.skip 3)
  | _ => none

/-- Number of octets of a character, given its first octet, and the bits of that. -/
def octetLead? (octet : Nat) : Option (Nat × Nat) :=
  if octet < 0x80 then some (1, octet)
  else if 0xC0 ≤ octet ∧ octet < 0xE0 then some (2, octet - 0xC0)
  else if 0xE0 ≤ octet ∧ octet < 0xF0 then some (3, octet - 0xE0)
  else if 0xF0 ≤ octet ∧ octet < 0xF8 then some (4, octet - 0xF0)
  else none

/-- The remaining octets of a character after the bits that are known. -/
def takeOctets? (bits : Nat) : Nat → Cursor → Option (Nat × Cursor)
  | 0, c => some (bits, c)
  | n + 1, c => do
    let (octet, c) ← takeOctet? c
    if 0x80 ≤ octet ∧ octet < 0xC0 then takeOctets? (64 * bits + (octet - 0x80)) n c else none

/-- A character written as escaped octets, and the place after it. -/
def takeEscapedChar? (c : Cursor) : Option (Char × Cursor) := do
  let (octet, c) ← takeOctet? c
  let (count, bits) ← octetLead? octet
  let (code, c) ← takeOctets? bits (count - 1) c
  return (Char.ofNat code, c)

/-- The characters of a tag in front after the reversed `read`, and the place after them. -/
def takeTagCharsFrom (enclosed : Bool) (read : List Char) :
    Nat → Cursor → Except Error (List Char × Cursor)
  | 0, c => .ok (read.reverse, c)
  | fuel + 1, c =>
    match c.rest with
    | [] => .ok (read.reverse, c)
    | d :: _ =>
      if d == '%' then
        match takeEscapedChar? c with
        | some (e, next) => takeTagCharsFrom enclosed (e :: read) fuel next
        | none => .error .tag
      else if isTagChar enclosed d then takeTagCharsFrom enclosed (d :: read) fuel (c.skip 1)
      else .ok (read.reverse, c)

/-- The characters of a tag in front, and the place after them. -/
def takeTagChars (enclosed : Bool) (c : Cursor) : Except Error (List Char × Cursor) :=
  takeTagCharsFrom enclosed [] (c.rest.length + 1) c

/-- The characters of a tag in front, at least one, and the place after them. -/
def takeSomeTagChars (enclosed : Bool) (c : Cursor) : Except Error (List Char × Cursor) := do
  let (chars, c) ← takeTagChars enclosed c
  if chars.isEmpty then throw .tag else return (chars, c)

/-- The handle in front: an exclamation mark, and a word with or without a second one. -/
def takeHandle (c : Cursor) : Except Error (List Char × Cursor) :=
  match c.rest with
  | '!' :: _ =>
    let (word, next) := (c.skip 1).takeWhile isWordChar
    if next.rest.head? == some '!' then .ok ('!' :: (word ++ ['!']), next.skip 1)
    else .ok ('!' :: word, next)
  | _ => .error .tag

/-- The handle is enclosed in exclamation marks. -/
def isNamedHandle (handle : List Char) : Bool := 1 < handle.length && handle.getLast? == some '!'

/-- The tag in front, not counting what must follow it, and the place after it. A lone exclamation
mark is a full tag. -/
def takeTagText (c : Cursor) : Except Error (TagText × Cursor) :=
  match c.rest with
  | '!' :: '<' :: _ => do
    let (chars, c) ← takeSomeTagChars true (c.skip 2)
    if c.rest.head? == some '>' then return (⟨"", String.ofList chars⟩, c.skip 1) else throw .tag
  | _ => do
    let (handle, c) ← takeHandle c
    if isNamedHandle handle then
      let (chars, c) ← takeSomeTagChars false c
      return (⟨String.ofList handle, String.ofList chars⟩, c)
    else
      let (chars, c) ← takeTagChars false c
      let suffix := handle.drop 1 ++ chars
      if suffix.isEmpty then return (⟨"", "!"⟩, c) else return (⟨"!", String.ofList suffix⟩, c)

/-- The tag in front, and the place after it. A blank follows it, or a comma inside brackets. -/
def takeTag (inFlow : Bool) (c : Cursor) : Except Error (Token × Cursor) := do
  let (text, c) ← takeTagText c
  if startsBlank c.rest || (inFlow && c.rest.head? == some ',') then return (.tag text, c)
  else throw .tag

/-- Greatest number of digits in a version. -/
def maxVersionDigits : Nat := 9

/-- A version number in front, and the place after it. -/
def takeVersionNumber (c : Cursor) : Except Error (Nat × Cursor) :=
  let (digits, next) := c.takeWhile Char.isDigit
  if digits.isEmpty || maxVersionDigits < digits.length then .error .directive
  else .ok (Decimal.ofDigits digits, next)

/-- The value of a version directive: two numbers with a point between them. -/
def takeVersion (c : Cursor) : Except Error (Token × Cursor) := do
  let (major, c) ← takeVersionNumber c.skipGap
  if c.rest.head? != some '.' then throw .directive
  let (minor, c) ← takeVersionNumber (c.skip 1)
  return (.version major minor, c)

/-- The value of a tag directive: a handle and what it stands for. -/
def takeHandleValue (c : Cursor) : Except Error (Token × Cursor) := do
  let (handle, c) ← takeHandle c.skipGap
  if !(handle == ['!'] || isNamedHandle handle) then throw .directive
  if !c.rest.head?.any isGapChar then throw .directive
  let (start, c) ← takeSomeTagChars true c.skipGap
  if !startsBlank c.rest then throw .directive
  return (.tagHandle (String.ofList handle) (String.ofList start), c)

/-- The directive in front, and the place after its line. -/
def takeDirective (c : Cursor) : Except Error (Token × Cursor) := do
  let (name, c) := (c.skip 1).takeWhile isWordChar
  if name.isEmpty || !startsBlank c.rest then throw .directive
  let (token, c) ←
    if name == "YAML".toList then takeVersion c
    else if name == "TAG".toList then takeHandleValue c
    else throw .unknownDirective
  let c := c.skipGap.skipComment
  if startsBreak c.rest then return (token, c.skipBreak) else throw .directive

end Token
end CertCatalog.Yaml
