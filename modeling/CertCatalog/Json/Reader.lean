import CertCatalog.Json.Basic
import CertCatalog.Json.Number

/-!
# Reading JSON

A JSON text is one value with white space around its tokens. Lists and objects may be nested up to
a fixed depth.
-/

namespace CertCatalog.Json

/-- Why a text is not JSON. -/
inductive ReadError
  | endOfText
  | unexpected (c : Char)
  | number
  | quoted (cause : QuotedError)
  | tooDeep
  deriving DecidableEq, Repr

namespace ReadError

/-- The wording of an error. -/
def message : ReadError → String
  | endOfText => "the text ends inside a value"
  | unexpected c => "unexpected character " ++ String.singleton c
  | number => "number out of range or malformed"
  | quoted .endOfText => "the text ends inside a quoted text"
  | quoted .controlCharacter => "control character in a quoted text"
  | quoted .invalidEscape => "invalid escape"
  | quoted .loneSurrogate => "half of a surrogate pair"
  | tooDeep => "lists and objects are nested too deeply"

end ReadError

/-- The outcome of reading an item in front of the rest. -/
abbrev Reading (α : Type) := Except ReadError (α × List Char)

/-- White space between tokens. -/
def isSpace (c : Char) : Bool := c == ' ' || c == '\t' || c == '\n' || c == '\r'

/-- The characters after white space. -/
def skipSpace (cs : List Char) : List Char := cs.dropWhile isSpace

/-- Lists and objects inside each other that a text may have. -/
def maxDepth : Nat := 127

/-- The unexpected character in front, or the end of the text. -/
def unexpectedAt : List Char → ReadError
  | [] => .endOfText
  | c :: _ => .unexpected c

/-- A character after white space. -/
def expect (c : Char) (cs : List Char) : Except ReadError (List Char) :=
  match skipSpace cs with
  | d :: rest => if d = c then .ok rest else .error (.unexpected d)
  | [] => .error .endOfText

/-- A fixed word. -/
def expectWord (word : List Char) (value : Json) (cs : List Char) : Reading Json :=
  if word.isPrefixOf cs then .ok (value, cs.drop word.length)
  else .error (unexpectedAt (cs.drop 1))

/-- A quoted text whose opening quotation mark is past. -/
def quotedText (cs : List Char) : Reading String :=
  match takeQuoted cs with
  | .ok (chars, rest) => .ok (String.ofList chars, rest)
  | .error cause => .error (.quoted cause)

section Items

variable {α : Type} (item : List Char → Reading α) (close : Char)

/-- One or more items separated by commas up to the closing bracket. Each step of `fuel` reads one
item. -/
def moreItems : Nat → List Char → Reading (List α)
  | 0, _ => .error .endOfText
  | fuel + 1, cs =>
    match item cs with
    | .error e => .error e
    | .ok (a, rest) =>
      match skipSpace rest with
      | [] => .error .endOfText
      | c :: rest =>
        if c = close then .ok ([a], rest)
        else if c = ',' then
          match moreItems fuel rest with
          | .ok (as, rest) => .ok (a :: as, rest)
          | .error e => .error e
        else .error (.unexpected c)

/-- The items of a list or object whose opening bracket is past. -/
def items (cs : List Char) : Reading (List α) :=
  match skipSpace cs with
  | [] => .error .endOfText
  | c :: rest => if c = close then .ok ([], rest) else moreItems item close (cs.length + 1) cs

end Items

/-- A name and a value. -/
def member (value : List Char → Reading Json) (cs : List Char) : Reading (String × Json) :=
  (expect '"' cs).bind fun rest ↦
    (quotedText rest).bind fun (name, rest) ↦
      (expect ':' rest).bind fun rest ↦
        (value rest).map fun (v, rest) ↦ ((name, v), rest)

/-- A number. -/
def number (cs : List Char) : Reading Json :=
  match NumberText.take? cs with
  | none => .error .number
  | some (t, rest) =>
    match t.value? with
    | some v => .ok (v, rest)
    | none => .error .number

/-- A value that holds at most `room` lists and objects inside each other. -/
def value (room : Nat) (cs : List Char) : Reading Json :=
  match skipSpace cs with
  | [] => .error .endOfText
  | c :: rest =>
    if c = 'n' then expectWord "null".toList .null (c :: rest)
    else if c = 't' then expectWord "true".toList (.bool true) (c :: rest)
    else if c = 'f' then expectWord "false".toList (.bool false) (c :: rest)
    else if c = '"' then (quotedText rest).map fun (s, rest) ↦ (.text s, rest)
    else if c = '-' || c.isDigit then number (c :: rest)
    else if c = '[' then
      match room with
      | 0 => .error .tooDeep
      | room + 1 => (items (value room) ']' rest).map fun (vs, rest) ↦ (.list vs, rest)
    else if c = '\x7b' then
      match room with
      | 0 => .error .tooDeep
      | room + 1 =>
        (items (member (value room)) '\x7d' rest).map fun (ms, rest) ↦ (.object ms, rest)
    else .error (.unexpected c)

/-- The value of a JSON text. -/
def ofText (s : String) : Except ReadError Json := do
  let (v, rest) ← value maxDepth s.toList
  match skipSpace rest with
  | [] => return v
  | c :: _ => throw (.unexpected c)

end CertCatalog.Json
