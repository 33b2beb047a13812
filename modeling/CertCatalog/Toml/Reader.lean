import CertCatalog.Toml.Table

/-!
# Reading TOML

A text is a sequence of lines: values under dotted keys, headers of tables and of tables of a list,
comments and empty lines.
-/

namespace CertCatalog.Toml

/-- Greatest number of parts of a key, and of lists and tables inside each other. -/
def maxDepth : Nat := 79

/-- A character of a key without quotes. -/
def isKeyChar (c : Char) : Bool := c.isAlphanum || c == '-' || c == '_'

/-- One part of a key in front, and the rest. -/
def takeKeyPart? (cs : List Char) : Option (String × List Char) :=
  match cs with
  | c :: _ =>
    if (textKind? c).isSome then takeLineText? cs
    else
      let word := cs.takeWhile isKeyChar
      if word.isEmpty then none else some (String.ofList word, cs.dropWhile isKeyChar)
  | [] => none

/-- The parts of a key in front, after those already read, and the rest. Each step of `fuel` reads a
part. -/
def takeKeyFrom? (read : List String) : Nat → List Char → Option (List String × List Char)
  | 0, _ => none
  | fuel + 1, cs =>
    match takeKeyPart? (skipSpace cs) with
    | none => none
    | some (part, rest) =>
      match skipSpace rest with
      | '.' :: rest => takeKeyFrom? (part :: read) fuel rest
      | rest => some ((part :: read).reverse, rest)

/-- A dotted key: the parts before the last one, and the last one. -/
structure Key where
  path : List String
  last : String
  deriving DecidableEq, Repr

/-- A key in front with spaces around its parts, and the rest. -/
def takeKey? (cs : List Char) : Option (Key × List Char) :=
  match takeKeyFrom? [] maxDepth cs with
  | some (parts, rest) => parts.getLast?.map fun last ↦ (⟨parts.dropLast, last⟩, rest)
  | none => none

/-- The rest behind a comment, if one is in front. -/
def skipComment : List Char → List Char
  | '#' :: cs => cs.dropWhile isPrinted
  | cs => cs

/-- The rest behind spaces, line breaks and comments. Each step of `fuel` passes a line. -/
def skipLines : Nat → List Char → List Char
  | 0, cs => cs
  | fuel + 1, cs =>
    let cs := skipSpace cs
    match takeBreak? (skipComment cs) with
    | some rest => skipLines fuel rest
    | none => cs

/-- The rest behind the end of a line: spaces, a comment, and a line break or the end of the
text. -/
def takeLineEnd? (cs : List Char) : Option (List Char) :=
  let cs := skipComment (skipSpace cs)
  if cs.isEmpty then some [] else takeBreak? cs

section Collections

variable (value : List Char → Option (Value × List Char))

/-- The items of a list up to its closing bracket, and the rest. Each step of `fuel` reads an
item. -/
def takeItems? : Nat → List Char → Option (List Value × List Char)
  | 0, _ => none
  | fuel + 1, cs =>
    match skipLines cs.length cs with
    | ']' :: rest => some ([], rest)
    | cs => do
      let (v, rest) ← value cs
      match skipLines rest.length rest with
      | ']' :: rest => return ([v], rest)
      | ',' :: rest =>
        let (items, rest) ← takeItems? fuel rest
        return (v :: items, rest)
      | _ => none

/-- A value behind a key and an equals sign, and the rest. -/
def takePair? (cs : List Char) : Option (Key × Value × List Char) := do
  let (key, rest) ← takeKey? cs
  match rest with
  | '=' :: rest =>
    let (v, rest) ← value (skipSpace rest)
    return (key, v, rest)
  | _ => none

/-- The entries of a table in braces up to the closing one, and the rest. No comma stands behind the
last one. Each step of `fuel` reads an entry. -/
def takeEntries? (entries : Entries) : Nat → List Char → Option (Entries × List Char)
  | 0, _ => none
  | fuel + 1, cs => do
    let (key, v, rest) ← takePair? value cs
    let entries ← entries.add? key.path key.last v
    match skipSpace rest with
    | '\x7d' :: rest => return (entries, rest)
    | ',' :: rest => takeEntries? entries fuel rest
    | _ => none

end Collections

/-- A value that holds fewer than `room` lists and tables inside each other, and the rest. -/
def takeValue? : Nat → List Char → Option (Value × List Char)
  | 0, _ => none
  | room + 1, cs =>
    match cs with
    | '[' :: rest =>
      (takeItems? (takeValue? room) cs.length rest).map fun (items, rest) ↦ (.list items, rest)
    | '\x7b' :: rest =>
      match skipSpace rest with
      | '\x7d' :: rest => some (.table [], rest)
      | rest =>
        (takeEntries? (takeValue? room) [] cs.length rest).map fun (entries, rest) ↦
          (.table (entriesToValues entries), rest)
    | cs => takeScalar? cs

/-- A growing document: its entries and the table of the last header. -/
structure Draft where
  entries : Entries
  table : List String

/-- The draft after a header, which names its table by a key. -/
def Draft.afterHeader? (d : Draft) (key : Key)
    (add : List String → String → Entries → Option Entries) : Option Draft :=
  (add key.path key.last d.entries).map fun entries ↦ ⟨entries, key.path ++ [key.last]⟩

/-- The draft after the line in front, and the rest. -/
def takeLineOf? (d : Draft) (cs : List Char) : Option (Draft × List Char) :=
  match cs with
  | '[' :: '[' :: rest => do
    let (key, rest) ← takeKey? rest
    match rest with
    | ']' :: ']' :: rest => return (← d.afterHeader? key Entries.openListed?, ← takeLineEnd? rest)
    | _ => none
  | '[' :: rest => do
    let (key, rest) ← takeKey? rest
    match rest with
    | ']' :: rest => return (← d.afterHeader? key Entries.openTable?, ← takeLineEnd? rest)
    | _ => none
  | cs => do
    let (key, v, rest) ← takePair? (takeValue? (maxDepth + 1)) cs
    let entries ← d.entries.addAt? d.table key.path key.last v
    return (⟨entries, d.table⟩, ← takeLineEnd? rest)

/-- The entries of the rest of a text. Each step of `fuel` reads a line. -/
def readFrom? (d : Draft) : Nat → List Char → Option Entries
  | 0, _ => none
  | fuel + 1, cs =>
    match skipLines cs.length cs with
    | [] => some d.entries
    | '#' :: rest => if (rest.dropWhile isPrinted).isEmpty then some d.entries else none
    | cs =>
      match takeLineOf? d cs with
      | some (d, rest) => readFrom? d fuel rest
      | none => none

/-- The text without a byte order mark in front. -/
def dropMark : List Char → List Char
  | '\uFEFF' :: cs => cs
  | cs => cs

/-- The entries of a text. -/
def ofText? (s : String) : Option (List (String × Value)) :=
  (readFrom? ⟨[], []⟩ (s.toList.length + 1) (dropMark s.toList)).map entriesToValues

end CertCatalog.Toml
