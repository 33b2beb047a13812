import CertCatalog.Document
import CertCatalog.Yaml.Layout
import CertCatalog.Yaml.Node
import CertCatalog.Yaml.Scalar

/-!
# YAML documents

A text holds at most one document: directives, a start marker, the root node and end markers, all of
them optional. Directives need the start marker.

A node becomes a document by giving its scalars their values and putting the anchored nodes in the
place of their aliases. Nesting is limited, and so is the number of aliases that are replaced, in
proportion to the size of the text. A text with a fixed list of keys is a map whose keys are
scalars, each the text of its scalar, whatever its tag. An empty text has no fields, and the values
of unknown keys are not looked at.
-/

namespace CertCatalog.Yaml

/-! ### Texts of one document -/

/-- The document of a text: its root, which an empty text does not have. -/
structure Tree where
  root : Option Node

namespace Tree

/-- The handles that every document knows. -/
def standardHandles : List (String × String) := [("!", "!"), ("!!", "tag:yaml.org,2002:")]

/-- Directives in front of a document. -/
structure Directives where
  hasVersion : Bool
  handles : List (String × String)

/-- A version that can be read. -/
def isKnownVersion (major minor : Nat) : Bool := major == 1 && (minor == 1 || minor == 2)

/-- The directives in front of other tokens, after those already read. -/
def takeDirectives (read : Directives) : List Token → Except Error (Directives × List Token)
  | .version major minor :: rest =>
    if read.hasVersion then .error .repeatedDirective
    else if !isKnownVersion major minor then .error .version
    else takeDirectives { read with hasVersion := true } rest
  | .tagHandle name start :: rest =>
    if read.handles.any (·.1 == name) then .error .repeatedDirective
    else takeDirectives { read with handles := (name, start) :: read.handles } rest
  | rest => .ok (read, rest)

/-- A token that begins a document with directives or a start marker. -/
def startsExplicit : Token → Bool
  | .version .. | .tagHandle .. | .documentStart => true
  | _ => false

/-- A token behind which a document is empty. -/
def endsDocument : Token → Bool
  | .version .. | .tagHandle .. | .documentStart | .documentEnd | .streamEnd => true
  | _ => false

/-- The root node of the tokens behind the start of a document. -/
def readRoot (explicit : Bool) : Building Node := do
  let fuel := 2 * (← get).tokens.length + 2
  if explicit && endsDocument (← Building.peek) then return .blank
  else Building.node true false fuel

/-- The tree of tokens behind the start of a document. Nothing but end markers may follow the
document. -/
def ofContent (explicit : Bool) (handles : List (String × String)) (tokens : List Token) :
    Except Error Tree := do
  let (n, rest) ← (readRoot explicit).run ⟨tokens, [], handles ++ standardHandles⟩
  match rest.tokens.dropWhile (· = .documentEnd) with
  | [] | .streamEnd :: _ => return ⟨some n⟩
  | t :: _ => if startsExplicit t then throw .severalDocuments else throw .expectedDocumentStart

/-- The tree of the tokens of a text. -/
def ofTokens : List Token → Except Error Tree
  | [] | .streamEnd :: _ => .ok ⟨none⟩
  | t :: rest =>
    if startsExplicit t then do
      let (directives, behind) ← takeDirectives ⟨false, []⟩ (t :: rest)
      match behind with
      | .documentStart :: tokens => ofContent true directives.handles tokens
      | _ => throw .expectedDocumentStart
    else ofContent false [] (t :: rest)

/-- The tree of a text. -/
def ofText (s : String) : Except Error Tree := do ofTokens (← Token.ofText s)

end Tree

/-! ### Expanded aliases -/

/-- Greatest depth of collections inside each other. -/
def maxDepth : Nat := 128

/-- Aliases that may be replaced for each part of a document. -/
def aliasesPerPart : Nat := 100

/-- What nodes are expanded with: the nodes with anchors, and the number of aliases that may be
replaced. -/
structure Expansion where
  anchored : List (Nat × Node)
  aliasLimit : Nat

namespace Expansion

/-- Counts the aliases that have been replaced. -/
abbrev Counting := StateT Nat (Except Error)

/-- The expansion of a document with a root. -/
def ofRoot (root : Node) : Expansion where
  anchored := root.anchored
  aliasLimit := aliasesPerPart * root.size

/-- The last node with the number of an anchor. -/
def target? (x : Expansion) (anchor : Nat) : Option Node := x.anchored.reverse.lookup anchor

/-- A node, or the node that an alias stands for. -/
def resolve (x : Expansion) : Node → Counting Node
  | .reference anchor => do
    let replaced := (← get) + 1
    set replaced
    if x.aliasLimit < replaced then throw .tooRepetitive
    match x.target? anchor with
    | some n => return n
    | none => throw .unknownAnchor
  | n => return n

/-- The tag of a collection is none of the document's own. -/
def checkTag (p : Properties) : Except Error Unit :=
  if p.tag.any fun tag ↦ tag.toList.head? == some '!' then .error .localTag else .ok ()

/-- The document of a node that holds at most `room` collections inside each other. -/
def document (x : Expansion) (room : Nat) (n : Node) : Counting Document := do
  match ← x.resolve n with
  | .scalar p plain text => scalarValue p.tag plain text
  | .reference _ => throw .unknownAnchor
  | .list p items =>
    checkTag p
    match room with
    | 0 => throw .tooDeep
    | room + 1 => return .list (← items.mapM fun item ↦ document x room item)
  | .map p entries =>
    checkTag p
    match room with
    | 0 => throw .tooDeep
    | room + 1 =>
      return .map (← entries.mapM fun (key, value) ↦ do
        return (← document x room key, ← document x room value))

end Expansion

/-- The document of a text, null for an empty one. -/
def documentOfText (s : String) : Except Error Document := do
  match (← Tree.ofText s).root with
  | none => return .null
  | some root => ((Expansion.ofRoot root).document maxDepth root).run' 0

/-! ### Fields -/

variable {κ : Type}

/-- The text of a key. -/
def keyText (x : Expansion) (n : Node) : Expansion.Counting String := do
  match ← x.resolve n with
  | .scalar _ _ text => return text
  | _ => throw .unexpectedShape

/-- The document of a field. A quoted scalar is never null. -/
def fieldDocument (x : Expansion) (n : Node) : Expansion.Counting Document := do
  let n ← x.resolve n
  match ← x.document (maxDepth - 1) n, n with
  | .null, .scalar _ false _ => throw .taggedScalar
  | d, _ => return d

/-- The fields of a map. -/
def mapFields (x : Expansion) (keys : List κ) (label : κ → String) :
    List (Node × Node) → Expansion.Counting (List (κ × Document))
  | [] => return []
  | (key, value) :: rest => do
    let text ← keyText x key
    match keys.find? fun key ↦ label key == text with
    | some key =>
      let d ← fieldDocument x value
      return (key, d) :: (← mapFields x keys label rest)
    | none => mapFields x keys label rest

/-- The fields of a root node. -/
def rootFields (x : Expansion) (keys : List κ) (label : κ → String) :
    Node → Expansion.Counting (List (κ × Document))
  | .map _ entries => mapFields x keys label entries
  | .list .. => throw .unexpectedShape
  | .scalar _ plain text => if plain && text.isEmpty then return [] else throw .unexpectedShape
  | .reference _ => throw .unexpectedShape

/-- The fields of a text in its order. -/
def fieldsOfText (keys : List κ) (label : κ → String) (s : String) :
    Except Error (List (κ × Document)) := do
  match (← Tree.ofText s).root with
  | none => return []
  | some root => (rootFields (.ofRoot root) keys label root).run' 0

/-- The fields of a text, read as a whole. -/
def readFields {α : Type} (keys : List κ) (label : κ → String)
    (read : List (κ × Document) → Option α) (s : String) : Except Error α := do
  match read (← fieldsOfText keys label s) with
  | some a => return a
  | none => throw .unexpectedShape

end CertCatalog.Yaml
