import CertCatalog.Yaml.Token

/-!
# YAML nodes

A node is a scalar, a list, a map or an alias of a node with an anchor. Scalars and collections may
carry a tag. Anchors are numbered, and a name that is defined again takes the number of the names so
far, which the next new name takes as well.
-/

namespace CertCatalog.Yaml

/-- The number of an anchor and the full tag of a node. -/
structure Properties where
  anchor : Option Nat
  tag : Option String
  deriving DecidableEq, Repr

/-- A node of a document. -/
inductive Node
  | scalar (properties : Properties) (plain : Bool) (text : String)
  | list (properties : Properties) (items : List Node)
  | map (properties : Properties) (entries : List (Node × Node))
  | reference (anchor : Nat)

namespace Node

/-- The empty scalar without properties. -/
def blank : Node := scalar ⟨none, none⟩ true ""

mutual

/-- Number of scalars, aliases, and beginnings and ends of collections. -/
def size : Node → Nat
  | scalar .. => 1
  | list _ items => 2 + itemsSize items
  | map _ entries => 2 + entriesSize entries
  | reference _ => 1

/-- Size of the items of a list. -/
def itemsSize : List Node → Nat
  | [] => 0
  | item :: rest => size item + itemsSize rest

/-- Size of the entries of a map. -/
def entriesSize : List (Node × Node) → Nat
  | [] => 0
  | (key, value) :: rest => size key + size value + entriesSize rest

end

/-- A node with its anchor, if it has one. -/
def anchorEntry (properties : Properties) (n : Node) : List (Nat × Node) :=
  match properties.anchor with
  | some anchor => [(anchor, n)]
  | none => []

mutual

/-- The nodes with anchors, in the order in which they begin. -/
def anchored : Node → List (Nat × Node)
  | scalar p plain text => anchorEntry p (scalar p plain text)
  | list p items => anchorEntry p (list p items) ++ itemsAnchored items
  | map p entries => anchorEntry p (map p entries) ++ entriesAnchored entries
  | reference _ => []

/-- The nodes with anchors in the items of a list. -/
def itemsAnchored : List Node → List (Nat × Node)
  | [] => []
  | item :: rest => anchored item ++ itemsAnchored rest

/-- The nodes with anchors in the entries of a map. -/
def entriesAnchored : List (Node × Node) → List (Nat × Node)
  | [] => []
  | (key, value) :: rest => anchored key ++ anchored value ++ entriesAnchored rest

end

end Node

/-- The tokens that are left of a document, the numbers of its anchor names, and what its tag
handles stand for. -/
structure Remaining where
  tokens : List Token
  anchors : List (String × Nat)
  handles : List (String × String)

/-- Reads a part of a document from its tokens. -/
abbrev Building := StateT Remaining (Except Error)

namespace Building

/-- The next token. -/
def peek : Building Token := do return (← get).tokens.head?.getD .streamEnd

/-- Passes the next token. -/
def skip : Building Unit := modify fun r ↦ { r with tokens := r.tokens.drop 1 }

/-- Passes the next token if it is the given one. -/
def accept (t : Token) : Building Bool := do
  if (← peek) = t then
    skip
    return true
  else return false

/-- The number of a name that is defined here. -/
def defineAnchor (name : String) : Building Nat := do
  let r ← get
  let number := r.anchors.length
  set { r with anchors := (name, number) :: r.anchors.filter (·.1 != name) }
  return number

/-- The full tag of a tag as written. -/
def resolveTag (t : TagText) : Building String := do
  if t.handle.isEmpty then return t.suffix
  else
    match (← get).handles.lookup t.handle with
    | some start => return start ++ t.suffix
    | none => throw .undefinedHandle

/-- A tag in front, if there is one. -/
def tag? : Building (Option TagText) := do
  match ← peek with
  | .tag t =>
    skip
    return some t
  | _ => return none

/-- An anchor in front, if there is one. -/
def anchor? : Building (Option String) := do
  match ← peek with
  | .anchor name =>
    skip
    return some name
  | _ => return none

/-- An anchor and a tag in front, in either order. -/
def properties : Building Properties := do
  let first ← tag?
  let anchor ← anchor?
  let second ← if first.isNone && anchor.isSome then tag? else pure none
  let tag ← (first <|> second).mapM resolveTag
  let anchor ← anchor.mapM defineAnchor
  return ⟨anchor, tag⟩

/-- A token behind which a value in a block is empty. -/
def endsBlockValue : Token → Bool
  | .key | .value | .blockEnd => true
  | _ => false

/-- A token behind which an item of a list without indentation is empty. -/
def endsIndentlessItem : Token → Bool
  | .dash | .key | .value | .blockEnd => true
  | _ => false

/-- A token behind which an item of an indented list is empty. -/
def endsBlockItem : Token → Bool
  | .dash | .blockEnd => true
  | _ => false

/-- A token behind which a value in brackets is empty. -/
def endsFlowValue (closing : Token) (t : Token) : Bool := t = .comma || t = closing

/-- A token behind which a key in brackets is empty. -/
def endsFlowKey (closing : Token) (t : Token) : Bool := t = .value || endsFlowValue closing t

/-- A scalar with its properties. The tag of a lone exclamation mark says nothing about it. -/
def scalarOf (p : Properties) (plain : Bool) (text : String) : Node :=
  .scalar ⟨p.anchor, p.tag.filter (· != "!")⟩ plain text

/-- A comma in front, except before the first item in brackets. -/
def separator (first : Bool) : Building Unit := do
  if first then return
  else if ← accept .comma then return
  else throw .expectedComma

/-- A node, or the empty scalar in front of a token that ends it. -/
def unlessBlank (isBlank : Token → Bool) (read : Building Node) : Building Node := do
  if isBlank (← peek) then return .blank else read

mutual

/-- A node. Collections in blocks are read where `block` is set, and lists at the column of the map
around them where `indentless` is set. -/
def node (block indentless : Bool) : Nat → Building Node
  | 0 => throw .expectedNode
  | fuel + 1 => do
    match ← peek with
    | .reference name =>
      skip
      match (← get).anchors.lookup name with
      | some anchor => return .reference anchor
      | none => throw .unknownAnchor
    | _ =>
      let p ← properties
      match ← peek with
      | .dash =>
        if indentless then return .list p (← indentlessItems fuel) else content p
      | .scalar plain text =>
        skip
        return scalarOf p plain text
      | .flowList =>
        skip
        return .list p (← flowItems true fuel)
      | .flowMap =>
        skip
        return .map p (← flowEntries true fuel)
      | .blockList =>
        if !block then content p
        else
          skip
          return .list p (← blockItems fuel)
      | .blockMap =>
        if !block then content p
        else
          skip
          return .map p (← blockEntries fuel)
      | _ => content p

/-- The empty scalar of some properties, which must not all be absent. -/
def content (p : Properties) : Building Node :=
  if p.anchor.isSome || p.tag.isSome then return .scalar p true "" else throw .expectedNode

/-- The items of an indented list. -/
def blockItems : Nat → Building (List Node)
  | 0 => throw .expectedDash
  | fuel + 1 => do
    if ← accept .blockEnd then return []
    else if ← accept .dash then
      let item ← unlessBlank endsBlockItem (node true false fuel)
      return item :: (← blockItems fuel)
    else throw .expectedDash

/-- The items of a list that stands at the column of the map around it. -/
def indentlessItems : Nat → Building (List Node)
  | 0 => throw .expectedDash
  | fuel + 1 => do
    if ← accept .dash then
      let item ← unlessBlank endsIndentlessItem (node true false fuel)
      return item :: (← indentlessItems fuel)
    else return []

/-- The entries of a map in a block. -/
def blockEntries : Nat → Building (List (Node × Node))
  | 0 => throw .expectedKey
  | fuel + 1 => do
    if ← accept .blockEnd then return []
    else if ← accept .key then
      let key ← unlessBlank endsBlockValue (node true true fuel)
      let value ←
        if ← accept .value then unlessBlank endsBlockValue (node true true fuel)
        else pure .blank
      return (key, value) :: (← blockEntries fuel)
    else throw .expectedKey

/-- The items of a list in brackets. An item may be a map of one entry. -/
def flowItems (first : Bool) : Nat → Building (List Node)
  | 0 => throw .expectedComma
  | fuel + 1 => do
    if ← accept .flowListEnd then return []
    else
      separator first
      if ← accept .flowListEnd then return []
      else if ← accept .key then
        let entry ← flowPair fuel
        return .map ⟨none, none⟩ [entry] :: (← flowItems false fuel)
      else
        let item ← node false false fuel
        return item :: (← flowItems false fuel)

/-- The only entry of a map in a list in brackets. The token behind an empty key is passed. -/
def flowPair : Nat → Building (Node × Node)
  | 0 => throw .expectedNode
  | fuel + 1 => do
    let key ←
      if endsFlowKey .flowListEnd (← peek) then
        skip
        pure Node.blank
      else node false false fuel
    let value ←
      if ← accept .value then
        unlessBlank (endsFlowValue .flowListEnd) (node false false fuel)
      else pure .blank
    return (key, value)

/-- The entries of a map in brackets. -/
def flowEntries (first : Bool) : Nat → Building (List (Node × Node))
  | 0 => throw .expectedComma
  | fuel + 1 => do
    if ← accept .flowMapEnd then return []
    else
      separator first
      if ← accept .flowMapEnd then return []
      else if ← accept .key then
        let key ← unlessBlank (endsFlowKey .flowMapEnd) (node false false fuel)
        let value ←
          if ← accept .value then
            unlessBlank (endsFlowValue .flowMapEnd) (node false false fuel)
          else pure .blank
        return (key, value) :: (← flowEntries false fuel)
      else
        let key ← node false false fuel
        return (key, .blank) :: (← flowEntries false fuel)

end

end Building
end CertCatalog.Yaml
