import CertCatalog.Json.Basic

/-!
# Documents

A document is a tree of scalars, lists and maps, whatever the format of its text. A map keeps its
entries in order, its keys may be any documents, and a key may occur more than once. A document with
a fixed list of keys is a map whose keys are names or positions in that list, or a list with one
item for each of them. Unknown keys are ignored, no known key may occur twice, and a null value
counts as absent.
-/

namespace CertCatalog

/-- A document. -/
inductive Document
  | null
  | bool (value : Bool)
  | int (value : Int)
  | float (value : Binary64)
  | text (value : String)
  | list (items : List Document)
  | map (entries : List (Document × Document))

namespace Document

mutual

/-- The document of a JSON value. -/
def ofJson : Json → Document
  | .null => null
  | .bool b => bool b
  | .int n => int n
  | .float x => float x
  | .text s => text s
  | .list items => list (ofJsonItems items)
  | .object members => map (ofJsonMembers members)

/-- The documents of the items of a list. -/
def ofJsonItems : List Json → List Document
  | [] => []
  | item :: rest => ofJson item :: ofJsonItems rest

/-- The map entries of the members of an object. -/
def ofJsonMembers : List (String × Json) → List (Document × Document)
  | [] => []
  | (name, value) :: rest => (text name, ofJson value) :: ofJsonMembers rest

end

/-- The documents of the items of a list, item by item. -/
theorem ofJsonItems_eq_map (items : List Json) : ofJsonItems items = items.map ofJson := by
  induction items with
  | nil => rfl
  | cons item rest ih => simp [ofJsonItems, ih]

/-! ### Fields -/

variable {α κ : Type}

/-- What the key of a map names: a key, nothing, or no admissible key. A number names nothing. -/
def namedKey? (keys : List κ) (label : κ → String) : Document → Option (Option κ)
  | text s => some (keys.find? fun key ↦ label key == s)
  | int n => if 0 ≤ n then some none else none
  | _ => none

/-- What the key of a map names or numbers: a key, nothing, or no admissible key. -/
def knownKey? (keys : List κ) (label : κ → String) : Document → Option (Option κ)
  | int n => if 0 ≤ n then some keys[n.toNat]? else none
  | d => namedKey? keys label d

/-- The values of the keys of a map, if every key is admissible. -/
def mapFields? (key? : Document → Option (Option κ)) :
    List (Document × Document) → Option (List (κ × Document))
  | [] => some []
  | (key, value) :: rest => do
    let known ← key? key
    let fields ← mapFields? key? rest
    return match known with
      | some key => (key, value) :: fields
      | none => fields

/-- The fields of a document in the order of its text. -/
def fields? (keys : List κ) (label : κ → String) : Document → Option (List (κ × Document))
  | map entries => mapFields? (knownKey? keys label) entries
  | list items => if items.length = keys.length then some (keys.zip items) else none
  | _ => none

/-- The value of a document that is not null, read in some way. -/
def present? (read : Document → Option α) : Document → Option (Option α)
  | null => some none
  | d => (read d).map some

end Document
end CertCatalog
