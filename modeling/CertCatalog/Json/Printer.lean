import CertCatalog.Json.Basic
import CertCatalog.Number.Decimal
import CertCatalog.Number.Layout

/-!
# Writing JSON

A JSON value is written on one line, or with every item of a list or object on a line of its own,
two spaces further in. Numbers that are not finite are written as null.
-/

namespace CertCatalog.Json

/-- The way items are laid out. -/
inductive Layout
  | compact
  | pretty
  deriving DecidableEq, Repr

namespace Layout

/-- Start of a line at a depth, nothing in a compact text. -/
def newline (layout : Layout) (depth : Nat) : List Char :=
  match layout with
  | compact => []
  | pretty => '\n' :: List.replicate (2 * depth) ' '

/-- Between a name and its value. -/
def colon : Layout → List Char
  | compact => [':']
  | pretty => [':', ' ']

/-- Written items between brackets, at the depth outside them. -/
def brackets (layout : Layout) (depth : Nat) (opening closing : Char) (items : List (List Char)) :
    List Char :=
  if items.isEmpty then [opening, closing]
  else
    opening :: (List.intercalate [','] (items.map (layout.newline (depth + 1) ++ ·)) ++
      layout.newline depth ++ [closing])

end Layout

/-- A number, null when it is not finite. -/
def writeFloat (x : Binary64) : List Char := (x.scientific?.getD "null").toList

mutual

/-- A value at a depth. -/
def write (layout : Layout) (depth : Nat) : Json → List Char
  | .null => "null".toList
  | .bool b => (if b then "true" else "false").toList
  | .int n => (Integer.toText n).toList
  | .float x => writeFloat x
  | .text s => writeQuoted s.toList
  | .list items => layout.brackets depth '[' ']' (writeItems layout (depth + 1) items)
  | .object members =>
    layout.brackets depth '\x7b' '\x7d' (writeMembers layout (depth + 1) members)

/-- The items of a list at a depth. -/
def writeItems (layout : Layout) (depth : Nat) : List Json → List (List Char)
  | [] => []
  | item :: rest => write layout depth item :: writeItems layout depth rest

/-- The members of an object at a depth. -/
def writeMembers (layout : Layout) (depth : Nat) : List (String × Json) → List (List Char)
  | [] => []
  | (name, value) :: rest =>
    (writeQuoted name.toList ++ layout.colon ++ write layout depth value) ::
      writeMembers layout depth rest

end

/-- The text of a value. -/
def toText (layout : Layout) (v : Json) : String := String.ofList (write layout 0 v)

end CertCatalog.Json
