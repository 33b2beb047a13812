import CertCatalog.Number.Layout

/-!
# Number tests

A filter value may be a test on numbers: a comparison such as `<=1000`, a range such as
`300..1200`, or a plain number, which means equality. The bounds of a range may stand in either
order.
-/

namespace CertCatalog.Query

/-- The relation of a comparison. -/
inductive Comparator
  | lt
  | le
  | eq
  | ge
  | gt
  deriving DecidableEq, Repr

namespace Comparator

/-- The written form of a relation. -/
def symbol : Comparator → String
  | lt => "<"
  | le => "<="
  | eq => "="
  | ge => ">="
  | gt => ">"

/-- The relation holds between a number and the number it is compared with. -/
def holds (op : Comparator) (x bound : Binary64) : Bool :=
  match op with
  | lt => Binary64.lt x bound
  | le => Binary64.le x bound
  | eq => Binary64.eq x bound
  | ge => Binary64.le bound x
  | gt => Binary64.lt bound x

end Comparator

/-- A comparison with a number, or a range with its bounds as written. -/
inductive NumberTest
  | compare (op : Comparator) (bound : Binary64)
  | range (first second : Binary64)
  deriving DecidableEq

namespace NumberTest

/-- A number passes a test. -/
def accepts : NumberTest → Binary64 → Bool
  | compare op bound, x => op.holds x bound
  | range first second, x =>
    Binary64.le (.min first second) x && Binary64.le x (.max first second)

/-- The written form of a test. -/
def toText : NumberTest → String
  | compare op bound => op.symbol ++ bound.positional
  | range first second => first.positional ++ ".." ++ second.positional

/-- The number of a plain decimal text. -/
def number? (cs : List Char) : Option Binary64 := (Decimal.plain? cs).map Decimal.toBinary64

/-- The texts before and after the first two points in a row. -/
def splitRange? : List Char → Option (List Char × List Char)
  | [] => none
  | '.' :: '.' :: cs => some ([], cs)
  | c :: cs => (splitRange? cs).map fun (before, after) ↦ (c :: before, after)

/-- A relation in front of the rest. -/
def takeComparator? : List Char → Option (Comparator × List Char)
  | '<' :: '=' :: cs => some (.le, cs)
  | '>' :: '=' :: cs => some (.ge, cs)
  | '=' :: cs => some (.eq, cs)
  | '<' :: cs => some (.lt, cs)
  | '>' :: cs => some (.gt, cs)
  | _ => none

/-- The range of a text with two points in a row. -/
def range? (cs : List Char) : Option NumberTest := do
  let (before, after) ← splitRange? cs
  let first ← number? before
  let second ← number? after
  return range first second

/-- The test that a text writes. -/
def ofChars? (cs : List Char) : Option NumberTest :=
  match takeComparator? cs with
  | some (op, rest) => (number? rest).map (compare op)
  | none => range? cs <|> (number? cs).map (compare .eq)

/-- The test that a text writes. -/
def ofText? (s : String) : Option NumberTest := ofChars? s.toList

end NumberTest
end CertCatalog.Query
