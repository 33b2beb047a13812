import CertCatalog.Document
import CertCatalog.Number.Decimal
import CertCatalog.Yaml.Cursor

/-!
# Values of YAML scalars

A plain scalar is null, a Boolean, an integer or a floating-point number if it is written like one,
and a text otherwise. A quoted scalar is a text. A standard tag selects one reading.
-/

namespace CertCatalog.Yaml

/-- The start of the standard tags. -/
def standardTag (name : String) : String := "tag:yaml.org,2002:" ++ name

/-- The written forms of null besides the empty text. -/
def isNull (s : String) : Bool := ["null", "Null", "NULL", "~"].contains s

/-- The Boolean of its written forms. -/
def bool? (s : String) : Option Bool :=
  if ["true", "True", "TRUE"].contains s then some true
  else if ["false", "False", "FALSE"].contains s then some false
  else none

/-- Digits with a superfluous zero in front, which make a text. -/
def isZeroPadded (cs : List Char) : Bool :=
  let digits := (Decimal.splitSign cs).2
  1 < digits.length && digits.head? == some '0' && digits.all Char.isDigit

/-- The integer of digits with the mark of a base, if they are a whole number below `bound`. -/
def marked? (bound : Nat) : List Char → Option Nat
  | '0' :: mark :: digits =>
    match [('x', 16), ('o', 8), ('b', 2)].lookup mark with
    | some base => (Integer.natOfBase? base digits).filter (· < bound)
    | none => none
  | _ => none

/-- The integer of decimal digits below `bound`. -/
def decimal? (bound : Nat) (cs : List Char) : Option Nat :=
  if Decimal.isDigits cs then some (Decimal.ofDigits cs) |>.filter (· < bound) else none

/-- Digits after an optional plus sign, below `bound`. -/
def natural? (bound : Nat) (cs : List Char) : Option Nat :=
  let digits := match cs with
    | '+' :: rest => rest
    | _ => cs
  marked? bound digits <|> if isZeroPadded cs then none else decimal? bound digits

/-- Digits after a minus sign, up to `bound`. -/
def negated? (bound : Nat) : List Char → Option Nat
  | '-' :: digits =>
    marked? (bound + 1) digits <|>
      if isZeroPadded ('-' :: digits) then none else decimal? (bound + 1) digits
  | _ => none

/-- The integer of a text: none if it is no integer of 128 bits, and an error beyond 64 bits. -/
def int? (cs : List Char) : Option (Except Error Int) :=
  match natural? (Nat.pow 2 64) cs, negated? (Nat.pow 2 63) cs with
  | some n, _ => some (.ok n)
  | none, some n => some (.ok (-n))
  | none, none =>
    if (natural? (Nat.pow 2 128) cs).isSome || (negated? (Nat.pow 2 127) cs).isSome then
      some (.error .integerRange)
    else none

/-- The written forms of infinity and not-a-number. -/
def specialFloats : List (String × Binary64) :=
  [".inf", ".Inf", ".INF", "+.inf", "+.Inf", "+.INF"].map (·, .infinite false) ++
  ["-.inf", "-.Inf", "-.INF"].map (·, .infinite true) ++
  [".nan", ".NaN", ".NAN"].map (·, .nan)

/-- The floating-point number of a text. A number beyond the format is none. -/
def float? (s : String) : Option Binary64 :=
  specialFloats.lookup s <|>
    ((Decimal.float? s.toList).map Decimal.toBinary64).filter Binary64.isFinite

/-- The value of a plain scalar without a tag. -/
def plainValue (s : String) : Except Error Document :=
  if s.isEmpty || isNull s then .ok .null
  else
    match bool? s, int? s.toList with
    | some b, _ => .ok (.bool b)
    | none, some n => n.map .int
    | none, none =>
      if isZeroPadded s.toList then .ok (.text s)
      else .ok ((float? s).elim (.text s) .float)

/-- The value of a scalar with a full tag. -/
def taggedValue (tag s : String) : Except Error Document :=
  let orFail (d : Option Document) : Except Error Document :=
    match d with
    | some d => .ok d
    | none => .error .taggedScalar
  if tag.toList.head? == some '!' then .error .localTag
  else if tag == standardTag "bool" then orFail ((bool? s).map .bool)
  else if tag == standardTag "int" then
    match int? s.toList with
    | some n => n.map .int
    | none => .error .taggedScalar
  else if tag == standardTag "float" then orFail ((float? s).map .float)
  else if tag == standardTag "null" then orFail (if isNull s then some .null else none)
  else .ok (.text s)

/-- The value of a scalar. -/
def scalarValue (tag : Option String) (plain : Bool) (s : String) : Except Error Document :=
  match tag with
  | some tag => taggedValue tag s
  | none => if plain then plainValue s else .ok (.text s)

end CertCatalog.Yaml
