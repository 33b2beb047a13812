import CertCatalog.Number.Binary64
import CertCatalog.Number.Decimal

/-!
# JSON values

A JSON value is null, a Boolean, a number, a text, a list or an object. An object keeps its members
in the order of its text, and a name may occur more than once. Whole numbers are kept apart from the
numbers with a fraction or an exponent. A text stands between quotation marks. The quotation mark,
the backslash and the control characters are escaped. Reading also accepts the other escapes of the
format, where two units of four hexadecimal digits make up a character beyond the first 65536.
-/

namespace CertCatalog

/-! ### Values -/

/-- A JSON value. -/
inductive Json
  | null
  | bool (value : Bool)
  | int (value : Int)
  | float (value : Binary64)
  | text (value : String)
  | list (items : List Json)
  | object (members : List (String × Json))

namespace Json

/-- The members of an object, none of any other value. -/
def members : Json → List (String × Json)
  | object members => members
  | _ => []

/-- The first member of an object with a name. -/
def member? (j : Json) (name : String) : Option Json := j.members.lookup name

/-- The members of an object, without the absent ones. -/
def ofMembers (members : List (String × Option Json)) : Json :=
  object (members.filterMap fun (name, value) ↦ value.map (name, ·))

/-- A list of texts. -/
def texts (items : List String) : Json := list (items.map text)

/-- A natural number. -/
def nat (n : Nat) : Json := int n

/-! ### Equality -/

mutual

/-- Equality of values, part by part. -/
def same : Json → Json → Bool
  | null, null => true
  | bool a, bool b => a == b
  | int a, int b => a == b
  | float a, float b => a == b
  | text a, text b => a == b
  | list a, list b => sameItems a b
  | object a, object b => sameMembers a b
  | _, _ => false

/-- Equality of the items of two lists. -/
def sameItems : List Json → List Json → Bool
  | [], [] => true
  | a :: as, b :: bs => same a b && sameItems as bs
  | _, _ => false

/-- Equality of the members of two objects. -/
def sameMembers : List (String × Json) → List (String × Json) → Bool
  | [], [] => true
  | (m, a) :: as, (n, b) :: bs => m == n && same a b && sameMembers as bs
  | _, _ => false

end

mutual

theorem same_iff : (a b : Json) → (same a b = true ↔ a = b)
  | list as, b => by cases b <;> simp [same, sameItems_iff as]
  | object as, b => by cases b <;> simp [same, sameMembers_iff as]
  | null, b | bool _, b | int _, b | float _, b | text _, b => by cases b <;> simp [same]

theorem sameItems_iff : (as bs : List Json) → (sameItems as bs = true ↔ as = bs)
  | [], bs => by cases bs <;> simp [sameItems]
  | a :: as, bs => by cases bs <;> simp [sameItems, same_iff a, sameItems_iff as]

theorem sameMembers_iff :
    (as bs : List (String × Json)) → (sameMembers as bs = true ↔ as = bs)
  | [], bs => by cases bs <;> simp [sameMembers]
  | (m, a) :: as, bs => by
    cases bs <;> simp [sameMembers, same_iff a, sameMembers_iff as, Prod.ext_iff]

end

instance : DecidableEq Json := fun a b ↦ decidable_of_iff _ (same_iff a b)

/-! ### Quoted texts -/

/-- The short escapes: the letter after the backslash and its character. -/
def shortEscapes : List (Char × Char) :=
  [ ('"', '"'), ('\\', '\\'), ('b', '\x08'), ('t', '\t'), ('n', '\n'), ('f', '\x0c'), ('r', '\r') ]

/-- The letter that escapes a character. -/
def escapeLetter? (c : Char) : Option Char := (shortEscapes.find? (·.2 == c)).map (·.1)

/-- The character that an escape letter stands for. A slash may be escaped too. -/
def escapedChar? (letter : Char) : Option Char :=
  if letter = '/' then some '/' else shortEscapes.lookup letter

/-- A lowercase hexadecimal digit. -/
def hexDigit (n : Nat) : Char := Nat.digitChar (n % 16)

/-- Four hexadecimal digits of a number below 65536. -/
def hexUnit (n : Nat) : List Char :=
  [hexDigit (n / 4096), hexDigit (n / 256), hexDigit (n / 16), hexDigit n]

/-- A character inside a quoted text. -/
def writeChar (c : Char) : List Char :=
  match escapeLetter? c with
  | some letter => ['\\', letter]
  | none => if c.toNat < 0x20 then '\\' :: 'u' :: hexUnit c.toNat else [c]

/-- The characters of a quoted text between quotation marks. -/
def writeQuoted (cs : List Char) : List Char := '"' :: (cs.flatMap writeChar ++ ['"'])

/-- Why a quoted text cannot be read. -/
inductive QuotedError
  | endOfText
  | controlCharacter
  | invalidEscape
  | loneSurrogate
  deriving DecidableEq, Repr

/-- A unit of four hexadecimal digits in front of the rest. -/
def takeUnit? : List Char → Option (Nat × List Char)
  | a :: b :: c :: d :: cs => (Integer.natOfBase? 16 [a, b, c, d]).map (·, cs)
  | _ => none

/-- A unit of the first half of a pair. -/
def isLeading (unit : Nat) : Bool := 0xD800 ≤ unit && unit < 0xDC00

/-- A unit of the second half of a pair. -/
def isTrailing (unit : Nat) : Bool := 0xDC00 ≤ unit && unit < 0xE000

/-- The character of a pair of units. -/
def pairChar (leading trailing : Nat) : Char :=
  Char.ofNat (0x10000 + (leading - 0xD800) * 0x400 + (trailing - 0xDC00))

/-- The character of the units after an escape, and the rest. -/
def takeEscapedUnits (cs : List Char) : Except QuotedError (Char × List Char) :=
  match takeUnit? cs with
  | none => .error .invalidEscape
  | some (unit, rest) =>
    if isTrailing unit then .error .loneSurrogate
    else if isLeading unit then
      match rest with
      | '\\' :: 'u' :: cs =>
        match takeUnit? cs with
        | none => .error .invalidEscape
        | some (second, rest) =>
          if isTrailing second then .ok (pairChar unit second, rest) else .error .loneSurrogate
      | _ => .error .loneSurrogate
    else .ok (Char.ofNat unit, rest)

/-- The character after a backslash, and the rest. -/
def takeEscape : List Char → Except QuotedError (Char × List Char)
  | [] => .error .endOfText
  | 'u' :: cs => takeEscapedUnits cs
  | c :: cs =>
    match escapedChar? c with
    | some d => .ok (d, cs)
    | none => .error .invalidEscape

/-- The characters up to the closing quotation mark after the reversed `read`, and the rest. Each
step of `fuel` reads one character. -/
def takeQuotedFrom (read : List Char) : Nat → List Char → Except QuotedError (List Char × List Char)
  | 0, _ => .error .endOfText
  | _ + 1, [] => .error .endOfText
  | fuel + 1, c :: cs =>
    if c = '"' then .ok (read.reverse, cs)
    else if c = '\\' then
      match takeEscape cs with
      | .ok (d, rest) => takeQuotedFrom (d :: read) fuel rest
      | .error e => .error e
    else if c.toNat < 0x20 then .error .controlCharacter
    else takeQuotedFrom (c :: read) fuel cs

/-- The characters of a quoted text whose opening quotation mark is past, and the rest. -/
def takeQuoted (cs : List Char) : Except QuotedError (List Char × List Char) :=
  takeQuotedFrom [] cs.length cs

end Json
end CertCatalog
