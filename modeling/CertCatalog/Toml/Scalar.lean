import CertCatalog.CalendarDate
import CertCatalog.Toml.Quoted

/-!
# TOML scalars

Integers of 64 bits, floating-point numbers, Booleans, and dates and times. Digits may be grouped by
underscores. A scalar is read from the front of a text, with the rest behind it.
-/

namespace CertCatalog.Toml

/-- A value: a scalar, a list, or a table. A date or time is kept as its standard text. -/
inductive Value
  | text (value : String)
  | int (value : Int)
  | float (value : Binary64)
  | bool (value : Bool)
  | date (text : String)
  | list (items : List Value)
  | table (entries : List (String × Value))

/-- Digits in front, with single underscores between them, and the rest. -/
def takeDigitsFrom (isDigit : Char → Bool) : List Char → List Char × List Char
  | [] => ([], [])
  | '_' :: c :: cs =>
    if isDigit c then
      let (digits, rest) := takeDigitsFrom isDigit cs
      (c :: digits, rest)
    else ([], '_' :: c :: cs)
  | c :: cs =>
    if isDigit c then
      let (digits, rest) := takeDigitsFrom isDigit cs
      (c :: digits, rest)
    else ([], c :: cs)

/-- Digits in front, at least one, and the rest. No underscore stands at either end. -/
def takeDigits? (isDigit : Char → Bool) : List Char → Option (List Char × List Char)
  | [] => none
  | c :: cs =>
    if isDigit c then
      let (digits, rest) := takeDigitsFrom isDigit cs
      if rest.head? = some '_' then none else some (c :: digits, rest)
    else none

/-- The digits of a whole number without zeros in front, and the rest. -/
def takeWhole? : List Char → Option (List Char × List Char)
  | '0' :: cs => some (['0'], cs)
  | cs => takeDigits? Char.isDigit cs

/-- The base of a mark behind a zero, and its digits. -/
def base? (mark : Char) : Option (Nat × (Char → Bool)) :=
  [ ('x', 16, fun c ↦ (Integer.digitValue? c).isSome),
    ('o', 8, fun c ↦ '0' ≤ c && c ≤ '7'),
    ('b', 2, fun c ↦ c == '0' || c == '1') ].lookup mark

/-- An integer of 64 bits. -/
def int64? (n : Int) : Option Value := if Integer.isInt64 n then some (.int n) else none

/-- An integer with a base mark in front, and the rest. -/
def takeMarked? : List Char → Option (Value × List Char)
  | '0' :: mark :: cs => do
    let (base, isDigit) ← base? mark
    let (digits, rest) ← takeDigits? isDigit cs
    let n ← Integer.natOfBase? base digits
    return (← int64? n, rest)
  | _ => none

/-- The fraction and exponent of a number in front, at least one of them, and the rest. -/
def takeFloatEnd? (cs : List Char) : Option (List Char × Int × List Char) := do
  let (fraction, rest) ← match cs with
    | '.' :: cs => takeDigits? Char.isDigit cs
    | cs => some ([], cs)
  match rest with
  | c :: cs =>
    if c = 'e' ∨ c = 'E' then
      let (negative, cs) := Decimal.splitSign cs
      let (digits, rest) ← takeDigits? Char.isDigit cs
      let size : Int := Decimal.ofDigits digits
      return (fraction, if negative then -size else size, rest)
    else if fraction.isEmpty then none
    else return (fraction, 0, rest)
  | [] => if fraction.isEmpty then none else return (fraction, 0, [])

/-- A number that is no positive infinity. -/
def boundedFloat? (x : Binary64) : Option Value :=
  if x = .infinite false then none else some (.float x)

/-- A number in front, and the rest. -/
def takeNumber? (cs : List Char) : Option (Value × List Char) :=
  let (negative, body) := Decimal.splitSign cs
  if "inf".toList.isPrefixOf body then some (.float (.infinite negative), body.drop 3)
  else if "nan".toList.isPrefixOf body then some (.float .nan, body.drop 3)
  else if (takeMarked? cs).isSome then takeMarked? cs
  else do
    let (whole, rest) ← takeWhole? body
    match takeFloatEnd? rest with
    | some (fraction, exponent, rest) =>
      let d : Decimal :=
        ⟨negative, Decimal.ofDigits (whole ++ fraction), exponent - fraction.length⟩
      return (← boundedFloat? d.toBinary64, rest)
    | none =>
      let size : Int := Decimal.ofDigits whole
      return (← int64? (if negative then -size else size), rest)

/-- So many digits in front, and the rest. -/
def takeFixed? (width : Nat) (cs : List Char) : Option (Nat × List Char) :=
  let digits := cs.take width
  if digits.length = width ∧ digits.all Char.isDigit then
    some (Decimal.ofDigits digits, cs.drop width)
  else none

/-- A character in front, and the rest. -/
def takeChar? (c : Char) : List Char → Option (List Char)
  | d :: cs => if d = c then some cs else none
  | [] => none

/-- A day in front, and the rest. -/
def takeDay? (cs : List Char) : Option (List Char × List Char) := do
  let (year, rest) ← takeFixed? 4 cs
  let rest ← takeChar? '-' rest
  let (month, rest) ← takeFixed? 2 rest
  let rest ← takeChar? '-' rest
  let (day, rest) ← takeFixed? 2 rest
  let date ← CalendarDate.ofFields? year month day
  return (date.toText.toList, rest)

/-- The fraction of a second in front, if there is one, and the rest. Nine digits count, and zeros
at their end do not. -/
def takeSecondFraction (cs : List Char) : List Char × List Char :=
  match cs with
  | '.' :: rest =>
    let digits := rest.takeWhile Char.isDigit
    if digits.isEmpty then ([], cs)
    else
      let kept := ((digits.take 9).reverse.dropWhile (· == '0')).reverse
      (if kept.isEmpty then [] else '.' :: kept, rest.drop digits.length)
  | _ => ([], cs)

/-- A time of day in front, and the rest. -/
def takeTime? (cs : List Char) : Option (List Char × List Char) := do
  let (hour, rest) ← takeFixed? 2 cs
  let rest ← takeChar? ':' rest
  let (minute, rest) ← takeFixed? 2 rest
  let rest ← takeChar? ':' rest
  let (second, rest) ← takeFixed? 2 rest
  let (fraction, rest) := takeSecondFraction rest
  if 23 < hour ∨ 59 < minute ∨ 60 < second then none
  else return (cs.take 8 ++ fraction, rest)

/-- The offset of a time zone in front, if there is one, and the rest. -/
def takeOffset? (cs : List Char) : Option (List Char × List Char) :=
  match cs with
  | c :: rest =>
    if c = 'Z' ∨ c = 'z' then some (['Z'], rest)
    else if c = '+' ∨ c = '-' then do
      let (hour, rest) ← takeFixed? 2 rest
      let rest ← takeChar? ':' rest
      let (minute, rest) ← takeFixed? 2 rest
      if 23 < hour ∨ 59 < minute then none
      else
        let sign := if hour = 0 ∧ minute = 0 then '+' else c
        return (sign :: (cs.drop 1).take 5, rest)
    else some ([], cs)
  | [] => some ([], [])

/-- A character between day and time. -/
def isTimeMark (c : Char) : Bool := c == 'T' || c == 't' || c == ' '

/-- A date or time in front, and the rest. -/
def takeDate? (cs : List Char) : Option (Value × List Char) :=
  match takeDay? cs with
  | none => (takeTime? cs).map fun (time, rest) ↦ (.date (String.ofList time), rest)
  | some (day, rest) =>
    let alone : Value × List Char := (.date (String.ofList day), rest)
    match rest with
    | c :: behind =>
      if !isTimeMark c then some alone
      else
        match takeTime? behind with
        | none => some alone
        | some (time, rest) =>
          (takeOffset? rest).map fun (offset, rest) ↦
            (.date (String.ofList (day ++ 'T' :: time ++ offset)), rest)
    | [] => some alone

/-- A word with its value in front, and the rest. -/
def takeWord? (cs : List Char) : Option (Value × List Char) :=
  if "true".toList.isPrefixOf cs then some (.bool true, cs.drop 4)
  else if "false".toList.isPrefixOf cs then some (.bool false, cs.drop 5)
  else none

/-- A scalar in front, and the rest. -/
def takeScalar? (cs : List Char) : Option (Value × List Char) :=
  match takeText? cs with
  | some (s, rest) => some (.text s, rest)
  | none => takeDate? cs <|> takeNumber? cs <|> takeWord? cs

end CertCatalog.Toml
