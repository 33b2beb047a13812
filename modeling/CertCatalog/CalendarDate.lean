import CertCatalog.Number.Decimal
import CertCatalog.Text.Shorten

/-!
# Calendar dates

Days of the proleptic Gregorian calendar. A date text holds ten bytes once trimmed: a year, a month
and a day separated by hyphens. Blanks may stand before each number, the year may carry a sign, and
the month and day may have one digit.
-/

namespace CertCatalog

namespace CalendarDate

/-- A leap year. -/
def isLeapYear (year : Int) : Bool := year % 4 == 0 && (year % 100 != 0 || year % 400 == 0)

/-- Number of days of a month, zero outside the year. -/
def daysInMonth (year : Int) (month : Nat) : Nat :=
  if month = 2 then (if isLeapYear year then 29 else 28)
  else if month = 4 ∨ month = 6 ∨ month = 9 ∨ month = 11 then 30
  else if 1 ≤ month ∧ month ≤ 12 then 31
  else 0

end CalendarDate

/-- A day that exists in the calendar. -/
structure CalendarDate where
  year : Int
  month : Nat
  day : Nat
  day_pos : 1 ≤ day
  day_le : day ≤ CalendarDate.daysInMonth year month
  deriving DecidableEq, Repr

namespace CalendarDate

/-- The day of a month, if the calendar has it. -/
def ofFields? (year : Int) (month day : Nat) : Option CalendarDate :=
  if h : 1 ≤ day ∧ day ≤ daysInMonth year month then some ⟨year, month, day, h.1, h.2⟩ else none

/-- A number of one to `width` digits after blanks, and the rest. -/
def takeNumber? (width : Nat) (cs : List Char) : Option (Nat × List Char) :=
  let cs := Text.trimStart cs
  let digits := (cs.take width).takeWhile Char.isDigit
  if digits.isEmpty then none else some (Decimal.ofDigits digits, cs.drop digits.length)

/-- A year after blanks: up to four digits, or a sign and any number of digits right after it. -/
def takeYear? (cs : List Char) : Option (Int × List Char) :=
  let cs := Text.trimStart cs
  let signed (rest : List Char) : Option (Nat × List Char) :=
    let digits := rest.takeWhile Char.isDigit
    if digits.isEmpty then none else some (Decimal.ofDigits digits, rest.drop digits.length)
  match cs with
  | '-' :: rest => (signed rest).map fun (n, rest) ↦ (-(n : Int), rest)
  | '+' :: rest => (signed rest).map fun (n, rest) ↦ ((n : Int), rest)
  | cs => (takeNumber? 4 cs).map fun (n, rest) ↦ ((n : Int), rest)

/-- A hyphen before the rest. -/
def takeHyphen? : List Char → Option (List Char)
  | '-' :: cs => some cs
  | _ => none

/-- Year, month and day in a row, with nothing behind them. -/
def ofChars? (cs : List Char) : Option CalendarDate := do
  let (year, cs) ← takeYear? cs
  let cs ← takeHyphen? cs
  let (month, cs) ← takeNumber? 2 cs
  let cs ← takeHyphen? cs
  let (day, cs) ← takeNumber? 2 cs
  if cs.isEmpty then ofFields? year month day else none

/-- Bytes of a date text. -/
def textSize : Nat := 10

/-- The date of a text, which must have ten bytes once trimmed. -/
def ofText? (s : String) : Option CalendarDate :=
  let s := Text.trim s
  if s.utf8ByteSize = textSize then ofChars? s.toList else none

/-- Decimal digits of a number with zeros in front up to a width. -/
def padded (width n : Nat) : List Char :=
  let digits := Nat.toDigits 10 n
  List.replicate (width - digits.length) '0' ++ digits

/-- Year, month and day with hyphens. Years outside 0 to 9999 carry a sign. -/
def toText (d : CalendarDate) : String :=
  let sign := if d.year < 0 then ['-'] else if 9999 < d.year then ['+'] else []
  String.ofList (sign ++ padded 4 d.year.natAbs ++ '-' :: padded 2 d.month ++ '-' :: padded 2 d.day)

end CalendarDate
end CertCatalog
