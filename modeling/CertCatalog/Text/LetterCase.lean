import CertCatalog.Text.CaseTable
import CertCatalog.Text.Shorten

/-!
# Letter case

Full lower-casing maps every character of a text on its own, except that a capital sigma becomes the
final form at the end of a word. A comparison of names may fold the letters A to Z only. Slugs and
names that are read loosely are texts in lowercase.
-/

namespace CertCatalog.Text

/-! ### Lowercase -/

/-- Lowercase letter of a character beyond ASCII, or the character itself when it has none. -/
def tableLower (c : Char) : Char :=
  match lowercaseRuns.find? (·.covers c.toNat) with
  | some run => Char.ofNat (c.toNat + run.shift).toNat
  | none => c

/-- Lowercase form of one character without regard to its neighbours.
Only the dotted capital I has a form of two characters. -/
def lowerChar (c : Char) : List Char :=
  if c.toNat < 0x80 then [c.toLower]
  else if c = 'İ' then ['i', '\u0307']
  else [tableLower c]

/-- The first character that is not case-ignorable is a cased letter. -/
def meetsCased (cs : List Char) : Bool :=
  match cs.dropWhile (inRanges caseIgnorableRanges) with
  | [] => false
  | c :: _ => inRanges casedRanges c

/-- Lowercase sigma between the reversed text before it and the text after it. -/
def lowerSigma (before after : List Char) : Char :=
  if meetsCased before && !meetsCased after then 'ς' else 'σ'

/-- Lowercase of a text whose preceding characters, nearest first, are `before`. -/
def lowerFrom (before : List Char) : List Char → List Char
  | [] => []
  | c :: rest =>
    (if c = 'Σ' then [lowerSigma before rest] else lowerChar c) ++ lowerFrom (c :: before) rest

/-- Lowercase of a text given by its characters. -/
def lowerChars (cs : List Char) : List Char := lowerFrom [] cs

/-- Lowercase of a text. -/
def lower (s : String) : String := String.ofList (lowerChars s.toList)

@[simp] theorem toList_lower (s : String) : (lower s).toList = lowerChars s.toList :=
  String.toList_ofList

/-! ### ASCII letters -/

/-- Characters with the letters A to Z replaced by a to z. -/
def foldAscii (s : String) : List Char := s.toList.map Char.toLower

/-- Equality up to the case of ASCII letters. -/
def eqIgnoringAsciiCase (a b : String) : Bool := foldAscii a == foldAscii b

theorem eqIgnoringAsciiCase_eq_true_iff {a b : String} :
    eqIgnoringAsciiCase a b = true ↔ foldAscii a = foldAscii b := by
  simp [eqIgnoringAsciiCase]

theorem eqIgnoringAsciiCase_refl (a : String) : eqIgnoringAsciiCase a a = true := by
  simp [eqIgnoringAsciiCase]

/-! ### Named values -/

variable {α : Type}

/-- The first value with a name. -/
def named? (all : List α) (name : α → String) (s : String) : Option α :=
  all.find? fun a ↦ name a == s

/-- The first value whose name is the text, up to letter case and surrounding blanks. -/
def looselyNamed? (all : List α) (name : α → String) (s : String) : Option α :=
  named? all name (lower (trim s))

theorem name_of_named? {all : List α} {name : α → String} {s : String} {a : α}
    (h : named? all name s = some a) : name a = s := by
  simpa using List.find?_some h

/-! ### Slugs -/

/-- Slug of a text without a single ASCII letter or digit. -/
def emptySlug : String := "cert"

/-- Words of a slug: the runs of ASCII letters and digits of the lower-cased text. -/
def slugWords (s : String) : List (List Char) := runs Char.isAlphanum (lowerChars s.toList)

/-- Lowercase words of a text joined by hyphens. -/
def slug (s : String) : String :=
  match slugWords s with
  | [] => emptySlug
  | words => String.ofList (List.intercalate ['-'] words)

end CertCatalog.Text
