import CertCatalog.Text.CharacterClass

/-!
# Parts of texts

A text may occur in another, at any place or at its start. Trimming leaves the part between the
blanks at both ends, a test on characters splits a text into runs, and a text that is too long is
cut to a number of characters, the last of which is an ellipsis then.
-/

namespace CertCatalog.Text

/-! ### Substrings -/

/-- `part` occurs in a list as consecutive characters. -/
def occursIn (part : List Char) : List Char → Bool
  | [] => part.isEmpty
  | c :: cs => part.isPrefixOf (c :: cs) || occursIn part cs

/-- `part` occurs in `text` as consecutive characters. -/
def contains (text part : String) : Bool := occursIn part.toList text.toList

/-- `text` begins with `start`. -/
def startsWith (text start : String) : Bool := start.toList.isPrefixOf text.toList

/-- Occurrence in a list is the infix relation. -/
theorem occursIn_eq_true_iff {part cs : List Char} : occursIn part cs = true ↔ part <:+: cs := by
  induction cs with
  | nil => simp [occursIn]
  | cons c cs ih => simp [occursIn, ih, List.infix_cons_iff]

/-- Occurrence is the infix relation on characters. -/
theorem contains_eq_true_iff {text part : String} :
    contains text part = true ↔ part.toList <:+: text.toList :=
  occursIn_eq_true_iff

/-- A start is the relation of initial segments on characters. -/
theorem startsWith_eq_true_iff {text start : String} :
    startsWith text start = true ↔ start.toList <+: text.toList := by
  simp [startsWith]

/-! ### Trimming -/

/-- The characters from the first one that is not blank. -/
def trimStart (cs : List Char) : List Char := cs.dropWhile isBlank

/-- The characters up to the last one that is not blank. -/
def trimEnd (cs : List Char) : List Char := (cs.reverse.dropWhile isBlank).reverse

/-- The characters between the first and the last one that is not blank. -/
def trimChars (cs : List Char) : List Char := trimEnd (trimStart cs)

/-- A text without the blanks at its ends. -/
def trim (s : String) : String := String.ofList (trimChars s.toList)

@[simp] theorem toList_trim (s : String) : (trim s).toList = trimChars s.toList :=
  String.toList_ofList

/-! ### Runs of characters -/

/-- The maximal runs of consecutive characters that satisfy `keep`, in order. -/
def runs (keep : Char → Bool) : List Char → List (List Char)
  | [] => []
  | c :: cs =>
    if keep c then
      match cs.head?.any keep, runs keep cs with
      | true, run :: rest => (c :: run) :: rest
      | _, rest => [c] :: rest
    else runs keep cs

theorem ne_nil_of_mem_runs {keep : Char → Bool} {cs run : List Char} (h : run ∈ runs keep cs) :
    run ≠ [] := by
  induction cs generalizing run with
  | nil => simp [runs] at h
  | cons c cs ih =>
    unfold runs at h
    split at h
    · split at h
      · next r rest heq =>
        rcases List.mem_cons.mp h with rfl | h
        · exact List.cons_ne_nil _ _
        · exact ih (heq ▸ List.mem_cons_of_mem _ h)
      · rcases List.mem_cons.mp h with rfl | h
        · exact List.cons_ne_nil _ _
        · exact ih h
    · exact ih h

/-- The runs hold exactly the characters that satisfy the test, in order. -/
theorem flatten_runs (keep : Char → Bool) (cs : List Char) :
    (runs keep cs).flatten = cs.filter keep := by
  induction cs with
  | nil => rfl
  | cons c cs ih =>
    unfold runs
    split
    · next hc =>
      rw [List.filter_cons_of_pos hc, ← ih]
      split
      · next r rest heq => rw [heq]; rfl
      · simp
    · next hc => rw [ih, List.filter_cons_of_neg hc]

/-! ### Shortened texts -/

/-- A text of at most `width` characters, or its first `width - 1` and an ellipsis. -/
def shorten (width : Nat) (s : String) : String :=
  if s.length ≤ width then s
  else String.ofList (s.toList.take (width - 1) ++ ['…'])

/-- A text that fits is kept. -/
theorem shorten_of_length_le {width : Nat} {s : String} (h : s.length ≤ width) :
    shorten width s = s := by
  simp [shorten, h]

/-- A shortened text fits, when there is room for the ellipsis. -/
theorem length_shorten_le {width : Nat} (h : 0 < width) (s : String) :
    (shorten width s).length ≤ width := by
  unfold shorten
  split
  · assumption
  · simp only [String.length_ofList, List.length_append, List.length_take, List.length_singleton]
    omega

end CertCatalog.Text
