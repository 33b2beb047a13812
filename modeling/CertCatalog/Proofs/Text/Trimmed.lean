import CertCatalog.Text.CharacterClass
import CertCatalog.Text.Shorten
import Mathlib.Data.List.DropRight

/-!
# Trimmed texts

Trimming takes blanks from both ends and nothing else, so a trimmed text stays as it is. A text
without any blank, such as a row of digits, is trimmed.
-/

namespace CertCatalog.Text

/-! ### Characters that are not blank -/

theorem isBlank_of_isDecimalDigit {c : Char} (h : isDecimalDigit c = true) : isBlank c = false :=
  inRanges_disjoint (by decide) h

theorem isBlank_of_isDigit {c : Char} (h : c.isDigit = true) : isBlank c = false :=
  isBlank_of_isDecimalDigit (isDecimalDigit_of_isDigit h)

/-! ### Texts -/

/-- A text begins with a character that is not blank when there is nothing to drop in front. -/
theorem trimStart_cons_eq_self_iff {c : Char} {cs : List Char} :
    trimStart (c :: cs) = c :: cs ↔ isBlank c = false := by
  simp [trimStart, List.dropWhile_eq_self_iff]

theorem trimStart_trimChars (cs : List Char) : trimStart (trimChars cs) = trimChars cs := by
  cases h : trimChars cs with
  | nil => rfl
  | cons c rest =>
    obtain ⟨behind, happend⟩ : c :: rest <+: trimStart cs := h ▸ List.rdropWhile_prefix _ _
    have hself : trimStart (trimStart cs) = trimStart cs := List.dropWhile_idempotent _ _
    rw [← happend, List.cons_append, trimStart_cons_eq_self_iff] at hself
    exact trimStart_cons_eq_self_iff.mpr hself

@[simp] theorem trimChars_trimChars (cs : List Char) : trimChars (trimChars cs) = trimChars cs := by
  have hend : trimEnd (trimChars cs) = trimChars cs := List.rdropWhile_idempotent _ _
  rw [trimChars, trimStart_trimChars, hend]

@[simp] theorem trim_trim (s : String) : trim (trim s) = trim s := by
  rw [trim, toList_trim, trimChars_trimChars, trim]

/-- A text is trimmed when neither its first nor its last character is blank. -/
theorem trimChars_eq_self_iff {cs : List Char} :
    trimChars cs = cs ↔
      (∀ c ∈ cs.head?, isBlank c = false) ∧ ∀ c ∈ cs.getLast?, isBlank c = false := by
  have hstart : trimStart cs = cs ↔ ∀ c ∈ cs.head?, isBlank c = false := by
    cases cs with
    | nil => simp [trimStart]
    | cons c cs => simp [trimStart_cons_eq_self_iff]
  have hend : trimEnd cs = cs ↔ ∀ c ∈ cs.getLast?, isBlank c = false := by
    show cs.rdropWhile isBlank = cs ↔ _
    rw [List.rdropWhile_eq_self_iff]
    by_cases hnil : cs = []
    · simp [hnil]
    · simp [hnil, List.getLast?_eq_some_getLast hnil]
  rw [← hstart, ← hend]
  constructor
  · intro h
    have hself : trimStart cs = cs := by
      rw [← h]
      exact trimStart_trimChars cs
    rw [trimChars, hself] at h
    exact ⟨hself, h⟩
  · rintro ⟨hself, h⟩
    rw [trimChars, hself, h]

theorem trimChars_eq_self {cs : List Char} (h : ∀ c ∈ cs, isBlank c = false) :
    trimChars cs = cs := by
  apply trimChars_eq_self_iff.mpr
  exact ⟨fun c hc ↦ h c (List.mem_of_mem_head? hc), fun c hc ↦ h c (List.mem_of_getLast? hc)⟩

theorem trim_ofList_eq_self {cs : List Char} (h : ∀ c ∈ cs, isBlank c = false) :
    trim (String.ofList cs) = String.ofList cs := by
  rw [trim, String.toList_ofList, trimChars_eq_self h]

/-- Two trimmed texts are trimmed together, whatever stands between them. -/
theorem trimChars_append_append {a b : List Char} (ha : a ≠ []) (hb : b ≠ [])
    (hfirst : trimChars a = a) (hlast : trimChars b = b) (between : List Char) :
    trimChars (a ++ (between ++ b)) = a ++ (between ++ b) := by
  rw [trimChars_eq_self_iff] at hfirst hlast ⊢
  have hne : between ++ b ≠ [] := List.append_ne_nil_of_right_ne_nil _ hb
  rw [List.head?_append_of_ne_nil _ ha, List.getLast?_append_of_ne_nil _ hne,
    List.getLast?_append_of_ne_nil _ hb]
  exact ⟨hfirst.1, hlast.2⟩

end CertCatalog.Text
