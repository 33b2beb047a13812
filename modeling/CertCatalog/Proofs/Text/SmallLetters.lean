import CertCatalog.Proofs.Text.LetterCase
import Mathlib.Algebra.Group.Nat.Defs

/-!
# Lowercase texts

Lower-casing a text twice is lower-casing it once. The small letters of the case table lie clear of
all its capitals, so no small letter has a further lowercase, and a sigma is small once it has a
form. Characters before the letters A to Z are never the lowercase of another one.
-/

namespace CertCatalog.Text

/-! ### Small letters of the case table -/

/-- The characters that lower-casing changes: A to Z, the dotted capital I and the letters of the
table. -/
def capitalRuns : List CaseRun := ⟨0x41, 0x5A, 1, 32⟩ :: ⟨0x130, 0x130, 1, 0⟩ :: lowercaseRuns

namespace CaseRun

theorem covers_iff {run : CaseRun} {code : Nat} :
    run.covers code = true ↔
      run.first ≤ code ∧ code ≤ run.last ∧ (code - run.first) % run.stride = 0 := by
  simp [covers, and_assoc]

/-- The small letters of a run are characters, none before the letters A to Z. -/
def HasLetters (run : CaseRun) : Prop :=
  0x41 ≤ run.first + run.shift ∧
    (run.last + run.shift < 0xD800 ∨
      0xDFFF < run.first + run.shift ∧ run.last + run.shift < 0x110000)

instance (run : CaseRun) : Decidable run.HasLetters :=
  inferInstanceAs (Decidable (_ ∧ (_ ∨ _ ∧ _)))

/-- The run of the small letters. -/
def small (run : CaseRun) : CaseRun :=
  ⟨(run.first + run.shift).toNat, (run.last + run.shift).toNat, run.stride, 0⟩

theorem covers_small {run : CaseRun} (hletters : run.HasLetters) {code : Nat}
    (h : run.covers code = true) : run.small.covers (code + run.shift).toNat = true := by
  obtain ⟨hfirst, hlast, hstride⟩ := covers_iff.mp h
  have hlow := hletters.1
  have hoffset : (code + run.shift).toNat - (run.first + run.shift).toNat = code - run.first := by
    omega
  refine covers_iff.mpr ⟨?_, ?_, ?_⟩
  · show (run.first + run.shift).toNat ≤ _
    omega
  · show _ ≤ (run.last + run.shift).toNat
    omega
  · show ((code + run.shift).toNat - (run.first + run.shift).toNat) % run.stride = 0
    rw [hoffset, hstride]

end CaseRun

/-- The table has letters for all its capitals. -/
theorem hasLetters_of_mem {run : CaseRun} (h : run ∈ lowercaseRuns) : run.HasLetters := by
  have hall : (lowercaseRuns.all fun run ↦ decide run.HasLetters) = true := by decide
  exact of_decide_eq_true (List.all_eq_true.mp hall run h)

private theorem toNat_ofNat_of_covers {run : CaseRun} (h : run ∈ lowercaseRuns) {code : Nat}
    (hcode : run.covers code = true) :
    (Char.ofNat (code + run.shift).toNat).toNat = (code + run.shift).toNat := by
  obtain ⟨hfirst, hlast, -⟩ := CaseRun.covers_iff.mp hcode
  obtain ⟨hlow, hvalid⟩ := hasLetters_of_mem h
  have hchar : (code + run.shift).toNat.isValidChar := by
    unfold Nat.isValidChar
    omega
  rw [Char.ofNat, dif_pos hchar]
  rfl

/-! ### Code points as bits -/

/-- Every other place among the first `2 * n`, as bits. -/
def evenBits : Nat → Nat
  | 0 => 0
  | n + 1 => 4 * evenBits n + 1

private theorem testBit_evenBits {n i : Nat} (h : i < n) :
    (evenBits n).testBit (2 * i) = true := by
  induction n generalizing i with
  | zero => exact absurd h (Nat.not_lt_zero i)
  | succ n ih =>
    rw [evenBits]
    cases i with
    | zero =>
      rw [Nat.mul_zero, Nat.testBit_zero, decide_eq_true_iff]
      omega
    | succ i =>
      have hquarter : (4 * evenBits n + 1) / 2 / 2 = evenBits n := by omega
      rw [Nat.mul_succ, Nat.testBit_add_one, Nat.testBit_add_one, hquarter]
      exact ih (Nat.lt_of_succ_lt_succ h)

/-- The code points of a run as bits. -/
def CaseRun.bits (run : CaseRun) : Nat :=
  let width := run.last + 1 - run.first
  (if run.stride = 2 then evenBits ((width + 1) / 2) else 2 ^ width - 1) <<< run.first

private theorem CaseRun.testBit_bits {run : CaseRun} {code : Nat} (h : run.covers code = true) :
    run.bits.testBit code = true := by
  obtain ⟨hfirst, hlast, hstride⟩ := covers_iff.mp h
  rw [bits, Nat.testBit_shiftLeft, Bool.and_eq_true, decide_eq_true_iff]
  refine ⟨hfirst, ?_⟩
  split
  · next htwo =>
    rw [htwo] at hstride
    have hplace : code - run.first = 2 * ((code - run.first) / 2) := by omega
    rw [hplace]
    exact testBit_evenBits (by omega)
  · rw [Nat.testBit_two_pow_sub_one, decide_eq_true_iff]
    omega

/-- The code points of several runs as bits. Two tables are compared in one step on them. -/
def runBits (runs : List CaseRun) : Nat := runs.foldr (·.bits ||| ·) 0

private theorem testBit_runBits {runs : List CaseRun} {run : CaseRun} (h : run ∈ runs) {code : Nat}
    (hcode : run.covers code = true) : (runBits runs).testBit code = true := by
  induction runs with
  | nil => exact absurd h List.not_mem_nil
  | cons other runs ih =>
    rw [runBits, List.foldr_cons, ← runBits, Nat.testBit_or, Bool.or_eq_true]
    rcases List.mem_cons.mp h with rfl | h
    · exact .inl (CaseRun.testBit_bits hcode)
    · exact .inr (ih h)

/-- Tables without a common bit cover no common code point. -/
theorem covers_disjoint {a b : List CaseRun} (h : runBits a &&& runBits b = 0)
    {run other : CaseRun} (hrun : run ∈ a) (hother : other ∈ b) {code : Nat}
    (hcode : run.covers code = true) : other.covers code = false := by
  rw [Bool.eq_false_iff]
  intro hcode'
  have hboth : (runBits a &&& runBits b).testBit code = true := by
    rw [Nat.testBit_and, testBit_runBits hrun hcode, testBit_runBits hother hcode', Bool.and_self]
  rw [h, Nat.zero_testBit] at hboth
  cases hboth

/-- The small letters of the table lie clear of all capitals. -/
theorem small_clear_of_capitals :
    runBits (lowercaseRuns.map CaseRun.small) &&& runBits capitalRuns = 0 := by
  decide +kernel

/-! ### Characters -/

/-- A character that is its own lowercase. -/
def IsSmall (c : Char) : Prop := lowerChar c = [c]

theorem lowerChar_sigma : lowerChar 'Σ' = ['σ'] := by
  decide

theorem IsSmall.ne_sigma {c : Char} (h : IsSmall c) : c ≠ 'Σ' := by
  rintro rfl
  rw [IsSmall, lowerChar_sigma] at h
  exact absurd h (by decide)

/-- The parts of the dotted small I and the forms of the small sigma are small. -/
private theorem isSmall_of_mem_forms {d : Char} (h : d ∈ ['i', '\u0307', 'ς', 'σ']) :
    IsSmall d := by
  have hall : ['i', '\u0307', 'ς', 'σ'].all (fun d ↦ lowerChar d == [d]) = true := by
    decide
  exact beq_iff_eq.mp (List.all_eq_true.mp hall d h)

/-- A character that no run of capitals covers is small. -/
theorem isSmall_of_covers_eq_false {c : Char}
    (h : ∀ run ∈ capitalRuns, run.covers c.toNat = false) : IsSmall c := by
  rw [IsSmall, lowerChar]
  split
  · rcases toLower_eq_self_or_mem_capitals c with hc | hc
    · rw [hc]
    · have hall : capitals.all (CaseRun.covers ⟨0x41, 0x5A, 1, 32⟩ ·.toNat) = true := by decide
      have hcovers := List.all_eq_true.mp hall c hc
      rw [h _ List.mem_cons_self] at hcovers
      cases hcovers
  · split
    · next hdotted =>
      have hcovers := h ⟨0x130, 0x130, 1, 0⟩ (List.mem_cons_of_mem _ List.mem_cons_self)
      rw [hdotted] at hcovers
      exact absurd hcovers (by decide)
    · have hnone : lowercaseRuns.find? (·.covers c.toNat) = none := by
        apply List.find?_eq_none.mpr
        intro run hrun
        rw [h run (List.mem_cons_of_mem _ (List.mem_cons_of_mem _ hrun))]
        exact Bool.false_ne_true
      rw [tableLower, hnone]

/-- A lowercase form is the small letter of an ASCII character, a part of the dotted i, the
character itself, or the small letter of a run. -/
theorem mem_lowerChar_cases {c d : Char} (h : d ∈ lowerChar c) :
    c.toNat < 0x80 ∧ d = c.toLower ∨
    d ∈ ['i', '\u0307'] ∨
    IsSmall c ∧ d = c ∨
    ∃ run ∈ lowercaseRuns, run.covers c.toNat = true ∧
      d.toNat = (c.toNat + run.shift).toNat := by
  by_cases hascii : c.toNat < 0x80
  · rw [lowerChar, if_pos hascii, List.mem_singleton] at h
    exact .inl ⟨hascii, h⟩
  by_cases hdotted : c = 'İ'
  · rw [lowerChar, if_neg hascii, if_pos hdotted] at h
    exact .inr (.inl h)
  have htable : lowerChar c = [tableLower c] := by
    rw [lowerChar, if_neg hascii, if_neg hdotted]
  rw [htable, List.mem_singleton] at h
  cases hfind : lowercaseRuns.find? (·.covers c.toNat) with
  | none =>
    have hself : tableLower c = c := by rw [tableLower, hfind]
    rw [hself] at htable h
    exact .inr (.inr (.inl ⟨htable, h⟩))
  | some run =>
    have hmem := List.mem_of_find?_eq_some hfind
    have hcovers : run.covers c.toNat = true := by simpa using List.find?_some hfind
    rw [tableLower, hfind] at h
    rw [h]
    exact .inr (.inr (.inr ⟨run, hmem, hcovers, toNat_ofNat_of_covers hmem hcovers⟩))

/-- The lowercase of a character consists of small characters. -/
theorem isSmall_of_mem_lowerChar {c d : Char} (h : d ∈ lowerChar c) : IsSmall d := by
  rcases mem_lowerChar_cases h with ⟨hascii, rfl⟩ | hdotted | ⟨hsmall, rfl⟩ |
    ⟨run, hrun, hcovers, hcode⟩
  · rw [IsSmall, lowerChar_toLower, lowerChar, if_pos hascii]
  · exact isSmall_of_mem_forms (List.mem_append_left ['ς', 'σ'] hdotted)
  · exact hsmall
  · apply isSmall_of_covers_eq_false
    intro other hother
    rw [hcode]
    exact covers_disjoint small_clear_of_capitals (List.mem_map_of_mem hrun) hother
      (CaseRun.covers_small (hasLetters_of_mem hrun) hcovers)

theorem lowerSigma_eq_or_eq (before after : List Char) :
    lowerSigma before after = 'ς' ∨ lowerSigma before after = 'σ' := by
  rw [lowerSigma]
  split
  · exact .inl rfl
  · exact .inr rfl

private theorem isSmall_lowerSigma (before after : List Char) :
    IsSmall (lowerSigma before after) := by
  apply isSmall_of_mem_forms
  rcases lowerSigma_eq_or_eq before after with h | h <;> simp [h]

theorem toNat_of_isAlpha {c : Char} (h : c.isAlpha = true) : 0x41 ≤ c.toNat ∧ c.toNat ≤ 0x7A := by
  rcases Bool.or_eq_true_iff.mp h with hupper | hlower
  · have hrange : 'A'.toNat ≤ c.toNat ∧ c.toNat ≤ 'Z'.toNat := of_decide_eq_true hupper
    exact ⟨hrange.1, Nat.le_trans hrange.2 (by decide)⟩
  · obtain ⟨hlow, hhigh⟩ := Bool.and_eq_true_iff.mp hlower
    have hlow : 'a'.toNat ≤ c.toNat := of_decide_eq_true hlow
    have hhigh : c.toNat ≤ 'z'.toNat := of_decide_eq_true hhigh
    exact ⟨Nat.le_trans (by decide) hlow, hhigh⟩

private theorem isAlpha_of_toNat_lt {c : Char} (hc : c.toNat < 0x41) : c.isAlpha = false := by
  rw [Bool.eq_false_iff]
  exact fun h ↦ absurd hc (Nat.not_lt.mpr (toNat_of_isAlpha h).1)

/-- A character before the letters A to Z is the lowercase of itself only. -/
theorem mem_lowerChar_iff {d : Char} (hd : d.toNat < 0x41) (c : Char) :
    d ∈ lowerChar c ↔ c = d := by
  have hletter := isAlpha_of_toNat_lt hd
  constructor
  · intro h
    rcases mem_lowerChar_cases h with ⟨-, hlower⟩ | hdotted | ⟨-, rfl⟩ |
      ⟨run, hrun, hcovers, hcode⟩
    · exact (toLower_eq_iff hletter c).mp hlower.symm
    · have hall : ['i', '\u0307'].all (Nat.ble 0x41 ·.toNat) = true := by decide
      have := Nat.le_of_ble_eq_true (List.all_eq_true.mp hall d hdotted)
      omega
    · rfl
    · have hlow := (hasLetters_of_mem hrun).1
      have hfirst := (CaseRun.covers_iff.mp hcovers).1
      omega
  · rintro rfl
    rw [lowerChar, if_pos (by omega), (toLower_eq_iff hletter c).mpr rfl]
    exact List.mem_singleton_self c

/-- A character before the letters A to Z is small. -/
theorem isSmall_of_toNat_lt {c : Char} (hc : c.toNat < 0x41) : IsSmall c := by
  rw [IsSmall, lowerChar, if_pos (by omega), (toLower_eq_iff (isAlpha_of_toNat_lt hc) c).mpr rfl]

/-! ### Texts -/

/-- A text of small characters is its own lowercase. -/
theorem lowerFrom_of_isSmall {cs : List Char} (h : ∀ c ∈ cs, IsSmall c) (before : List Char) :
    lowerFrom before cs = cs := by
  induction cs generalizing before with
  | nil => rfl
  | cons c cs ih =>
    have hc := h c List.mem_cons_self
    rw [lowerFrom, if_neg hc.ne_sigma, hc, ih fun d hd ↦ h d (List.mem_cons_of_mem _ hd)]
    rfl

/-- The lowercase of a text consists of small characters. -/
theorem isSmall_of_mem_lowerFrom {before cs : List Char} {d : Char}
    (h : d ∈ lowerFrom before cs) : IsSmall d := by
  induction cs generalizing before with
  | nil => exact absurd h List.not_mem_nil
  | cons c cs ih =>
    rw [lowerFrom, List.mem_append] at h
    rcases h with h | h
    · split at h
      · rw [List.mem_singleton.mp h]
        exact isSmall_lowerSigma before cs
      · exact isSmall_of_mem_lowerChar h
    · exact ih h

@[simp] theorem lowerChars_lowerChars (cs : List Char) :
    lowerChars (lowerChars cs) = lowerChars cs :=
  lowerFrom_of_isSmall (fun _ h ↦ isSmall_of_mem_lowerFrom h) []

@[simp] theorem lower_lower (s : String) : lower (lower s) = lower s := by
  rw [lower, toList_lower, lowerChars_lowerChars, lower]

/-- Lower-casing keeps the characters before the letters A to Z and makes no more of them. -/
theorem mem_lowerFrom_iff {d : Char} (hd : d.toNat < 0x41) (before cs : List Char) :
    d ∈ lowerFrom before cs ↔ d ∈ cs := by
  induction cs generalizing before with
  | nil => rfl
  | cons c cs ih =>
    rw [lowerFrom, List.mem_append, ih, List.mem_cons]
    refine or_congr ?_ Iff.rfl
    split
    · next hsigma =>
      have hall : ∀ e ∈ ['ς', 'σ', 'Σ'], d ≠ e := by
        rintro e he rfl
        have hcodes : ['ς', 'σ', 'Σ'].all (Nat.ble 0x41 ·.toNat) = true := by decide
        have := Nat.le_of_ble_eq_true (List.all_eq_true.mp hcodes d he)
        omega
      rw [List.mem_singleton, hsigma]
      rcases lowerSigma_eq_or_eq before cs with h | h <;> simp [h, hall]
    · rw [mem_lowerChar_iff hd, eq_comm]

theorem lowerChar_ne_nil (c : Char) : lowerChar c ≠ [] := by
  rw [lowerChar]
  split
  · exact List.cons_ne_nil _ _
  · split <;> exact List.cons_ne_nil _ _

/-- A text whose lowercase lies before the letters A to Z is that lowercase: no letter has such a
form. -/
theorem lowerFrom_eq_self_of_lt {before cs : List Char}
    (h : ∀ d ∈ lowerFrom before cs, d.toNat < 0x41) : lowerFrom before cs = cs := by
  induction cs generalizing before with
  | nil => rfl
  | cons c cs ih =>
    rw [lowerFrom, List.forall_mem_append] at h
    obtain ⟨hfirst, hrest⟩ := h
    rw [lowerFrom, ih hrest]
    by_cases hsigma : c = 'Σ'
    · rw [if_pos hsigma, List.forall_mem_singleton] at hfirst
      rcases lowerSigma_eq_or_eq before cs with hform | hform <;> rw [hform] at hfirst <;>
        exact absurd hfirst (by decide)
    · rw [if_neg hsigma] at hfirst ⊢
      obtain ⟨d, hd⟩ := List.exists_mem_of_ne_nil _ (lowerChar_ne_nil c)
      have hcode := hfirst d hd
      obtain rfl := (mem_lowerChar_iff hcode c).mp hd
      rw [isSmall_of_toNat_lt hcode, List.singleton_append]

private theorem lowerChars_eq_nil_iff {cs : List Char} : lowerChars cs = [] ↔ cs = [] := by
  constructor
  · intro h
    cases cs with
    | nil => rfl
    | cons c cs =>
      rw [lowerChars, lowerFrom, List.append_eq_nil_iff] at h
      split at h
      · exact absurd h.1 (List.cons_ne_nil _ _)
      · exact absurd h.1 (lowerChar_ne_nil c)
  · rintro rfl
    rfl

/-- Only the empty text has an empty lowercase. -/
theorem lower_eq_empty_iff {s : String} : lower s = "" ↔ s = "" := by
  rw [← String.toList_eq_nil_iff, toList_lower, lowerChars_eq_nil_iff, String.toList_eq_nil_iff]

end CertCatalog.Text
