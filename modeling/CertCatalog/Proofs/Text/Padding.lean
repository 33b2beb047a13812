import CertCatalog.Proofs.Text.LetterCase
import CertCatalog.Proofs.Text.SmallLetters
import CertCatalog.Proofs.Text.Trimmed

/-!
# Padded texts

Blanks around a text are all that trimming takes away, and every text is its trimmed form between
blanks. Blanks end words and have no lowercase, so lower-casing leaves them where they are.
-/

namespace CertCatalog.Text

/-- Characters that are all blank. -/
def AreBlank (cs : List Char) : Prop := ∀ c ∈ cs, isBlank c = true

/-! ### Trimming -/

variable {before after : List Char}

theorem trimStart_append (hbefore : AreBlank before) (cs : List Char) :
    trimStart (before ++ cs) = trimStart cs :=
  List.dropWhile_append_of_pos hbefore

private theorem trimEnd_append (hafter : AreBlank after) (cs : List Char) :
    trimEnd (cs ++ after) = trimEnd cs := by
  have hreverse : ∀ c ∈ after.reverse, isBlank c = true :=
    fun c hc ↦ hafter c (List.mem_reverse.mp hc)
  rw [trimEnd, List.reverse_append, List.dropWhile_append_of_pos hreverse, trimEnd]

/-- A text between blanks is trimmed to the same text. -/
theorem trimChars_append (hbefore : AreBlank before) (hafter : AreBlank after) (cs : List Char) :
    trimChars (before ++ (cs ++ after)) = trimChars cs := by
  rw [trimChars, trimChars, trimStart_append hbefore]
  by_cases hblank : AreBlank cs
  · have hnil : trimStart cs = [] := List.dropWhile_eq_nil_iff.mpr hblank
    have hnil' : trimStart after = [] := List.dropWhile_eq_nil_iff.mpr hafter
    rw [trimStart_append hblank, hnil, hnil']
  · have hne : (trimStart cs).isEmpty = false := by
      rw [List.isEmpty_eq_false_iff]
      exact fun hnil ↦ hblank (List.dropWhile_eq_nil_iff.mp hnil)
    have hstart : trimStart (cs ++ after) = trimStart cs ++ after := by
      rw [trimStart, List.dropWhile_append, ← trimStart, hne]
      rfl
    rw [hstart, trimEnd_append hafter]

/-- A text between blanks. -/
def pad (before : List Char) (s : String) (after : List Char) : String :=
  String.ofList (before ++ (s.toList ++ after))

/-- A text between blanks is trimmed to the same text. -/
theorem trim_pad (hbefore : AreBlank before) (hafter : AreBlank after) (s : String) :
    trim (pad before s after) = trim s := by
  rw [trim, pad, String.toList_ofList, trimChars_append hbefore hafter, trim]

/-- Every text is its trimmed form between blanks. -/
theorem exists_pad_trim (s : String) :
    ∃ before after, AreBlank before ∧ AreBlank after ∧ s = pad before (trim s) after := by
  refine ⟨s.toList.takeWhile isBlank, ((trimStart s.toList).reverse.takeWhile isBlank).reverse,
    fun c ↦ List.mem_takeWhile_imp, fun c hc ↦ List.mem_takeWhile_imp (List.mem_reverse.mp hc), ?_⟩
  have hend : trimChars s.toList ++ ((trimStart s.toList).reverse.takeWhile isBlank).reverse =
      trimStart s.toList := by
    rw [trimChars, trimEnd, ← List.reverse_append, List.takeWhile_append_dropWhile,
      List.reverse_reverse]
  rw [pad, toList_trim, hend, trimStart, List.takeWhile_append_dropWhile, String.ofList_toList]

/-! ### Lowercase -/

/-- The ranges of blanks as runs of the case table. -/
def blankRuns : List CaseRun := blankRanges.map fun r ↦ ⟨r.1, r.2, 1, 0⟩

private theorem isBlank_iff_covers {c : Char} :
    isBlank c = true ↔ ∃ run ∈ blankRuns, run.covers c.toNat = true := by
  simp [isBlank, inRanges, blankRuns, CaseRun.covers, Nat.mod_one]

/-- The case table has no blanks, and none among its small letters. -/
private theorem blanks_clear :
    runBits blankRuns &&& runBits (capitalRuns ++ lowercaseRuns.map CaseRun.small) = 0 := by
  decide +kernel

theorem isSmall_of_isBlank {c : Char} (h : isBlank c = true) : IsSmall c := by
  obtain ⟨blank, hblank, hcovers⟩ := isBlank_iff_covers.mp h
  exact isSmall_of_covers_eq_false fun run hrun ↦
    covers_disjoint blanks_clear hblank (List.mem_append_left _ hrun) hcovers

private theorem lowerChars_append_cons {c : Char} (h : isBlank c = true) (a b : List Char) :
    lowerChars (a ++ c :: b) = lowerChars a ++ c :: lowerChars b := by
  have hends := endsWord_of_isBlank h
  have hsmall := isSmall_of_isBlank h
  have hfar := lowerFrom_append_cons hends [] a.reverse b
  rw [List.nil_append] at hfar
  rw [lowerChars, lowerFrom_cons_append hends, lowerFrom, if_neg hsmall.ne_sigma, hsmall,
    List.append_nil, List.singleton_append, hfar]
  rfl

/-- Blanks around a text stay as they are. -/
theorem lowerChars_append (hbefore : AreBlank before) (hafter : AreBlank after) (cs : List Char) :
    lowerChars (before ++ (cs ++ after)) = before ++ (lowerChars cs ++ after) := by
  have hend : lowerChars (cs ++ after) = lowerChars cs ++ after := by
    cases after with
    | nil => simp
    | cons c after =>
      obtain ⟨hc, hrest⟩ := List.forall_mem_cons.mp hafter
      have hself : lowerChars after = after :=
        lowerFrom_of_isSmall (fun d hd ↦ isSmall_of_isBlank (hrest d hd)) []
      rw [lowerChars_append_cons hc, hself]
  induction before with
  | nil => exact hend
  | cons c before ih =>
    obtain ⟨hc, hrest⟩ := List.forall_mem_cons.mp hbefore
    have hfirst := lowerChars_append_cons hc [] (before ++ (cs ++ after))
    rw [List.cons_append, List.cons_append, ← ih hrest]
    exact hfirst

/-- Blanks around a text do not show in its trimmed lowercase. -/
theorem trim_lower_trim (s : String) : trim (lower (trim s)) = trim (lower s) := by
  obtain ⟨before, after, hbefore, hafter, hs⟩ := exists_pad_trim s
  generalize trim s = t at hs
  rw [hs, trim, trim, toList_lower, toList_lower, pad, String.toList_ofList,
    lowerChars_append hbefore hafter, trimChars_append hbefore hafter]

private theorem isBlank_of_mem_lowerChar {c d : Char} (hc : isBlank c = false)
    (h : d ∈ lowerChar c) :
    isBlank d = false := by
  rcases mem_lowerChar_cases h with ⟨-, rfl⟩ | hdotted | ⟨-, rfl⟩ | ⟨run, hrun, hcovers, hcode⟩
  · rw [isBlank_toLower, hc]
  · have hall : ['i', '\u0307'].all (!isBlank ·) = true := by decide
    simpa using List.all_eq_true.mp hall d hdotted
  · exact hc
  · rw [Bool.eq_false_iff]
    intro hd
    obtain ⟨blank, hblank, hblanked⟩ := isBlank_iff_covers.mp hd
    have hsmall := CaseRun.covers_small (hasLetters_of_mem hrun) hcovers
    rw [← hcode, covers_disjoint blanks_clear hblank
      (List.mem_append_right _ (List.mem_map_of_mem hrun)) hblanked] at hsmall
    cases hsmall

private theorem form_ne_nil_and_isBlank {c : Char} (hc : isBlank c = false)
    (before after : List Char) :
    (if c = 'Σ' then [lowerSigma before after] else lowerChar c) ≠ [] ∧
      ∀ d ∈ if c = 'Σ' then [lowerSigma before after] else lowerChar c, isBlank d = false := by
  split
  · refine ⟨List.cons_ne_nil _ _, ?_⟩
    intro d hd
    rw [List.mem_singleton.mp hd]
    rcases lowerSigma_eq_or_eq before after with hform | hform <;> rw [hform] <;> decide
  · exact ⟨lowerChar_ne_nil c, fun d ↦ isBlank_of_mem_lowerChar hc⟩

private theorem exists_lowerFrom_concat (before cs : List Char) (c : Char) :
    ∃ front, lowerFrom before (cs ++ [c]) = front ++ lowerFrom (cs.reverse ++ before) [c] := by
  induction cs generalizing before with
  | nil => exact ⟨[], rfl⟩
  | cons d cs ih =>
    obtain ⟨front, hfront⟩ := ih (d :: before)
    rw [List.cons_append, lowerFrom, hfront, List.reverse_cons, List.append_assoc cs.reverse,
      List.singleton_append, ← List.append_assoc]
    exact ⟨_, rfl⟩

/-- A trimmed text has a trimmed lowercase. -/
theorem trimChars_lowerChars {cs : List Char} (h : trimChars cs = cs) :
    trimChars (lowerChars cs) = lowerChars cs := by
  rw [trimChars_eq_self_iff] at h ⊢
  refine ⟨?_, ?_⟩
  · intro d hd
    cases cs with
    | nil => cases hd
    | cons c rest =>
      obtain ⟨hne, hform⟩ := form_ne_nil_and_isBlank (h.1 c rfl) [] rest
      rw [lowerChars, lowerFrom, List.head?_append_of_ne_nil _ hne] at hd
      exact hform d (List.mem_of_mem_head? hd)
  · intro d hd
    rcases List.eq_nil_or_concat' cs with rfl | ⟨front, c, rfl⟩
    · cases hd
    · obtain ⟨hne, hform⟩ := form_ne_nil_and_isBlank (h.2 c (by simp)) (front.reverse ++ []) []
      obtain ⟨lowered, hlowered⟩ := exists_lowerFrom_concat [] front c
      rw [lowerChars, hlowered, lowerFrom, lowerFrom, List.append_nil,
        List.getLast?_append_of_ne_nil _ hne] at hd
      exact hform d (List.mem_of_getLast? hd)

/-- Trimming and lower-casing commute. -/
theorem trim_lower (s : String) : trim (lower s) = lower (trim s) := by
  have hself : trim (lower (trim s)) = lower (trim s) := by
    rw [trim, toList_lower, toList_trim, trimChars_lowerChars (trimChars_trimChars _), lower,
      toList_trim]
  rw [← trim_lower_trim, hself]

end CertCatalog.Text
