import CertCatalog.Text.LetterCase
import CertCatalog.Text.Shorten

/-!
# Texts up to letter case

Lower-casing looks at the neighbours of a capital sigma and through case-ignorable characters, but
never across a character that ends every word, such as a space. So the texts that spaces join are
lower-cased one by one.

Texts agree up to case when they differ at most in the case of the letters A to Z. Lower-casing
folds these letters, even where it looks at the neighbours of a sigma, and trimming does not touch
them. What reads a text folds its letters if it does not tell a capital from its small letter, and
26 letters settle that.
-/

namespace CertCatalog.Text

/-! ### Joined texts -/

/-- A character that is neither a cased letter nor case-ignorable. -/
def EndsWord (c : Char) : Prop :=
  inRanges casedRanges c = false ∧ inRanges caseIgnorableRanges c = false

/-- Blanks are neither cased nor case-ignorable. -/
theorem endsWord_of_isBlank {c : Char} (h : isBlank c = true) : EndsWord c :=
  ⟨inRanges_disjoint (by decide +kernel) h, inRanges_disjoint (by decide +kernel) h⟩

private theorem endsWord_space : EndsWord ' ' := endsWord_of_isBlank (by decide)

variable {c : Char} (hc : EndsWord c)
include hc

private theorem meetsCased_append_cons (cs rest : List Char) :
    meetsCased (cs ++ c :: rest) = meetsCased cs := by
  induction cs with
  | nil => simp [meetsCased, hc.1, hc.2]
  | cons d cs ih =>
    cases hd : inRanges caseIgnorableRanges d with
    | true => simpa [meetsCased, hd] using ih
    | false => simp [meetsCased, hd]

/-- What stands before the end of a word does not matter behind it. -/
theorem lowerFrom_append_cons (before farBefore cs : List Char) :
    lowerFrom (before ++ c :: farBefore) cs = lowerFrom before cs := by
  induction cs generalizing before with
  | nil => rfl
  | cons d cs ih =>
    have hsigma : lowerSigma (before ++ c :: farBefore) cs = lowerSigma before cs := by
      rw [lowerSigma, lowerSigma, meetsCased_append_cons hc]
    rw [lowerFrom, lowerFrom, hsigma, ← List.cons_append, ih]

/-- What stands behind the end of a word does not matter before it. -/
theorem lowerFrom_cons_append (before cs rest : List Char) :
    lowerFrom before (cs ++ c :: rest) =
      lowerFrom before cs ++ lowerFrom (cs.reverse ++ before) (c :: rest) := by
  induction cs generalizing before with
  | nil => rfl
  | cons d cs ih =>
    have hsigma : lowerSigma before (cs ++ c :: rest) = lowerSigma before cs := by
      rw [lowerSigma, lowerSigma, meetsCased_append_cons hc]
    rw [List.cons_append, lowerFrom, lowerFrom, hsigma, ih, List.append_assoc,
      List.reverse_cons, List.append_assoc, List.singleton_append]

omit hc

private theorem lowerChars_append_space (a b : List Char) :
    lowerChars (a ++ ' ' :: b) = lowerChars a ++ ' ' :: lowerChars b := by
  have hspace : lowerChar ' ' = [' '] := rfl
  rw [lowerChars, lowerFrom_cons_append endsWord_space, lowerFrom, if_neg (by decide), hspace,
    List.append_nil, List.singleton_append]
  have hfar := lowerFrom_append_cons endsWord_space [] a.reverse b
  rw [List.nil_append] at hfar
  rw [hfar]
  rfl

/-- Joining with spaces and lower-casing commute. -/
theorem lower_intercalate (texts : List String) :
    lower (String.intercalate " " texts) = String.intercalate " " (texts.map lower) := by
  induction texts with
  | nil => rfl
  | cons s texts ih =>
    cases texts with
    | nil => rfl
    | cons t texts =>
      rw [List.map_cons] at ih
      rw [String.intercalate_cons_cons, List.map_cons, List.map_cons, String.intercalate_cons_cons,
        ← ih]
      apply String.toList_injective
      have hspace : " ".toList = [' '] := rfl
      simp only [toList_lower, String.toList_append, hspace, List.append_assoc,
        List.singleton_append, lowerChars_append_space]

/-! ### Characters -/

/-- The letters A to Z. -/
def capitals : List Char := (List.range 26).map fun i ↦ Char.ofNat ('A'.toNat + i)

theorem mem_capitals_of_isUpper {c : Char} (h : c.isUpper = true) : c ∈ capitals := by
  obtain ⟨hlow, hhigh⟩ : 'A'.toNat ≤ c.toNat ∧ c.toNat ≤ 'Z'.toNat := of_decide_eq_true h
  have hA : 'A'.toNat = 65 := rfl
  have hZ : 'Z'.toNat = 90 := rfl
  rw [capitals, List.mem_map]
  refine ⟨c.toNat - 'A'.toNat, List.mem_range.mpr (by omega), ?_⟩
  rw [Nat.add_sub_cancel' hlow, Char.ofNat_toNat]

/-- Only capitals have a small letter among ASCII characters. -/
theorem toLower_eq_self_or_mem_capitals (c : Char) : c.toLower = c ∨ c ∈ capitals := by
  by_cases h : c.isUpper = true
  · exact .inr (mem_capitals_of_isUpper h)
  · exact .inl (dif_neg fun hrange ↦ h (decide_eq_true hrange))

/-- What does not tell a capital from its small letter folds letters. -/
theorem apply_toLower {α : Type} {f : Char → α}
    (hf : capitals.map (fun c ↦ f c.toLower) = capitals.map f) (c : Char) :
    f c.toLower = f c := by
  rcases toLower_eq_self_or_mem_capitals c with h | h
  · rw [h]
  · exact List.map_inj_left.mp hf c h

private theorem isAlpha_of_mem_capitals {c : Char} (h : c ∈ capitals) :
    c.toLower.isAlpha = true ∧ c.isAlpha = true := by
  have hall : capitals.all (fun c ↦ c.toLower.isAlpha && c.isAlpha) = true := by decide
  simpa using List.all_eq_true.mp hall c h

@[simp] theorem isBlank_toLower (c : Char) : isBlank c.toLower = isBlank c :=
  apply_toLower (by decide) c

@[simp] theorem isDigit_toLower (c : Char) : c.toLower.isDigit = c.isDigit :=
  apply_toLower (f := Char.isDigit) (by decide) c

private theorem cased_toLower (c : Char) :
    inRanges casedRanges c.toLower = inRanges casedRanges c :=
  apply_toLower (by decide) c

private theorem caseIgnorable_toLower (c : Char) :
    inRanges caseIgnorableRanges c.toLower = inRanges caseIgnorableRanges c := by
  rcases toLower_eq_self_or_mem_capitals c with hself | hcapital
  · rw [hself]
  · -- The table has no letters, so there is no need to look each of them up in it.
    have hclear : ∀ r ∈ [(0x41, 0x5A), (0x61, 0x7A)], ∀ q ∈ caseIgnorableRanges,
        r.2 < q.1 ∨ q.2 < r.1 := by
      decide +kernel
    have hletters : capitals.all (fun c ↦ inRanges [(0x41, 0x5A), (0x61, 0x7A)] c.toLower &&
        inRanges [(0x41, 0x5A), (0x61, 0x7A)] c) = true := by
      decide
    have hletter := List.all_eq_true.mp hletters c hcapital
    rw [Bool.and_eq_true] at hletter
    rw [inRanges_disjoint hclear hletter.1, inRanges_disjoint hclear hletter.2]

theorem lowerChar_toLower (c : Char) : lowerChar c.toLower = lowerChar c :=
  apply_toLower (by decide) c

/-- Folding letters neither makes nor hides a character that is no letter. -/
theorem toLower_eq_iff {d : Char} (hd : d.isAlpha = false) (c : Char) :
    c.toLower = d ↔ c = d := by
  rcases toLower_eq_self_or_mem_capitals c with h | h
  · rw [h]
  · obtain ⟨hlower, hcapital⟩ := isAlpha_of_mem_capitals h
    apply iff_of_false
    · rintro rfl
      exact absurd hd (by simp [hlower])
    · rintro rfl
      exact absurd hd (by simp [hcapital])

theorem map_toLower_ne_cons {d : Char} (hd : d.isAlpha = false) {cs : List Char}
    (h : ∀ rest, cs = d :: rest → False) (rest : List Char)
    (hmap : cs.map Char.toLower = d :: rest) : False := by
  obtain ⟨c, cs', rfl, hc, -⟩ := List.map_eq_cons_iff.mp hmap
  rw [(toLower_eq_iff hd c).mp hc] at h
  exact h cs' rfl

/-! ### Characters in a row -/

private theorem meetsCased_map_toLower (cs : List Char) :
    meetsCased (cs.map Char.toLower) = meetsCased cs := by
  have hignorable : inRanges caseIgnorableRanges ∘ Char.toLower = inRanges caseIgnorableRanges :=
    funext caseIgnorable_toLower
  rw [meetsCased, meetsCased, List.dropWhile_map, hignorable]
  cases cs.dropWhile (inRanges caseIgnorableRanges) with
  | nil => rfl
  | cons c rest => exact cased_toLower c

/-- Lower-casing folds letters, in the text and before it. -/
theorem lowerFrom_map_toLower (before cs : List Char) :
    lowerFrom (before.map Char.toLower) (cs.map Char.toLower) = lowerFrom before cs := by
  induction cs generalizing before with
  | nil => rfl
  | cons c cs ih =>
    have hsigma : lowerSigma (before.map Char.toLower) (cs.map Char.toLower) =
        lowerSigma before cs := by
      rw [lowerSigma, lowerSigma, meetsCased_map_toLower, meetsCased_map_toLower]
    have hcapital : c.toLower = 'Σ' ↔ c = 'Σ' := toLower_eq_iff (by decide) c
    rw [List.map_cons, lowerFrom, lowerFrom, hsigma, ← List.map_cons, ih, lowerChar_toLower]
    simp only [hcapital]

theorem lowerChars_map_toLower (cs : List Char) :
    lowerChars (cs.map Char.toLower) = lowerChars cs :=
  lowerFrom_map_toLower [] cs

theorem trimChars_map_toLower (cs : List Char) :
    trimChars (cs.map Char.toLower) = (trimChars cs).map Char.toLower := by
  have hblank : isBlank ∘ Char.toLower = isBlank := funext isBlank_toLower
  simp only [trimChars, trimStart, trimEnd, List.dropWhile_map, ← List.map_reverse, hblank]

/-! ### Texts -/

/-- Texts that differ at most in the case of the letters A to Z. -/
def EqUpToCase (a b : String) : Prop := foldAscii a = foldAscii b

instance (a b : String) : Decidable (EqUpToCase a b) :=
  inferInstanceAs (Decidable (foldAscii a = foldAscii b))

theorem eqUpToCase_ofList_iff {cs ds : List Char} :
    EqUpToCase (String.ofList cs) (String.ofList ds) ↔
      cs.map Char.toLower = ds.map Char.toLower := by
  simp [EqUpToCase, foldAscii]

namespace EqUpToCase

variable {a b a' b' : String}

@[refl] theorem refl (a : String) : EqUpToCase a a := Eq.refl _

/-- What folds letters takes agreeing texts to the same value. -/
theorem apply_eq {α : Type} {f : List Char → α} (hf : ∀ cs, f (cs.map Char.toLower) = f cs)
    (h : EqUpToCase a b) : f a.toList = f b.toList := by
  rw [← hf a.toList, ← hf b.toList]
  exact congrArg f h

theorem lower_eq (h : EqUpToCase a b) : lower a = lower b :=
  congrArg String.ofList (h.apply_eq lowerChars_map_toLower)

theorem trim (h : EqUpToCase a b) : EqUpToCase (trim a) (trim b) := by
  have hchars : trimChars (a.toList.map Char.toLower) = trimChars (b.toList.map Char.toLower) :=
    congrArg trimChars h
  rw [trimChars_map_toLower, trimChars_map_toLower] at hchars
  simpa only [EqUpToCase, foldAscii, toList_trim] using hchars

theorem isEmpty_eq (h : EqUpToCase a b) : a.isEmpty = b.isEmpty := by
  have hchars : a.toList.isEmpty = b.toList.isEmpty := h.apply_eq fun cs ↦ List.isEmpty_map
  rw [Bool.eq_iff_iff] at hchars ⊢
  simpa only [String.isEmpty_iff, List.isEmpty_iff, String.toList_eq_nil_iff] using hchars

theorem eqIgnoringAsciiCase_eq (ha : EqUpToCase a a') (hb : EqUpToCase b b') :
    eqIgnoringAsciiCase a b = eqIgnoringAsciiCase a' b' := by
  rw [eqIgnoringAsciiCase, eqIgnoringAsciiCase, ha, hb]

end EqUpToCase
end CertCatalog.Text
