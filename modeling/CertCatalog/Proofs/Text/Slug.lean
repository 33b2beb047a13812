import CertCatalog.Proofs.Text.JoinedWords
import CertCatalog.Proofs.Text.Padding
import CertCatalog.Text.LetterCase

/-!
# Slugs as normal forms

Slugs are words of small ASCII letters and digits joined by single hyphens, and every text of that
shape is its own slug. A slug depends on the words in the lowercase of a text alone. So it shows
neither the case of ASCII letters, nor characters at the ends without a letter or digit in their
lowercase, nor which form a sigma takes. One pass over the trimmed lowercase arrives at it.
-/

namespace CertCatalog.Text

/-! ### Characters -/

private theorem isAlphanum_eq (c : Char) :
    c.isAlphanum = (c.isUpper || c.isLower || c.isDigit) := rfl

private theorem toNat_of_isAlphanum {c : Char} (h : c.isAlphanum = true) :
    48 ≤ c.toNat ∧ c.toNat ≤ 122 := by
  rcases Bool.or_eq_true_iff.mp h with halpha | hdigit
  · have := toNat_of_isAlpha halpha
    omega
  · have := isDigit_iff.mp hdigit
    omega

private theorem isBlank_of_isAlphanum {c : Char} (h : c.isAlphanum = true) : isBlank c = false := by
  have hrange := toNat_of_isAlphanum h
  have houtside : ∀ r ∈ blankRanges, r.2 < 48 ∨ 122 < r.1 := by decide
  cases hblank : isBlank c with
  | false => rfl
  | true =>
    obtain ⟨r, hr, hlow, hhigh⟩ := inRanges_eq_true_iff.mp hblank
    have := houtside r hr
    omega

/-- A small letter or a digit of ASCII. -/
def isSlugChar (c : Char) : Bool := c.isLower || c.isDigit

/-- The ASCII letters and digits that are their own lowercase are the small ones. -/
theorem isSlugChar_iff {c : Char} : isSlugChar c = true ↔ c.isAlphanum = true ∧ IsSmall c := by
  constructor
  · intro h
    have halphanum : c.isAlphanum = true := by
      rw [isSlugChar, Bool.or_eq_true] at h
      rcases h with h | h <;> simp [isAlphanum_eq, h]
    have hcapitals : capitals.all (!isSlugChar ·) = true := by decide
    have hlower : c.toLower = c := by
      refine (toLower_eq_self_or_mem_capitals c).resolve_right fun hmem ↦ ?_
      simpa [h] using List.all_eq_true.mp hcapitals c hmem
    have hascii : c.toNat < 0x80 := by
      have := toNat_of_isAlphanum halphanum
      omega
    exact ⟨halphanum, by rw [IsSmall, lowerChar, if_pos hascii, hlower]⟩
  · rintro ⟨halphanum, hsmall⟩
    have hascii : c.toNat < 0x80 := by
      have := toNat_of_isAlphanum halphanum
      omega
    rw [IsSmall, lowerChar, if_pos hascii, List.cons.injEq] at hsmall
    have hupper : ¬ c.isUpper = true := by
      intro hupper
      have hmoved : capitals.all (fun c ↦ c.toLower != c) = true := by decide
      have hne := List.all_eq_true.mp hmoved c (mem_capitals_of_isUpper hupper)
      exact bne_iff_ne.mp hne hsmall.1
    simpa [isSlugChar, isAlphanum_eq, hupper] using halphanum

/-- A character without an ASCII letter or digit in its lowercase. -/
def IsSeparator (c : Char) : Prop := ∀ d ∈ lowerChars [c], d.isAlphanum = false

instance (c : Char) : Decidable (IsSeparator c) :=
  decidable_of_iff ((lowerChars [c]).all (!·.isAlphanum) = true) (by simp [IsSeparator])

private theorem lowerChars_singleton (c : Char) : lowerChars [c] = lowerChar c := by
  rw [lowerChars, lowerFrom, lowerFrom, List.append_nil]
  split
  · next hsigma =>
    rw [hsigma, lowerChar_sigma]
    rfl
  · rfl

private theorem isSeparator_of_isBlank {c : Char} (h : isBlank c = true) : IsSeparator c := by
  intro d hd
  have hsmall : lowerChar c = [c] := isSmall_of_isBlank h
  rw [lowerChars_singleton, hsmall, List.mem_singleton] at hd
  rw [Bool.eq_false_iff]
  intro halphanum
  rw [hd] at halphanum
  simp [isBlank_of_isAlphanum halphanum] at h

/-! ### Words -/

/-- The character, or a hyphen for one that is no ASCII letter or digit. -/
def hyphenated (c : Char) : Char := if c.isAlphanum then c else '-'

private theorem isAlphanum_hyphenated (c : Char) : (hyphenated c).isAlphanum = c.isAlphanum := by
  rw [hyphenated]
  split
  · rfl
  · next h =>
    rw [Bool.not_eq_true] at h
    rw [h]
    rfl

private theorem map_hyphenated_lowerFrom (before cs : List Char) :
    (lowerFrom before cs).map hyphenated = (cs.flatMap lowerChar).map hyphenated := by
  induction cs generalizing before with
  | nil => rfl
  | cons c cs ih =>
    rw [lowerFrom, List.flatMap_cons, List.map_append, List.map_append, ih]
    congr 1
    split
    · next hsigma =>
      rw [hsigma, lowerChar_sigma]
      rcases lowerSigma_eq_or_eq before cs with hform | hform
      · rw [hform]
        rfl
      · rw [hform]
    · rfl

/-- The words of a text are those of the lowercase of its characters one by one. -/
theorem slugWords_eq (s : String) :
    slugWords s = runs Char.isAlphanum (s.toList.flatMap lowerChar) := by
  have hkept (c : Char) (h : c.isAlphanum = true) : hyphenated c = c := if_pos h
  rw [slugWords, lowerChars, ← runs_map isAlphanum_hyphenated hkept, map_hyphenated_lowerFrom,
    runs_map isAlphanum_hyphenated hkept]

private theorem slug_congr {s t : String} (h : slugWords s = slugWords t) : slug s = slug t := by
  rw [slug, slug, h]

private theorem slugWords_append_append {before after : String}
    (hbefore : ∀ c ∈ before.toList, IsSeparator c) (hafter : ∀ c ∈ after.toList, IsSeparator c)
    (core : String) :
    slugWords (before ++ core ++ after) = slugWords core := by
  have hends {ends : String} (h : ∀ c ∈ ends.toList, IsSeparator c) :
      ∀ d ∈ ends.toList.flatMap lowerChar, d.isAlphanum = false := by
    intro d hd
    obtain ⟨c, hc, hd⟩ := List.mem_flatMap.mp hd
    rw [← lowerChars_singleton] at hd
    exact h c hc d hd
  rw [slugWords_eq, slugWords_eq, String.toList_append, String.toList_append, List.append_assoc,
    List.flatMap_append, List.flatMap_append, runs_append_append (hends hbefore) (hends hafter)]

private theorem EqUpToCase.slugWords_eq {s t : String} (h : EqUpToCase s t) :
    slugWords s = slugWords t := by
  have hlower : lowerChars s.toList = lowerChars t.toList := h.apply_eq lowerChars_map_toLower
  rw [slugWords, slugWords, hlower]

private theorem slugWords_trim (s : String) : slugWords (trim s) = slugWords s := by
  obtain ⟨before, after, hbefore, hafter, hs⟩ := exists_pad_trim s
  have hblank {cs : List Char} (h : AreBlank cs) :
      ∀ c ∈ (String.ofList cs).toList, IsSeparator c := by
    intro c hc
    rw [String.toList_ofList] at hc
    exact isSeparator_of_isBlank (h c hc)
  have hpad : s = String.ofList before ++ trim s ++ String.ofList after := by
    rw [← String.toList_inj]
    conv_lhs => rw [hs]
    simp [pad]
  rw [← slugWords_append_append (hblank hbefore) (hblank hafter), ← hpad]

private theorem ne_nil_and_isSlugChar_of_mem_slugWords {s : String} {word : List Char}
    (h : word ∈ slugWords s) : word ≠ [] ∧ ∀ c ∈ word, isSlugChar c = true := by
  refine ⟨ne_nil_of_mem_runs h, fun c hc ↦ ?_⟩
  have hkept : c ∈ (slugWords s).flatten := List.mem_flatten_of_mem h hc
  rw [slugWords, flatten_runs, List.mem_filter] at hkept
  exact isSlugChar_iff.mpr ⟨hkept.2, isSmall_of_mem_lowerFrom hkept.1⟩

/-! ### Slugs -/

/-- Words of small ASCII letters and digits, one at least and none of them empty, joined by single
hyphens. -/
def IsSlug (s : String) : Prop :=
  ∃ words : List (List Char), words ≠ [] ∧
    (∀ word ∈ words, word ≠ [] ∧ ∀ c ∈ word, isSlugChar c = true) ∧
    s.toList = List.intercalate ['-'] words

namespace IsSlug

variable {s : String}

private theorem ne_empty (h : IsSlug s) : s ≠ "" := by
  obtain ⟨words, hne, hwords, hs⟩ := h
  obtain ⟨word, words, rfl⟩ := List.exists_cons_of_ne_nil hne
  rw [ne_eq, ← String.toList_eq_nil_iff, hs]
  exact intercalate_ne_nil (hwords word List.mem_cons_self).1 words

private theorem isJoined (h : IsSlug s) : IsJoined isSlugChar '-' s.toList := by
  obtain ⟨words, -, hwords, hs⟩ := h
  rw [hs]
  exact .of_words rfl hwords

private theorem isSmall_of_mem (h : IsSlug s) {c : Char} (hc : c ∈ s.toList) : IsSmall c := by
  rcases h.isJoined.keep_or_eq c hc with hword | rfl
  · exact (isSlugChar_iff.mp hword).2
  · exact isSmall_of_toNat_lt (by decide)

/-- A slug is its own slug. -/
theorem slug_eq (h : IsSlug s) : slug s = s := by
  have hlower : lowerChars s.toList = s.toList :=
    lowerFrom_of_isSmall (fun _ ↦ h.isSmall_of_mem) []
  obtain ⟨words, hne, hwords, hs⟩ := h
  have hkept : ∀ word ∈ words, word ≠ [] ∧ ∀ c ∈ word, c.isAlphanum = true :=
    fun word hword ↦ ⟨(hwords word hword).1,
      fun c hc ↦ (isSlugChar_iff.mp ((hwords word hword).2 c hc)).1⟩
  have hself : slugWords s = words := by
    rw [slugWords, hlower, hs, runs_intercalate rfl hkept]
  rw [slug, hself]
  split
  · exact absurd rfl hne
  · rw [← hs, String.ofList_toList]

end IsSlug

/-- The slug of a text is a slug. -/
theorem isSlug_slug (s : String) : IsSlug (slug s) := by
  rw [slug]
  split
  · have hletters : emptySlug.toList.all isSlugChar = true := by decide
    exact ⟨[emptySlug.toList], List.cons_ne_nil _ _,
      List.forall_mem_singleton.mpr ⟨by decide, List.all_eq_true.mp hletters⟩, rfl⟩
  · next hne =>
    exact ⟨slugWords s, hne, fun word ↦ ne_nil_and_isSlugChar_of_mem_slugWords,
      String.toList_ofList⟩

theorem trim_slug (s : String) : trim (slug s) = slug s := by
  rw [← String.toList_inj, toList_trim]
  apply trimChars_eq_self
  intro c hc
  rcases (isSlug_slug s).isJoined.keep_or_eq c hc with hword | rfl
  · exact isBlank_of_isAlphanum (isSlugChar_iff.mp hword).1
  · decide

theorem slug_ne_empty (s : String) : slug s ≠ "" := (isSlug_slug s).ne_empty

/-! ### One pass -/

/-- The slug of a text in one pass: over the lowercase of the trimmed text a hyphen is written for
any character that is no ASCII letter or digit, unless one stands there already, and in the end
hyphens at both ends are dropped. -/
def slugInOnePass (s : String) : String :=
  let written := (lower (trim s)).toList.foldl (joinStep Char.isAlphanum '-') []
  match dropSeparators '-' written with
  | [] => emptySlug
  | cs => String.ofList cs

/-- One pass arrives at the slug. -/
theorem slugInOnePass_eq (s : String) : slugInOnePass s = slug s := by
  have hwritten :
      dropSeparators '-' ((lower (trim s)).toList.foldl (joinStep Char.isAlphanum '-') []) =
        List.intercalate ['-'] (slugWords s) := by
    rw [toList_lower, dropSeparators_foldl_joinStep rfl, ← slugWords, slugWords_trim]
  rw [slugInOnePass, hwritten, slug]
  cases hwords : slugWords s with
  | nil => rfl
  | cons word words =>
    have hne : word ≠ [] :=
      (ne_nil_and_isSlugChar_of_mem_slugWords (hwords ▸ List.mem_cons_self)).1
    split
    · next hnil => exact absurd hnil (intercalate_ne_nil hne words)
    · rfl

/-! ### Normal forms -/

/-- Texts that agree up to the case of ASCII letters but for separators at their ends. -/
def AgreeInside (s t : String) : Prop :=
  ∃ before core after before' core' after' : String,
    s = before ++ core ++ after ∧ t = before' ++ core' ++ after' ∧ EqUpToCase core core' ∧
      ∀ ends ∈ [before, after, before', after'], ∀ c ∈ ends.toList, IsSeparator c

/-- Texts that agree inside have the same slug. -/
theorem AgreeInside.slug_eq {s t : String} (h : AgreeInside s t) : slug s = slug t := by
  obtain ⟨before, core, after, before', core', after', rfl, rfl, hcore, hends⟩ := h
  simp only [List.forall_mem_cons] at hends
  obtain ⟨hbefore, hafter, hbefore', hafter', -⟩ := hends
  apply slug_congr
  rw [slugWords_append_append hbefore hafter, slugWords_append_append hbefore' hafter',
    hcore.slugWords_eq]

/-- A slug is a normal form. It is one or more words of small ASCII letters and digits joined by
single hyphens, so it is not empty and has no hyphen at an end and none beside another one. The
texts of this shape are the ones that are their own slug. Texts that agree up to the case of ASCII
letters but for separators at their ends have the same slug, and one pass over a text arrives at
it. -/
theorem slug_isNormalForm (s : String) :
    IsSlug (slug s) ∧
    (slug s ≠ "" ∧ (slug s).toList.head? ≠ some '-' ∧ (slug s).toList.getLast? ≠ some '-' ∧
      ¬['-', '-'] <:+: (slug s).toList) ∧
    slug (slug s) = slug s ∧
    (slug s = s ↔ IsSlug s) ∧
    (∀ t, AgreeInside s t → slug s = slug t) ∧
    slugInOnePass s = slug s := by
  have hslug := isSlug_slug s
  have hjoined := hslug.isJoined
  exact ⟨hslug, ⟨hslug.ne_empty, hjoined.head?_ne, hjoined.getLast?_ne, hjoined.not_infix⟩,
    hslug.slug_eq, ⟨fun h ↦ h ▸ hslug, IsSlug.slug_eq⟩, fun t ↦ AgreeInside.slug_eq,
    slugInOnePass_eq s⟩

/-- A character beyond ASCII may have an ASCII letter as its lowercase. The sigmas at the ends have
none. -/
theorem slug_isNormalForm_beyond_ascii :
    let s := "Σ\u212AEYS & LocksΣ"
    let t := " \u212Aeys & LOCKS)"
    AgreeInside s t ∧ slug s = slug t ∧ slug s = "keys-locks" ∧ IsSlug "keys-locks" := by
  intro s t
  have hends : ["Σ", "Σ", " ", ")"].all (·.toList.all fun c ↦ decide (IsSeparator c)) = true := by
    decide
  have hagree : AgreeInside s t :=
    ⟨"Σ", "\u212AEYS & Locks", "Σ", " ", "\u212Aeys & LOCKS", ")", rfl, rfl, by decide,
      fun ends h c hc ↦ of_decide_eq_true
        (List.all_eq_true.mp (List.all_eq_true.mp hends ends h) c hc)⟩
  have hvalue : slug s = "keys-locks" := by decide +kernel
  obtain ⟨hslug, -, -, -, hsame, -⟩ := slug_isNormalForm s
  exact ⟨hagree, hsame t hagree, hvalue, hvalue ▸ hslug⟩

end CertCatalog.Text
