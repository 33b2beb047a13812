import CertCatalog.Entry.Normal
import CertCatalog.Proofs.Record.SearchText
import CertCatalog.Proofs.Text.Trimmed

/-!
# Settled texts of records

A scalar has no blanks at its ends as a text, whatever a document wrote, and a list keeps no empty
text. The names of a vocabulary differ in more than letter case, so a text matches at most one of
them and takes its spelling. Defaults and vocabulary names are trimmed as well, so the texts that
the search keys look at are trimmed, and all but the code are never empty.
-/

namespace CertCatalog

/-! ### Vocabulary spellings -/

/-- No two names of a list agree up to ASCII case. -/
def AreDistinct (known : List String) : Prop :=
  ∀ a ∈ known, ∀ b ∈ known, Text.eqIgnoringAsciiCase a b = true → a = b

theorem Vocabulary.areDistinct_domains : AreDistinct domains := by
  unfold AreDistinct
  decide +kernel

theorem Vocabulary.areDistinct_subAreas : AreDistinct subAreas := by
  unfold AreDistinct
  decide

theorem Vocabulary.areDistinct_roleGroups : AreDistinct roleGroups := by
  unfold AreDistinct
  decide

/-- A text takes the spelling of a name of the list or stays as it is. -/
theorem canonical_eq_or_mem (known : List String) (s : String) :
    canonical known s = s ∨ canonical known s ∈ known := by
  rw [canonical]
  cases hfind : known.find? (Text.eqIgnoringAsciiCase · s) with
  | none => exact .inl rfl
  | some k => exact .inr (List.mem_of_find?_eq_some hfind)

/-- A text that agrees with a name of the list up to ASCII case takes its spelling. -/
theorem canonical_of_eqIgnoringAsciiCase {known : List String} (h : AreDistinct known)
    {k s : String} (hk : k ∈ known) (heq : Text.eqIgnoringAsciiCase k s = true) :
    canonical known s = k := by
  rw [canonical]
  cases hfind : known.find? (Text.eqIgnoringAsciiCase · s) with
  | none => exact absurd heq (List.find?_eq_none.mp hfind k hk)
  | some l =>
    have hl : Text.eqIgnoringAsciiCase l s = true := by simpa using List.find?_some hfind
    rw [Text.eqIgnoringAsciiCase_eq_true_iff] at hl heq
    apply h l (List.mem_of_find?_eq_some hfind) k hk
    rw [Text.eqIgnoringAsciiCase_eq_true_iff, hl, heq]

theorem canonical_of_mem {known : List String} (h : AreDistinct known) {s : String}
    (hs : s ∈ known) : canonical known s = s :=
  canonical_of_eqIgnoringAsciiCase h hs (Text.eqIgnoringAsciiCase_refl s)

theorem map_canonical_of_subset {known : List String} (h : AreDistinct known)
    {items : List String} (hitems : ∀ s ∈ items, s ∈ known) :
    items.map (canonical known) = items := by
  have hmap : items.map (canonical known) = items.map id :=
    List.map_congr_left fun s hs ↦ canonical_of_mem h (hitems s hs)
  rw [hmap, List.map_id]

/-! ### Written numbers -/

private theorem isBlank_of_mem_toDigits {n : Nat} {c : Char} (h : c ∈ Nat.toDigits 10 n) :
    Text.isBlank c = false :=
  Text.isBlank_of_isDigit (Nat.isDigit_of_mem_toDigits (by decide) (by decide) h)

/-- An integer is written with a minus sign and digits. -/
theorem Integer.eq_minus_or_isDigit_of_mem_toText {n : Int} {c : Char}
    (h : c ∈ (toText n).toList) : c = '-' ∨ c.isDigit = true := by
  rw [toText, String.toList_ofList, List.mem_append] at h
  rcases h with hsign | hdigit
  · exact .inl (List.mem_singleton.mp (List.mem_ite_nil_right.mp hsign).2)
  · exact .inr (Nat.isDigit_of_mem_toDigits (by decide) (by decide) hdigit)

theorem Integer.trim_toText (n : Int) : Text.trim (toText n) = toText n := by
  rw [← String.ofList_toList (s := toText n)]
  apply Text.trim_ofList_eq_self
  intro c hc
  rcases eq_minus_or_isDigit_of_mem_toText hc with rfl | hdigit
  · decide
  · exact Text.isBlank_of_isDigit hdigit

namespace Binary64

private theorem isBlank_of_mem_signText {negative : Bool} {c : Char} (h : c ∈ signText negative) :
    Text.isBlank c = false := by
  rw [signText] at h
  split at h
  · rw [List.mem_singleton.mp h]
    decide
  · exact absurd h List.not_mem_nil

private theorem isBlank_of_mem_placePoint {digits : List Char} {point : Int}
    (hdigits : ∀ c ∈ digits, Text.isBlank c = false) {c : Char} (h : c ∈ placePoint digits point) :
    Text.isBlank c = false := by
  have hzeros : ∀ n, c ∈ zeros n → Text.isBlank c = false := by
    intro n hc
    rw [List.eq_of_mem_replicate hc]
    decide
  have hpoint : Text.isBlank '.' = false := by decide
  have hzero : Text.isBlank '0' = false := by decide
  rw [placePoint] at h
  split at h
  · simp only [List.mem_cons, List.mem_append] at h
    rcases h with rfl | rfl | hc | hc
    · exact hzero
    · exact hpoint
    · exact hzeros _ hc
    · exact hdigits c hc
  · split at h
    · rcases List.mem_append.mp h with hc | hc
      · exact hdigits c hc
      · exact hzeros _ hc
    · simp only [List.mem_append, List.mem_cons] at h
      rcases h with hc | rfl | hc
      · exact hdigits c (List.mem_of_mem_take hc)
      · exact hpoint
      · exact hdigits c (List.mem_of_mem_drop hc)

theorem trim_positional (x : Binary64) : Text.trim x.positional = x.positional := by
  apply Text.trim_ofList_eq_self
  intro c hc
  cases x with
  | nan =>
    have hall : "NaN".toList.all (!Text.isBlank ·) = true := by decide
    simpa using List.all_eq_true.mp hall c hc
  | infinite negative =>
    have hall : "inf".toList.all (!Text.isBlank ·) = true := by decide
    rcases List.mem_append.mp hc with hsign | hname
    · exact isBlank_of_mem_signText hsign
    · simpa using List.all_eq_true.mp hall c hname
  | finite negative units isMagnitude =>
    rw [positionalChars] at hc
    split at hc
    · rcases List.mem_append.mp hc with hsign | hzero
      · exact isBlank_of_mem_signText hsign
      · rw [List.mem_singleton.mp hzero]
        decide
    · rcases List.mem_append.mp hc with hsign | hplaced
      · exact isBlank_of_mem_signText hsign
      · exact isBlank_of_mem_placePoint (fun c ↦ isBlank_of_mem_toDigits) hplaced

end Binary64

/-! ### Texts of entries -/

/-- A scalar is trimmed as a text. -/
theorem Scalar.trim_asText (v : Scalar) : Text.trim v.asText = v.asText := by
  cases v with
  | bool b => cases b <;> decide
  | int n => exact Integer.trim_toText _
  | float x => exact x.trim_positional
  | text s => exact Text.trim_trim s

theorem trim_orElse {s substitute : String} (hs : Text.trim s = s)
    (hsubstitute : Text.trim substitute = substitute) :
    Text.trim (orElse s substitute) = orElse s substitute := by
  rw [orElse]
  split
  · exact hsubstitute
  · exact hs

theorem orElse_ne_empty {substitute : String} (h : substitute ≠ "") (s : String) :
    orElse s substitute ≠ "" := by
  rw [orElse]
  split
  · exact h
  · next hs => simpa using hs

/-- A text that is not empty and has no blanks at its ends. -/
def IsFilled (s : String) : Prop := Text.trim s = s ∧ s ≠ ""

instance (s : String) : Decidable (IsFilled s) :=
  inferInstanceAs (Decidable (Text.trim s = s ∧ s ≠ ""))

theorem IsFilled.orElse {s substitute : String} (hs : Text.trim s = s)
    (h : IsFilled substitute) : IsFilled (orElse s substitute) :=
  ⟨trim_orElse hs h.1, orElse_ne_empty h.2 s⟩

namespace Vocabulary

theorem isFilled_of_mem_domains {s : String} (h : s ∈ domains) : IsFilled s := by
  have hall : ∀ s ∈ domains, IsFilled s := by decide +kernel
  exact hall s h

theorem isFilled_of_mem_subAreas {s : String} (h : s ∈ subAreas) : IsFilled s := by
  have hall : ∀ s ∈ subAreas, IsFilled s := by decide
  exact hall s h

theorem isFilled_of_mem_roleGroups {s : String} (h : s ∈ roleGroups) : IsFilled s := by
  have hall : ∀ s ∈ roleGroups, IsFilled s := by decide
  exact hall s h

end Vocabulary

/-- The texts that fill an entry are filled themselves. -/
theorem isFilled_defaultTexts :
    IsFilled defaultTexts.provider ∧ IsFilled defaultTexts.delivery ∧
      IsFilled defaultTexts.renewalPolicy ∧ IsFilled defaultTexts.language ∧
      IsFilled defaultTexts.priceLabel := by
  decide

namespace Entry

variable (e : Entry)

/-- The text of a key is trimmed. -/
theorem trim_text (key : ScalarKey) : Text.trim (e.text key) = e.text key := by
  rw [text]
  cases e.scalar key with
  | none => decide
  | some v => exact v.trim_asText

/-- The items of a list are filled. -/
theorem isFilled_of_mem_items {key : ListKey} {s : String} (h : s ∈ e.items key) :
    IsFilled s := by
  rw [items] at h
  cases hkey : e.list key with
  | none =>
    rw [hkey] at h
    exact absurd h List.not_mem_nil
  | some l =>
    rw [hkey] at h
    obtain ⟨hmem, hne⟩ := List.mem_filter.mp h
    obtain ⟨v, -, rfl⟩ := List.mem_map.mp hmem
    exact ⟨v.trim_asText, by simpa using hne⟩

/-- Items in the spelling of a list of filled names are filled. -/
theorem isFilled_of_mem_canonical {known : List String} (hknown : ∀ k ∈ known, IsFilled k)
    {key : ListKey} {s : String} (h : s ∈ (e.items key).map (canonical known)) : IsFilled s := by
  obtain ⟨item, hitem, rfl⟩ := List.mem_map.mp h
  rcases canonical_eq_or_mem known item with heq | hmem
  · rw [heq]
    exact e.isFilled_of_mem_items hitem
  · exact hknown _ hmem

/-- The domain of a record is one of the vocabulary. -/
theorem recordDomain_mem : e.recordDomain ∈ Vocabulary.domains := by
  rw [recordDomain]
  split
  · next h => exact List.contains_iff_mem.mp h
  · exact Vocabulary.fallbackDomain_mem

/-- The name of a record is trimmed. -/
theorem trim_recordName : Text.trim e.recordName = e.recordName :=
  trim_orElse (e.trim_text _) (trim_orElse (e.trim_text _) (e.trim_text _))

end Entry

/-! ### Texts of records -/

/-- The texts that a search key looks at are trimmed, and only the code may be empty. -/
theorem SearchKey.trim_eq_and_ne_empty_of_mem_textsOf {e : Entry} {key : SearchKey} {s : String}
    (h : s ∈ key.textsOf e.toRecord) : Text.trim s = s ∧ (key ≠ .code → s ≠ "") := by
  have hlisted : IsFilled s → Text.trim s = s ∧ (key ≠ .code → s ≠ "") :=
    fun ⟨htrim, hne⟩ ↦ ⟨htrim, fun _ ↦ hne⟩
  cases key <;>
    simp only [textsOf, Entry.toRecord, Entry.plainRecord, List.mem_singleton,
      List.not_mem_nil] at h
  case provider =>
    subst h
    exact hlisted (.orElse (e.trim_text _) isFilled_defaultTexts.1)
  case domain =>
    subst h
    exact hlisted (Vocabulary.isFilled_of_mem_domains e.recordDomain_mem)
  case code =>
    subst h
    exact ⟨trim_orElse (e.trim_text _) e.trim_recordName, fun hne ↦ absurd rfl hne⟩
  case subArea =>
    exact hlisted (e.isFilled_of_mem_canonical (fun _ ↦ Vocabulary.isFilled_of_mem_subAreas) h)
  case roleGroup =>
    exact hlisted (e.isFilled_of_mem_canonical (fun _ ↦ Vocabulary.isFilled_of_mem_roleGroups) h)
  case track => exact hlisted (e.isFilled_of_mem_items h)
  case role => exact hlisted (e.isFilled_of_mem_items h)
  case tag => exact hlisted (e.isFilled_of_mem_items h)

end CertCatalog
