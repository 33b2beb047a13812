import CertCatalog.Text.Shorten
import Mathlib.Data.List.Chain
import Mathlib.Data.List.DropRight

/-!
# Joined words

The runs of a text are its words, and what lies between two of them does not matter. Words joined by
a single separator are told from any other text by looking at neighbours alone: the separator stands
at no end and never beside itself. So one pass over a text, which looks at the end of what it has
written, joins the words of that text.
-/

namespace CertCatalog.Text

variable {keep : Char → Bool} {sep c d : Char} {cs out : List Char}

/-! ### Words of a text -/

private theorem runs_cons_of_neg (hc : keep c = false) (cs : List Char) :
    runs keep (c :: cs) = runs keep cs := by
  simp [runs, hc]

private theorem runs_cons_of_head? (hc : keep c = true) (hhead : ∀ d ∈ cs.head?, keep d = false) :
    runs keep (c :: cs) = [c] :: runs keep cs := by
  cases cs with
  | nil => simp [runs, hc]
  | cons d cs =>
    have hd : keep d = false := hhead d rfl
    simp [runs, hc, hd]

private theorem exists_runs_cons_cons (hc : keep c = true) (hd : keep d = true) (cs : List Char) :
    ∃ word words, runs keep (d :: cs) = word :: words ∧
      runs keep (c :: d :: cs) = (c :: word) :: words := by
  cases hrest : runs keep (d :: cs) with
  | nil =>
    have hkept := flatten_runs keep (d :: cs)
    rw [hrest, List.filter_cons_of_pos hd] at hkept
    cases hkept
  | cons word words =>
    refine ⟨word, words, rfl, ?_⟩
    rw [runs, if_pos hc, hrest]
    simp [hd]

/-- A character that is not kept ends a word, whatever stands around it. -/
theorem runs_append_cons (hsep : keep sep = false) (before after : List Char) :
    runs keep (before ++ sep :: after) = runs keep before ++ runs keep after := by
  induction before with
  | nil => exact runs_cons_of_neg hsep after
  | cons c before ih =>
    by_cases hc : keep c = true
    · cases before with
      | nil =>
        rw [List.cons_append, List.nil_append, runs_cons_of_head? hc (by simpa using hsep),
          runs_cons_of_head? hc (by simp), runs_cons_of_neg hsep]
        rfl
      | cons d before =>
        by_cases hd : keep d = true
        · obtain ⟨word, words, hshort, hlong⟩ := exists_runs_cons_cons hc hd before
          obtain ⟨word', words', hshort', hlong'⟩ :=
            exists_runs_cons_cons hc hd (before ++ sep :: after)
          rw [List.cons_append] at ih
          rw [hshort, hshort', List.cons_append, List.cons.injEq] at ih
          rw [List.cons_append, List.cons_append, hlong, hlong', ih.1, ih.2, List.cons_append]
        · rw [Bool.not_eq_true] at hd
          rw [List.cons_append, runs_cons_of_head? hc (by simpa using hd), ih,
            runs_cons_of_head? hc (by simpa using hd), List.cons_append]
    · rw [Bool.not_eq_true] at hc
      rw [List.cons_append, runs_cons_of_neg hc, runs_cons_of_neg hc, ih]

private theorem runs_eq_nil_iff : runs keep cs = [] ↔ ∀ c ∈ cs, keep c = false := by
  constructor
  · intro h
    have hkept := flatten_runs keep cs
    rw [h, List.flatten_nil, eq_comm, List.filter_eq_nil_iff] at hkept
    simpa using hkept
  · intro h
    induction cs with
    | nil => rfl
    | cons c cs ih =>
      obtain ⟨hc, hrest⟩ := List.forall_mem_cons.mp h
      rw [runs_cons_of_neg hc, ih hrest]

/-- What is kept of no character in front and at the end does not matter there. -/
theorem runs_append_append {before after : List Char} (hbefore : ∀ c ∈ before, keep c = false)
    (hafter : ∀ c ∈ after, keep c = false) (cs : List Char) :
    runs keep (before ++ (cs ++ after)) = runs keep cs := by
  have hend : runs keep (cs ++ after) = runs keep cs := by
    cases after with
    | nil => rw [List.append_nil]
    | cons c after =>
      obtain ⟨hc, hrest⟩ := List.forall_mem_cons.mp hafter
      rw [runs_append_cons hc, runs_eq_nil_iff.mpr hrest, List.append_nil]
  induction before with
  | nil => exact hend
  | cons c before ih =>
    obtain ⟨hc, hrest⟩ := List.forall_mem_cons.mp hbefore
    rw [List.cons_append, runs_cons_of_neg hc, ih hrest]

private theorem runs_of_forall (hne : cs ≠ []) (h : ∀ c ∈ cs, keep c = true) : runs keep cs =
    [cs] := by
  induction cs with
  | nil => exact absurd rfl hne
  | cons c cs ih =>
    obtain ⟨hc, hrest⟩ := List.forall_mem_cons.mp h
    cases cs with
    | nil => exact runs_cons_of_head? hc (by simp)
    | cons d cs =>
      obtain ⟨word, words, hshort, hlong⟩ :=
        exists_runs_cons_cons hc (hrest d List.mem_cons_self) cs
      rw [ih (List.cons_ne_nil d cs) hrest, List.cons.injEq] at hshort
      rw [hlong, ← hshort.1, ← hshort.2]

/-- Characters that are changed only where they are not kept leave the words as they are. -/
theorem runs_map {f : Char → Char} (hkeep : ∀ c, keep (f c) = keep c)
    (hf : ∀ c, keep c = true → f c = c) (cs : List Char) :
    runs keep (cs.map f) = runs keep cs := by
  induction cs with
  | nil => rfl
  | cons c cs ih =>
    rw [List.map_cons]
    by_cases hc : keep c = true
    · have hhead : (cs.map f).head?.any keep = cs.head?.any keep := by
        cases cs <;> simp [hkeep]
      rw [hf c hc, runs, runs, ih, hhead]
    · rw [Bool.not_eq_true] at hc
      rw [runs_cons_of_neg (by rw [hkeep, hc]), runs_cons_of_neg hc, ih]

/-! ### Words between single separators -/

theorem intercalate_ne_nil {between word : List Char} (h : word ≠ []) (words : List (List Char)) :
    List.intercalate between (word :: words) ≠ [] := by
  cases words <;> simp [List.intercalate, h]

/-- Words are joined by a separator: the separator stands at no end and never beside itself, and
there is nothing else beside kept characters. -/
structure IsJoined (keep : Char → Bool) (sep : Char) (cs : List Char) : Prop where
  keep_or_eq : ∀ c ∈ cs, keep c = true ∨ c = sep
  head?_ne : cs.head? ≠ some sep
  getLast?_ne : cs.getLast? ≠ some sep
  isChain : cs.IsChain fun a b ↦ a ≠ sep ∨ b ≠ sep

namespace IsJoined

theorem not_infix (h : IsJoined keep sep cs) : ¬[sep, sep] <:+: cs := by
  intro hdouble
  have hpair := List.IsChain.infix h.isChain hdouble
  simp at hpair

private theorem keep_head (h : IsJoined keep sep (c :: cs)) : keep c = true :=
  (h.keep_or_eq c List.mem_cons_self).resolve_right fun heq ↦ h.head?_ne (congrArg some heq)

private theorem of_suffix {rest : List Char} (h : IsJoined keep sep cs) (hsuffix : rest <:+ cs)
    (hhead : rest.head? ≠ some sep) : IsJoined keep sep rest where
  keep_or_eq c hc := h.keep_or_eq c (hsuffix.subset hc)
  head?_ne := hhead
  getLast?_ne := by
    by_cases hne : rest = []
    · rw [hne]
      exact (Option.some_ne_none sep).symm
    · obtain ⟨front, rfl⟩ := hsuffix
      rw [← List.getLast?_append_of_ne_nil front hne]
      exact h.getLast?_ne
  isChain := h.isChain.suffix hsuffix

private theorem of_forall (hsep : keep sep = false) (h : ∀ c ∈ cs, keep c = true) :
    IsJoined keep sep cs := by
  have hne : sep ∉ cs := fun hmem ↦ by simp [h sep hmem] at hsep
  refine ⟨fun c hc ↦ .inl (h c hc), fun hhead ↦ hne (List.mem_of_mem_head? hhead),
    fun hlast ↦ hne (List.mem_of_getLast? hlast), ?_⟩
  refine (List.isChain_isInfix cs).imp fun a b hpair ↦ .inl ?_
  rintro rfl
  exact hne (hpair.subset List.mem_cons_self)

private theorem append_cons {a b : List Char} (ha : IsJoined keep sep a) (hne : a ≠ [])
    (hb : IsJoined keep sep b) (hne' : b ≠ []) : IsJoined keep sep (a ++ sep :: b) where
  keep_or_eq c hc := by
    rcases List.mem_append.mp hc with hc | hc
    · exact ha.keep_or_eq c hc
    · rcases List.mem_cons.mp hc with heq | hc
      · exact .inr heq
      · exact hb.keep_or_eq c hc
  head?_ne := by
    rw [List.head?_append_of_ne_nil _ hne]
    exact ha.head?_ne
  getLast?_ne := by
    rw [List.getLast?_append_of_ne_nil _ (List.cons_ne_nil sep b),
      List.getLast?_cons_of_ne_nil hne']
    exact hb.getLast?_ne
  isChain := by
    refine ha.isChain.append (List.isChain_cons.mpr ⟨fun d hd ↦ .inr ?_, hb.isChain⟩) ?_
    · rintro rfl
      exact hb.head?_ne hd
    · intro c hc d _
      left
      rintro rfl
      exact ha.getLast?_ne hc

/-- Words of kept characters are joined by separators between them. -/
theorem of_words (hsep : keep sep = false) {words : List (List Char)}
    (h : ∀ word ∈ words, word ≠ [] ∧ ∀ c ∈ word, keep c = true) :
    IsJoined keep sep (List.intercalate [sep] words) := by
  induction words with
  | nil => exact of_forall hsep (by simp [List.intercalate])
  | cons word words ih =>
    obtain ⟨⟨hne, hword⟩, hrest⟩ := List.forall_mem_cons.mp h
    cases words with
    | nil =>
      rw [List.intercalate_singleton]
      exact of_forall hsep hword
    | cons word' words =>
      rw [List.intercalate_cons_cons, List.append_assoc, List.singleton_append]
      exact (of_forall hsep hword).append_cons hne (ih hrest)
        (intercalate_ne_nil (hrest word' List.mem_cons_self).1 words)

/-- The words of a text of joined words, joined again, are the text. -/
theorem intercalate_runs (hsep : keep sep = false) :
    ∀ {cs}, IsJoined keep sep cs → List.intercalate [sep] (runs keep cs) = cs
  | [], _ => rfl
  | [c], h => by
    rw [runs_of_forall (List.cons_ne_nil c []) (by simpa using h.keep_head)]
    exact List.append_nil [c]
  | c :: d :: cs, h => by
    by_cases hd : keep d = true
    -- Both characters belong to the first word, and the rest without the first one is joined, too.
    · have hhead : (d :: cs).head? ≠ some sep := by
        rintro ⟨⟩
        simp [hsep] at hd
      obtain ⟨word, words, hshort, hlong⟩ := exists_runs_cons_cons h.keep_head hd cs
      have hrest := intercalate_runs hsep (h.of_suffix (List.suffix_cons c _) hhead)
      rw [hshort] at hrest
      rw [hlong, ← hrest]
      cases words <;> simp [List.intercalate]
    · -- The next word follows behind one separator, since another one is neither next nor last.
      obtain rfl : sep = d := ((h.keep_or_eq d (by simp)).resolve_left hd).symm
      have hhead : cs.head? ≠ some sep := by
        intro hdouble
        obtain ⟨rest, rfl⟩ := List.head?_eq_some_iff.mp hdouble
        exact h.not_infix ⟨[c], rest, rfl⟩
      have hne : cs ≠ [] := by
        rintro rfl
        exact h.getLast?_ne rfl
      have hrest := intercalate_runs hsep (h.of_suffix ⟨[c, sep], rfl⟩ hhead)
      rw [runs_cons_of_head? h.keep_head (by simpa using hsep), runs_cons_of_neg hsep]
      cases hwords : runs keep cs with
      | nil =>
        rw [hwords] at hrest
        exact absurd hrest.symm hne
      | cons word words =>
        rw [hwords] at hrest
        rw [List.intercalate_cons_cons, hrest]
        rfl

end IsJoined

/-- Words of kept characters are the words of the text that joins them. -/
theorem runs_intercalate (hsep : keep sep = false) {words : List (List Char)}
    (h : ∀ word ∈ words, word ≠ [] ∧ ∀ c ∈ word, keep c = true) :
    runs keep (List.intercalate [sep] words) = words := by
  induction words with
  | nil => rfl
  | cons word words ih =>
    obtain ⟨⟨hne, hword⟩, hrest⟩ := List.forall_mem_cons.mp h
    cases words with
    | nil => rw [List.intercalate_singleton, runs_of_forall hne hword]
    | cons word' words =>
      rw [List.intercalate_cons_cons, List.append_assoc, List.singleton_append,
        runs_append_cons hsep, runs_of_forall hne hword, ih hrest, List.singleton_append]

/-! ### One pass -/

/-- The next character of a text is written behind what has been written: itself if it is kept, else
a separator unless one stands there already. -/
def joinStep (keep : Char → Bool) (sep : Char) (out : List Char) (c : Char) : List Char :=
  if keep c then out ++ [c]
  else if out.getLast? = some sep then out
  else out ++ [sep]

/-- What one pass has written of a text. Whatever text follows, the words are those of the text, and
no separator stands beside another one. -/
structure IsWritten (keep : Char → Bool) (sep : Char) (cs out : List Char) : Prop where
  runs_append : ∀ rest, runs keep (out ++ rest) = runs keep (cs ++ rest)
  keep_or_eq : ∀ c ∈ out, keep c = true ∨ c = sep
  isChain : out.IsChain fun a b ↦ a ≠ sep ∨ b ≠ sep

namespace IsWritten

private theorem nil : IsWritten keep sep [] [] := ⟨fun _ ↦ rfl, by simp, .nil⟩

private theorem keep_or_eq_concat (h : IsWritten keep sep cs out) (hd : keep d = true ∨ d = sep) :
    ∀ c ∈ out ++ [d], keep c = true ∨ c = sep := by
  intro c hc
  rcases List.mem_append.mp hc with hc | hc
  · exact h.keep_or_eq c hc
  · rwa [List.mem_singleton.mp hc]

private theorem isChain_concat (h : IsWritten keep sep cs out)
    (hd : d ≠ sep ∨ out.getLast? ≠ some sep) :
    (out ++ [d]).IsChain fun a b ↦ a ≠ sep ∨ b ≠ sep := by
  refine h.isChain.append (.singleton d) ?_
  intro a ha b hb
  obtain rfl : d = b := Option.some.inj hb
  rcases hd with hd | hlast
  · exact .inr hd
  · left
    rintro rfl
    exact hlast ha

/-- One more character is written. -/
theorem step (hsep : keep sep = false) (h : IsWritten keep sep cs out) (c : Char) :
    IsWritten keep sep (cs ++ [c]) (joinStep keep sep out c) := by
  rw [joinStep]
  split
  · next hc =>
    have hne : c ≠ sep := by
      rintro rfl
      simp [hsep] at hc
    refine ⟨fun rest ↦ ?_, h.keep_or_eq_concat (.inl hc), h.isChain_concat (.inl hne)⟩
    rw [List.append_assoc, List.append_assoc, h.runs_append]
  · next hc =>
    rw [Bool.not_eq_true] at hc
    have hwords := h.runs_append []
    rw [List.append_nil, List.append_nil] at hwords
    split
    · next hlast =>
      -- The separator that is there ends the word as well.
      obtain ⟨front, rfl⟩ := List.getLast?_eq_some_iff.mp hlast
      refine ⟨fun rest ↦ ?_, h.keep_or_eq, h.isChain⟩
      rw [runs_append_cons hsep, runs, List.append_nil] at hwords
      rw [List.append_assoc, List.append_assoc, List.singleton_append, List.singleton_append,
        runs_append_cons hsep, runs_append_cons hc, hwords]
    · next hlast =>
      refine ⟨fun rest ↦ ?_, h.keep_or_eq_concat (.inr rfl), h.isChain_concat (.inr hlast)⟩
      rw [List.append_assoc, List.append_assoc, List.singleton_append, List.singleton_append,
        runs_append_cons hsep, runs_append_cons hc, hwords]

/-- Further text is written. -/
theorem foldl (hsep : keep sep = false) (h : IsWritten keep sep cs out) (more : List Char) :
    IsWritten keep sep (cs ++ more) (more.foldl (joinStep keep sep) out) := by
  induction more generalizing cs out with
  | nil => simpa using h
  | cons c more ih => simpa using ih (h.step hsep c)

end IsWritten

/-- A text without the separators at its ends. -/
def dropSeparators (sep : Char) (cs : List Char) : List Char :=
  (cs.dropWhile (· == sep)).rdropWhile (· == sep)

private theorem exists_dropSeparators (sep : Char) (cs : List Char) :
    ∃ before after, (∀ c ∈ before, c = sep) ∧ (∀ c ∈ after, c = sep) ∧
      cs = before ++ (dropSeparators sep cs ++ after) := by
  refine ⟨cs.takeWhile (· == sep), (cs.dropWhile (· == sep)).rtakeWhile (· == sep), ?_, ?_, ?_⟩
  · intro c hc
    have hsep := List.mem_takeWhile_imp hc
    exact beq_iff_eq.mp hsep
  · intro c hc
    have hsep := List.mem_rtakeWhile_imp hc
    exact beq_iff_eq.mp hsep
  · rw [dropSeparators, List.rdropWhile_append_rtakeWhile, List.takeWhile_append_dropWhile]

/-- What one pass has written are joined words once no separator stands at its ends. -/
theorem IsWritten.isJoined_dropSeparators (h : IsWritten keep sep cs out) :
    IsJoined keep sep (dropSeparators sep out) := by
  have hstart : dropSeparators sep out <+: out.dropWhile (· == sep) := List.rdropWhile_prefix _ _
  have hpart : dropSeparators sep out <:+: out :=
    hstart.isInfix.trans (List.dropWhile_suffix _).isInfix
  refine ⟨fun c hc ↦ h.keep_or_eq c (hpart.subset hc), fun hhead ↦ ?_, fun hlast ↦ ?_,
    List.IsChain.infix h.isChain hpart⟩
  · obtain ⟨rest, hrest⟩ := List.head?_eq_some_iff.mp hhead
    obtain ⟨behind, hdrop⟩ := hrest ▸ hstart
    have hfirst := List.head?_dropWhile_not (· == sep) out
    simp [← hdrop] at hfirst
  · have hne : dropSeparators sep out ≠ [] := by
      intro hnil
      rw [hnil] at hlast
      cases hlast
    have hend := List.rdropWhile_last_not _ _ hne
    rw [List.getLast?_eq_some_getLast hne, Option.some.injEq] at hlast
    exact hend (beq_iff_eq.mpr hlast)

/-- One pass joins the words of a text. -/
theorem dropSeparators_foldl_joinStep (hsep : keep sep = false) (cs : List Char) :
    dropSeparators sep (cs.foldl (joinStep keep sep) []) =
      List.intercalate [sep] (runs keep cs) := by
  have hwritten := IsWritten.nil.foldl hsep cs
  rw [List.nil_append] at hwritten
  generalize cs.foldl (joinStep keep sep) [] = out at hwritten ⊢
  have hjoined := hwritten.isJoined_dropSeparators
  have hwords := hwritten.runs_append []
  obtain ⟨before, after, hbefore, hafter, hout⟩ := exists_dropSeparators sep out
  generalize dropSeparators sep out = joined at hjoined hout ⊢
  rw [List.append_nil, List.append_nil, hout, runs_append_append (fun c hc ↦ hbefore c hc ▸ hsep)
    (fun c hc ↦ hafter c hc ▸ hsep)] at hwords
  rw [← hwords, hjoined.intercalate_runs hsep]

end CertCatalog.Text
