import CertCatalog.Proofs.Query.Concatenation

/-!
# Quoted tokens

A character is safe inside a quote of the kind that it is not, so quoting a word character by
character hides its blanks and quotes from the scan. The spans stand side by side and belong to one
token, which a blank ends. So every list of tokens that are not empty can be written down, and no
other list is ever read.
-/

namespace CertCatalog.Query

private theorem quote_cons (c : Char) (cs : List Char) :
    quote (c :: cs) = (if c = '"' then ['\'', c, '\''] else ['"', c, '"']) ++ quote cs := by
  rw [quote, List.flatMap_cons, ← quote]

/-- A text with each character quoted. -/
def quoteText (s : String) : String := String.ofList (quote s.toList)

private theorem map_toList_map_quoteText (texts : List String) :
    (texts.map quoteText).map String.toList = (texts.map String.toList).map quote := by
  simp [quoteText]

/-! ### Words in a row -/

/-- Words in a row, each but the last with its separator behind it. -/
def separate (separators words : List (List Char)) : List Char :=
  (List.zipWith (· ++ ·) words (separators ++ [[]])).flatten

private theorem separate_singleton (word : List Char) : separate [] [word] = word := by
  rw [separate, List.nil_append, List.zipWith_cons_cons, List.zipWith_nil_left,
    List.flatten_singleton, List.append_nil]

private theorem separate_cons (separator word : List Char) (separators words : List (List Char)) :
    separate (separator :: separators) (word :: words) =
      word ++ separator ++ separate separators words := by
  rw [separate, List.cons_append, List.zipWith_cons_cons, List.flatten_cons, ← separate]

private theorem intercalate_eq_separate (separator : List Char) (words : List (List Char)) :
    List.intercalate separator words =
      separate (List.replicate (words.length - 1) separator) words := by
  induction words with
  | nil => rfl
  | cons word words ih =>
    cases words with
    | nil =>
      rw [List.intercalate_singleton]
      exact (separate_singleton word).symm
    | cons word' words =>
      rw [List.intercalate_cons_cons, ih, ← separate_cons, ← List.replicate_succ]
      rfl

/-- Texts in a row, each but the last with its separator behind it. -/
def separateTexts (separators texts : List String) : String :=
  String.ofList (separate (separators.map String.toList) (texts.map String.toList))

/-! ### Scanning quoted words -/

namespace Tokens

private theorem push_of_ne_nil {word : List Char} (h : word ≠ []) (t : Tokens) :
    push word t = ⟨word :: t.words, t.openQuote⟩ := by
  rw [push, if_neg (by simpa using h)]

private theorem mem_words_push {word v : List Char} {t : Tokens} :
    v ∈ (push word t).words ↔ v = word ∧ word ≠ [] ∨ v ∈ t.words := by
  cases word <;> simp [push]

/-- A quoted word is read as its characters, behind those that the token already has. -/
theorem scan_quote_append (current word rest : List Char) :
    scan none current (quote word ++ rest) = scan none (current ++ word) rest := by
  induction word generalizing current with
  | nil => rw [List.append_nil]; rfl
  | cons c word ih =>
    rw [quote_cons, List.append_assoc]
    have hspan : scan none current
        ((if c = '"' then ['\'', c, '\''] else ['"', c, '"']) ++ (quote word ++ rest)) =
          scan none (current ++ [c]) (quote word ++ rest) := by
      by_cases hc : c = '"'
      · subst hc
        rfl
      · simp [hc, scan, isQuote]
    rw [hspan, ih, List.append_assoc, List.singleton_append]

private theorem scan_plain_append {word : List Char}
    (h : ∀ c ∈ word, isQuote c = false ∧ Text.isBlank c = false) (current rest : List Char) :
    scan none current (word ++ rest) = scan none (current ++ word) rest := by
  induction word generalizing current with
  | nil => rw [List.append_nil]; rfl
  | cons c word ih =>
    obtain ⟨hquote, hblank⟩ := h c List.mem_cons_self
    have hrest := ih fun d hd ↦ h d (List.mem_cons_of_mem _ hd)
    simp only [List.cons_append, scan_none_cons, hquote, hblank, Bool.false_eq_true, if_false,
      hrest, List.append_assoc, List.nil_append]

/-- Plain characters with a quoted word behind them are one token. -/
theorem ofText_append_quoteText {plain : String}
    (h : ∀ c ∈ plain.toList, isQuote c = false ∧ Text.isBlank c = false) {word : String}
    (hne : plain ++ word ≠ "") :
    ofText (plain ++ quoteText word) = ⟨[(plain ++ word).toList], none⟩ := by
  have hend := scan_quote_append plain.toList word.toList []
  rw [List.append_nil, ← String.toList_append] at hend
  rw [ofText, String.toList_append, quoteText, String.toList_ofList, scan_plain_append h,
    List.nil_append, hend, scan, push_of_ne_nil (by simpa using hne)]

private theorem scan_quote_append_blanks {blanks : List Char} (hne : blanks ≠ [])
    (hb : blanks.all Text.isBlank = true) (word rest : List Char) :
    scan none [] (quote word ++ blanks ++ rest) = push word (scan none [] rest) := by
  cases blanks with
  | nil => exact absurd rfl hne
  | cons b blanks =>
    rw [List.all_cons, Bool.and_eq_true] at hb
    rw [List.append_assoc, scan_quote_append, List.nil_append, List.cons_append, scan_none_cons,
      isQuote_of_isBlank hb.1, hb.1, ← scan_blanks hb.2 rest]
    rfl

/-- Quoted words with blanks between neighbours are read as these words. The induction runs over
the words and their separators together: behind a separator the scan is in its first state. -/
theorem scan_separate_quote {separators words : List (List Char)}
    (hlength : separators.length = words.length - 1) (hwords : ∀ word ∈ words, word ≠ [])
    (hblank : ∀ blanks ∈ separators, blanks ≠ [] ∧ blanks.all Text.isBlank = true) :
    scan none [] (separate separators (words.map quote)) = ⟨words, none⟩ := by
  induction words generalizing separators with
  | nil =>
    cases List.length_eq_zero_iff.mp hlength
    rfl
  | cons word words ih =>
    obtain ⟨hword, hrest⟩ := List.forall_mem_cons.mp hwords
    rw [List.length_cons, Nat.add_sub_cancel] at hlength
    cases separators with
    | nil =>
      -- Without a separator, the word is the last one.
      cases List.length_eq_zero_iff.mp hlength.symm
      have hend := scan_quote_append [] word []
      rw [List.append_nil, List.nil_append] at hend
      rw [List.map_singleton, separate_singleton, hend, scan, push_of_ne_nil hword]
    | cons blanks separators =>
      obtain ⟨⟨hne, hb⟩, hseparators⟩ := List.forall_mem_cons.mp hblank
      have hlength' : separators.length = words.length - 1 := by
        rw [← hlength, List.length_cons, Nat.add_sub_cancel]
      rw [List.map_cons, separate_cons, scan_quote_append_blanks hne hb,
        ih hlength' hrest hseparators, push_of_ne_nil hword]

/-- Quoted texts, joined by spaces, have these texts as tokens. -/
theorem ofText_intercalate_quoteText {tokens : List String} (h : ∀ token ∈ tokens, token ≠ "") :
    ofText (String.intercalate " " (tokens.map quoteText)) =
      ⟨tokens.map String.toList, none⟩ := by
  have hspace : " ".toList = [' '] := rfl
  rw [ofText, String.toList_intercalate, hspace, map_toList_map_quoteText,
    intercalate_eq_separate]
  apply scan_separate_quote
  · rw [List.length_replicate, List.length_map]
  · intro word hword
    obtain ⟨token, htoken, rfl⟩ := List.mem_map.mp hword
    simpa using h token htoken
  · intro blanks hblanks
    rw [List.eq_of_mem_replicate hblanks]
    decide

/-- No token is empty. -/
theorem ne_nil_of_mem_scan {openQuote : Option Char} {current cs word : List Char}
    (h : word ∈ (scan openQuote current cs).words) : word ≠ [] := by
  induction cs generalizing openQuote current with
  | nil =>
    rw [scan, mem_words_push] at h
    rcases h with ⟨rfl, hne⟩ | h
    · exact hne
    · exact absurd h List.not_mem_nil
  | cons c cs ih =>
    cases openQuote with
    | some quote =>
      rw [scan_some_cons] at h
      split at h <;> exact ih h
    | none =>
      rw [scan_none_cons] at h
      split at h
      · exact ih h
      · split at h
        · rcases mem_words_push.mp h with ⟨rfl, hne⟩ | h
          · exact hne
          · exact ih h
        · exact ih h

/-- No token of a text is empty. -/
theorem ne_empty_of_mem_ofText {s token : String} (h : token ∈ (ofText s).toList) :
    token ≠ "" := by
  obtain ⟨word, hword, rfl⟩ := List.mem_map.mp h
  intro hempty
  apply ne_nil_of_mem_scan hword
  rw [← String.toList_ofList (l := word), hempty]
  rfl

/-- Every list of tokens can be written and is read back. Tokens that are not empty, whatever their
characters, quoted character by character and with any blanks between neighbours, are the tokens of
the text, and no quote is left open. -/
theorem ofText_separateTexts_quoteText {tokens separators : List String}
    (hlength : separators.length = tokens.length - 1) (htokens : ∀ token ∈ tokens, token ≠ "")
    (hblank : ∀ blanks ∈ separators, blanks ≠ "" ∧ blanks.toList.all Text.isBlank = true) :
    (ofText (separateTexts separators (tokens.map quoteText))).toList = tokens ∧
      (ofText (separateTexts separators (tokens.map quoteText))).isUnterminated = false := by
  have hscan : ofText (separateTexts separators (tokens.map quoteText)) =
      ⟨tokens.map String.toList, none⟩ := by
    rw [ofText, separateTexts, String.toList_ofList, map_toList_map_quoteText]
    apply scan_separate_quote
    · rw [List.length_map, List.length_map, hlength]
    · intro word hword
      obtain ⟨token, htoken, rfl⟩ := List.mem_map.mp hword
      simpa using htokens token htoken
    · intro blanks hblanks
      obtain ⟨s, hs, rfl⟩ := List.mem_map.mp hblanks
      simpa using hblank s hs
  rw [hscan]
  refine ⟨?_, rfl⟩
  rw [toList, List.map_map]
  exact (List.map_congr_left fun token _ ↦ String.ofList_toList).trans (List.map_id tokens)

/-- A token of both quotes, a blank and a colon, and one of a quote alone, behind different
blanks. -/
theorem ofText_separateTexts_quoteText_both_quotes :
    let tokens := ["tag:it's \"so\"", "\"", " "]
    let separators := ["\u3000", "\t\n "]
    (separators.length = tokens.length - 1 ∧ (∀ token ∈ tokens, token ≠ "") ∧
      ∀ blanks ∈ separators, blanks ≠ "" ∧ blanks.toList.all Text.isBlank = true) ∧
    (ofText (separateTexts separators (tokens.map quoteText))).toList = tokens ∧
      (ofText (separateTexts separators (tokens.map quoteText))).isUnterminated = false := by
  intro tokens separators
  have hlength : separators.length = tokens.length - 1 := rfl
  have htokens : ∀ token ∈ tokens, token ≠ "" := by decide
  have hblank : ∀ blanks ∈ separators, blanks ≠ "" ∧ blanks.toList.all Text.isBlank = true := by
    decide
  exact ⟨⟨hlength, htokens, hblank⟩, ofText_separateTexts_quoteText hlength htokens hblank⟩

end Tokens
end CertCatalog.Query
