import CertCatalog.Query.Match

/-!
# Concatenated queries

A blank behind a text without an open quote ends its last token and leaves nothing behind, so what
follows is read as a query of its own. Tokens, conditions and diagnostics of the whole text are
those of the two parts in a row, and a record satisfies the whole when it satisfies both.
-/

namespace CertCatalog.Query

namespace Tokens

/-- The tokens of two texts in a row. The second text decides about an open quote. -/
def append (s t : Tokens) : Tokens := ⟨s.words ++ t.words, t.openQuote⟩

private theorem toList_append (s t : Tokens) : (s.append t).toList = s.toList ++ t.toList := by
  simp [toList, append]

@[simp] theorem openQuote_push (word : List Char) (t : Tokens) :
    (push word t).openQuote = t.openQuote := by
  unfold push
  split <;> rfl

private theorem push_append (word : List Char) (s t : Tokens) :
    push word (s.append t) = (push word s).append t := by
  unfold push
  split <;> rfl

theorem isQuote_of_isBlank {c : Char} (h : Text.isBlank c = true) : isQuote c = false := by
  cases hq : isQuote c with
  | false => rfl
  | true =>
    simp only [isQuote, Bool.or_eq_true, beq_iff_eq] at hq
    rcases hq with rfl | rfl <;> exact absurd h (by decide)

theorem scan_some_cons (quote : Char) (current : List Char) (c : Char) (cs : List Char) :
    scan (some quote) current (c :: cs) =
      if c = quote then scan none current cs else scan (some quote) (current ++ [c]) cs := by
  rw [scan]

theorem scan_none_cons (current : List Char) (c : Char) (cs : List Char) :
    scan none current (c :: cs) =
      if isQuote c then scan (some c) current cs
      else if Text.isBlank c then push current (scan none [] cs)
      else scan none (current ++ [c]) cs := by
  rw [scan]

theorem scan_blanks {blanks : List Char} (h : blanks.all Text.isBlank = true) (cs : List Char) :
    scan none [] (blanks ++ cs) = scan none [] cs := by
  induction blanks with
  | nil => rfl
  | cons b rest ih =>
    rw [List.all_cons, Bool.and_eq_true] at h
    rw [List.cons_append, scan_none_cons, isQuote_of_isBlank h.1, h.1]
    exact ih h.2

/-- A blank outside a span ends the current token, and the scan starts afresh behind it. The
induction runs over any state of the scan, since the quotes before the blank may still be open
when it starts. -/
theorem scan_append_blank {b : Char} (hb : Text.isBlank b = true) (cs : List Char)
    {openQuote : Option Char} {current before : List Char}
    (h : (scan openQuote current before).openQuote = none) :
    scan openQuote current (before ++ b :: cs) =
      (scan openQuote current before).append (scan none [] cs) := by
  induction before generalizing openQuote current with
  | nil =>
    rw [scan, openQuote_push] at h
    dsimp only at h
    subst h
    rw [List.nil_append, scan_none_cons, isQuote_of_isBlank hb, hb, scan, ← push_append]
    rfl
  | cons c before ih =>
    rw [List.cons_append]
    cases openQuote with
    | some quote =>
      rw [scan_some_cons] at h
      rw [scan_some_cons, scan_some_cons]
      by_cases hc : c = quote
      · simp only [if_pos hc] at h ⊢
        exact ih h
      · simp only [if_neg hc] at h ⊢
        exact ih h
    | none =>
      rw [scan_none_cons] at h
      rw [scan_none_cons, scan_none_cons]
      by_cases hq : isQuote c = true
      · simp only [if_pos hq] at h ⊢
        exact ih h
      · by_cases hw : Text.isBlank c = true
        · simp only [if_neg hq, if_pos hw, openQuote_push] at h ⊢
          rw [← push_append, ih h]
        · simp only [if_neg hq, if_neg hw] at h ⊢
          exact ih h

/-- The tokens of a text without an open quote, blanks, and a further text are the tokens of both
texts in a row. -/
theorem ofText_append_blanks {s blanks : String} (hs : (ofText s).isUnterminated = false)
    (hne : blanks ≠ "") (hb : blanks.toList.all Text.isBlank = true) (t : String) :
    ofText (s ++ blanks ++ t) = (ofText s).append (ofText t) := by
  have hopen : (scan none [] s.toList).openQuote = none :=
    Option.isNone_iff_eq_none.mp (Option.isSome_eq_false_iff.mp hs)
  rw [ofText, String.toList_append, String.toList_append, List.append_assoc]
  cases hl : blanks.toList with
  | nil => exact absurd (String.toList_eq_nil_iff.mp hl) hne
  | cons b rest =>
    rw [hl, List.all_cons, Bool.and_eq_true] at hb
    rw [List.cons_append, scan_append_blank hb.1 _ hopen, scan_blanks hb.2]
    rfl

end Tokens

/-- The conditions and diagnostics of two queries in a row. -/
def append (p q : Query) : Query :=
  ⟨p.predicates ++ q.predicates, p.terms ++ q.terms, p.diagnostics ++ q.diagnostics⟩

/-- The query of tokens in a row is that of the first ones before that of the others. -/
theorem ofTokens_append (aliases : KeyAliases) (a b : List String) :
    ofTokens aliases (a ++ b) = (ofTokens aliases a).append (ofTokens aliases b) := by
  simp [ofTokens, ofTerms, append]

/-- A record satisfies two queries in a row when it satisfies both. -/
theorem accepts_append (p q : Query) (r : Record) :
    (p.append q).accepts r = (p.accepts r && q.accepts r) := by
  simp only [accepts, append, List.all_append]
  cases p.predicates.all (·.accepts r) <;> cases q.predicates.all (·.accepts r) <;> simp

/-- An open quote is reported and changes no condition. -/
theorem accepts_ofText (aliases : KeyAliases) (s : String) (r : Record) :
    (ofText aliases s).accepts r = (ofTokens aliases (Tokens.ofText s).toList).accepts r := by
  unfold ofText
  dsimp only
  split <;> rfl

/-- A record satisfies a text without an open quote, blanks, and a further text when it satisfies
both texts. -/
theorem accepts_ofText_append_blanks (aliases : KeyAliases) {s blanks : String}
    (hs : (Tokens.ofText s).isUnterminated = false) (hne : blanks ≠ "")
    (hb : blanks.toList.all Text.isBlank = true) (t : String) (r : Record) :
    (ofText aliases (s ++ blanks ++ t)).accepts r =
      ((ofText aliases s).accepts r && (ofText aliases t).accepts r) := by
  rw [accepts_ofText, Tokens.ofText_append_blanks hs hne hb, Tokens.toList_append,
    ofTokens_append, accepts_append, ← accepts_ofText, ← accepts_ofText]

end CertCatalog.Query
