import CertCatalog.Proofs.Query.CanonicalText
import CertCatalog.Search

/-!
# Tokens and their meanings

A token means one thing: a predicate, a free term, or a report that it was dropped. So the parts of
a query count up to its tokens, and tokens in a row have their meanings in a row. Dropped tokens
leave nothing but their reports, which selection does not look at, and selection does not depend on
the order of the tokens either.
-/

namespace CertCatalog.Query

/-- A token with a colon, but with nothing before the first one or only blanks behind it. -/
def IsIncomplete (token : String) : Prop :=
  ∃ key value, token.toList = key ++ ':' :: value ∧ ':' ∉ key ∧
    (key = [] ∨ Text.trimChars value = [])

/-! ### One token -/

variable (aliases : KeyAliases) {token : String}

private theorem Term.ofToken_of_isIncomplete (h : IsIncomplete token) :
    ∃ d, ofToken aliases token = dropped d ∧ d.token? = some token := by
  obtain ⟨key, value, htoken, hcolon, hempty⟩ := h
  unfold ofToken
  rw [htoken, splitColon?_append hcolon]
  by_cases hkey : key = []
  · exact ⟨.emptyKey token, by simp [hkey], rfl⟩
  · have hvalue : Text.trimChars value = [] := hempty.resolve_left hkey
    exact ⟨.emptyValue token, by simp [hkey, hvalue], rfl⟩

private theorem Term.ofToken_of_colon_mem (hcolon : ':' ∈ token.toList) (h : ¬IsIncomplete token) :
    ∃ p, ofToken aliases token = predicate p := by
  obtain ⟨key, value, htoken, hkey⟩ := List.eq_append_cons_of_mem hcolon
  have hparts : ¬(key = [] ∨ Text.trimChars value = []) :=
    fun hempty ↦ h ⟨key, value, htoken, hkey, hempty⟩
  rw [not_or] at hparts
  exact ⟨_, ofToken_of_split htoken hkey hparts.1 hparts.2⟩

private theorem ofTokens_singleton (token : String) :
    (':' ∉ token.toList ∧ ∃ t, ofTokens aliases [token] = ⟨[], [t], []⟩) ∨
    (':' ∈ token.toList ∧ ¬IsIncomplete token ∧ ∃ p, ofTokens aliases [token] = ⟨[p], [], []⟩) ∨
    IsIncomplete token ∧
      ∃ d, d.token? = some token ∧ ofTokens aliases [token] = ⟨[], [], [d]⟩ := by
  have hterm : ofTokens aliases [token] = ofTerms [Term.ofToken aliases token] := rfl
  by_cases hcolon : ':' ∈ token.toList
  · by_cases hincomplete : IsIncomplete token
    · obtain ⟨d, hdropped, hname⟩ := Term.ofToken_of_isIncomplete aliases hincomplete
      exact .inr (.inr ⟨hincomplete, d, hname, by rw [hterm, hdropped]; rfl⟩)
    · obtain ⟨p, hpredicate⟩ := Term.ofToken_of_colon_mem aliases hcolon hincomplete
      exact .inr (.inl ⟨hcolon, hincomplete, p, by rw [hterm, hpredicate]; rfl⟩)
  · exact .inl ⟨hcolon, _, by rw [hterm, Term.ofToken_of_colon_notMem hcolon]; rfl⟩

/-! ### Lists of tokens -/

variable {aliases}

/-- The meaning of the first token stands before those of the others. -/
theorem ofTokens_cons (aliases : KeyAliases) (token : String) (tokens : List String) :
    ofTokens aliases (token :: tokens) =
      (ofTokens aliases [token]).append (ofTokens aliases tokens) :=
  ofTokens_append aliases [token] tokens

/-- The number of predicates, free terms and reports. -/
def size (q : Query) : Nat := q.predicates.length + q.terms.length + q.diagnostics.length

private theorem size_append (p q : Query) : (p.append q).size = p.size + q.size := by
  simp only [size, append, List.length_append]
  omega

/-- A query has one part for each token. -/
theorem size_ofTokens (aliases : KeyAliases) (tokens : List String) :
    (ofTokens aliases tokens).size = tokens.length := by
  induction tokens with
  | nil => rfl
  | cons token tokens ih =>
    have hone : (ofTokens aliases [token]).size = 1 := by
      rcases ofTokens_singleton aliases token with ⟨-, t, h⟩ | ⟨-, -, p, h⟩ | ⟨-, d, -, h⟩ <;>
        simp [h, size]
    rw [ofTokens_cons, size_append, hone, ih, List.length_cons, Nat.add_comm]

/-- Every report names an incomplete token. -/
theorem exists_mem_of_mem_diagnostics {tokens : List String} {d : Diagnostic}
    (h : d ∈ (ofTokens aliases tokens).diagnostics) :
    ∃ token ∈ tokens, IsIncomplete token ∧ d.token? = some token := by
  induction tokens with
  | nil => exact absurd h List.not_mem_nil
  | cons token tokens ih =>
    rw [ofTokens_cons] at h
    rcases List.mem_append.mp h with hfirst | hrest
    · refine ⟨token, List.mem_cons_self, ?_⟩
      rcases ofTokens_singleton aliases token with ⟨-, t, hone⟩ | ⟨-, -, p, hone⟩ |
        ⟨hincomplete, d', hname, hone⟩
      · simp [hone] at hfirst
      · simp [hone] at hfirst
      · obtain rfl : d = d' := by simpa [hone] using hfirst
        exact ⟨hincomplete, hname⟩
    · obtain ⟨token', hmem, hname⟩ := ih hrest
      exact ⟨token', List.mem_cons_of_mem _ hmem, hname⟩

/-- The tokens that are not reported. -/
def keptTokens (aliases : KeyAliases) (tokens : List String) : List String :=
  tokens.filter fun token ↦ (ofTokens aliases [token]).diagnostics.isEmpty

/-- Without the reported tokens, a query loses its reports and nothing else. -/
theorem ofTokens_keptTokens (aliases : KeyAliases) (tokens : List String) :
    ofTokens aliases (keptTokens aliases tokens) =
      { ofTokens aliases tokens with diagnostics := [] } := by
  induction tokens with
  | nil => rfl
  | cons token tokens ih =>
    unfold keptTokens at ih ⊢
    rw [ofTokens_cons, List.filter_cons]
    rcases ofTokens_singleton aliases token with ⟨-, t, h⟩ | ⟨-, -, p, h⟩ | ⟨-, d, -, h⟩ <;>
      simp [h, ih, ofTokens_cons aliases token, append]

/-- The query of a text is that of its tokens. An open quote is reported before the tokens. -/
theorem ofText_eq (aliases : KeyAliases) (s : String) :
    let q := ofTokens aliases (Tokens.ofText s).toList
    ofText aliases s = ⟨q.predicates, q.terms,
      (if (Tokens.ofText s).isUnterminated then [.unterminatedQuote] else []) ++
        q.diagnostics⟩ := by
  unfold ofText
  by_cases h : (Tokens.ofText s).isUnterminated = true <;> simp [h]

/-! ### Selection -/

/-- Tokens in another order select the same records. -/
theorem accepts_ofTokens_perm {a b : List String} (h : a.Perm b) (r : Record) :
    (ofTokens aliases a).accepts r = (ofTokens aliases b).accepts r := by
  have hterms := h.map (Term.ofToken aliases)
  unfold accepts
  rw [ofTokens, ofTokens, ofTerms, ofTerms, (hterms.filterMap _).all_eq,
    (hterms.filterMap Term.free?).all_eq]

/-- Every token has one meaning, and reports change nothing. The queries of two lists of tokens in a
row stand in a row. A token yields one free term, one predicate or one report, so the parts of a
query are as many as its tokens, and a text has one report more, in front, when it ends in an open
quote. Without the reported tokens, predicates and free terms are the same and so is what they
select, and so it is for the tokens in any other order. -/
theorem ofTokens_partition (aliases : KeyAliases) (a b : List String) :
    ofTokens aliases (a ++ b) = (ofTokens aliases a).append (ofTokens aliases b) ∧
    (∀ token,
      (':' ∉ token.toList ∧ ∃ t, ofTokens aliases [token] = ⟨[], [t], []⟩) ∨
      (':' ∈ token.toList ∧ ¬IsIncomplete token ∧
        ∃ p, ofTokens aliases [token] = ⟨[p], [], []⟩) ∨
      IsIncomplete token ∧
        ∃ d, d.token? = some token ∧ ofTokens aliases [token] = ⟨[], [], [d]⟩) ∧
    (ofTokens aliases a).predicates.length + (ofTokens aliases a).terms.length +
      (ofTokens aliases a).diagnostics.length = a.length ∧
    (∀ s, let q := ofTokens aliases (Tokens.ofText s).toList
      (ofText aliases s).predicates = q.predicates ∧ (ofText aliases s).terms = q.terms ∧
      (ofText aliases s).diagnostics =
        (if (Tokens.ofText s).isUnterminated then [.unterminatedQuote] else []) ++
          q.diagnostics ∧
      Diagnostic.unterminatedQuote ∉ q.diagnostics) ∧
    ((ofTokens aliases (keptTokens aliases a)).predicates = (ofTokens aliases a).predicates ∧
      (ofTokens aliases (keptTokens aliases a)).terms = (ofTokens aliases a).terms ∧
      ∀ (r : Record) (criteria : Criteria),
        isSelected (ofTokens aliases (keptTokens aliases a)) criteria r =
          isSelected (ofTokens aliases a) criteria r) ∧
    ∀ c : List String, c.Perm a → ∀ (r : Record) (criteria : Criteria),
      isSelected (ofTokens aliases c) criteria r = isSelected (ofTokens aliases a) criteria r := by
  refine ⟨ofTokens_append aliases a b, ofTokens_singleton aliases, size_ofTokens aliases a, ?_, ?_,
    ?_⟩
  · intro s q
    rw [ofText_eq]
    refine ⟨rfl, rfl, rfl, fun hreport ↦ ?_⟩
    -- A report about a token names it.
    obtain ⟨token, -, -, hname⟩ := exists_mem_of_mem_diagnostics hreport
    cases hname
  · rw [ofTokens_keptTokens]
    exact ⟨rfl, rfl, fun r criteria ↦ rfl⟩
  · intro c hc r criteria
    rw [isSelected, isSelected, accepts_ofTokens_perm hc]

/-- Tokens of all kinds, some of them dropped, in the reverse order. -/
theorem ofTokens_partition_reverse :
    let tokens := ["tag:dfir", ":x", "Incident", "level: ", "year:2020", ":"]
    let c := tokens.reverse
    c.Perm tokens ∧ ∀ (r : Record) (criteria : Criteria),
      isSelected (ofTokens .builtIn c) criteria r =
        isSelected (ofTokens .builtIn tokens) criteria r := by
  intro tokens c
  have hperm : c.Perm tokens := List.reverse_perm tokens
  exact ⟨hperm, (ofTokens_partition .builtIn tokens []).2.2.2.2.2 c hperm⟩

end CertCatalog.Query
