import CertCatalog.Proofs.Query.Quoting
import CertCatalog.Proofs.Text.SmallLetters
import CertCatalog.Proofs.Text.Trimmed
import Mathlib.Data.List.TakeWhile

/-!
# Canonical query texts

A query is written by its conditions: each predicate as key and value around a colon, each free term
as it is, all of them quoted. Keys are resolved and in lowercase, values are trimmed and free terms
are in lowercase, so reading them again changes nothing. The canonical text of a query has the same
conditions, and what the first text had to be recovered from is gone.
-/

namespace CertCatalog

/-! ### Keys -/

/-- A text that a query may have before its colon, in lowercase. -/
structure IsKeyText (key : String) : Prop where
  ne_empty : key ≠ ""
  colon_notMem : ':' ∉ key.toList
  lower_eq : Text.lower key = key

instance (key : String) : Decidable (IsKeyText key) :=
  decidable_of_iff (key ≠ "" ∧ ':' ∉ key.toList ∧ Text.lower key = key)
    ⟨fun ⟨hne, hcolon, hlower⟩ ↦ ⟨hne, hcolon, hlower⟩, fun ⟨hne, hcolon, hlower⟩ ↦
      ⟨hne, hcolon, hlower⟩⟩

private theorem isKeyText_lower {key : List Char} (hne : key ≠ []) (hcolon : ':' ∉ key) :
    IsKeyText (Text.lower (String.ofList key)) where
  ne_empty := by
    rw [ne_eq, Text.lower_eq_empty_iff, ← String.toList_eq_nil_iff, String.toList_ofList]
    exact hne
  colon_notMem := by
    rw [Text.toList_lower, String.toList_ofList, Text.lowerChars,
      Text.mem_lowerFrom_iff (by decide)]
    exact hcolon
  lower_eq := Text.lower_lower _

namespace KeyAliases

/-- Every alias stands for a key that is no other alias. -/
def IsSettled (aliases : KeyAliases) : Prop :=
  ∀ pair ∈ aliases.pairs, IsKeyText pair.2 ∧ aliases.resolve pair.2 = pair.2

private theorem isSettled_builtIn : builtIn.IsSettled := by
  unfold IsSettled
  decide +kernel

private theorem IsSettled.resolve {aliases : KeyAliases} (h : aliases.IsSettled) {key : String}
    (hkey : IsKeyText key) :
    IsKeyText (aliases.resolve key) ∧
      aliases.resolve (aliases.resolve key) = aliases.resolve key := by
  cases hfind : aliases.pairs.lookup key with
  | none =>
    have hself : aliases.resolve key = key := by rw [KeyAliases.resolve, hfind, Option.getD_none]
    rw [hself, hself]
    exact ⟨hkey, rfl⟩
  | some target =>
    have htarget : aliases.resolve key = target := by
      rw [KeyAliases.resolve, hfind, Option.getD_some]
    obtain ⟨before, behind, hpairs, -⟩ := List.lookup_eq_some_iff.mp hfind
    have hmem : (key, target) ∈ aliases.pairs := by simp [hpairs]
    rw [htarget]
    exact h _ hmem

end KeyAliases

/-! ### Tokens -/

/-- The token of a predicate: key and value around a colon. -/
def Predicate.token (p : Predicate) : String := p.key ++ ":" ++ p.value

private theorem Predicate.toList_token (p : Predicate) :
    p.token.toList = p.key.toList ++ ':' :: p.value.toList := by
  have hcolon : ":".toList = [':'] := rfl
  rw [token, String.toList_append, String.toList_append, hcolon, List.append_assoc,
    List.singleton_append]

private theorem Predicate.token_ne_empty (p : Predicate) : p.token ≠ "" := by
  intro hempty
  have hchars := congrArg String.toList hempty
  rw [toList_token] at hchars
  simp at hchars

namespace Query
namespace Term

theorem splitColon?_append {key : List Char} (hkey : ':' ∉ key) (value : List Char) :
    splitColon? (key ++ ':' :: value) = some (key, value) := by
  have hpos : ∀ c ∈ key, (c != ':') = true := by
    rintro c hc
    simpa using fun heq : c = ':' ↦ hkey (heq ▸ hc)
  rw [splitColon?, List.dropWhile_append_of_pos hpos, List.takeWhile_append_of_pos hpos]
  simp

private theorem splitColon?_eq_none {cs : List Char} (h : ':' ∉ cs) : splitColon? cs = none := by
  have hdrop : cs.dropWhile (· != ':') = [] := by
    rw [List.dropWhile_eq_nil_iff]
    intro c hc
    simpa using fun heq : c = ':' ↦ h (heq ▸ hc)
  rw [splitColon?, hdrop]

private theorem notMem_or_exists_append (cs : List Char) :
    ':' ∉ cs ∨ ∃ key value, ':' ∉ key ∧ cs = key ++ ':' :: value := by
  by_cases h : ':' ∈ cs
  · obtain ⟨key, value, hsplit, hkey⟩ := List.eq_append_cons_of_mem h
    exact .inr ⟨key, value, hkey, hsplit⟩
  · exact .inl h

variable {aliases : KeyAliases} {token : String}

/-- A token without a colon is a free term in lowercase. -/
theorem ofToken_of_colon_notMem (h : ':' ∉ token.toList) :
    ofToken aliases token = free (Text.lower token) := by
  rw [ofToken, splitColon?_eq_none h]

/-- A token with parts around a colon is a predicate when neither part is empty. -/
theorem ofToken_of_split {key value : List Char} (htoken : token.toList = key ++ ':' :: value)
    (hcolon : ':' ∉ key) (hkey : key ≠ []) (hvalue : Text.trimChars value ≠ []) :
    ofToken aliases token =
      predicate (.of (aliases.resolve (Text.lower (String.ofList key))) (String.ofList value)) := by
  rw [ofToken, htoken, splitColon?_append hcolon]
  dsimp only
  rw [if_neg (by simpa using hkey), if_neg (by simpa using hvalue)]

private theorem ofToken_eq_free_iff {term : String} :
    ofToken aliases token = free term ↔ ':' ∉ token.toList ∧ term = Text.lower token := by
  constructor
  · intro h
    rcases notMem_or_exists_append token.toList with hcolon | ⟨key, value, hcolon, htoken⟩
    · rw [ofToken_of_colon_notMem hcolon, Term.free.injEq] at h
      exact ⟨hcolon, h.symm⟩
    · rw [ofToken, htoken, splitColon?_append hcolon] at h
      dsimp only at h
      split at h
      · cases h
      · split at h <;> cases h
  · rintro ⟨hcolon, rfl⟩
    exact ofToken_of_colon_notMem hcolon

/-- Predicates come from tokens with a key before the first colon and a value behind it. -/
theorem ofToken_eq_predicate_iff {p : Predicate} :
    ofToken aliases token = predicate p ↔
      ∃ key value, token.toList = key ++ ':' :: value ∧ ':' ∉ key ∧ key ≠ [] ∧
        Text.trimChars value ≠ [] ∧
        p = .of (aliases.resolve (Text.lower (String.ofList key))) (String.ofList value) := by
  constructor
  · intro h
    rcases notMem_or_exists_append token.toList with hcolon | ⟨key, value, hcolon, htoken⟩
    · rw [ofToken_of_colon_notMem hcolon] at h
      cases h
    · refine ⟨key, value, htoken, hcolon, ?_⟩
      rw [ofToken, htoken, splitColon?_append hcolon] at h
      dsimp only at h
      split at h
      · cases h
      · next hkey =>
        split at h
        · cases h
        · next hvalue =>
          rw [Term.predicate.injEq] at h
          exact ⟨by simpa using hkey, by simpa using hvalue, h.symm⟩
  · rintro ⟨key, value, htoken, hcolon, hkey, hvalue, rfl⟩
    exact ofToken_of_split htoken hcolon hkey hvalue

/-- The token of a predicate that a token yields has the same meaning. -/
theorem ofToken_token (haliases : aliases.IsSettled) {p : Predicate}
    (h : ofToken aliases token = predicate p) : ofToken aliases p.token = predicate p := by
  obtain ⟨key, value, -, hcolon, hkey, hvalue, rfl⟩ := ofToken_eq_predicate_iff.mp h
  obtain ⟨hkeyText, hresolve⟩ := haliases.resolve (isKeyText_lower hkey hcolon)
  generalize aliases.resolve (Text.lower (String.ofList key)) = target at hkeyText hresolve
  rw [ofToken_eq_predicate_iff]
  refine ⟨target.toList, Text.trimChars value, ?_, hkeyText.colon_notMem, ?_, ?_, ?_⟩
  · simp only [Predicate.toList_token, Predicate.of, hkeyText.lower_eq, Text.toList_trim,
      String.toList_ofList]
  · simpa using hkeyText.ne_empty
  · rw [Text.trimChars_trimChars]
    exact hvalue
  · have hvalue : Text.trim (String.ofList (Text.trimChars value)) =
        Text.trim (String.ofList value) := by
      rw [Text.trim, Text.trim, String.toList_ofList, String.toList_ofList,
        Text.trimChars_trimChars]
    rw [String.ofList_toList, hkeyText.lower_eq, hresolve]
    simp only [Predicate.of, hvalue]

/-- A free term that a token yields is a token with the same meaning. -/
theorem ofToken_free {term : String} (h : ofToken aliases token = free term) :
    ofToken aliases term = free term := by
  obtain ⟨hcolon, rfl⟩ := ofToken_eq_free_iff.mp h
  rw [ofToken_eq_free_iff, Text.lower_lower, Text.toList_lower, Text.lowerChars,
    Text.mem_lowerFrom_iff (by decide)]
  exact ⟨hcolon, rfl⟩

private theorem ne_empty_of_free {term : String} (hne : token ≠ "")
    (h : ofToken aliases token = free term) : term ≠ "" := by
  obtain ⟨-, rfl⟩ := ofToken_eq_free_iff.mp h
  intro hempty
  exact hne (Text.lower_eq_empty_iff.mp hempty)

end Term

/-! ### Texts -/

/-- The tokens of the conditions of a query, predicates first. -/
def tokens (q : Query) : List String := q.predicates.map Predicate.token ++ q.terms

/-- The canonical text of a query: its tokens, quoted and joined by spaces. -/
def toText (q : Query) : String := String.intercalate " " (q.tokens.map quoteText)

/-- The query of a text without an open quote is that of its tokens. -/
theorem ofText_of_tokens {aliases : KeyAliases} {s : String} {words : List (List Char)}
    (h : Tokens.ofText s = ⟨words, none⟩) :
    ofText aliases s = ofTokens aliases (words.map String.ofList) := by
  rw [ofText, h]
  rfl

/-- The conditions of a text are those of its tokens, in order. -/
theorem conditions_ofText (aliases : KeyAliases) (s : String) :
    let terms := (Tokens.ofText s).toList.map (Term.ofToken aliases)
    (ofText aliases s).predicates = terms.filterMap Term.predicate? ∧
      (ofText aliases s).terms = terms.filterMap Term.free? := by
  intro terms
  unfold ofText
  dsimp only
  split <;> exact ⟨rfl, rfl⟩

private theorem exists_token_of_mem_predicates {aliases : KeyAliases} {s : String} {p : Predicate}
    (h : p ∈ (ofText aliases s).predicates) :
    ∃ token, Term.ofToken aliases token = .predicate p := by
  rw [(conditions_ofText aliases s).1] at h
  obtain ⟨term, hterm, hp⟩ := List.mem_filterMap.mp h
  obtain ⟨token, -, rfl⟩ := List.mem_map.mp hterm
  refine ⟨token, ?_⟩
  cases hmeaning : Term.ofToken aliases token <;> simp_all [Term.predicate?]

private theorem exists_token_of_mem_terms {aliases : KeyAliases} {s term : String}
    (h : term ∈ (ofText aliases s).terms) :
    ∃ token, token ≠ "" ∧ Term.ofToken aliases token = .free term := by
  rw [(conditions_ofText aliases s).2] at h
  obtain ⟨meaning, hmeaning, hterm⟩ := List.mem_filterMap.mp h
  obtain ⟨token, htoken, rfl⟩ := List.mem_map.mp hmeaning
  refine ⟨token, Tokens.ne_empty_of_mem_ofText htoken, ?_⟩
  cases hmeaning : Term.ofToken aliases token <;> simp_all [Term.free?]

/-- Tokens that mean the conditions of a query make up the query again. -/
theorem ofTokens_tokens {aliases : KeyAliases} {q : Query}
    (hpredicates : ∀ p ∈ q.predicates, Term.ofToken aliases p.token = .predicate p)
    (hterms : ∀ t ∈ q.terms, Term.ofToken aliases t = .free t) :
    ofTokens aliases q.tokens = { q with diagnostics := [] } := by
  have hmeanings : q.tokens.map (Term.ofToken aliases) =
      q.predicates.map Term.predicate ++ q.terms.map Term.free := by
    rw [tokens, List.map_append, List.map_map]
    congr 1
    · exact List.map_congr_left hpredicates
    · exact List.map_congr_left hterms
  rw [ofTokens, hmeanings]
  simp [ofTerms, List.filterMap_map, Function.comp_def, Term.predicate?, Term.free?,
    Term.diagnostic?]

/-- Under settled aliases, the canonical text of a query has its conditions and nothing else. -/
theorem ofText_toText_of_isSettled {aliases : KeyAliases} (haliases : aliases.IsSettled)
    (s : String) :
    ofText aliases (ofText aliases s).toText = { ofText aliases s with diagnostics := [] } := by
  have hpredicates : ∀ p ∈ (ofText aliases s).predicates,
      Term.ofToken aliases p.token = .predicate p := by
    intro p hp
    obtain ⟨token, htoken⟩ := exists_token_of_mem_predicates hp
    exact Term.ofToken_token haliases htoken
  have hterms : ∀ t ∈ (ofText aliases s).terms, t ≠ "" ∧ Term.ofToken aliases t = .free t := by
    intro t ht
    obtain ⟨token, hne, htoken⟩ := exists_token_of_mem_terms ht
    exact ⟨Term.ne_empty_of_free hne htoken, Term.ofToken_free htoken⟩
  have hne : ∀ token ∈ (ofText aliases s).tokens, token ≠ "" := by
    intro token htoken
    rcases List.mem_append.mp htoken with h | h
    · obtain ⟨p, -, rfl⟩ := List.mem_map.mp h
      exact p.token_ne_empty
    · exact (hterms token h).1
  rw [toText, ofText_of_tokens (Tokens.ofText_intercalate_quoteText hne), List.map_map]
  have hself : String.ofList ∘ String.toList = id := funext fun _ ↦ String.ofList_toList
  rw [hself, List.map_id]
  exact ofTokens_tokens hpredicates fun t ht ↦ (hterms t ht).2

/-- Every query text has a canonical form. The canonical text of a query has the same predicates and
free terms in the same order, and nothing in it needs recovery. -/
theorem ofText_toText (s : String) :
    (ofText .builtIn (ofText .builtIn s).toText).predicates = (ofText .builtIn s).predicates ∧
    (ofText .builtIn (ofText .builtIn s).toText).terms = (ofText .builtIn s).terms ∧
    (ofText .builtIn (ofText .builtIn s).toText).diagnostics = [] := by
  rw [ofText_toText_of_isSettled KeyAliases.isSettled_builtIn]
  exact ⟨rfl, rfl, rfl⟩

end Query
end CertCatalog
