import CertCatalog.Proofs.Entry.Trimmed
import CertCatalog.Proofs.Query.CanonicalText
import CertCatalog.Proofs.Search.Ranking

/-!
# Records found by their own values

A record is found by what it says itself. A search for one of its texts, quoted behind the key that
looks at that text, finds it, and so does a search for the quoted text alone, unless a colon in the
text would make a condition of it.
-/

namespace CertCatalog

namespace Query

private theorem ofText_name_quoteText (key : SearchKey) {value : String}
    (hvalue : Text.trim value ≠ "") :
    ofText .builtIn (key.name ++ ":" ++ quoteText value) =
      ⟨[Predicate.of key.name value], [], []⟩ := by
  have hall : (key.name ++ ":").toList.all (fun c ↦ !isQuote c && !Text.isBlank c) = true := by
    cases key <;> decide
  have hplain : ∀ c ∈ (key.name ++ ":").toList,
      isQuote c = false ∧ Text.isBlank c = false := by
    intro c hc
    simpa using List.all_eq_true.mp hall c hc
  have hkey : key.name.toList ≠ [] ∧ ':' ∉ key.name.toList := by cases key <;> decide
  have hresolve : KeyAliases.builtIn.resolve key.name = key.name := by
    cases key <;> decide
  have hcolon : ":".toList = [':'] := rfl
  -- The quotes are gone from the token, whose first colon is the one behind the key.
  have htoken : (key.name ++ ":" ++ value).toList = key.name.toList ++ ':' :: value.toList := by
    rw [String.toList_append, String.toList_append, hcolon, List.append_assoc,
      List.singleton_append]
  have hne : key.name ++ ":" ++ value ≠ "" := by
    intro hempty
    rw [hempty] at htoken
    simp at htoken
  have htrim : Text.trimChars value.toList ≠ [] := by
    intro hnil
    apply hvalue
    rw [Text.trim, hnil]
  have hmeaning : Term.ofToken .builtIn (key.name ++ ":" ++ value) =
      .predicate (.of key.name value) := by
    rw [Term.ofToken_of_split htoken hkey.2 hkey.1 htrim, String.ofList_toList,
      String.ofList_toList, key.lower_name, hresolve]
  rw [ofText_of_tokens (Tokens.ofText_append_quoteText hplain hne), List.map_singleton,
    String.ofList_toList, ofTokens, List.map_singleton, hmeaning]
  rfl

private theorem ofText_quoteText (aliases : KeyAliases) {s : String} (hne : s ≠ "")
    (hcolon : ':' ∉ s.toList) :
    ofText aliases (quoteText s) = ⟨[], [Text.lower s], []⟩ := by
  have hplain : ∀ c ∈ "".toList, isQuote c = false ∧ Text.isBlank c = false :=
    fun c hc ↦ absurd hc List.not_mem_nil
  have htokens := Tokens.ofText_append_quoteText hplain (by rwa [String.empty_append])
  rw [String.empty_append, String.empty_append] at htokens
  rw [ofText_of_tokens htokens, List.map_singleton, String.ofList_toList, ofTokens,
    List.map_singleton, Term.ofToken_of_colon_notMem hcolon]
  rfl

end Query

/-- A text that a key looks at satisfies the condition of that key. -/
theorem Predicate.accepts_own_text {e : Entry} {key : SearchKey} (hkey : key ∈ SearchKey.textKeys)
    {v : String} (hv : v ∈ key.textsOf e.toRecord) :
    (Predicate.of key.name v).accepts e.toRecord = true := by
  have htrim := (SearchKey.trim_eq_and_ne_empty_of_mem_textsOf hv).1
  rw [accepts_of_name, acceptsKey_textKeys hkey, List.any_eq_true]
  refine ⟨v, hv, ?_⟩
  rw [occursIn, Predicate.of, htrim]
  exact Text.contains_eq_true_iff.mpr List.infix_rfl

/-- A text that a key looks at occurs in the search text. -/
theorem Query.termAccepts_own_text {e : Entry} {key : SearchKey} {v : String}
    (hv : v ∈ key.textsOf e.toRecord) : termAccepts (Text.lower v) e.toRecord = true := by
  rw [termAccepts, e.toRecord_searchText]
  apply Record.contains_searchTextOf_of_field (SearchKey.searchesField_of_mem_textsOf hv)
  exact Text.contains_eq_true_iff.mpr List.infix_rfl

/-- A record is found by its own values. In every catalog of entries, a text of a record that a key
looks at selects that record when it stands quoted behind the name of the key, and also alone when
it has no colon. Only the code of a record may be empty, and then there is nothing to ask for. -/
theorem mem_selectText_own_value (entries : List Entry) {r : Record}
    (hr : r ∈ entries.map Entry.toRecord) {key : SearchKey} (hkey : key ∈ SearchKey.textKeys)
    {v : String} (hv : v ∈ key.textsOf r) (hcode : key = .code → v ≠ "") :
    let records := entries.map Entry.toRecord
    r ∈ selectText .builtIn records (key.name ++ ":" ++ Query.quoteText v) .none ∧
    (':' ∉ v.toList → r ∈ selectText .builtIn records (Query.quoteText v) .none) := by
  intro records
  obtain ⟨e, -, rfl⟩ := List.mem_map.mp hr
  have hcriteria : Criteria.none.accepts e.toRecord = true := rfl
  -- The query trims the value and drops an empty one, so the text must be settled beforehand.
  obtain ⟨htrim, hother⟩ := SearchKey.trim_eq_and_ne_empty_of_mem_textsOf hv
  have hne : v ≠ "" := by
    by_cases h : key = .code
    · exact hcode h
    · exact hother h
  refine ⟨?_, ?_⟩
  · rw [selectText, Query.ofText_name_quoteText key (by rwa [htrim]), mem_select]
    refine ⟨hr, ?_⟩
    simp [isSelected, hcriteria, Query.accepts, Predicate.accepts_own_text hkey hv]
  · intro hcolon
    rw [selectText, Query.ofText_quoteText .builtIn hne hcolon, mem_select]
    refine ⟨hr, ?_⟩
    simp [isSelected, hcriteria, Query.accepts, Query.termAccepts_own_text hv]

/-- A tag with both quotes, a blank and a capital sigma at its end, and a provider with a colon. -/
theorem mem_selectText_own_value_quotes :
    let e : Entry :=
      (Entry.blank.setScalar .provider (some (.text " (ISC)\u00B2: \"Σ\" "))).setList .tags
        (some (.many [.text "  ", .text " O'Brien \"ΟΔΟΣ\"\t"]))
    let records := [e].map Entry.toRecord
    let tag := "O'Brien \"ΟΔΟΣ\""
    let provider := "(ISC)\u00B2: \"Σ\""
    (e.toRecord ∈ records ∧ SearchKey.tag ∈ SearchKey.textKeys ∧
      tag ∈ SearchKey.tag.textsOf e.toRecord ∧ ':' ∉ tag.toList ∧
      e.toRecord ∈ selectText .builtIn records ("tag:" ++ Query.quoteText tag) .none ∧
      e.toRecord ∈ selectText .builtIn records (Query.quoteText tag) .none) ∧
    provider ∈ SearchKey.provider.textsOf e.toRecord ∧
    e.toRecord ∈ selectText .builtIn records ("provider:" ++ Query.quoteText provider) .none := by
  intro e records tag provider
  have hr : e.toRecord ∈ records := List.mem_cons_self
  have hkey : SearchKey.tag ∈ SearchKey.textKeys ∧ SearchKey.provider ∈ SearchKey.textKeys := by
    decide
  have htag : tag ∈ SearchKey.tag.textsOf e.toRecord := by decide
  have hprovider : provider ∈ SearchKey.provider.textsOf e.toRecord := by decide
  have hcolon : ':' ∉ tag.toList := by decide
  obtain ⟨hcondition, hterm⟩ := mem_selectText_own_value [e] hr hkey.1 htag (fun h ↦ by cases h)
  have hvendor :=
    (mem_selectText_own_value [e] hr hkey.2 hprovider (fun h ↦ by cases h)).1
  exact ⟨⟨hr, hkey.1, htag, hcolon, hcondition, hterm hcolon⟩, hprovider, hvendor⟩

end CertCatalog
