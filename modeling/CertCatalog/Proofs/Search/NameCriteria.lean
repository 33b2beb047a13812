import CertCatalog.Proofs.Search.CriteriaKeys
import CertCatalog.Proofs.Text.BeyondAscii

/-!
# Names as criteria and as conditions

Domain, provider and role group may be asked for by a criterion or by a condition of the query. The
condition compares lowercase texts, the criterion looks through the case of the letters A to Z only.
So of the names that are the whole value of a condition a criterion finds those with the same
characters beyond ASCII, and it finds them all when the names are in ASCII.
-/

namespace CertCatalog

/-- The keys whose values are whole names as criteria. -/
def SearchKey.nameKeys : List SearchKey := [domain, provider, roleGroup]

private theorem SearchKey.mem_textKeys_of_mem_nameKeys {key : SearchKey} (h : key ∈ nameKeys) :
    key ∈ textKeys := by
  have hall : ∀ key ∈ nameKeys, key ∈ textKeys := by decide
  exact hall key h

namespace Criteria

/-- The criterion of a key for names, and no other one. -/
def named (key : SearchKey) (name : String) : Criteria :=
  match key with
  | .domain => { none with domain := some name }
  | .provider => { none with provider := some name }
  | .roleGroup => { none with roleGroup := some name }
  | _ => none

private theorem accepts_named {key : SearchKey} {name : String} (hkey : key ∈ SearchKey.nameKeys)
    (hname : Text.trim name ≠ "") (r : Record) :
    (named key name).accepts r = true ↔
      ∃ s ∈ key.textsOf r, Text.EqUpToCase s (Text.trim name) := by
  have hactive := activeName?_of_trim_ne hname
  -- The three criteria compare the name with one text or with several, as the keys do.
  have hany : (named key name).accepts r =
      (key.textsOf r).any fun s ↦ Text.eqIgnoringAsciiCase s (Text.trim name) := by
    simp only [SearchKey.nameKeys, List.mem_cons, List.not_mem_nil, or_false] at hkey
    rcases hkey with rfl | rfl | rfl
    · have honly : (named .domain name).accepts r =
          whenGiven (activeName? (some name)) fun s ↦ Text.eqIgnoringAsciiCase r.domainArea s :=
        accepts_only (named .domain name) .domain r
      rw [honly, hactive, SearchKey.textsOf, List.any_cons, List.any_nil, Bool.or_false]
      rfl
    · have honly : (named .provider name).accepts r =
          whenGiven (activeName? (some name)) fun s ↦ Text.eqIgnoringAsciiCase r.provider s :=
        accepts_only (named .provider name) .provider r
      rw [honly, hactive, SearchKey.textsOf, List.any_cons, List.any_nil, Bool.or_false]
      rfl
    · have honly : (named .roleGroup name).accepts r =
          whenGiven (activeName? (some name)) fun s ↦
            r.roleGroups.any fun group ↦ Text.eqIgnoringAsciiCase group s :=
        accepts_only (named .roleGroup name) .roleGroup r
      rw [honly, hactive]
      rfl
  rw [hany, List.any_eq_true]
  simp only [Text.eqIgnoringAsciiCase_eq_true_iff]
  rfl

/-- A record with the lowercase of a name in one of the texts of a key satisfies the condition. The
criterion accepts the record when such a text also has the characters of the name beyond ASCII, so
it finds less, except among texts in ASCII. -/
theorem accepts_named_iff_beyondAscii {key : SearchKey} {name : String}
    (hkey : key ∈ SearchKey.nameKeys) (hname : Text.trim name ≠ "") (r : Record) :
    ((∃ s ∈ key.textsOf r, Text.lower s = Text.lower (Text.trim name)) →
      (Predicate.of key.name name).accepts r = true) ∧
    ((named key name).accepts r = true ↔
      ∃ s ∈ key.textsOf r, Text.lower s = Text.lower (Text.trim name) ∧
        Text.beyondAscii s = Text.beyondAscii (Text.trim name)) ∧
    (Text.IsAscii (Text.trim name) → (∀ s ∈ key.textsOf r, Text.IsAscii s) →
      ((named key name).accepts r = true ↔
        ∃ s ∈ key.textsOf r, Text.lower s = Text.lower (Text.trim name))) := by
  refine ⟨?_, ?_, fun hvalue htexts ↦ ?_⟩
  · rintro ⟨s, hs, hlower⟩
    exact Predicate.accepts_of_lower_eq key (SearchKey.mem_textKeys_of_mem_nameKeys hkey) hs hlower
  · simp only [accepts_named hkey hname, Text.eqUpToCase_iff]
  · rw [accepts_named hkey hname]
    refine exists_congr fun s ↦ and_congr_right fun hs ↦ ?_
    exact Text.eqUpToCase_iff_of_isAscii (htexts s hs) hvalue

/-- A provider beyond ASCII, written with other capitals in ASCII. -/
theorem accepts_named_iff_beyondAscii_of_capitals :
    let r := (Entry.blank.setScalar .provider (some (.text "École 42"))).toRecord
    SearchKey.provider ∈ SearchKey.nameKeys ∧ Text.trim " ÉCOLE 42" ≠ "" ∧
    (Predicate.of "provider" " ÉCOLE 42").accepts r = true ∧
    (named .provider " ÉCOLE 42").accepts r = true := by
  intro r
  have hkey : SearchKey.provider ∈ SearchKey.nameKeys := by decide
  have hname : Text.trim " ÉCOLE 42" ≠ "" := by decide +kernel
  have hmem : "École 42" ∈ SearchKey.provider.textsOf r := by decide +kernel
  have hlower : Text.lower "École 42" = Text.lower (Text.trim " ÉCOLE 42") := by decide +kernel
  have hbeyond : Text.beyondAscii "École 42" = Text.beyondAscii (Text.trim " ÉCOLE 42") := by
    decide +kernel
  obtain ⟨hcondition, hcriterion, -⟩ := accepts_named_iff_beyondAscii hkey hname r
  exact ⟨hkey, hname, hcondition ⟨_, hmem, hlower⟩, hcriterion.mpr ⟨_, hmem, hlower, hbeyond⟩⟩

/-- The criterion of a name misses a provider that the condition finds as the whole value. -/
theorem not_accepts_named_of_lower_eq :
    ¬∀ (r : Record) (name : String), Text.trim name ≠ "" →
      Text.lower r.provider = Text.lower (Text.trim name) →
        (named .provider name).accepts r = true := by
  intro hclaim
  let r := (Entry.blank.setScalar .provider (some (.text "École 42"))).toRecord
  have hname : Text.trim "école 42" ≠ "" := by decide +kernel
  have hlower : Text.lower r.provider = Text.lower (Text.trim "école 42") := by decide +kernel
  have hrefused : (named .provider "école 42").accepts r = false := by decide +kernel
  rw [hclaim r _ hname hlower] at hrefused
  cases hrefused

end Criteria
end CertCatalog
