import CertCatalog.Entry.Normal
import CertCatalog.Proofs.Text.LetterCase
import CertCatalog.Query.Match

/-!
# Exact search texts

A search text joins the searchable fields by spaces. A term without a space cannot reach from one
field into the next, so it is found exactly when it occurs in one lower-cased field. What a
condition on a field with texts finds, the same words find as a free term.
-/

namespace CertCatalog

/-! ### Parts of joined lists -/

private theorem infix_append_cons_iff {α : Type} {part l l' : List α} {a : α} (ha : a ∉ part) :
    part <:+: l ++ a :: l' ↔ part <:+: l ∨ part <:+: l' := by
  rw [List.infix_append_iff]
  constructor
  · rintro (h | h | ⟨l₁, l₂, rfl, hsuffix, hprefix⟩)
    · exact .inl h
    · rcases List.infix_cons_iff.mp h with hprefix | hrest
      · -- A start that holds no separator is empty.
        cases part with
        | nil => exact .inl List.nil_infix
        | cons b part =>
          obtain ⟨rfl, -⟩ := List.cons_prefix_cons.mp hprefix
          exact absurd List.mem_cons_self ha
      · exact .inr hrest
    · cases l₂ with
      | nil =>
        rw [List.append_nil]
        exact .inl hsuffix.isInfix
      | cons b l₂ =>
        obtain ⟨rfl, -⟩ := List.cons_prefix_cons.mp hprefix
        exact absurd (List.mem_append_right _ List.mem_cons_self) ha
  · rintro (h | h)
    · exact .inl h
    · exact .inr (.inl (List.infix_cons h))

private theorem infix_intercalate_iff {α : Type} {part : List α} {a : α} (hne : part ≠ [])
    (ha : a ∉ part) (lists : List (List α)) :
    part <:+: List.intercalate [a] lists ↔ ∃ l ∈ lists, part <:+: l := by
  induction lists with
  | nil => simpa [List.intercalate] using hne
  | cons l lists ih =>
    cases lists with
    | nil => simp [List.intercalate]
    | cons l' lists =>
      rw [List.intercalate_cons_cons, List.append_assoc, List.singleton_append,
        infix_append_cons_iff ha, ih]
      simp

theorem infix_intercalate_of_mem {α : Type} {sep l : List α} {lists : List (List α)}
    (h : l ∈ lists) : l <:+: List.intercalate sep lists := by
  induction lists with
  | nil => exact absurd h List.not_mem_nil
  | cons l' lists ih =>
    cases lists with
    | nil =>
      rw [List.mem_singleton] at h
      simp [List.intercalate, h]
    | cons l'' lists =>
      rw [List.intercalate_cons_cons, List.append_assoc]
      rcases List.mem_cons.mp h with rfl | h
      · exact (List.prefix_append _ _).isInfix
      · exact List.infix_append_of_infix_right (List.infix_append_of_infix_right (ih h))

/-! ### Terms in search texts -/

namespace Record

/-- A text is one of the fields of a record that a search may find. -/
inductive SearchesField (r : Record) : String → Prop
  | name : r.SearchesField r.name
  | provider : r.SearchesField r.provider
  | code : r.SearchesField r.code
  | domainArea : r.SearchesField r.domainArea
  | level : r.SearchesField r.level.name
  | status : r.SearchesField r.status.name
  | introducedYear : r.SearchesField (Integer.toText r.introducedYear.toNat)
  | description : r.SearchesField r.description
  | summary : r.SearchesField r.summary
  | priceLabel : r.SearchesField r.priceLabel
  | priceUsd : r.SearchesField (Integer.toText r.priceUsd.toNat)
  | subArea {s : String} (h : s ∈ r.subAreas) : r.SearchesField s
  | track {s : String} (h : s ∈ r.tracks) : r.SearchesField s
  | roleGroup {s : String} (h : s ∈ r.roleGroups) : r.SearchesField s
  | role {s : String} (h : s ∈ r.roles) : r.SearchesField s
  | tag {s : String} (h : s ∈ r.tags) : r.SearchesField s

theorem mem_searchableFields_iff {r : Record} {field : String} :
    field ∈ r.searchableFields ↔ r.SearchesField field := by
  simp only [searchableFields, yearText, priceText, List.mem_append, List.mem_cons,
    List.not_mem_nil, or_false]
  constructor
  · intro h
    rcases h with ((((h | h) | h) | h) | h) | h
    · rcases h with rfl | rfl | rfl | rfl | rfl | rfl | rfl | rfl | rfl | rfl | rfl
      · exact .name
      · exact .provider
      · exact .code
      · exact .domainArea
      · exact .level
      · exact .status
      · exact .introducedYear
      · exact .description
      · exact .summary
      · exact .priceLabel
      · exact .priceUsd
    · exact .subArea h
    · exact .track h
    · exact .roleGroup h
    · exact .role h
    · exact .tag h
  · intro h
    cases h <;> simp [*]

theorem searchTextOf_congr {r r' : Record} (h : r.searchableFields = r'.searchableFields) :
    r.searchTextOf = r'.searchTextOf := by
  rw [searchTextOf, searchTextOf, h]

private theorem toList_searchTextOf (r : Record) :
    r.searchTextOf.toList =
      List.intercalate [' ']
        ((r.searchableFields.filter (!·.isEmpty)).map fun field ↦ (Text.lower field).toList) := by
  have hspace : " ".toList = [' '] := rfl
  rw [searchTextOf, Text.lower_intercalate, String.toList_intercalate, List.map_map, hspace]
  rfl

/-- What occurs in a lower-cased field occurs in the search text. -/
theorem contains_searchTextOf_of_field {r : Record} {field part : String}
    (hfield : r.SearchesField field)
    (hpart : Text.contains (Text.lower field) part = true) :
    Text.contains r.searchTextOf part = true := by
  rw [Text.contains_eq_true_iff] at hpart ⊢
  by_cases hempty : field = ""
  · subst hempty
    rw [List.infix_nil.mp hpart]
    exact List.nil_infix
  · apply hpart.trans
    rw [toList_searchTextOf]
    apply infix_intercalate_of_mem
    apply List.mem_map_of_mem (f := fun field ↦ (Text.lower field).toList)
    rw [List.mem_filter, mem_searchableFields_iff]
    exact ⟨hfield, by simpa using hempty⟩

/-- A text without a space occurs in the search text when it occurs in a lower-cased field. -/
theorem contains_searchTextOf_iff {r : Record} {part : String} (hspace : ' ' ∉ part.toList) :
    Text.contains r.searchTextOf part = true ↔
      ∃ field, r.SearchesField field ∧ Text.contains (Text.lower field) part = true := by
  constructor
  · intro h
    by_cases hempty : part.toList = []
    · refine ⟨_, .level, ?_⟩
      rw [Text.contains_eq_true_iff, hempty]
      exact List.nil_infix
    · rw [Text.contains_eq_true_iff, toList_searchTextOf,
        infix_intercalate_iff hempty hspace] at h
      obtain ⟨_, hmem, hinfix⟩ := h
      obtain ⟨field, hfield, rfl⟩ := List.mem_map.mp hmem
      refine ⟨field, mem_searchableFields_iff.mp (List.mem_filter.mp hfield).1, ?_⟩
      exact Text.contains_eq_true_iff.mpr hinfix
  · rintro ⟨field, hfield, hpart⟩
    exact contains_searchTextOf_of_field hfield hpart

end Record

/-- The search text of the record of an entry joins the fields of that record. -/
theorem Entry.toRecord_searchText (e : Entry) :
    e.toRecord.searchText = e.toRecord.searchTextOf := by
  have htext : e.toRecord.searchText = e.plainRecord.searchTextOf := by
    simp only [toRecord]
  rw [htext]
  apply Record.searchTextOf_congr
  simp only [Record.searchableFields, Record.yearText, Record.priceText, toRecord]

/-! ### Conditions on texts -/

namespace SearchKey

/-- The keys that look for a value in texts of a record. -/
def textKeys : List SearchKey :=
  [provider, domain, code, subArea, track, role, roleGroup, tag]

/-- The texts of a record that a key looks at. -/
def textsOf (r : Record) : SearchKey → List String
  | provider => [r.provider]
  | domain => [r.domainArea]
  | code => [r.code]
  | subArea => r.subAreas
  | track => r.tracks
  | role => r.roles
  | roleGroup => r.roleGroups
  | tag => r.tags
  | _ => []

theorem named?_name (key : SearchKey) : named? key.name = some key := by
  cases key <;> decide

theorem lower_name (key : SearchKey) : Text.lower key.name = key.name := by
  cases key <;> decide

/-- The texts that a key looks at may be found by a search. -/
theorem searchesField_of_mem_textsOf {r : Record} {key : SearchKey} {s : String}
    (h : s ∈ key.textsOf r) : r.SearchesField s := by
  cases key <;> simp only [textsOf, List.mem_singleton, List.not_mem_nil] at h
  case provider => exact h ▸ .provider
  case domain => exact h ▸ .domainArea
  case code => exact h ▸ .code
  case subArea => exact .subArea h
  case track => exact .track h
  case role => exact .role h
  case roleGroup => exact .roleGroup h
  case tag => exact .tag h

end SearchKey

namespace Predicate

/-- A predicate with the name of a key is a condition of that key. -/
theorem accepts_of_name (key : SearchKey) (value : String) (r : Record) :
    (Predicate.of key.name value).accepts r = (Predicate.of key.name value).acceptsKey r key := by
  have hkey : (Predicate.of key.name value).key = key.name := key.lower_name
  rw [accepts, hkey, key.named?_name]

/-- A condition on texts holds when the value occurs in one of them. -/
theorem acceptsKey_textKeys {key : SearchKey} (h : key ∈ SearchKey.textKeys) (p : Predicate)
    (r : Record) : p.acceptsKey r key = (key.textsOf r).any p.occursIn := by
  simp only [SearchKey.textKeys, List.mem_cons, List.not_mem_nil, or_false] at h
  rcases h with rfl | rfl | rfl | rfl | rfl | rfl | rfl | rfl <;>
    simp [acceptsKey, SearchKey.textsOf]

end Predicate

/-- The search text of a record is exact. A term without a space is found when it occurs in one
lower-cased field, and only then; and what a condition on texts finds by its value, the trimmed
value finds in lowercase as a free term. -/
theorem termAccepts_toRecord (e : Entry) :
    (∀ term : String, ' ' ∉ term.toList →
      (Query.termAccepts term e.toRecord = true ↔
        ∃ field, e.toRecord.SearchesField field ∧
          Text.contains (Text.lower field) term = true)) ∧
    (∀ key ∈ SearchKey.textKeys, ∀ value : String,
      (Predicate.of key.name value).accepts e.toRecord = true →
        Query.termAccepts (Text.lower (Text.trim value)) e.toRecord = true) := by
  refine ⟨?_, ?_⟩
  · intro term hspace
    rw [Query.termAccepts, e.toRecord_searchText]
    exact Record.contains_searchTextOf_iff hspace
  · intro key hkey value haccepts
    rw [Predicate.accepts_of_name, Predicate.acceptsKey_textKeys hkey, List.any_eq_true] at haccepts
    obtain ⟨field, hfield, hoccurs⟩ := haccepts
    rw [Query.termAccepts, e.toRecord_searchText]
    exact Record.contains_searchTextOf_of_field (SearchKey.searchesField_of_mem_textsOf hfield)
      hoccurs

/-- A provider of two words is found by a word of it, and by both words as they are in a condition
that has blanks around them. -/
theorem termAccepts_toRecord_two_words :
    (' ' ∉ "σάς".toList ∧
      ∃ field, ((Entry.blank.setScalar .provider (some (.text "GIAC ΣΆΣ"))).toRecord).SearchesField
          field ∧ Text.contains (Text.lower field) "σάς" = true) ∧
    Query.termAccepts (Text.lower (Text.trim " GIAC ΣΆΣ "))
      (Entry.blank.setScalar .provider (some (.text "GIAC ΣΆΣ"))).toRecord = true := by
  have hspace : ' ' ∉ "σάς".toList := by decide
  have hfound : Query.termAccepts "σάς"
      (Entry.blank.setScalar .provider (some (.text "GIAC ΣΆΣ"))).toRecord = true := by
    decide +kernel
  have hkey : SearchKey.provider ∈ SearchKey.textKeys := by decide
  have haccepts : (Predicate.of SearchKey.provider.name " GIAC ΣΆΣ ").accepts
      (Entry.blank.setScalar .provider (some (.text "GIAC ΣΆΣ"))).toRecord = true := by
    decide +kernel
  exact ⟨⟨hspace, ((termAccepts_toRecord _).1 _ hspace).mp hfound⟩,
    (termAccepts_toRecord _).2 _ hkey _ haccepts⟩

/-- A condition trims its value and a free term keeps its blanks: untrimmed, the same words need not
be found. -/
theorem not_termAccepts_untrimmed :
    (Predicate.of SearchKey.provider.name "GIAC  ").accepts
        (Entry.blank.setScalar .provider (some (.text "GIAC"))).toRecord = true ∧
      Query.termAccepts (Text.lower "GIAC  ")
        (Entry.blank.setScalar .provider (some (.text "GIAC"))).toRecord = false := by
  decide +kernel

end CertCatalog
