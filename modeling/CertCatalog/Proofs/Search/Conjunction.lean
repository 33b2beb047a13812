import CertCatalog.Entry.Normal
import CertCatalog.Proofs.Query.Concatenation
import CertCatalog.Proofs.Search.Ranking

/-!
# Searches as conjunctions

The ten criteria restrict a search independently of each other and of the query, and the parts of a
query restrict it independently of each other. A search for more is the search for less with the
records that fail the rest left out, in the same order.
-/

namespace CertCatalog

/-- One of the independent criteria. -/
inductive Criterion
  | domain
  | level
  | provider
  | roleGroup
  | priceKind
  | minPrice
  | maxPrice
  | aiOnly
  | pricedOnly
  | goal
  deriving DecidableEq, Repr

/-- Every criterion. -/
def Criterion.all : List Criterion :=
  [domain, level, provider, roleGroup, priceKind, minPrice, maxPrice, aiOnly, pricedOnly, goal]

private theorem Criterion.mem_all (x : Criterion) : x ∈ Criterion.all := by cases x <;> decide

namespace Criteria

/-- The criteria with one of them as if it were not given. -/
def reset (c : Criteria) : Criterion → Criteria
  | .domain => { c with domain := .none }
  | .level => { c with level := .none }
  | .provider => { c with provider := .none }
  | .roleGroup => { c with roleGroup := .none }
  | .priceKind => { c with priceKind := .none }
  | .minPrice => { c with minPrice := .none }
  | .maxPrice => { c with maxPrice := .none }
  | .aiOnly => { c with aiOnly := false }
  | .pricedOnly => { c with pricedOnly := false }
  | .goal => { c with goal := .none }

/-- The criteria with one of them alone. -/
def only (c : Criteria) : Criterion → Criteria
  | .domain => { none with domain := c.domain }
  | .level => { none with level := c.level }
  | .provider => { none with provider := c.provider }
  | .roleGroup => { none with roleGroup := c.roleGroup }
  | .priceKind => { none with priceKind := c.priceKind }
  | .minPrice => { none with minPrice := c.minPrice }
  | .maxPrice => { none with maxPrice := c.maxPrice }
  | .aiOnly => { none with aiOnly := c.aiOnly }
  | .pricedOnly => { none with pricedOnly := c.pricedOnly }
  | .goal => { none with goal := c.goal }

/-- The record satisfies one of the criteria. -/
def acceptsCriterion (c : Criteria) (r : Record) : Criterion → Bool
  | .domain => c.acceptsDomain r
  | .level => c.acceptsLevel r
  | .provider => c.acceptsProvider r
  | .roleGroup => c.acceptsRoleGroup r
  | .priceKind => c.acceptsPriceKind r
  | .minPrice => c.acceptsMinPrice r
  | .maxPrice => c.acceptsMaxPrice r
  | .aiOnly => c.acceptsAiFocus r
  | .pricedOnly => c.acceptsPriced r
  | .goal => c.acceptsGoal r

/-- A record satisfies the criteria when it satisfies each of them. -/
theorem accepts_iff (c : Criteria) (r : Record) :
    c.accepts r = true ↔ ∀ x, c.acceptsCriterion r x = true := by
  have hall : c.accepts r = Criterion.all.all (c.acceptsCriterion r) := by
    simp only [accepts, Criterion.all, List.all_cons, List.all_nil, acceptsCriterion,
      Bool.and_assoc, Bool.and_true]
  rw [hall, List.all_eq_true]
  exact ⟨fun h x ↦ h x x.mem_all, fun h x _ ↦ h x⟩

private theorem acceptsCriterion_reset (c : Criteria) (x y : Criterion) (r : Record) :
    (c.reset x).acceptsCriterion r y = (decide (y = x) || c.acceptsCriterion r y) := by
  cases x <;> cases y <;> rfl

private theorem acceptsCriterion_only (c : Criteria) (x y : Criterion) (r : Record) :
    (c.only x).acceptsCriterion r y = (decide (y ≠ x) || c.acceptsCriterion r y) := by
  cases x <;> cases y <;> rfl

/-- A record satisfies the criteria when it satisfies all but one, and that one. -/
theorem accepts_eq_reset_and_only (c : Criteria) (x : Criterion) (r : Record) :
    c.accepts r = ((c.reset x).accepts r && (c.only x).accepts r) := by
  apply Bool.eq_iff_iff.mpr
  rw [Bool.and_eq_true, accepts_iff, accepts_iff, accepts_iff]
  simp only [acceptsCriterion_reset, acceptsCriterion_only, Bool.or_eq_true, decide_eq_true_eq]
  constructor
  · intro h
    exact ⟨fun y ↦ .inr (h y), fun y ↦ .inr (h y)⟩
  · rintro ⟨hreset, honly⟩ y
    rcases hreset y with rfl | hy
    · exact (honly y).resolve_left fun hne ↦ hne rfl
    · exact hy

/-- One criterion alone accepts what it accepts beside the other ones. -/
theorem accepts_only (c : Criteria) (x : Criterion) (r : Record) :
    (c.only x).accepts r = c.acceptsCriterion r x := by
  apply Bool.eq_iff_iff.mpr
  rw [accepts_iff]
  simp only [acceptsCriterion_only, Bool.or_eq_true, decide_eq_true_eq]
  constructor
  · intro h
    exact (h x).resolve_left fun hne ↦ hne rfl
  · intro hx y
    by_cases hy : y = x
    · exact .inr (hy ▸ hx)
    · exact .inl hy

/-- A criterion that takes the place of one that says nothing is a further condition. -/
theorem accepts_of_reset_eq {c c' : Criteria} {x : Criterion} (hreset : c'.reset x = c.reset x)
    {r : Record} (hfree : c.acceptsCriterion r x = true) :
    c'.accepts r = (c.accepts r && c'.acceptsCriterion r x) := by
  rw [c'.accepts_eq_reset_and_only x, c.accepts_eq_reset_and_only x, hreset, accepts_only,
    accepts_only, hfree, Bool.and_true]

end Criteria

/-- A selection by a stricter test keeps, in order, the records of the selection by the weaker test
that satisfy the rest. -/
theorem select_eq_filter_select {query query' : Query} {criteria criteria' : Criteria}
    {rest : Record → Bool}
    (h : ∀ r, isSelected query criteria r = (isSelected query' criteria' r && rest r))
    (records : List Record) :
    select records query criteria = (select records query' criteria').filter rest := by
  rw [select_eq_filter_rank, select_eq_filter_rank, List.filter_filter]
  congr 1
  funext r
  rw [h, Bool.and_comm]

/-- A criterion in the place of one that says nothing leaves out the selected records that fail
it. -/
theorem select_of_reset_eq {c c' : Criteria} {x : Criterion} (hreset : c'.reset x = c.reset x)
    (hfree : ∀ r, c.acceptsCriterion r x = true) (records : List Record) (query : Query) :
    select records query c' = (select records query c).filter (c'.acceptsCriterion · x) := by
  refine select_eq_filter_select (fun r ↦ ?_) records
  rw [isSelected, isSelected, Criteria.accepts_of_reset_eq hreset (hfree r), Bool.and_right_comm]

/-- A stricter test neither adds nor moves a record. -/
theorem select_sublist_select {query query' : Query} {criteria criteria' : Criteria}
    (h : ∀ r, isSelected query criteria r = true → isSelected query' criteria' r = true)
    (records : List Record) :
    (select records query criteria).Sublist (select records query' criteria') := by
  have hsplit : ∀ r, isSelected query criteria r =
      (isSelected query' criteria' r && isSelected query criteria r) := by
    intro r
    cases hr : isSelected query criteria r with
    | false => rw [Bool.and_false]
    | true => rw [h r hr, Bool.and_true]
  rw [select_eq_filter_select hsplit]
  exact List.filter_sublist

section Texts

variable (aliases : KeyAliases) {s blanks : String}
  (hs : (Query.Tokens.ofText s).isUnterminated = false) (hne : blanks ≠ "")
  (hb : blanks.toList.all Text.isBlank = true)
include hs hne hb

/-- A text without an open quote, blanks, and a further text select a record when the first text
does under the criteria but one, and the further text does under that criterion alone. -/
theorem isSelected_append_blanks (t : String) (c : Criteria) (x : Criterion) (r : Record) :
    isSelected (.ofText aliases (s ++ blanks ++ t)) c r =
      (isSelected (.ofText aliases s) (c.reset x) r &&
        isSelected (.ofText aliases t) (c.only x) r) := by
  rw [isSelected, isSelected, isSelected, Query.accepts_ofText_append_blanks aliases hs hne hb,
    c.accepts_eq_reset_and_only x]
  ac_rfl

private theorem isSelected_append_blanks_comm {t : String}
    (ht : (Query.Tokens.ofText t).isUnterminated = false) (c : Criteria) :
    isSelected (.ofText aliases (s ++ blanks ++ t)) c =
      isSelected (.ofText aliases (t ++ blanks ++ s)) c := by
  funext r
  rw [isSelected, isSelected, Query.accepts_ofText_append_blanks aliases hs hne hb,
    Query.accepts_ofText_append_blanks aliases ht hne hb,
    Bool.and_comm ((Query.ofText aliases s).accepts r)]

end Texts

/-- A search is a conjunction. A text without an open quote, followed by blanks and a further text,
selects in the same order what the first text selects under the criteria but one, if the further
text selects it under that criterion alone. The texts may change places when neither leaves a quote
open, and neither more text nor one more criterion adds or moves a record. -/
theorem selectText_append_blanks (aliases : KeyAliases) (records : List Record)
    (s blanks t : String) (c : Criteria) (x : Criterion)
    (hs : (Query.Tokens.ofText s).isUnterminated = false)
    (hne : blanks ≠ "") (hb : blanks.toList.all Text.isBlank = true) :
    selectText aliases records (s ++ blanks ++ t) c =
      (selectText aliases records s (c.reset x)).filter
        (isSelected (.ofText aliases t) (c.only x)) ∧
    ((Query.Tokens.ofText t).isUnterminated = false →
      selectText aliases records (s ++ blanks ++ t) c =
        selectText aliases records (t ++ blanks ++ s) c) ∧
    (selectText aliases records (s ++ blanks ++ t) c).Sublist (selectText aliases records s c) ∧
    (∀ query, (selectText aliases records query c).Sublist
      (selectText aliases records query (c.reset x))) := by
  refine ⟨?_, ?_, ?_, ?_⟩
  · exact select_eq_filter_select (isSelected_append_blanks aliases hs hne hb t c x) records
  · intro ht
    rw [selectText, selectText, select, select,
      isSelected_append_blanks_comm aliases hs hne hb ht c]
  · apply select_sublist_select
    intro r hr
    rw [isSelected, Query.accepts_ofText_append_blanks aliases hs hne hb, ← Bool.and_assoc,
      Bool.and_eq_true] at hr
    exact hr.1
  · intro query
    apply select_sublist_select
    intro r hr
    rw [isSelected, c.accepts_eq_reset_and_only x, Bool.and_right_comm, Bool.and_eq_true] at hr
    exact hr.1

/-- A quoted level, then behind a tab and a space a span that stays open, under a price bound. -/
theorem selectText_append_blanks_open_span :
    let records := [Entry.blank.toRecord]
    let text := "level:\"expert\"" ++ "\t " ++ "'blue team"
    let bound := { Criteria.none with minPrice := some (.ofNat 100) }
    (Query.Tokens.ofText "level:\"expert\"").isUnterminated = false ∧ "\t " ≠ "" ∧
    "\t ".toList.all Text.isBlank = true ∧
    selectText .builtIn records text bound =
      (selectText .builtIn records "level:\"expert\"" .none).filter
        (isSelected (.ofText .builtIn "'blue team") bound) ∧
    (selectText .builtIn records text bound).Sublist
      (selectText .builtIn records "level:\"expert\"" bound) ∧
    (∀ query, (selectText .builtIn records query bound).Sublist
      (selectText .builtIn records query .none)) := by
  intro records text bound
  have hs : (Query.Tokens.ofText "level:\"expert\"").isUnterminated = false := by decide
  have hne : "\t " ≠ "" := by decide
  have hb : "\t ".toList.all Text.isBlank = true := by decide
  obtain ⟨hfilter, -, hmore, hbound⟩ := selectText_append_blanks .builtIn records
    "level:\"expert\"" "\t " "'blue team" bound .minPrice hs hne hb
  exact ⟨hs, hne, hb, hfilter, hmore, hbound⟩

end CertCatalog
