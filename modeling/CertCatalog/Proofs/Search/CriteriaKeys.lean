import CertCatalog.Proofs.Number.Decimal
import CertCatalog.Proofs.Number.Order
import CertCatalog.Proofs.Query.NumberForms
import CertCatalog.Proofs.Search.Views
import CertCatalog.Proofs.Text.SmallLetters

/-!
# Criteria and query keys

A wish may be put as a criterion or as a condition of the query. Levels, price kinds and toggles
mean the same in both forms. A name is compared as a whole by a criterion and looked up by a
condition, so the condition finds all that the criterion finds. Bounds on the price ask for a price
and for the test that the bounds write, and never let an unknown price pass.
-/

namespace CertCatalog

/-! ### Texts of number tests -/

private theorem PriceKind.named?_lower_of_number {value : String} {test : Query.NumberTest}
    (h : Query.NumberTest.ofText? value = some test) : named? (Text.lower value) = none := by
  obtain ⟨form, hascii, hchars⟩ := Query.NumberTest.exists_form_of_ofChars? h
  obtain ⟨c, hc, hdigit⟩ := form.exists_isDigit_of_isAscii hascii
  rw [hchars] at hc
  cases hkind : named? (Text.lower value) with
  | none => rfl
  | some kind =>
    have hcode : c.toNat < 0x41 := by
      have := (Text.isDigit_iff.mp hdigit).2
      omega
    -- Lower-casing keeps the digit, and no name has one.
    have hname : c ∈ kind.name.toList := by
      rw [Text.name_of_named? hkind, Text.toList_lower, Text.lowerChars,
        Text.mem_lowerFrom_iff hcode]
      exact hc
    have hnone : kind.name.toList.all (!·.isDigit) = true := by cases kind <;> decide
    exact absurd hdigit (by simpa using List.all_eq_true.mp hnone c hname)

/-! ### Conditions -/

namespace Predicate

/-- A condition on levels that names a level asks for that level. -/
theorem accepts_level (level : Level) (r : Record) :
    (Predicate.of "level" level.name).accepts r = (r.level == level) := by
  have hvalue : (Predicate.of SearchKey.level.name level.name).valueLower = level.name := by
    cases level <;> decide
  have hname : (r.level.name == level.name) = (r.level == level) := by
    cases r.level <;> cases level <;> decide
  have hkey := accepts_of_name .level level.name r
  rw [acceptsKey, hvalue, hname] at hkey
  exact hkey

/-- A condition on the focus asks whether the record has it or whether it has not. -/
theorem accepts_ai (value : String) (r : Record) :
    (Predicate.of "ai" value).accepts r =
      (r.aiFocus == isAffirmative (Text.lower (Text.trim value))) :=
  accepts_of_name .ai value r

private theorem accepts_ai_eq_or_eq_not (value : String) :
    (∀ r : Record, (Predicate.of "ai" value).accepts r = r.aiFocus) ∨
      ∀ r : Record, (Predicate.of "ai" value).accepts r = !r.aiFocus := by
  cases hvalue : isAffirmative (Text.lower (Text.trim value)) with
  | true =>
    left
    intro r
    rw [accepts_ai, hvalue, beq_true]
  | false =>
    right
    intro r
    rw [accepts_ai, hvalue, beq_false]

/-- A condition on prices whose value is a number test asks for a known price that passes it. -/
theorem accepts_price_of_number {value : String} {test : Query.NumberTest}
    (h : Query.NumberTest.ofText? (Text.trim value) = some test) (r : Record) :
    (Predicate.of "price" value).accepts r =
      (!r.isUnknownPrice && test.accepts (Criteria.priceOf r)) := by
  have hkind : PriceKind.named? (Predicate.of SearchKey.price.name value).valueLower = none :=
    PriceKind.named?_lower_of_number h
  have hnumber : (Predicate.of SearchKey.price.name value).number = some test := by
    rw [Predicate.of, h]
  have hkey := accepts_of_name .price value r
  rw [acceptsKey, acceptsPrice, hkind, hnumber] at hkey
  exact hkey

/-- What has the lowercase of the value satisfies a condition that looks for the value. -/
theorem accepts_of_lower_eq (key : SearchKey) (hkey : key ∈ SearchKey.textKeys)
    {value s : String} {r : Record} (hs : s ∈ key.textsOf r)
    (hlower : Text.lower s = Text.lower (Text.trim value)) :
    (Predicate.of key.name value).accepts r = true := by
  rw [accepts_of_name, acceptsKey_textKeys hkey, List.any_eq_true]
  refine ⟨s, hs, ?_⟩
  rw [occursIn, hlower, Text.contains_eq_true_iff]
  exact List.infix_refl _

private theorem accepts_of_eqIgnoringAsciiCase (key : SearchKey) (hkey : key ∈ SearchKey.textKeys)
    {value s : String} {r : Record} (hs : s ∈ key.textsOf r)
    (h : Text.eqIgnoringAsciiCase s (Text.trim value) = true) :
    (Predicate.of key.name value).accepts r = true :=
  accepts_of_lower_eq key hkey hs
    (Text.EqUpToCase.lower_eq (Text.eqIgnoringAsciiCase_eq_true_iff.mp h))

end Predicate

/-! ### Criteria -/

namespace Criteria

/-- The criteria with bounds on the price alone. -/
def bounded (low high : Option Binary64) : Criteria :=
  { none with minPrice := low, maxPrice := high }

/-- A name that is not blank is active without the blanks around it. -/
theorem activeName?_of_trim_ne {name : String} (h : Text.trim name ≠ "") :
    activeName? (some name) = some (Text.trim name) := by
  simp [activeName?, h]

/-- A condition finds what the criterion with the same name finds. -/
theorem accepts_of_name {name : String} (hname : Text.trim name ≠ "") (r : Record) :
    ({ none with domain := some name }.accepts r = true →
      (Predicate.of "domain" name).accepts r = true) ∧
    ({ none with provider := some name }.accepts r = true →
      (Predicate.of "provider" name).accepts r = true) ∧
    ({ none with roleGroup := some name }.accepts r = true →
      (Predicate.of "rolegroup" name).accepts r = true) := by
  have hactive := activeName?_of_trim_ne hname
  refine ⟨fun haccepts ↦ ?_, fun haccepts ↦ ?_, fun haccepts ↦ ?_⟩
  · have hsame := (accepts_only { none with domain := some name } .domain r).symm.trans haccepts
    rw [acceptsCriterion, acceptsDomain, hactive] at hsame
    exact Predicate.accepts_of_eqIgnoringAsciiCase .domain (by decide) List.mem_cons_self hsame
  · have hsame := (accepts_only { none with provider := some name } .provider r).symm.trans haccepts
    rw [acceptsCriterion, acceptsProvider, hactive] at hsame
    exact Predicate.accepts_of_eqIgnoringAsciiCase .provider (by decide) List.mem_cons_self hsame
  · have hsame := (accepts_only { none with roleGroup := some name } .roleGroup r).symm.trans
      haccepts
    rw [acceptsCriterion, acceptsRoleGroup, hactive, whenGiven, Option.all_some,
      List.any_eq_true] at hsame
    obtain ⟨group, hgroup, hsame⟩ := hsame
    exact Predicate.accepts_of_eqIgnoringAsciiCase .roleGroup (by decide) hgroup hsame

/-- A price is a number. -/
theorem isNaN_priceOf (r : Record) : (priceOf r).isNaN = false := Binary64.isNaN_ofNat _

private theorem acceptsMinPrice_of_isFinite {c : Criteria} {bound : Binary64}
    (hbound : c.minPrice = some bound) (h : bound.isFinite = true) (r : Record) :
    c.acceptsMinPrice r = (r.isPaid && Binary64.le bound (priceOf r)) := by
  have hactive : activeBound? c.minPrice = some bound := by simp [activeBound?, hbound, h]
  rw [acceptsMinPrice, hactive, whenGiven, Option.all_some,
    Binary64.not_lt (isNaN_priceOf r) (Binary64.isNaN_of_isFinite h)]

private theorem acceptsMaxPrice_of_isFinite {c : Criteria} {bound : Binary64}
    (hbound : c.maxPrice = some bound) (h : bound.isFinite = true) (r : Record) :
    c.acceptsMaxPrice r = (r.isPaid && Binary64.le (priceOf r) bound) := by
  have hactive : activeBound? c.maxPrice = some bound := by simp [activeBound?, hbound, h]
  rw [acceptsMaxPrice, hactive, whenGiven, Option.all_some,
    Binary64.not_lt (Binary64.isNaN_of_isFinite h) (isNaN_priceOf r)]

private theorem accepts_bounded_low {bound : Binary64} (h : bound.isFinite = true) (r : Record) :
    (bounded (some bound) .none).accepts r =
      (r.isPaid && (Query.NumberTest.compare .ge bound).accepts (priceOf r)) := by
  have hmin := accepts_only (bounded (some bound) .none) .minPrice r
  rw [acceptsCriterion, acceptsMinPrice_of_isFinite rfl h] at hmin
  exact hmin

private theorem accepts_bounded_high {bound : Binary64} (h : bound.isFinite = true) (r : Record) :
    (bounded .none (some bound)).accepts r =
      (r.isPaid && (Query.NumberTest.compare .le bound).accepts (priceOf r)) := by
  have hmax := accepts_only (bounded .none (some bound)) .maxPrice r
  rw [acceptsCriterion, acceptsMaxPrice_of_isFinite rfl h] at hmax
  exact hmax

/-- Bounds alone ask for what each of them asks. -/
theorem accepts_bounded (low high : Option Binary64) (r : Record) :
    (bounded low high).accepts r =
      ((bounded low high).acceptsMinPrice r && (bounded low high).acceptsMaxPrice r) := by
  have hlow : (bounded low .none).accepts r = (bounded low high).acceptsMinPrice r :=
    accepts_only (bounded low .none) .minPrice r
  have hreset : (bounded low high).reset .maxPrice = (bounded low .none).reset .maxPrice := rfl
  rw [accepts_of_reset_eq hreset rfl, hlow]
  rfl

private theorem accepts_bounded_of_le {low high : Binary64} (hlow : low.isFinite = true)
    (hhigh : high.isFinite = true) (h : Binary64.le low high = true) (r : Record) :
    (bounded (some low) (some high)).accepts r =
      (r.isPaid && (Query.NumberTest.range low high).accepts (priceOf r)) := by
  rw [accepts_bounded, acceptsMinPrice_of_isFinite rfl hlow, acceptsMaxPrice_of_isFinite rfl hhigh,
    Query.NumberTest.accepts, Binary64.min_of_le h, Binary64.le_max_of_le h]
  cases r.isPaid <;> simp

private theorem accepts_bounded_of_lt {low high : Binary64} (hlow : low.isFinite = true)
    (hhigh : high.isFinite = true) (h : Binary64.lt high low = true) (r : Record) :
    (bounded (some low) (some high)).accepts r = false := by
  rw [accepts_bounded, acceptsMinPrice_of_isFinite rfl hlow, acceptsMaxPrice_of_isFinite rfl hhigh,
    ← Bool.not_eq_true]
  simp only [Bool.and_eq_true]
  rintro ⟨⟨-, hmin⟩, -, hmax⟩
  have hle := Binary64.le_trans hmin hmax
  rw [← Binary64.not_lt (Binary64.isNaN_of_isFinite hhigh) (Binary64.isNaN_of_isFinite hlow), h]
    at hle
  cases hle

/-- An unknown price is on no side of a finite bound. -/
theorem accepts_of_isUnknownPrice {c : Criteria} {bound : Binary64}
    (hfinite : bound.isFinite = true)
    (hbound : c.minPrice = some bound ∨ c.maxPrice = some bound) {r : Record}
    (h : r.isUnknownPrice = true) : c.accepts r = false := by
  have hpaid : r.isPaid = false := by
    rcases r.price_cases with ⟨-, -, hknown⟩ | ⟨hpaid, -⟩
    · rw [h] at hknown
      cases hknown
    · exact hpaid
  rw [← Bool.not_eq_true]
  intro haccepts
  have hall := (c.accepts_iff r).mp haccepts
  rcases hbound with hmin | hmax
  · have := hall .minPrice
    rw [acceptsCriterion, acceptsMinPrice_of_isFinite hmin hfinite, hpaid] at this
    cases this
  · have := hall .maxPrice
    rw [acceptsCriterion, acceptsMaxPrice_of_isFinite hmax hfinite, hpaid] at this
    cases this

end Criteria

/-- Criteria and conditions of a query agree. Levels, price kinds and toggles accept the same
records in both forms, and a condition on the focus selects these records or all others. What a name
selects as a criterion, it selects as a condition. Finite bounds select the paid records in the
range that they write, and none when they exclude each other. Prices that are unknown pass neither a
finite bound nor a condition that is a number test. -/
theorem criteria_and_keys_agree (r : Record) :
    let price := Criteria.priceOf r
    let paid := (Predicate.of "price" "paid").accepts r
    ((∀ level : Level, { Criteria.none with level := some level }.accepts r =
        (Predicate.of "level" level.name).accepts r) ∧
      (∀ kind : PriceKind, { Criteria.none with priceKind := some kind }.accepts r =
        (Predicate.of "price" kind.name).accepts r) ∧
      { Criteria.none with aiOnly := true }.accepts r = (Predicate.of "ai" "true").accepts r ∧
      { Criteria.none with pricedOnly := true }.accepts r = paid) ∧
    (∀ value : String,
      (∀ r' : Record, (Predicate.of "ai" value).accepts r' =
        { Criteria.none with aiOnly := true }.accepts r') ∨
      ∀ r' : Record, (Predicate.of "ai" value).accepts r' =
        !{ Criteria.none with aiOnly := true }.accepts r') ∧
    (∀ name : String, Text.trim name ≠ "" →
      ({ Criteria.none with domain := some name }.accepts r = true →
        (Predicate.of "domain" name).accepts r = true) ∧
      ({ Criteria.none with provider := some name }.accepts r = true →
        (Predicate.of "provider" name).accepts r = true) ∧
      ({ Criteria.none with roleGroup := some name }.accepts r = true →
        (Predicate.of "rolegroup" name).accepts r = true)) ∧
    (∀ low high : Binary64, low.isFinite = true → high.isFinite = true →
      (Binary64.le low high = true → (Criteria.bounded (some low) (some high)).accepts r =
        (paid && (Query.NumberTest.range low high).accepts price)) ∧
      (Binary64.lt high low = true →
        (Criteria.bounded (some low) (some high)).accepts r = false)) ∧
    (∀ bound : Binary64, bound.isFinite = true →
      (Criteria.bounded (some bound) none).accepts r =
        (paid && (Query.NumberTest.compare .ge bound).accepts price) ∧
      (Criteria.bounded none (some bound)).accepts r =
        (paid && (Query.NumberTest.compare .le bound).accepts price)) ∧
    (∀ value test, Query.NumberTest.ofText? (Text.trim value) = some test →
      (Predicate.of "price" value).accepts r = (!r.isUnknownPrice && test.accepts price)) ∧
    (r.isUnknownPrice = true →
      (∀ (c : Criteria) (bound : Binary64), bound.isFinite = true →
        c.minPrice = some bound ∨ c.maxPrice = some bound → c.accepts r = false) ∧
      ∀ value, (Query.NumberTest.ofText? (Text.trim value)).isSome = true →
        (Predicate.of "price" value).accepts r = false) := by
  intro price paid
  -- Either form is reduced to the field of the record that it looks at.
  have hpaid : paid = r.isPaid := Predicate.accepts_priceKind .paid r
  have hfocus : ∀ r' : Record, { Criteria.none with aiOnly := true }.accepts r' = r'.aiFocus :=
    Criteria.accepts_only { Criteria.none with aiOnly := true } .aiOnly
  rw [hpaid]
  refine ⟨⟨?_, ?_, ?_, ?_⟩, ?_, ?_, ?_, ?_, ?_, ?_⟩
  · intro level
    rw [Predicate.accepts_level]
    exact Criteria.accepts_only { Criteria.none with level := some level } .level r
  · intro kind
    rw [Predicate.accepts_priceKind]
    exact Criteria.accepts_only { Criteria.none with priceKind := some kind } .priceKind r
  · have hyes : isAffirmative (Text.lower (Text.trim "true")) = true := by decide
    rw [hfocus, Predicate.accepts_ai, hyes, beq_true]
  · exact Criteria.accepts_only { Criteria.none with pricedOnly := true } .pricedOnly r
  · intro value
    simp only [hfocus]
    exact Predicate.accepts_ai_eq_or_eq_not value
  · intro name hname
    exact Criteria.accepts_of_name hname r
  · intro low high hlow hhigh
    exact ⟨fun h ↦ Criteria.accepts_bounded_of_le hlow hhigh h r,
      fun h ↦ Criteria.accepts_bounded_of_lt hlow hhigh h r⟩
  · intro bound hbound
    exact ⟨Criteria.accepts_bounded_low hbound r, Criteria.accepts_bounded_high hbound r⟩
  · intro value test htest
    exact Predicate.accepts_price_of_number htest r
  · intro hunknown
    refine ⟨fun c bound hfinite hbound ↦ ?_, fun value hvalue ↦ ?_⟩
    · exact Criteria.accepts_of_isUnknownPrice hfinite hbound hunknown
    · obtain ⟨test, htest⟩ := Option.isSome_iff_exists.mp hvalue
      rw [Predicate.accepts_price_of_number htest, hunknown]
      rfl

/-- A paid record between bounds and an unknown price, under a name with blanks around it. -/
theorem criteria_and_keys_agree_paid_and_unknown :
    let paid := ((Entry.blank.setScalar .priceUsd (some (.int 979))).setScalar .provider
      (some (.text "GIAC"))).toRecord
    let unknown := Entry.blank.toRecord
    let low := Binary64.ofNat 100
    let high := Binary64.ofNat 979
    let range := Query.NumberTest.range low high
    Text.trim " giac\t" ≠ "" ∧
    { Criteria.none with provider := some " giac\t" }.accepts paid = true ∧
    (Predicate.of "provider" " giac\t").accepts paid = true ∧
    low.isFinite = true ∧ high.isFinite = true ∧ Binary64.le low high = true ∧
    Binary64.lt low high = true ∧
    (Criteria.bounded (some low) (some high)).accepts paid =
      ((Predicate.of "price" "paid").accepts paid && range.accepts (Criteria.priceOf paid)) ∧
    (Criteria.bounded (some high) (some low)).accepts paid = false ∧
    (Criteria.bounded (some low) none).accepts paid =
      ((Predicate.of "price" "paid").accepts paid &&
        (Query.NumberTest.compare .ge low).accepts (Criteria.priceOf paid)) ∧
    Query.NumberTest.ofText? (Text.trim " 100..979") = some range ∧
    (Predicate.of "price" " 100..979").accepts paid =
      (!paid.isUnknownPrice && range.accepts (Criteria.priceOf paid)) ∧
    unknown.isUnknownPrice = true ∧
    (Criteria.bounded none (some high)).accepts unknown = false ∧
    (Predicate.of "price" " 100..979").accepts unknown = false := by
  intro paid unknown low high range
  have hname : Text.trim " giac\t" ≠ "" := by decide
  have hprovider : { Criteria.none with provider := some " giac\t" }.accepts paid = true := by
    decide +kernel
  have hlow : low.isFinite = true := by decide +kernel
  have hhigh : high.isFinite = true := by decide +kernel
  have hle : Binary64.le low high = true := by decide +kernel
  have hlt : Binary64.lt low high = true := by decide +kernel
  have hrange : Query.NumberTest.ofText? (Text.trim " 100..979") = some range := by
    decide +kernel
  have hunknown : unknown.isUnknownPrice = true := by decide +kernel
  obtain ⟨-, -, hnames, hbounds, hsingle, hnumber, -⟩ := criteria_and_keys_agree paid
  obtain ⟨-, -, -, -, -, -, hnone⟩ := criteria_and_keys_agree unknown
  exact ⟨hname, hprovider, (hnames _ hname).2.1 hprovider, hlow, hhigh, hle, hlt,
    (hbounds low high hlow hhigh).1 hle, (hbounds high low hhigh hlow).2 hlt,
    (hsingle low hlow).1, hrange, hnumber _ _ hrange, hunknown,
    (hnone hunknown).1 _ high hhigh (.inr rfl),
    (hnone hunknown).2 _ (Option.isSome_iff_exists.mpr ⟨range, hrange⟩)⟩

end CertCatalog
