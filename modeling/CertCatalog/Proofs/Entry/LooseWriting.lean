import CertCatalog.Proofs.Audit.Defaults
import CertCatalog.Proofs.Entry.Trimmed
import CertCatalog.Proofs.Number.ReadBack
import CertCatalog.Proofs.Text.Padding
import Mathlib.Logic.Relation

/-!
# Loosely written entries

The same record may be written in several ways: a number or a flag as its text, a text between
blanks, a list of one scalar as that scalar, and nothing as a blank text or an empty list. Entries
that differ in nothing else are read alike by every accessor, so they yield the same record.
-/

namespace CertCatalog

/-! ### Whole numbers -/

/-- Readings that agree on the natural numbers of up to 53 bits. Beyond these, the text of a
floating-point number may be read as another integer than the number itself. -/
def AgreeAsNatural (m n : Option Int) : Prop :=
  ∀ k : Nat, k < 2 ^ 53 → (m = some (k : Int) ↔ n = some (k : Int))

theorem AgreeAsNatural.refl (m : Option Int) : AgreeAsNatural m m := fun _ _ ↦ Iff.rfl

namespace Scalar

theorem wholePart?_finite (negative : Bool) (units : Nat) (h : Binary64.IsMagnitude units) :
    wholePart? (.finite negative units h) =
      some (Integer.clampInt64
        (if negative then -(units / Binary64.one : Nat) else (units / Binary64.one : Nat))) := by
  rw [wholePart?, Binary64.truncate?, Option.map_some]

theorem clampInt64_eq_natCast_iff {n : Int} {k : Nat} (hk : k < 2 ^ 53) :
    Integer.clampInt64 n = k ↔ n = k := by
  rw [Integer.clampInt64, Integer.int64Min, Integer.int64Max]
  omega

private theorem wholePart?_toBinary64 (negative : Bool) (digits : Nat) {k : Nat} (hk : k < 2 ^ 53) :
    wholePart? (Decimal.mk negative digits 0).toBinary64 = some (k : Int) ↔
      (if negative then -(digits : Int) else digits) = k := by
  have hratio : Decimal.ratio digits 0 = (digits * Binary64.one, 1) := by simp [Decimal.ratio]
  rw [Decimal.toBinary64_eq, hratio]
  by_cases hsmall : digits < 2 ^ 53
  · have hmagnitude := Binary64.isMagnitude_mul_one (Nat.le_of_lt hsmall)
    rw [Binary64.ofRatio_of_isMagnitude negative hmagnitude, wholePart?_finite,
      Nat.mul_div_cancel _ Binary64.one_pos, Option.some.injEq, clampInt64_eq_natCast_iff hk]
  · -- A larger integer is rounded to one that is out of reach as well.
    have hinteger : (if negative then -(digits : Int) else digits) ≠ k := by
      split <;> omega
    have hlarge := Binary64.le_roundUnits_div_one (Nat.not_lt.mp hsmall)
    rw [iff_false_right hinteger, Binary64.ofRatio]
    split
    · rw [wholePart?_finite, Option.some.injEq, clampInt64_eq_natCast_iff hk]
      generalize Binary64.roundUnits (digits * Binary64.one) 1 / Binary64.one = whole at hlarge
      split <;> omega
    · intro hinfinite
      cases hinfinite

/-- A text that is read as an integer is read as a number of the same whole part. -/
theorem wholePart?_of_ofChars? {s : String} {n : Int} (h : Integer.ofChars? s.toList = some n) :
    ∃ x, Binary64.ofText? s = some x ∧ AgreeAsNatural (wholePart? x) (some n) := by
  rw [Integer.ofChars?] at h
  generalize hsplit : Decimal.splitSign s.toList = split at h
  obtain ⟨negative, digits⟩ := split
  dsimp only at h
  split at h
  · next hdigits =>
    refine ⟨_, Binary64.ofText?_of_splitSign hsplit hdigits, fun k hk ↦ ?_⟩
    rw [wholePart?_toBinary64 negative _ hk, ← Option.some.inj h, Option.some.injEq]
  · cases h

private theorem agreeAsNatural_positional (x : Binary64) :
    AgreeAsNatural (asInt? (.float x)) (asInt? (.text x.positional)) := by
  rw [asInt?, asInt?, x.trim_positional, x.ofText?_positional, Option.bind_some]
  cases hint : Integer.int64OfText? x.positional with
  | none => exact .refl _
  | some n =>
    obtain ⟨hchars, -⟩ := Option.filter_eq_some_iff.mp hint
    obtain ⟨y, hread, hagree⟩ := wholePart?_of_ofChars? hchars
    rw [x.ofText?_positional, Option.some.injEq] at hread
    rw [hread]
    exact hagree

/-! ### Scalars -/

/-- A scalar and its text are the same natural number. -/
theorem agreeAsNatural_asText (v : Scalar) :
    AgreeAsNatural v.asInt? (asInt? (.text v.asText)) := by
  cases v with
  | bool b =>
    have hnone : asInt? (.text (asText (.bool b))) = none := by cases b <;> decide
    rw [hnone]
    exact .refl _
  | int n =>
    have hread : asInt? (.text (Integer.toText n.toInt)) = some n.toInt := by
      rw [asInt?, Integer.trim_toText, Integer.int64OfText?_toText]
      rfl
    rw [asText, hread]
    exact .refl _
  | float x =>
    rw [asText]
    exact agreeAsNatural_positional x
  | text s =>
    rw [asText, asInt?, asInt?, Text.trim_trim]
    exact .refl _

private theorem isAffirmative_toText (n : Int) :
    isAffirmative (Text.lower (Integer.toText n)) = decide (n = 1) := by
  have hlower : Text.lower (Integer.toText n) = Integer.toText n := by
    have hsmall : ∀ c ∈ (Integer.toText n).toList, Text.IsSmall c := by
      intro c hc
      apply Text.isSmall_of_toNat_lt
      rcases Integer.eq_minus_or_isDigit_of_mem_toText hc with rfl | hdigit
      · decide
      · have := Text.isDigit_iff.mp hdigit
        omega
    rw [Text.lower, Text.lowerChars, Text.lowerFrom_of_isSmall hsmall, String.ofList_toList]
  have hread {s : String} (h : Integer.toText n = s) : Integer.ofChars? s.toList = some n := by
    rw [← h, Integer.ofChars?_toText]
  rw [isAffirmative, hlower, Integer.trim_toText, Bool.eq_iff_iff, List.contains_iff_mem,
    decide_eq_true_eq]
  constructor
  · intro hmem
    simp only [List.mem_cons, List.not_mem_nil, or_false] at hmem
    rcases hmem with htrue | hone | hyes
    · cases hread htrue
    · exact (Option.some.inj (hread hone)).symm
    · cases hread hyes
  · rintro rfl
    decide

/-- A scalar and its text are the same flag, unless it is a floating-point number. -/
theorem asFlag_asText {v : Scalar} (h : ∀ x, v ≠ .float x) :
    asFlag (.text v.asText) = v.asFlag := by
  cases v with
  | bool b => cases b <;> decide
  | int n =>
    have hone : n.toInt = 1 ↔ n = 1 := by rw [← Int64.toInt_inj]; rfl
    rw [asText, asFlag, asFlag, isAffirmative_toText, Bool.eq_iff_iff, decide_eq_true_eq, hone,
      beq_iff_eq]
  | float x => exact absurd rfl (h x)
  | text s => rw [asText, asFlag, asFlag, isAffirmative, isAffirmative, Text.trim_lower_trim]

private theorem asInt?_of_blank {s : String} (h : Text.trim s = "") : asInt? (.text s) = none := by
  rw [asInt?, h]
  decide

private theorem asFlag_of_blank {s : String} (h : Text.trim s = "") :
    asFlag (.text s) = false := by
  rw [asFlag, isAffirmative, ← Text.trim_lower_trim, h]
  decide

/-- A scalar written in another way: as its text, or as a text with blanks around it. -/
inductive Rewrites : Scalar → Scalar → Prop
  | written (v : Scalar) : Rewrites v (.text v.asText)
  | padded {before after : List Char} (hbefore : Text.AreBlank before)
      (hafter : Text.AreBlank after) (s : String) :
      Rewrites (.text s) (.text (Text.pad before s after))

namespace Rewrites

variable {v w : Scalar} (h : v.Rewrites w)
include h

private theorem asText_eq : v.asText = w.asText := by
  cases h with
  | written => exact v.trim_asText.symm
  | padded hbefore hafter s => exact (Text.trim_pad hbefore hafter s).symm

private theorem agreeAsNatural : AgreeAsNatural v.asInt? w.asInt? := by
  cases h with
  | written => exact v.agreeAsNatural_asText
  | padded hbefore hafter s =>
    rw [asInt?, asInt?, Text.trim_pad hbefore hafter]
    exact .refl _

private theorem asFlag_eq (hfloat : ∀ x, v ≠ .float x) : v.asFlag = w.asFlag := by
  cases h with
  | written => exact (asFlag_asText hfloat).symm
  | padded hbefore hafter s =>
    rw [asFlag, asFlag, isAffirmative, isAffirmative, ← Text.trim_lower_trim s,
      ← Text.trim_lower_trim (Text.pad _ _ _), Text.trim_pad hbefore hafter]

end Rewrites
end Scalar

/-! ### Lists -/

/-- A list field written in another way: one scalar as a list, a scalar in another way, or with one
more blank text. -/
inductive Listed.Rewrites : Listed → Listed → Prop
  | listed (v : Scalar) : Rewrites (.one v) (.many [v])
  | one {v w : Scalar} (h : v.Rewrites w) : Rewrites (.one v) (.one w)
  | item {v w : Scalar} (h : v.Rewrites w) (front back : List Scalar) :
      Rewrites (.many (front ++ v :: back)) (.many (front ++ w :: back))
  | blank {s : String} (h : Text.trim s = "") (front back : List Scalar) :
      Rewrites (.many (front ++ back)) (.many (front ++ .text s :: back))

private theorem Listed.Rewrites.items_eq {l l' : Listed} (h : l.Rewrites l') :
    l.items = l'.items := by
  cases h with
  | listed v => rfl
  | one h => simp only [items, values, List.map_cons, List.map_nil, h.asText_eq]
  | item h front back =>
    simp only [items, values, List.map_append, List.map_cons, h.asText_eq]
  | blank h front back =>
    simp [items, values, Scalar.asText, h]

/-! ### Entries -/

namespace Entry

/-- An entry with one value written in another way. A blank text or an empty list may stand for
nothing. A floating-point number is no flag, although its text may be one. -/
inductive Rewrites (e : Entry) : Entry → Prop
  | scalar {key : ScalarKey} {v w : Scalar} (hkey : e.scalar key = some v) (h : v.Rewrites w)
      (hflag : key = .aiFocus → ∀ x, v ≠ .float x) : e.Rewrites (e.setScalar key (some w))
  | blankScalar {key : ScalarKey} {s : String} (hkey : e.scalar key = none)
      (h : Text.trim s = "") : e.Rewrites (e.setScalar key (some (.text s)))
  | list {key : ListKey} {l l' : Listed} (hkey : e.list key = some l) (h : l.Rewrites l') :
      e.Rewrites (e.setList key (some l'))
  | emptyList {key : ListKey} (hkey : e.list key = none) :
      e.Rewrites (e.setList key (some (.many [])))
  | blankList {key : ListKey} {s : String} (hkey : e.list key = none) (h : Text.trim s = "") :
      e.Rewrites (e.setList key (some (.one (.text s))))

/-- The flag of an entry, cleared without a value. -/
def isFlagged (e : Entry) : Bool := ((e.scalar .aiFocus).map Scalar.asFlag).getD false

/-- Entries that every accessor reads alike. -/
structure ReadsAlike (e e' : Entry) : Prop where
  text : ∀ key, e.text key = e'.text key
  number : ∀ key, AgreeAsNatural ((e.scalar key).bind Scalar.asInt?)
    ((e'.scalar key).bind Scalar.asInt?)
  isFlagged : e.isFlagged = e'.isFlagged
  items : ∀ key, e.items key = e'.items key

variable {e e' : Entry}

private theorem scalar_setScalar_self (e : Entry) (key : ScalarKey) (value : Option Scalar) :
    (e.setScalar key value).scalar key = value := if_pos rfl

private theorem scalar_setScalar_of_ne {k key : ScalarKey} (h : k ≠ key) (value : Option Scalar) :
    (e.setScalar key value).scalar k = e.scalar k := if_neg h

private theorem list_setList_self (e : Entry) (key : ListKey) (value : Option Listed) :
    (e.setList key value).list key = value := if_pos rfl

private theorem list_setList_of_ne {k key : ListKey} (h : k ≠ key) (value : Option Listed) :
    (e.setList key value).list k = e.list k := if_neg h

private theorem readsAlike_setScalar {key : ScalarKey} {value : Option Scalar}
    (htext : ((e.scalar key).map Scalar.asText).getD "" = (value.map Scalar.asText).getD "")
    (hnumber : AgreeAsNatural ((e.scalar key).bind Scalar.asInt?) (value.bind Scalar.asInt?))
    (hflag : key = .aiFocus → ((e.scalar key).map Scalar.asFlag).getD false =
      (value.map Scalar.asFlag).getD false) : e.ReadsAlike (e.setScalar key value) where
  text k := by
    rw [Entry.text, Entry.text]
    by_cases hk : k = key
    · rw [hk, scalar_setScalar_self, htext]
    · rw [scalar_setScalar_of_ne hk]
  number k := by
    by_cases hk : k = key
    · rw [hk, scalar_setScalar_self]
      exact hnumber
    · rw [scalar_setScalar_of_ne hk]
      exact .refl _
  isFlagged := by
    rw [Entry.isFlagged, Entry.isFlagged]
    by_cases hk : .aiFocus = key
    · rw [hk, scalar_setScalar_self, hflag hk.symm]
    · rw [scalar_setScalar_of_ne hk]
  items _ := rfl

private theorem readsAlike_setList {key : ListKey} {value : Option Listed}
    (hitems : ((e.list key).map Listed.items).getD [] = (value.map Listed.items).getD []) :
    e.ReadsAlike (e.setList key value) where
  text _ := rfl
  number _ := .refl _
  isFlagged := rfl
  items k := by
    rw [Entry.items, Entry.items]
    by_cases hk : k = key
    · rw [hk, list_setList_self, hitems]
    · rw [list_setList_of_ne hk]

/-- An entry with one value written in another way is read alike. -/
theorem Rewrites.readsAlike (h : e.Rewrites e') : e.ReadsAlike e' := by
  -- One value is replaced, so it is enough that the readings of this value agree.
  cases h with
  | scalar hkey h hflag =>
    apply readsAlike_setScalar
    · rw [hkey, Option.map_some, Option.map_some, h.asText_eq]
    · rw [hkey, Option.bind_some, Option.bind_some]
      exact h.agreeAsNatural
    · intro hfocus
      rw [hkey, Option.map_some, Option.map_some, h.asFlag_eq (hflag hfocus)]
  | blankScalar hkey h =>
    apply readsAlike_setScalar
    · rw [hkey, Option.map_some, Scalar.asText, h]
      rfl
    · rw [hkey, Option.bind_some, Scalar.asInt?_of_blank h]
      exact .refl _
    · intro _
      rw [hkey, Option.map_some, Scalar.asFlag_of_blank h]
      rfl
  | list hkey h =>
    apply readsAlike_setList
    rw [hkey, Option.map_some, Option.map_some, h.items_eq]
  | emptyList hkey =>
    apply readsAlike_setList
    rw [hkey]
    rfl
  | blankList hkey h =>
    apply readsAlike_setList
    simp [hkey, Listed.items, Listed.values, Scalar.asText, h]

private theorem natural_eq_of_agreeAsNatural {key : ScalarKey} {bound : Nat}
    (hbound : bound < 2 ^ 53)
    (h : AgreeAsNatural ((e.scalar key).bind Scalar.asInt?)
      ((e'.scalar key).bind Scalar.asInt?)) : e.natural key bound = e'.natural key bound := by
  by_cases hread : ∃ n : Nat, n ≤ bound ∧ (e.scalar key).bind Scalar.asInt? = some (n : Int)
  · obtain ⟨n, hn, heq⟩ := hread
    rw [natural_of_asInt? heq hn, natural_of_asInt? ((h n (by omega)).mp heq) hn]
  · rw [not_exists] at hread
    rw [natural_eq_zero fun n hn heq ↦ hread n ⟨hn, heq⟩,
      natural_eq_zero fun n hn heq ↦ hread n ⟨hn, (h n (by omega)).mpr heq⟩]

/-- Entries that are read alike yield the same record. -/
theorem ReadsAlike.toRecord_eq (h : e.ReadsAlike e') : e.toRecord = e'.toRecord := by
  have hyear : e.natural .introducedYear 65535 = e'.natural .introducedYear 65535 :=
    natural_eq_of_agreeAsNatural (by decide) (h.number _)
  have hprice : e.natural .priceUsd 4294967295 = e'.natural .priceUsd 4294967295 :=
    natural_eq_of_agreeAsNatural (by decide) (h.number _)
  have hflag := h.isFlagged
  simp only [Entry.isFlagged] at hflag
  have hplain : e.plainRecord = e'.plainRecord := by
    simp only [plainRecord, recordId, recordName, recordCode, recordDomain, h.text, h.items,
      hyear, hprice, hflag]
  rw [toRecord, toRecord, hplain]

/-- However loosely its values are written, an entry yields the same record: scalars as their texts
or between blanks, single scalars as lists, blank texts added to lists, and blank texts or empty
lists for nothing, any number of times and in either direction. -/
theorem toRecord_eq_of_rewrites (h : Relation.EqvGen Rewrites e e') :
    e.toRecord = e'.toRecord := by
  induction h with
  | rel e e' hstep => exact hstep.readsAlike.toRecord_eq
  | refl e => rfl
  | symm e e' _ ih => exact ih.symm
  | trans e e' e'' _ _ ih ih' => exact ih.trans ih'

/-- A price as a floating-point number may be written as a text between blanks, and a lone tag as a
list with a blank text. -/
theorem toRecord_eq_of_rewrites_price_and_tag :
    let price : String := (Binary64.ofNat 979).positional
    let e := (blank.setScalar .priceUsd (some (.float (.ofNat 979)))).setList .tags
      (some (.one (.text "soc")))
    let written := e.setScalar .priceUsd (some (.text price))
    let padded := written.setScalar .priceUsd (some (.text (Text.pad [' '] price ['\u00A0'])))
    let listed := padded.setList .tags (some (.many [.text "soc"]))
    let e' := listed.setList .tags (some (.many [.text " ", .text "soc"]))
    Relation.EqvGen Rewrites e' e ∧ e'.toRecord = e.toRecord ∧ e.toRecord.priceUsd = 979 := by
  intro price e written padded listed e'
  have hspace : Text.AreBlank [' '] := List.forall_mem_singleton.mpr (by decide)
  have hnoBreak : Text.AreBlank ['\u00A0'] := List.forall_mem_singleton.mpr (by decide)
  have hnotFlag {v : Scalar} : ScalarKey.priceUsd = .aiFocus → ∀ x, v ≠ .float x := by
    intro hkey
    cases hkey
  have hwritten : e.Rewrites written := .scalar rfl (.written (.float (.ofNat 979))) hnotFlag
  have hpadded : written.Rewrites padded := .scalar rfl (.padded hspace hnoBreak price) hnotFlag
  have hlisted : padded.Rewrites listed := .list rfl (.listed (.text "soc"))
  have hblank : listed.Rewrites e' := .list rfl (.blank (by decide) [] [.text "soc"])
  have hrewrites : Relation.EqvGen Rewrites e' e :=
    .symm _ _ (.trans _ _ _ (.trans _ _ _ (.trans _ _ _ (.rel _ _ hwritten) (.rel _ _ hpadded))
      (.rel _ _ hlisted)) (.rel _ _ hblank))
  have hprice : e.toRecord.priceUsd = 979 := by decide +kernel
  exact ⟨hrewrites, toRecord_eq_of_rewrites hrewrites, hprice⟩

end Entry
end CertCatalog
