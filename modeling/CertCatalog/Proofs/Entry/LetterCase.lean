import CertCatalog.Entry.Normal
import CertCatalog.Proofs.Number.LetterCase
import CertCatalog.Proofs.Record.SearchedAlike
import Mathlib.Data.Option.Defs

/-!
# Entries in any letter case

Entries agree up to case when they hold the same values, texts up to case. Flags, numbers, levels
and statuses are read from a text in any letter case, and a vocabulary name takes its own spelling,
so agreeing entries have records that searches do not tell apart.
-/

namespace CertCatalog

/-! ### Values -/

/-- The same scalar, or texts that agree up to case. -/
inductive Scalar.EqUpToCase : Scalar → Scalar → Prop
  | same (value : Scalar) : EqUpToCase value value
  | text {a b : String} (h : Text.EqUpToCase a b) : EqUpToCase (.text a) (.text b)

/-- Scalars of the same shape that agree up to case one by one. -/
inductive Listed.EqUpToCase : Listed → Listed → Prop
  | many {values values' : List Scalar} (h : List.Forall₂ Scalar.EqUpToCase values values') :
    EqUpToCase (.many values) (.many values')
  | one {value value' : Scalar} (h : Scalar.EqUpToCase value value') :
    EqUpToCase (.one value) (.one value')

private theorem Listed.EqUpToCase.refl (l : Listed) : l.EqUpToCase l := by
  cases l with
  | many values => exact .many (List.forall₂_same.mpr fun value _ ↦ .same value)
  | one value => exact .one (.same value)

namespace Scalar.EqUpToCase

variable {v w : Scalar} (h : v.EqUpToCase w)
include h

private theorem asText : Text.EqUpToCase v.asText w.asText := by
  cases h with
  | same value => exact .refl _
  | text h => exact h.trim

private theorem asInt?_eq : v.asInt? = w.asInt? := by
  cases h with
  | same value => rfl
  | text h =>
    simp only [asInt?, Integer.int64OfText?_eq h.trim, Binary64.ofText?_eq h.trim]

private theorem asFlag_eq : v.asFlag = w.asFlag := by
  cases h with
  | same value => rfl
  | text h => simp only [asFlag, h.lower_eq]

end Scalar.EqUpToCase

private theorem Listed.EqUpToCase.items {l l' : Listed} (h : l.EqUpToCase l') :
    AgreeUpToCase l.items l'.items := by
  have hvalues : List.Forall₂ Scalar.EqUpToCase l.values l'.values := by
    cases h with
    | many h => exact h
    | one h => exact .cons h .nil
  have htexts : AgreeUpToCase (l.values.map Scalar.asText) (l'.values.map Scalar.asText) :=
    List.rel_map (fun _ _ h ↦ h.asText) hvalues
  refine List.rel_filter (fun a b hab ↦ ?_) htexts
  simp only [hab.isEmpty_eq]

/-! ### Spellings -/

namespace Text.EqUpToCase

variable {a b a' b' : String}

private theorem orElse (h : Text.EqUpToCase a b) (h' : Text.EqUpToCase a' b') :
    Text.EqUpToCase (orElse a a') (orElse b b') := by
  rw [CertCatalog.orElse, CertCatalog.orElse, h.isEmpty_eq]
  split
  · exact h'
  · exact h

private theorem looselyNamed?_eq {α : Type} (h : Text.EqUpToCase a b) (all : List α)
    (name : α → String) :
    Text.looselyNamed? all name a = Text.looselyNamed? all name b := by
  rw [Text.looselyNamed?, Text.looselyNamed?, h.trim.lower_eq]

private theorem find?_eq (h : Text.EqUpToCase a b) (known : List String) :
    (known.find? fun k ↦ Text.eqIgnoringAsciiCase k a) =
      known.find? fun k ↦ Text.eqIgnoringAsciiCase k b := by
  congr 1
  funext k
  exact Text.EqUpToCase.eqIgnoringAsciiCase_eq (.refl k) h

private theorem canonical (h : Text.EqUpToCase a b) (known : List String) :
    Text.EqUpToCase (canonical known a) (canonical known b) := by
  rw [CertCatalog.canonical, CertCatalog.canonical, h.find?_eq known]
  cases known.find? fun k ↦ Text.eqIgnoringAsciiCase k b with
  | none => exact h
  | some k => exact .refl k

end Text.EqUpToCase

private theorem Entry.recordDomain_eq_getD (e : Entry) :
    e.recordDomain =
      (Vocabulary.domains.find? fun k ↦ Text.eqIgnoringAsciiCase k (e.text .domainArea)).getD
        Vocabulary.fallbackDomain := by
  rw [recordDomain]
  cases hfind : Vocabulary.domains.find? fun k ↦
      Text.eqIgnoringAsciiCase k (e.text .domainArea) with
  | none =>
    have hself := Text.eqIgnoringAsciiCase_refl (e.text .domainArea)
    have hmem : e.text .domainArea ∉ Vocabulary.domains :=
      fun hmem ↦ List.find?_eq_none.mp hfind _ hmem hself
    simp [canonical, hfind, hmem]
  | some k =>
    have hmem : k ∈ Vocabulary.domains := List.mem_of_find?_eq_some hfind
    simp [canonical, hfind, hmem]

/-! ### Entries -/

namespace Entry

/-- Entries with the same values, texts up to case. -/
structure EqUpToCase (e e' : Entry) : Prop where
  scalar : ∀ key, Option.Rel Scalar.EqUpToCase (e.scalar key) (e'.scalar key)
  list : ∀ key, Option.Rel Listed.EqUpToCase (e.list key) (e'.list key)

namespace EqUpToCase

theorem refl (e : Entry) : e.EqUpToCase e where
  scalar key := by
    cases e.scalar key with
    | none => exact .none
    | some value => exact .some (.same value)
  list key := by
    cases e.list key with
    | none => exact .none
    | some l => exact .some (.refl l)

variable {e e' : Entry} (h : e.EqUpToCase e')
include h

theorem setScalar (key : ScalarKey) {value value' : Scalar} (hvalue : value.EqUpToCase value') :
    (e.setScalar key (some value)).EqUpToCase (e'.setScalar key (some value')) where
  scalar k := by
    simp only [Entry.setScalar]
    split
    · exact .some hvalue
    · exact h.scalar k
  list := h.list

private theorem text (key : ScalarKey) : Text.EqUpToCase (e.text key) (e'.text key) := by
  have hkey := h.scalar key
  rw [Entry.text, Entry.text]
  generalize e.scalar key = v, e'.scalar key = w at hkey
  cases hkey with
  | none => exact .refl _
  | some hvalue => exact hvalue.asText

private theorem items (key : ListKey) : AgreeUpToCase (e.items key) (e'.items key) := by
  have hkey := h.list key
  rw [Entry.items, Entry.items]
  generalize e.list key = v, e'.list key = w at hkey
  cases hkey with
  | none => exact .nil
  | some hvalue => exact hvalue.items

private theorem natural_eq (key : ScalarKey) (bound : Nat) :
    e.natural key bound = e'.natural key bound := by
  have hint : (e.scalar key).bind Scalar.asInt? = (e'.scalar key).bind Scalar.asInt? := by
    have hkey := h.scalar key
    generalize e.scalar key = v, e'.scalar key = w at hkey
    cases hkey with
    | none => rfl
    | some hvalue => exact hvalue.asInt?_eq
  rw [natural, natural, hint]

private theorem aiFocus_eq : ((e.scalar .aiFocus).map Scalar.asFlag).getD false =
    ((e'.scalar .aiFocus).map Scalar.asFlag).getD false := by
  have hkey := h.scalar .aiFocus
  generalize e.scalar .aiFocus = v, e'.scalar .aiFocus = w at hkey
  cases hkey with
  | none => rfl
  | some hvalue => exact hvalue.asFlag_eq

private theorem recordName : Text.EqUpToCase e.recordName e'.recordName :=
  (h.text .name).orElse ((h.text .certCode).orElse (h.text .id))

private theorem recordDomain_eq : e.recordDomain = e'.recordDomain := by
  rw [recordDomain_eq_getD, recordDomain_eq_getD, (h.text .domainArea).find?_eq]

private theorem map_canonical (key : ListKey) (known : List String) :
    AgreeUpToCase ((e.items key).map (canonical known)) ((e'.items key).map (canonical known)) :=
  List.rel_map (fun _ _ hab ↦ hab.canonical known) (h.items key)

/-- Agreeing entries have records that are searched alike before search text and goals are set. -/
theorem plainRecord : e.plainRecord.SearchedAlike e'.plainRecord where
  name := h.recordName
  provider := (h.text .provider).orElse (.refl _)
  code := (h.text .certCode).orElse h.recordName
  domainArea := by
    simp only [Entry.plainRecord, h.recordDomain_eq]
    exact .refl _
  level := by
    simp only [Entry.plainRecord, Level.ofText, Level.ofText?, (h.text .level).looselyNamed?_eq]
  status := by
    simp only [Entry.plainRecord, Status.ofText?, (h.text .status).looselyNamed?_eq]
  introducedYear := by simp only [Entry.plainRecord, h.natural_eq]
  description := (h.text .description).orElse (h.text .summary)
  summary := (h.text .summary).orElse (h.text .description)
  subAreas := h.map_canonical .subAreas Vocabulary.subAreas
  tracks := h.items .tracks
  roleGroups := h.map_canonical .roleGroups Vocabulary.roleGroups
  roles := h.items .roles
  tags := h.items .tags
  aiFocus := h.aiFocus_eq
  priceUsd := by simp only [Entry.plainRecord, h.natural_eq]
  priceLabel := (h.text .priceLabel).orElse (.refl _)
  searchText := rfl
  goals := rfl

/-- Agreeing entries have records that are searched alike. -/
theorem toRecord : e.toRecord.SearchedAlike e'.toRecord := by
  simp only [Entry.toRecord]
  exact h.plainRecord.withDerived h.plainRecord.searchTextOf_eq h.plainRecord.classify_eq

end EqUpToCase
end Entry
end CertCatalog
