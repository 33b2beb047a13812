import CertCatalog.Proofs.Number.LetterCase
import CertCatalog.Proofs.Query.Concatenation
import Mathlib.Data.List.Forall2
import Mathlib.Data.Option.Defs

/-!
# Queries in any letter case

Quotes, blanks and colons are no letters, so texts that agree up to case have tokens that agree up
to case. Keys, free terms and the values that conditions compare are in lowercase, and tests on
numbers read no letter. What remains different is the value as written, which no record is compared
with.
-/

namespace CertCatalog

namespace Query

/-! ### Tokens -/

namespace Tokens

private theorem isQuote_toLower (c : Char) : isQuote c.toLower = isQuote c :=
  Text.apply_toLower (by decide) c

private theorem isAlpha_of_isQuote {c : Char} (h : isQuote c = true) : c.isAlpha = false := by
  simp only [isQuote, Bool.or_eq_true, beq_iff_eq] at h
  rcases h with rfl | rfl <;> rfl

private theorem words_push_map_toLower (word : List Char) {s t : Tokens}
    (h : t.words = s.words.map (·.map Char.toLower)) :
    (push (word.map Char.toLower) t).words = (push word s).words.map (·.map Char.toLower) := by
  unfold push
  rw [List.isEmpty_map]
  split <;> simp [h]

/-- The scan of a text with its letters folded yields the tokens with their letters folded. Only a
quote opens a span, so the end of a span is found in both texts. -/
theorem words_scan_map_toLower {openQuote : Option Char}
    (hquote : ∀ quote, openQuote = some quote → isQuote quote = true) (current cs : List Char) :
    (scan openQuote (current.map Char.toLower) (cs.map Char.toLower)).words =
      (scan openQuote current cs).words.map (·.map Char.toLower) := by
  induction cs generalizing openQuote current with
  | nil => exact words_push_map_toLower current rfl
  | cons c cs ih =>
    have hnext : current.map Char.toLower ++ [c.toLower] = (current ++ [c]).map Char.toLower := by
      rw [List.map_append, List.map_singleton]
    rw [List.map_cons]
    cases openQuote with
    | some quote =>
      have hclose : c.toLower = quote ↔ c = quote :=
        Text.toLower_eq_iff (isAlpha_of_isQuote (hquote quote rfl)) c
      rw [scan_some_cons, scan_some_cons, hnext]
      by_cases hc : c = quote
      · rw [if_pos hc, if_pos (hclose.mpr hc)]
        exact ih (by simp) current
      · rw [if_neg hc, if_neg (mt hclose.mp hc)]
        exact ih hquote _
    | none =>
      rw [scan_none_cons, scan_none_cons, isQuote_toLower, Text.isBlank_toLower, hnext]
      by_cases hq : isQuote c = true
      · have hself : c.toLower = c := (Text.toLower_eq_iff (isAlpha_of_isQuote hq) c).mpr rfl
        rw [if_pos hq, if_pos hq, hself]
        exact ih (by simpa using hq) current
      · rw [if_neg hq, if_neg hq]
        split
        · exact words_push_map_toLower current (ih hquote [])
        · exact ih hquote _

/-- The tokens of agreeing texts agree one by one. -/
theorem forall₂_toList_ofText {a b : String} (h : Text.EqUpToCase a b) :
    List.Forall₂ Text.EqUpToCase (ofText a).toList (ofText b).toList := by
  have hwords : (ofText a).words.map (·.map Char.toLower) =
      (ofText b).words.map (·.map Char.toLower) := by
    rw [ofText, ofText, ← words_scan_map_toLower (by simp), ← words_scan_map_toLower (by simp)]
    exact congrArg (fun cs ↦ (scan none [] cs).words) h
  rw [toList, toList, List.forall₂_map_left_iff, List.forall₂_map_right_iff]
  rw [← List.forall₂_eq_eq_eq, List.forall₂_map_left_iff, List.forall₂_map_right_iff] at hwords
  simpa only [Text.eqUpToCase_ofList_iff] using hwords

end Tokens
end Query

/-! ### Conditions -/

namespace Predicate

/-- Conditions that compare records with the same, whatever their values as written. -/
structure SameCondition (p q : Predicate) : Prop where
  key : p.key = q.key
  valueLower : p.valueLower = q.valueLower
  number : p.number = q.number

namespace SameCondition

variable {p q : Predicate} (h : p.SameCondition q)
include h

private theorem occursIn_eq : p.occursIn = q.occursIn := by
  funext text
  rw [occursIn, occursIn, h.valueLower]

private theorem acceptsKey_eq (r : Record) (key : SearchKey) :
    p.acceptsKey r key = q.acceptsKey r key := by
  cases key <;>
    simp only [acceptsKey, acceptsYear, acceptsPrice, h.occursIn_eq, h.valueLower, h.number]

private theorem accepts_eq (r : Record) : p.accepts r = q.accepts r := by
  simp only [accepts, h.key, h.valueLower, h.acceptsKey_eq]

end SameCondition

private theorem sameCondition_of (key : String) {a b : String} (h : Text.EqUpToCase a b) :
    (Predicate.of key a).SameCondition (.of key b) := by
  constructor <;> simp only [Predicate.of]
  · exact h.trim.lower_eq
  · exact Query.NumberTest.ofText?_eq h.trim

end Predicate

namespace Query

namespace Term

/-- A record satisfies one term of a query. A dropped token asks for nothing. -/
def accepts (r : Record) : Term → Bool
  | predicate p => p.accepts r
  | free term => termAccepts term r
  | dropped _ => true

private theorem splitColon?_map_toLower (cs : List Char) :
    splitColon? (cs.map Char.toLower) =
      (splitColon? cs).map (Prod.map (List.map Char.toLower) (List.map Char.toLower)) := by
  have hcolon : (· != ':') ∘ Char.toLower = (· != ':') :=
    funext (Text.apply_toLower (f := (· != ':')) (by decide))
  rw [splitColon?, splitColon?, List.dropWhile_map, List.takeWhile_map, hcolon]
  cases cs.dropWhile (· != ':') <;> rfl

/-- Parts of tokens that agree up to case. -/
def PartsAgree (p q : List Char × List Char) : Prop :=
  p.1.map Char.toLower = q.1.map Char.toLower ∧ p.2.map Char.toLower = q.2.map Char.toLower

private theorem splitColon?_rel {a b : String} (h : Text.EqUpToCase a b) :
    Option.Rel PartsAgree (splitColon? a.toList) (splitColon? b.toList) := by
  have hsplit := congrArg splitColon? h
  rw [Text.foldAscii, Text.foldAscii, splitColon?_map_toLower, splitColon?_map_toLower] at hsplit
  revert hsplit
  cases splitColon? a.toList <;> cases splitColon? b.toList
  case none.none => exact fun _ ↦ .none
  case none.some => simp
  case some.none => simp
  case some.some p q =>
    intro hsplit
    apply Option.Rel.some
    simpa only [PartsAgree, Option.map_some, Option.some.injEq, Prod.map, Prod.mk.injEq]
      using hsplit

/-- Letter case does not matter for a token. -/
theorem accepts_ofToken_eq (aliases : KeyAliases) {a b : String} (h : Text.EqUpToCase a b)
    (r : Record) : (ofToken aliases a).accepts r = (ofToken aliases b).accepts r := by
  have hparts := splitColon?_rel h
  rw [ofToken, ofToken]
  generalize splitColon? a.toList = x, splitColon? b.toList = y at hparts
  cases hparts with
  | none => exact congrArg (termAccepts · r) h.lower_eq
  | @some p q hparts =>
    obtain ⟨key, value⟩ := p
    obtain ⟨key', value'⟩ := q
    obtain ⟨hkey, hvalue⟩ := hparts
    -- A part is empty in both tokens or in neither, so both tokens are told apart alike.
    have hkeyEmpty : key.isEmpty = key'.isEmpty := by
      rw [← List.isEmpty_map (f := Char.toLower), hkey, List.isEmpty_map]
    have hvalueEmpty : (Text.trimChars value).isEmpty = (Text.trimChars value').isEmpty := by
      rw [← List.isEmpty_map (f := Char.toLower), ← Text.trimChars_map_toLower, hvalue,
        Text.trimChars_map_toLower, List.isEmpty_map]
    dsimp only
    rw [hkeyEmpty, hvalueEmpty, (Text.eqUpToCase_ofList_iff.mpr hkey).lower_eq]
    split
    · rfl
    · split
      · rfl
      · have hvalueText := Text.eqUpToCase_ofList_iff.mpr hvalue
        have hcondition := Predicate.sameCondition_of
          (aliases.resolve (Text.lower (String.ofList key'))) hvalueText
        exact hcondition.accepts_eq r

end Term

private theorem accepts_ofTerms (terms : List Term) (r : Record) :
    (ofTerms terms).accepts r = terms.all (Term.accepts r) := by
  induction terms with
  | nil => rfl
  | cons term terms ih =>
    rw [List.all_cons, ← ih]
    cases term with
    | predicate p =>
      simp [ofTerms, accepts, Term.predicate?, Term.free?, Term.accepts, Bool.and_assoc]
    | free term =>
      simp [ofTerms, accepts, Term.predicate?, Term.free?, Term.accepts, Bool.and_left_comm]
    | dropped diagnostic => simp [ofTerms, accepts, Term.predicate?, Term.free?, Term.accepts]

/-- Letter case does not matter for the text of a query. -/
theorem accepts_ofText_eq (aliases : KeyAliases) {a b : String} (h : Text.EqUpToCase a b)
    (r : Record) : (ofText aliases a).accepts r = (ofText aliases b).accepts r := by
  rw [accepts_ofText, accepts_ofText, ofTokens, ofTokens, accepts_ofTerms, accepts_ofTerms,
    List.all_map, List.all_map]
  have htokens := Tokens.forall₂_toList_ofText h
  generalize (Tokens.ofText a).toList = tokens, (Tokens.ofText b).toList = tokens' at htokens
  induction htokens with
  | nil => rfl
  | cons htoken _ ih =>
    rw [List.all_cons, List.all_cons, ih]
    exact congrArg (· && _) (Term.accepts_ofToken_eq aliases htoken r)

end Query
end CertCatalog
