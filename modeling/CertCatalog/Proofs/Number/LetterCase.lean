import CertCatalog.Number.Decimal
import CertCatalog.Proofs.Text.LetterCase
import CertCatalog.Query.NumberTest

/-!
# Numbers in any letter case

Digits, signs and points are no letters, so the readers of numbers cut a text at the same places
whatever the case of its letters. The only letters of a number are the marker of an exponent and the
words for infinity and not-a-number, which may be written in either case.
-/

namespace CertCatalog

/-! ### Decimals -/

namespace Decimal

@[simp] theorem isDigits_map_toLower (cs : List Char) :
    isDigits (cs.map Char.toLower) = isDigits cs := by
  simp [isDigits, List.all_map, Function.comp_def]

private theorem map_toLower_of_all_isDigit {cs : List Char} (h : ∀ c ∈ cs, c.isDigit = true) :
    cs.map Char.toLower = cs := by
  have hself : ∀ c ∈ cs, c.toLower = id c := by
    intro c hc
    rcases Text.toLower_eq_self_or_mem_capitals c with hc' | hc'
    · exact hc'
    · have hno : Text.capitals.all (!·.isDigit) = true := by decide
      exact absurd (h c hc) (by simpa using List.all_eq_true.mp hno c hc')
  rw [List.map_congr_left hself, List.map_id]

theorem map_toLower_of_isDigits {cs : List Char} (h : isDigits cs = true) :
    cs.map Char.toLower = cs := by
  apply map_toLower_of_all_isDigit
  simp only [isDigits, Bool.and_eq_true, List.all_eq_true] at h
  exact h.2

@[simp] theorem takeWhile_isDigit_map_toLower (cs : List Char) :
    (cs.map Char.toLower).takeWhile Char.isDigit = cs.takeWhile Char.isDigit := by
  have hdigit : Char.isDigit ∘ Char.toLower = Char.isDigit := funext Text.isDigit_toLower
  rw [List.takeWhile_map, hdigit]
  exact map_toLower_of_all_isDigit (List.all_eq_true.mp List.all_takeWhile)

@[simp] theorem dropWhile_isDigit_map_toLower (cs : List Char) :
    (cs.map Char.toLower).dropWhile Char.isDigit =
      (cs.dropWhile Char.isDigit).map Char.toLower := by
  have hdigit : Char.isDigit ∘ Char.toLower = Char.isDigit := funext Text.isDigit_toLower
  rw [List.dropWhile_map, hdigit]

private theorem splitMinus_map_toLower (cs : List Char) :
    splitMinus (cs.map Char.toLower) =
      ((splitMinus cs).1, (splitMinus cs).2.map Char.toLower) := by
  fun_cases splitMinus cs with
  | case1 cs => rfl
  | case2 cs hminus => exact splitMinus.eq_2 _ (Text.map_toLower_ne_cons rfl hminus)

private theorem splitSign_map_toLower (cs : List Char) :
    splitSign (cs.map Char.toLower) = ((splitSign cs).1, (splitSign cs).2.map Char.toLower) := by
  fun_cases splitSign cs with
  | case1 cs => rfl
  | case2 cs => rfl
  | case3 cs hminus hplus =>
    exact splitSign.eq_3 _ (Text.map_toLower_ne_cons rfl hminus)
      (Text.map_toLower_ne_cons rfl hplus)

/-- Letter case does not matter for plain numbers. -/
theorem plain?_map_toLower (cs : List Char) : plain? (cs.map Char.toLower) = plain? cs := by
  rw [plain?, plain?, splitMinus_map_toLower]
  obtain ⟨negative, body⟩ := splitMinus cs
  dsimp only
  rw [takeWhile_isDigit_map_toLower, dropWhile_isDigit_map_toLower]
  cases body.dropWhile Char.isDigit with
  | nil => rfl
  | cons c fraction =>
    by_cases hpoint : c = '.'
    · subst hpoint
      have hlower : '.'.toLower = '.' := rfl
      simp only [List.map_cons, hlower, isDigits_map_toLower]
      by_cases hdigits : isDigits fraction = true
      · rw [map_toLower_of_isDigits hdigits]
      · simp [hdigits]
    · have hlower : c.toLower ≠ '.' := fun h ↦ hpoint ((Text.toLower_eq_iff rfl c).mp h)
      simp [hpoint, hlower]

private theorem exponent?_map_toLower (cs : List Char) :
    exponent? (cs.map Char.toLower) = exponent? cs := by
  cases cs with
  | nil => rfl
  | cons c cs =>
    have hmarker : (c.toLower == 'e' || c.toLower == 'E') = (c == 'e' || c == 'E') :=
      Text.apply_toLower (f := fun c ↦ c == 'e' || c == 'E') (by decide) c
    rw [List.map_cons, exponent?, exponent?, splitSign_map_toLower, hmarker]
    obtain ⟨negative, digits⟩ := splitSign cs
    dsimp only
    rw [isDigits_map_toLower]
    by_cases hdigits : isDigits digits = true
    · rw [map_toLower_of_isDigits hdigits]
    · simp [hdigits]

/-- Letter case does not matter for floating-point texts. -/
theorem float?_map_toLower (cs : List Char) : float? (cs.map Char.toLower) = float? cs := by
  rw [float?, float?, splitSign_map_toLower]
  obtain ⟨negative, body⟩ := splitSign cs
  dsimp only
  rw [takeWhile_isDigit_map_toLower, dropWhile_isDigit_map_toLower]
  cases body.dropWhile Char.isDigit with
  | nil => rfl
  | cons c rest =>
    by_cases hpoint : c = '.'
    · subst hpoint
      have hlower : '.'.toLower = '.' := rfl
      simp only [List.map_cons, hlower, takeWhile_isDigit_map_toLower,
        dropWhile_isDigit_map_toLower, exponent?_map_toLower]
    · have hlower : c.toLower ≠ '.' := fun h ↦ hpoint ((Text.toLower_eq_iff rfl c).mp h)
      have hexponent := exponent?_map_toLower (c :: rest)
      rw [List.map_cons] at hexponent
      simp [hpoint, hlower, hexponent]

end Decimal

/-- Letter case does not matter for numbers of binary64, which may also be words. -/
theorem Binary64.ofText?_eq {a b : String} (h : Text.EqUpToCase a b) :
    Binary64.ofText? a = Binary64.ofText? b := by
  have hfloat := h.apply_eq Decimal.float?_map_toLower
  have hlower (c : Char) : c.toLower.toLower = c.toLower :=
    Text.apply_toLower (f := Char.toLower) (by decide) c
  have hsign := h.apply_eq (f := fun cs ↦ ((Decimal.splitSign cs).1,
    (Decimal.splitSign cs).2.map Char.toLower)) (fun cs ↦ by
      simp [Decimal.splitSign_map_toLower, hlower])
  rw [Prod.mk.injEq] at hsign
  rw [ofText?, ofText?, hfloat]
  dsimp only
  rw [hsign.1, hsign.2]

/-- Letter case does not matter for integers. -/
theorem Integer.ofChars?_map_toLower (cs : List Char) :
    ofChars? (cs.map Char.toLower) = ofChars? cs := by
  rw [ofChars?, ofChars?, Decimal.splitSign_map_toLower]
  dsimp only
  rw [Decimal.isDigits_map_toLower]
  by_cases hdigits : Decimal.isDigits (Decimal.splitSign cs).2 = true
  · rw [Decimal.map_toLower_of_isDigits hdigits]
  · rw [if_neg hdigits, if_neg hdigits]

/-- Letter case does not matter for integers of 64 bits. -/
theorem Integer.int64OfText?_eq {a b : String} (h : Text.EqUpToCase a b) :
    int64OfText? a = int64OfText? b := by
  rw [int64OfText?, int64OfText?, h.apply_eq ofChars?_map_toLower]

/-! ### Tests -/

namespace Query.NumberTest

private theorem number?_map_toLower (cs : List Char) : number?
    (cs.map Char.toLower) = number? cs := by
  rw [number?, number?, Decimal.plain?_map_toLower]

private theorem takeComparator?_map_toLower (cs : List Char) :
    takeComparator? (cs.map Char.toLower) =
      (takeComparator? cs).map (Prod.map id (List.map Char.toLower)) := by
  fun_cases takeComparator? cs with
  | case1 cs => rfl
  | case2 cs => rfl
  | case3 cs => rfl
  | case4 cs heq => exact takeComparator?.eq_4 _ (Text.map_toLower_ne_cons rfl heq)
  | case5 cs heq => exact takeComparator?.eq_5 _ (Text.map_toLower_ne_cons rfl heq)
  | case6 cs _ _ heq hlt hgt =>
    have hlt := Text.map_toLower_ne_cons rfl hlt
    have hgt := Text.map_toLower_ne_cons rfl hgt
    exact takeComparator?.eq_6 _ (fun rest ↦ hlt ('=' :: rest)) (fun rest ↦ hgt ('=' :: rest))
      (Text.map_toLower_ne_cons rfl heq) hlt hgt

private theorem splitRange?_map_toLower (cs : List Char) :
    splitRange? (cs.map Char.toLower) =
      (splitRange? cs).map (Prod.map (List.map Char.toLower) (List.map Char.toLower)) := by
  fun_induction splitRange? cs with
  | case1 => rfl
  | case2 cs => rfl
  | case3 c cs hpoints ih =>
    have hlower : ∀ rest, c.toLower = '.' → cs.map Char.toLower = '.' :: rest → False := by
      intro rest hc
      rw [Text.toLower_eq_iff rfl] at hc
      exact Text.map_toLower_ne_cons rfl (fun rest ↦ hpoints rest hc) rest
    rw [List.map_cons, splitRange?.eq_3 _ _ hlower, ih]
    cases splitRange? cs <;> rfl

private theorem range?_map_toLower (cs : List Char) : range? (cs.map Char.toLower) = range? cs := by
  rw [range?, range?, splitRange?_map_toLower]
  cases splitRange? cs with
  | none => rfl
  | some parts =>
    obtain ⟨before, after⟩ := parts
    simp [number?_map_toLower]

/-- Letter case does not matter for a test. -/
theorem ofChars?_map_toLower (cs : List Char) : ofChars? (cs.map Char.toLower) = ofChars? cs := by
  rw [ofChars?, ofChars?, takeComparator?_map_toLower, range?_map_toLower, number?_map_toLower]
  cases takeComparator? cs with
  | none => rfl
  | some parts =>
    obtain ⟨op, rest⟩ := parts
    simp [number?_map_toLower]

/-- Letter case does not matter for a test. -/
theorem ofText?_eq {a b : String} (h : Text.EqUpToCase a b) : ofText? a = ofText? b :=
  h.apply_eq ofChars?_map_toLower

end Query.NumberTest
end CertCatalog
