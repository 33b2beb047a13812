import CertCatalog.Proofs.Text.LetterCase

/-!
# Characters beyond ASCII

Comparison up to ASCII case reaches the letters A to Z only. Beside the lowercase of a text it looks
at the characters beyond ASCII as they stand, each in its place, and nothing else tells the two ways
to ignore case apart. In ASCII they are the same.
-/

namespace CertCatalog.Text

/-- A character beyond ASCII, and a gap for any other one. -/
def beyondAscii? (c : Char) : Option Char := if c.toNat < 0x80 then none else some c

/-- The characters of a text beyond ASCII in their places. -/
def beyondAscii (s : String) : List (Option Char) := s.toList.map beyondAscii?

private theorem beyondAscii?_toLower (c : Char) : beyondAscii? c.toLower = beyondAscii? c :=
  apply_toLower (f := beyondAscii?) (by decide) c

private theorem beyondAscii?_eq_iff {c d : Char} :
    beyondAscii? c = beyondAscii? d ↔ c.toNat < 0x80 ∧ d.toNat < 0x80 ∨ c = d := by
  rw [beyondAscii?, beyondAscii?]
  constructor
  · intro h
    split at h <;> split at h
    · next hc hd => exact .inl ⟨hc, hd⟩
    · cases h
    · cases h
    · exact .inr (Option.some.inj h)
  · rintro (⟨hc, hd⟩ | rfl)
    · rw [if_pos hc, if_pos hd]
    · rfl

private theorem lowerFrom_cons_of_ascii {c : Char} (hc : c.toNat < 0x80) (before cs : List Char) :
    lowerFrom before (c :: cs) = c.toLower :: lowerFrom (c :: before) cs := by
  have hsigma : c ≠ 'Σ' := by
    rintro rfl
    exact absurd hc (by decide)
  rw [lowerFrom, if_neg hsigma, lowerChar, if_pos hc, List.singleton_append]

private theorem lowerFrom_of_ascii {cs : List Char} (h : ∀ c ∈ cs, c.toNat < 0x80)
    (before : List Char) :
    lowerFrom before cs = cs.map Char.toLower := by
  induction cs generalizing before with
  | nil => rw [lowerFrom, List.map_nil]
  | cons c cs ih =>
    rw [lowerFrom_cons_of_ascii (h c List.mem_cons_self), List.map_cons,
      ih fun d hd ↦ h d (List.mem_cons_of_mem _ hd)]

private theorem lowerFrom_eq_of_cons_eq {c : Char} {before before' cs ds : List Char}
    (h : lowerFrom before (c :: cs) = lowerFrom before' (c :: ds)) :
    lowerFrom (c :: before) cs = lowerFrom (c :: before') ds := by
  rw [lowerFrom, lowerFrom] at h
  by_cases hsigma : c = 'Σ'
  · rw [if_pos hsigma, if_pos hsigma] at h
    exact (List.cons.inj h).2
  · rw [if_neg hsigma, if_neg hsigma] at h
    exact List.append_cancel_left h

/-- Rows of characters with the same lowercase that are the same beyond ASCII agree up to ASCII
case. -/
theorem map_toLower_eq_of_lowerFrom_eq {before before' cs ds : List Char}
    (hlower : lowerFrom before cs = lowerFrom before' ds)
    (hbeyond : cs.map beyondAscii? = ds.map beyondAscii?) :
    cs.map Char.toLower = ds.map Char.toLower := by
  -- What stands before may differ, since only the final sigma looks at it.
  induction cs generalizing before before' ds with
  | nil =>
    rw [List.map_nil, eq_comm, List.map_eq_nil_iff] at hbeyond
    rw [hbeyond]
  | cons c cs ih =>
    cases ds with
    | nil => cases hbeyond
    | cons d ds =>
      rw [List.map_cons, List.map_cons, List.cons.injEq] at hbeyond
      obtain ⟨hfirst, hrest⟩ := hbeyond
      rw [List.map_cons, List.map_cons]
      rcases beyondAscii?_eq_iff.mp hfirst with ⟨hc, hd⟩ | rfl
      · rw [lowerFrom_cons_of_ascii hc, lowerFrom_cons_of_ascii hd, List.cons.injEq] at hlower
        rw [hlower.1, ih hlower.2 hrest]
      · rw [ih (lowerFrom_eq_of_cons_eq hlower) hrest]

/-- Texts agree up to ASCII case when they have the same lowercase and are the same beyond ASCII. -/
theorem eqUpToCase_iff {a b : String} :
    EqUpToCase a b ↔ lower a = lower b ∧ beyondAscii a = beyondAscii b := by
  constructor
  · intro h
    refine ⟨h.lower_eq, ?_⟩
    exact h.apply_eq fun cs ↦ by
      rw [List.map_map]
      exact List.map_congr_left fun c _ ↦ beyondAscii?_toLower c
  · rintro ⟨hlower, hbeyond⟩
    have hchars : lowerChars a.toList = lowerChars b.toList := by
      rw [← toList_lower, ← toList_lower, hlower]
    exact map_toLower_eq_of_lowerFrom_eq hchars hbeyond

/-- All characters of the text are in ASCII. -/
def IsAscii (s : String) : Prop := ∀ c ∈ s.toList, c.toNat < 0x80

private theorem IsAscii.toList_lower_eq {s : String} (h : IsAscii s) :
    (lower s).toList = foldAscii s := by
  rw [toList_lower, lowerChars, lowerFrom_of_ascii h, foldAscii]

/-- Texts in ASCII agree up to ASCII case when they have the same lowercase. -/
theorem eqUpToCase_iff_of_isAscii {a b : String} (ha : IsAscii a) (hb : IsAscii b) :
    EqUpToCase a b ↔ lower a = lower b := by
  rw [EqUpToCase, ← ha.toList_lower_eq, ← hb.toList_lower_eq, String.toList_inj]

end CertCatalog.Text
