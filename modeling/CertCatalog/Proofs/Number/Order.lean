import CertCatalog.Number.Binary64

/-!
# Order of binary64 numbers

Every number but not-a-number has a place on the number line, and the comparisons are those of the
places. So they are transitive, and of two numbers with places one is below the other or not above
it. Lesser and greater of two numbers are the two numbers when they stand in order.
-/

namespace CertCatalog.Binary64

variable {a b c : Binary64} {x y : Int}

/-- Only not-a-number has no place. -/
theorem place_eq_none_iff : a.place = none ↔ a.isNaN = true := by
  cases a with
  | nan => exact iff_of_true rfl rfl
  | infinite => exact iff_of_false (Option.some_ne_none _) Bool.false_ne_true
  | finite => exact iff_of_false (Option.some_ne_none _) Bool.false_ne_true

theorem exists_place (h : a.isNaN = false) : ∃ x, a.place = some x := by
  cases hplace : a.place with
  | none => rw [place_eq_none_iff.mp hplace] at h; cases h
  | some x => exact ⟨x, rfl⟩

private theorem isNaN_of_place (h : a.place = some x) : a.isNaN = false := by
  rw [← Bool.not_eq_true, ← place_eq_none_iff, h]
  exact Option.some_ne_none x

theorem isNaN_of_isFinite (h : a.isFinite = true) : a.isNaN = false := by
  cases a with
  | nan => cases h
  | infinite => rfl
  | finite => rfl

theorem isNaN_ofRatio (negative : Bool) (num den : Nat) :
    (ofRatio negative num den).isNaN = false := by
  unfold ofRatio
  split <;> rfl

theorem isNaN_ofNat (n : Nat) : (ofNat n).isNaN = false := isNaN_ofRatio false _ _

theorem lt_of_place (ha : a.place = some x) (hb : b.place = some y) : lt a b = decide (x < y) := by
  rw [lt, ha, hb]

theorem le_of_place (ha : a.place = some x) (hb : b.place = some y) : le a b = decide (x ≤ y) := by
  rw [le, ha, hb]

/-- The equality of two numbers is that of their places. -/
theorem eq_of_place (ha : a.place = some x) (hb : b.place = some y) : eq a b = decide (x = y) := by
  rw [eq, ha, hb]

/-- Order and equality of numbers are those of their places. -/
theorem le_iff : le a b = true ↔ ∃ x y, a.place = some x ∧ b.place = some y ∧ x ≤ y := by
  unfold le
  cases a.place <;> cases b.place <;> simp

private theorem isNaN_of_le (h : le a b = true) : a.isNaN = false ∧ b.isNaN = false := by
  obtain ⟨x, y, hx, hy, -⟩ := le_iff.mp h
  exact ⟨isNaN_of_place hx, isNaN_of_place hy⟩

/-- The order is transitive. -/
theorem le_trans (hab : le a b = true) (hbc : le b c = true) : le a c = true := by
  obtain ⟨x, y, hx, hy, hxy⟩ := le_iff.mp hab
  obtain ⟨y', z, hy', hz, hyz⟩ := le_iff.mp hbc
  obtain rfl : y = y' := Option.some.inj (hy.symm.trans hy')
  exact le_iff.mpr ⟨x, z, hx, hz, Int.le_trans hxy hyz⟩

/-- A number that is not below another is at or above it. -/
theorem not_lt (ha : a.isNaN = false) (hb : b.isNaN = false) : (!lt a b) = le b a := by
  obtain ⟨x, hx⟩ := exists_place ha
  obtain ⟨y, hy⟩ := exists_place hb
  rw [lt_of_place hx hy, le_of_place hy hx, ← decide_not, decide_eq_decide]
  exact Int.not_lt

theorem min_of_le (h : le a b = true) : min a b = a := by
  obtain ⟨ha, hb⟩ := isNaN_of_le h
  unfold min
  rw [ha, hb, Bool.false_or, if_neg Bool.false_ne_true, if_pos h]

theorem le_max_of_le (h : le a b = true) : le c (max a b) = le c b := by
  obtain ⟨ha, hb⟩ := isNaN_of_le h
  unfold max
  rw [ha, hb, Bool.false_or, if_neg Bool.false_ne_true]
  split
  · next hba =>
    -- Numbers in both orders stand at the same place.
    rw [Bool.eq_iff_iff]
    exact ⟨fun hca ↦ le_trans hca h, fun hcb ↦ le_trans hcb hba⟩
  · rfl

theorem place_min (ha : a.place = some x) (hb : b.place = some y) :
    (min a b).place = some (Min.min x y) := by
  unfold min
  rw [isNaN_of_place ha, isNaN_of_place hb, le_of_place ha hb]
  by_cases h : x ≤ y
  · rw [Int.min_eq_left h]
    simp [h, ha]
  · rw [Int.min_eq_right (Int.le_of_not_le h)]
    simp [h, hb]

theorem place_max (ha : a.place = some x) (hb : b.place = some y) :
    (max a b).place = some (Max.max x y) := by
  unfold max
  rw [isNaN_of_place ha, isNaN_of_place hb, le_of_place hb ha]
  by_cases h : y ≤ x
  · rw [Int.max_eq_left h]
    simp [h, ha]
  · rw [Int.max_eq_right (Int.le_of_not_le h)]
    simp [h, hb]

end CertCatalog.Binary64
