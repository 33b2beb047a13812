import Mathlib.Data.List.Lex
import Mathlib.Data.String.Basic

/-!
# Byte order of texts

Texts are ordered by code points. UTF-8 keeps this order: the bytes of a character come before those
of a later one, whatever follows.
-/

namespace CertCatalog.Text

/-- The bytes of a text in UTF-8. -/
def bytes (s : String) : List UInt8 := s.toUTF8.data.toList

private theorem bytes_eq_flatMap (s : String) :
    bytes s = s.toList.flatMap String.utf8EncodeChar := by
  rw [bytes, String.toUTF8, ← String.utf8Encode_toList, List.utf8Encode, List.data_toByteArray]

/-! ### Bytes of a character -/

/-- The bytes behind the first one: so many digits of a code point to the base 64. -/
def continuation : Nat → Nat → List UInt8
  | 0, _ => []
  | count + 1, code => continuation count (code / 64) ++ [UInt8.ofNat (code % 64 + 128)]

/-- The first byte of a code point, with the number of bytes behind it. -/
inductive IsLead (code : Nat) : Nat → Nat → Prop
  | one (high : code < 0x80) : IsLead code 0 code
  | two (low : 0x80 ≤ code) (high : code < 0x800) : IsLead code 1 (code / 64 + 0xC0)
  | three (low : 0x800 ≤ code) (high : code < 0x10000) : IsLead code 2 (code / 64 ^ 2 + 0xE0)
  | four (low : 0x10000 ≤ code) (high : code < 0x110000) : IsLead code 3 (code / 64 ^ 3 + 0xF0)

/-- The bytes of a character are a first byte and digits of its code point. -/
theorem exists_isLead (c : Char) :
    ∃ count lead, IsLead c.toNat count lead ∧
      String.utf8EncodeChar c = UInt8.ofNat lead :: continuation count c.toNat := by
  have hvalid : c.toNat < 0xD800 ∨ 0xDFFF < c.toNat ∧ c.toNat < 0x110000 := c.valid
  generalize hcode : c.toNat = code at hvalid
  have hval : c.val.toNat = code := hcode
  rw [String.utf8EncodeChar, hval]
  split_ifs with hone htwo hthree
  · exact ⟨0, _, .one (by omega), rfl⟩
  · refine ⟨1, _, .two (by omega) (by omega), ?_⟩
    have hlead : code / 64 % 32 = code / 64 := by omega
    rw [hlead]
    rfl
  · refine ⟨2, _, .three (by omega) (by omega), ?_⟩
    have hlead : code / 4096 % 16 = code / 4096 := by omega
    rw [hlead]
    rfl
  · refine ⟨3, _, .four (by omega) (by omega), ?_⟩
    have hlead : code / 262144 % 8 = code / 262144 := by omega
    have hdigits : code / 4096 % 64 = code / 64 / 64 % 64 := by omega
    rw [hlead, hdigits]
    rfl

private theorem digit_lt (code : Nat) : code % 64 + 128 < UInt8.size := by
  have := Nat.mod_lt code (show 0 < 64 by decide)
  show _ < 256
  omega

private theorem continuation_append_lt {count code code' : Nat}
    (hhigh : code / 64 ^ count = code' / 64 ^ count) (h : code < code') (s t : List UInt8) :
    continuation count code ++ s < continuation count code' ++ t := by
  induction count generalizing code code' s t with
  | zero =>
    rw [pow_zero, Nat.div_one, Nat.div_one] at hhigh
    omega
  | succ count ih =>
    rw [continuation, continuation, List.append_assoc, List.append_assoc]
    by_cases hlow : code / 64 = code' / 64
    · rw [hlow]
      apply List.append_left_lt
      rw [List.singleton_append, List.singleton_append, List.cons_lt_cons_iff]
      left
      rw [UInt8.lt_iff_toNat_lt, UInt8.toNat_ofNat_of_lt' (digit_lt code),
        UInt8.toNat_ofNat_of_lt' (digit_lt code')]
      omega
    · apply ih
      · rw [pow_succ', ← Nat.div_div_eq_div_mul, ← Nat.div_div_eq_div_mul] at hhigh
        exact hhigh
      · omega

/-- The bytes of a character come before those of a later one, whatever follows. -/
theorem utf8EncodeChar_append_lt {c d : Char} (h : c < d) (s t : List UInt8) :
    String.utf8EncodeChar c ++ s < String.utf8EncodeChar d ++ t := by
  have hcode : c.toNat < d.toNat := h
  obtain ⟨count, lead, hlead, hbytes⟩ := exists_isLead c
  obtain ⟨count', lead', hlead', hbytes'⟩ := exists_isLead d
  -- The first bytes differ, unless the characters have equally many bytes and the same high digits.
  have hcases : lead < lead' ∧ lead' < 256 ∨
      lead = lead' ∧ count = count' ∧ c.toNat / 64 ^ count = d.toNat / 64 ^ count := by
    cases hlead <;> cases hlead' <;> omega
  rw [hbytes, hbytes', List.cons_append, List.cons_append, List.cons_lt_cons_iff]
  rcases hcases with ⟨hlt, hbound⟩ | ⟨rfl, rfl, hhigh⟩
  · left
    rw [UInt8.lt_iff_toNat_lt, UInt8.toNat_ofNat_of_lt' (hlt.trans hbound),
      UInt8.toNat_ofNat_of_lt' hbound]
    exact hlt
  · exact .inr ⟨rfl, continuation_append_lt hhigh hcode s t⟩

/-! ### Bytes of a text -/

/-- Rows of characters are ordered as their bytes are. -/
theorem flatMap_utf8EncodeChar_lt {cs ds : List Char} (h : cs < ds) :
    cs.flatMap String.utf8EncodeChar < ds.flatMap String.utf8EncodeChar := by
  induction h with
  | @nil d ds =>
    obtain ⟨_, _, -, hbytes⟩ := exists_isLead d
    rw [List.flatMap_nil, List.flatMap_cons, hbytes]
    exact List.nil_lt_cons _ _
  | rel hlt =>
    rw [List.flatMap_cons, List.flatMap_cons]
    exact utf8EncodeChar_append_lt hlt _ _
  | cons _ ih =>
    rw [List.flatMap_cons, List.flatMap_cons]
    exact List.append_left_lt ih

/-- A text comes before another one when its bytes do. -/
theorem bytes_lt_bytes_iff {a b : String} : bytes a < bytes b ↔ a < b := by
  have hmono : ∀ {s t : String}, s < t → bytes s < bytes t := by
    intro s t h
    rw [bytes_eq_flatMap, bytes_eq_flatMap]
    exact flatMap_utf8EncodeChar_lt (String.lt_iff_toList_lt.mp h)
  refine ⟨fun h ↦ ?_, hmono⟩
  rcases lt_trichotomy a b with hlt | rfl | hgt
  · exact hlt
  · exact absurd h (List.lt_irrefl _)
  · exact absurd h (List.lt_asymm (hmono hgt))

end CertCatalog.Text
