import Mathlib.Tactic.SplitIfs
import TypedBus.Text.Utf8

namespace TypedBus.Text

/-- The form of a smaller character comes first, whatever follows either. -/
theorem utf8EncodeChar_append_lt {c d : Char} (h : c < d) (s t : Bytes) :
    String.utf8EncodeChar c ++ s < String.utf8EncodeChar d ++ t := by
  have hlt : c.val.toNat < d.val.toNat := h
  have hbound : d.val.toNat < 0x110000 := by
    rcases d.valid with hlow | ⟨-, hhigh⟩
    · exact Nat.lt_trans hlow (by decide)
    · exact hhigh
  unfold String.utf8EncodeChar
  generalize c.val.toNat = v at hlt ⊢
  generalize d.val.toNat = w at hlt hbound ⊢
  -- forms of different widths differ in their first bytes, forms of one width in the first byte
  -- where the numbers do
  simp only
  split_ifs <;>
  · simp (disch := omega) only [List.cons_append, List.nil_append, List.cons_lt_cons_iff,
      UInt8.lt_iff_toNat_lt, ← UInt8.toNat_inj, UInt8.toNat_ofNat', Nat.reducePow, Nat.mod_eq_of_lt]
    omega

theorem utf8_eq_flatMap (text : String) : utf8 text = text.toList.flatMap String.utf8EncodeChar := by
  have hform : text.toByteArray = text.toList.utf8Encode := by simp
  simp [utf8, String.toUTF8, hform, List.utf8Encode, List.data_toByteArray]

theorem flatMap_utf8EncodeChar_lt {cs ds : List Char} (h : cs < ds) :
    cs.flatMap String.utf8EncodeChar < ds.flatMap String.utf8EncodeChar := by
  induction h with
  | @nil d ds =>
    obtain ⟨b, bs, hb⟩ := List.exists_cons_of_ne_nil (String.utf8EncodeChar_ne_nil (c := d))
    simp [hb, List.flatMap_cons]
  | rel h => exact utf8EncodeChar_append_lt h _ _
  | cons h ih => exact List.append_left_lt ih

theorem utf8_lt_utf8 {a b : String} (h : a < b) : utf8 a < utf8 b := by
  rw [utf8_eq_flatMap, utf8_eq_flatMap]
  exact flatMap_utf8EncodeChar_lt h

theorem utf8_lt_utf8_iff {a b : String} : utf8 a < utf8 b ↔ a < b := by
  refine ⟨fun h => String.not_le.mp fun hle => ?_, utf8_lt_utf8⟩
  by_cases heq : b = a
  · subst heq
    exact List.lt_irrefl _ h
  · have hlt : b < a := String.not_le.mp fun hge => heq (String.le_antisymm hle hge)
    exact List.lt_asymm h (utf8_lt_utf8 hlt)

end TypedBus.Text
