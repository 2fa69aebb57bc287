import Mathlib.Data.List.Basic
import Mathlib.Data.List.TakeWhile
import TypedBus.Text.Blank
import TypedBus.Text.Decimal

namespace TypedBus.Text

variable {text : String}

/-- A number as it may be written: decimal digits, one at least, after a plus sign if there is one. -/
def Numeral (text : String) (n : Nat) : Prop :=
  ∃ digits : List Char, (text.toList = digits ∨ text.toList = '+' :: digits) ∧ digits ≠ [] ∧
    (∀ c ∈ digits, c.isDigit) ∧ n = Nat.ofDigitChars 10 digits 0

/-- What stands behind the plus sign, if there is one. -/
def unsigned : List Char → List Char
  | '+' :: rest => rest
  | cs => cs

theorem unsigned_of_digits {digits : List Char} (h : ∀ c ∈ digits, c.isDigit) :
    unsigned digits = digits := by
  unfold unsigned
  split
  · exact absurd (h '+' List.mem_cons_self) (by decide)
  · rfl

theorem eq_or_eq_plus_unsigned (cs : List Char) : cs = unsigned cs ∨ cs = '+' :: unsigned cs := by
  unfold unsigned
  split
  · exact .inr rfl
  · exact .inl rfl

/-- A text is a number in one way only. -/
theorem numeral_iff {n : Nat} :
    Numeral text n ↔ unsigned text.toList ≠ [] ∧ (∀ c ∈ unsigned text.toList, c.isDigit) ∧
      n = Nat.ofDigitChars 10 (unsigned text.toList) 0 := by
  constructor
  · rintro ⟨digits, htext, hne, hdigits, hn⟩
    have hread : unsigned text.toList = digits := by
      rcases htext with h | h
      · rw [h, unsigned_of_digits hdigits]
      · rw [h, unsigned]
    exact ⟨hread ▸ hne, hread ▸ hdigits, hread ▸ hn⟩
  · rintro ⟨hne, hdigits, hn⟩
    exact ⟨_, eq_or_eq_plus_unsigned _, hne, hdigits, hn⟩

theorem value_map_digitValue (digits : List Char) :
    value 10 (digits.map digitValue) = Nat.ofDigitChars 10 digits 0 := by
  rw [value, valueFrom, List.foldl_map, Nat.ofDigitChars_eq_foldl]
  rfl

/-- A number is read if it is below the limit of a word. -/
theorem word?_of_numeral {n : Nat} (h : Numeral text n) :
    word? text = if n < UInt64.size then some (UInt64.ofNat n) else none := by
  obtain ⟨hne, hdigits, rfl⟩ := numeral_iff.mp h
  have hread : unsigned text.toList ≠ [] ∧ (unsigned text.toList).all Char.isDigit :=
    ⟨hne, List.all_eq_true.mpr hdigits⟩
  change (if unsigned text.toList ≠ [] ∧ (unsigned text.toList).all Char.isDigit then
    (valueBelow? 10 UInt64.size ((unsigned text.toList).map digitValue)).map UInt64.ofNat
    else none) = _
  rw [if_pos hread, valueBelow?_eq (by decide), value_map_digitValue]
  split <;> rfl

theorem numeral_of_word? {n : UInt64} (h : word? text = some n) : ∃ m, Numeral text m := by
  change (if unsigned text.toList ≠ [] ∧ (unsigned text.toList).all Char.isDigit then _
    else none) = some n at h
  split at h
  · rename_i hread
    exact ⟨_, numeral_iff.mpr ⟨hread.1, List.all_eq_true.mp hread.2, rfl⟩⟩
  · cases h

theorem word?_eq_some_iff {n : UInt64} : word? text = some n ↔ Numeral text n.toNat := by
  constructor
  · intro h
    obtain ⟨m, hm⟩ := numeral_of_word? h
    rw [word?_of_numeral hm] at h
    split at h
    · rename_i hlt
      obtain rfl := Option.some.inj h
      rwa [UInt64.toNat_ofNat', Nat.mod_eq_of_lt hlt]
    · cases h
  · intro h
    rw [word?_of_numeral h, if_pos n.toNat_lt, UInt64.ofNat_toNat]

theorem numeral_repr (n : Nat) : Numeral n.repr n := by
  refine ⟨Nat.toDigits 10 n, .inl ?_, Nat.toDigits_ne_nil, ?_, ?_⟩
  · rw [Nat.repr_eq_ofList_toDigits, String.toList_ofList]
  · exact fun c hc => Nat.isDigit_of_mem_toDigits (by decide) (by decide) hc
  · exact Nat.ofDigitChars_ten_toDigits.symm

theorem bool?_eq_some_iff {b : Bool} : bool? text = some b ↔ text = ofBool b := by
  unfold bool?
  split
  · cases b <;> simp [ofBool]
  · cases b <;> simp [ofBool]
  · rename_i htrue hfalse
    cases b with
    | true => exact iff_of_false (by simp) htrue
    | false => exact iff_of_false (by simp) hfalse

/-- A word with blanks around it, if any, and with small and capital letters for small ones. -/
def Spells (text name : String) : Prop :=
  ∃ front word back : List Char, text.toList = front ++ word ++ back ∧
    (∀ c ∈ front, isBlank c) ∧ (∀ c ∈ back, isBlank c) ∧ word.map Char.toLower = name.toList

theorem isBlank_eq_false {c : Char} (hlow : 0x20 < c.val) (hhigh : c.val < 0x7F) :
    isBlank c = false := by
  simp only [UInt32.lt_iff_toNat_lt, UInt32.reduceToNat] at hlow hhigh
  simp only [isBlank, Bool.or_eq_false_iff, Bool.and_eq_false_iff, decide_eq_false_iff_not,
    UInt32.le_iff_toNat_le, ← UInt32.toNat_inj, UInt32.reduceToNat]
  omega

theorem isBlank_toLower (c : Char) : isBlank c.toLower = isBlank c := by
  unfold Char.toLower
  split
  · rename_i hcapital
    obtain ⟨hlow, hhigh⟩ := hcapital
    simp only [ge_iff_le, UInt32.le_iff_toNat_le, Char.reduceVal, UInt32.reduceToNat] at hlow hhigh
    rw [isBlank_eq_false, isBlank_eq_false]
    all_goals
      simp only [UInt32.lt_iff_toNat_lt, UInt32.toNat_add, UInt32.reduceToNat, Char.reduceVal,
        UInt32.reduceSub]
      omega
  · rfl

theorem dropWhile_blanks {front rest : List Char} (hfront : ∀ c ∈ front, isBlank c)
    (hrest : ∀ c ∈ rest.head?, isBlank c = false) : (front ++ rest).dropWhile isBlank = rest := by
  rw [List.dropWhile_append_of_pos hfront]
  cases rest with
  | nil => rfl
  | cons c rest => exact List.dropWhile_cons_of_neg (by simpa using hrest c rfl)

theorem toList_trimBlanks {front word back : List Char} (htext : text.toList = front ++ word ++ back)
    (hfront : ∀ c ∈ front, isBlank c) (hback : ∀ c ∈ back, isBlank c) (hne : word ≠ [])
    (hword : ∀ c ∈ word, isBlank c = false) : (trimBlanks text).toList = word := by
  have hhead : ∀ c ∈ (word ++ back).head?, isBlank c = false := by
    rw [List.head?_append_of_ne_nil _ hne]
    exact fun c hc => hword c (List.mem_of_head? hc)
  have hlast : ∀ c ∈ word.reverse.head?, isBlank c = false := by
    rw [List.head?_reverse]
    exact fun c hc => hword c (List.mem_of_getLast? hc)
  have hend : ∀ c ∈ back.reverse, isBlank c := fun c hc => hback c (List.mem_reverse.mp hc)
  rw [trimBlanks, String.toList_ofList, htext, List.append_assoc, dropWhile_blanks hfront hhead,
    List.reverse_append, dropWhile_blanks hend hlast, List.reverse_reverse]

/-- What is left of a text stands in it between blanks. -/
theorem exists_blanks (text : String) : ∃ front back : List Char,
    text.toList = front ++ (trimBlanks text).toList ++ back ∧ (∀ c ∈ front, isBlank c) ∧
      ∀ c ∈ back, isBlank c := by
  let rest := text.toList.dropWhile isBlank
  refine ⟨text.toList.takeWhile isBlank, (rest.reverse.takeWhile isBlank).reverse, ?_, ?_, ?_⟩
  · rw [trimBlanks, String.toList_ofList, List.append_assoc, ← List.reverse_append,
      List.takeWhile_append_dropWhile, List.reverse_reverse, List.takeWhile_append_dropWhile]
  · exact fun c hc => List.mem_takeWhile_imp hc
  · exact fun c hc => List.mem_takeWhile_imp (List.mem_reverse.mp hc)

/-- Nothing is left exactly of a text of blanks. -/
theorem trimBlanks_eq_empty_iff : trimBlanks text = "" ↔ ∀ c ∈ text.toList, isBlank c := by
  constructor
  · intro h
    obtain ⟨front, back, htext, hfront, hback⟩ := exists_blanks text
    rw [htext, h]
    intro c hc
    rcases List.mem_append.mp hc with hc | hc
    · exact hfront c (by simpa using hc)
    · exact hback c hc
  · intro h
    rw [trimBlanks, ← String.toList_inj, String.toList_ofList, List.dropWhile_eq_nil_iff.mpr h]
    rfl

/-- A word without blanks is spelled by the texts that come to it. -/
theorem spells_iff {name : String} (hne : name ≠ "")
    (hname : ∀ c ∈ name.toList, isBlank c = false) :
    Spells text name ↔ lowerAscii (trimBlanks text) = name := by
  rw [← String.toList_inj, lowerAscii, String.toList_ofList]
  constructor
  · rintro ⟨front, word, back, htext, hfront, hback, hword⟩
    rw [toList_trimBlanks htext hfront hback, hword]
    · rintro rfl
      exact hne (String.toList_inj.mp hword.symm)
    · intro c hc
      rw [← isBlank_toLower]
      exact hname _ (hword ▸ List.mem_map_of_mem hc)
  · intro h
    obtain ⟨front, back, htext, hfront, hback⟩ := exists_blanks text
    exact ⟨front, _, back, htext, hfront, hback, h⟩

end TypedBus.Text
