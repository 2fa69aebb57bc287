import Mathlib.Algebra.Ring.Nat
import TypedBus.Payload.Protobuf.Wire

namespace TypedBus.Protobuf

variable {n number room : Nat} {wire : WireType} {bytes content : Bytes}

/-- What groups of seven bits spell, lowest first. -/
def groupsValue : Bytes → Nat
  | [] => 0
  | b :: rest => b.toNat % 128 + 128 * groupsValue rest

/-- Groups that spell a number: all but the last have their high bit set. The last ones may be zero,
so a number can be spelled in several ways. -/
structure NumberForm (n : Nat) (bytes : Bytes) : Prop where
  groups : ∃ front last, bytes = front ++ [last] ∧ (∀ b ∈ front, 128 ≤ b) ∧ last < 128
  length_le : bytes.length ≤ 10
  value : groupsValue bytes = n
  lt : n < 2 ^ 64

def ValidNumber (number : Nat) : Prop := number ≠ 0 ∧ 8 * number + 7 ≤ keyLimit

structure KeyForm (number : Nat) (wire : WireType) (bytes : Bytes) : Prop where
  valid : ValidNumber number
  spelled : NumberForm (8 * number + wire.number) bytes

/-- The content of a field that is no group. -/
inductive ContentForm : WireType → Bytes → Prop
  | varint {n : Nat} {bytes : Bytes} (spelled : NumberForm n bytes) : ContentForm .varint bytes
  | fixed64 {bytes : Bytes} (width : bytes.length = 8) : ContentForm .fixed64 bytes
  | fixed32 {bytes : Bytes} (width : bytes.length = 4) : ContentForm .fixed32 bytes
  | delimited {size content : Bytes} (spelled : NumberForm content.length size) :
      ContentForm .lengthDelimited (size ++ content)

/-- Fields one after the other, none of which has `room` groups or more around it. A group ends with
the number with which it starts. -/
inductive FieldsForm : Nat → Bytes → Prop
  | nil {room : Nat} : FieldsForm room []
  | plain {room number : Nat} {wire : WireType} {key content rest : Bytes}
      (keyed : KeyForm number wire key) (filled : ContentForm wire content)
      (more : FieldsForm (room + 1) rest) : FieldsForm (room + 1) (key ++ content ++ rest)
  | group {room number : Nat} {first inside last rest : Bytes}
      (opened : KeyForm number .startGroup first) (filled : FieldsForm room inside)
      (closed : KeyForm number .endGroup last) (more : FieldsForm (room + 1) rest) :
      FieldsForm (room + 1) (first ++ inside ++ last ++ rest)

/-- One field of a message. -/
inductive FieldForm (number : Nat) : Bytes → Prop
  | plain {wire : WireType} {key content : Bytes} (keyed : KeyForm number wire key)
      (filled : ContentForm wire content) : FieldForm number (key ++ content)
  | group {first inside last : Bytes} (opened : KeyForm number .startGroup first)
      (filled : FieldsForm (depthLimit - 1) inside) (closed : KeyForm number .endGroup last) :
      FieldForm number (first ++ inside ++ last)

theorem toNat_byte (h : n < 256) : (UInt8.ofNat n).toNat = n := UInt8.toNat_ofNat_of_lt' h

/-- Groups are read as the number that they spell if the last possible one need hold no more than a
bit. -/
theorem readVarintIn_groups {front : Bytes} {last : UInt8} (hfront : ∀ b ∈ front, 128 ≤ b)
    (hlast : last < 128) (width : Nat) (hlength : front.length ≤ width)
    (hvalue : groupsValue (front ++ [last]) < 2 ^ (7 * width + 1)) (rest : Bytes) :
    readVarintIn (width + 1) (front ++ last :: rest) =
      some (groupsValue (front ++ [last]), rest) := by
  induction front generalizing width with
  | nil =>
    have hlow : last.toNat < 128 := UInt8.lt_iff_toNat_lt.mp hlast
    have hself : groupsValue [last] = last.toNat := by simp [groupsValue, Nat.mod_eq_of_lt hlow]
    rw [List.nil_append, hself] at hvalue
    rw [List.nil_append, List.nil_append, hself]
    cases width with
    | zero =>
      have hbit : last ≤ 1 := UInt8.le_iff_toNat_le.mpr (Nat.le_of_lt_succ hvalue)
      simp [readVarintIn, hbit]
    | succ width => simp [readVarintIn, hlast]
  | cons b front ih =>
    obtain ⟨width, rfl⟩ : ∃ w, width = w + 1 := ⟨width - 1, by simp at hlength; omega⟩
    have hhigh : 128 ≤ b.toNat := UInt8.le_iff_toNat_le.mp (hfront b List.mem_cons_self)
    have hbyte := b.toNat_lt
    have hmore : ¬ b < 128 := UInt8.not_lt.mpr (hfront b List.mem_cons_self)
    have hpow : 2 ^ (7 * (width + 1) + 1) = 128 * 2 ^ (7 * width + 1) := by
      rw [Nat.mul_add, Nat.add_right_comm, Nat.pow_add, Nat.mul_comm]
    rw [List.cons_append, groupsValue] at hvalue
    have hread := ih (fun c hc => hfront c (List.mem_cons_of_mem b hc)) width
      (by simpa using hlength) (by omega)
    rw [List.cons_append, List.cons_append, readVarintIn, if_neg hmore, hread, groupsValue]
    simp only [Option.some.injEq, Prod.mk.injEq, and_true]
    omega

theorem NumberForm.read (h : NumberForm n bytes) (rest : Bytes) :
    readVarint (bytes ++ rest) = .ok (n, rest) := by
  obtain ⟨front, last, rfl, hfront, hlast⟩ := h.groups
  have hlength := h.length_le
  rw [List.length_append, List.length_singleton] at hlength
  have hlt : groupsValue (front ++ [last]) < 2 ^ (7 * 9 + 1) := h.value ▸ h.lt
  have hread := readVarintIn_groups hfront hlast 9 (by omega) hlt rest
  rw [List.append_assoc, List.singleton_append, readVarint, hread, h.value]

theorem varint_of_lt (h : n < 128) : varint n = [UInt8.ofNat n] := by
  rw [varint, if_pos h]

theorem groups_varint (n width : Nat) (h : n < 2 ^ (7 * (width + 1))) :
    groupsValue (varint n) = n ∧
    ∃ front last, varint n = front ++ [last] ∧ (∀ b ∈ front, 128 ≤ b) ∧ last < 128 ∧
      front.length ≤ width := by
  fun_induction varint n generalizing width with
  | case1 n hn =>
    have hb := toNat_byte (n := n) (by omega)
    have hlast : UInt8.ofNat n < 128 := UInt8.lt_iff_toNat_lt.mpr (hb.symm ▸ hn)
    exact ⟨by simp [groupsValue, hb, Nat.mod_eq_of_lt hn], [], _, rfl, by simp, hlast,
      Nat.zero_le width⟩
  | case2 n hn ih =>
    have hb := toNat_byte (n := n % 128 + 128) (by omega)
    have hhigh : 128 ≤ UInt8.ofNat (n % 128 + 128) := by
      rw [UInt8.le_iff_toNat_le, hb]
      exact Nat.le_add_left 128 _
    -- a number that takes a second group does not fit into a width of zero
    obtain ⟨width, rfl⟩ : ∃ w, width = w + 1 := by
      cases width with
      | zero => exact absurd h hn
      | succ w => exact ⟨w, rfl⟩
    have hpow : 2 ^ (7 * (width + 1 + 1)) = 128 * 2 ^ (7 * (width + 1)) := by
      rw [Nat.mul_add 7 (width + 1), Nat.pow_add, Nat.mul_comm]
    obtain ⟨hvalue, front, last, hrest, hfront, hlast, hlength⟩ := ih width (by omega)
    refine ⟨?_, UInt8.ofNat (n % 128 + 128) :: front, last, ?_, ?_, hlast, ?_⟩
    · rw [groupsValue, hb, hvalue]
      omega
    · rw [hrest, List.cons_append]
    · intro b hmem
      rcases List.mem_cons.mp hmem with rfl | hmem
      · exact hhigh
      · exact hfront b hmem
    · exact Nat.succ_le_succ hlength

theorem numberForm_varint (h : n < 2 ^ 64) : NumberForm n (varint n) := by
  have hwidth : n < 2 ^ (7 * (9 + 1)) := Nat.lt_trans h (by decide)
  obtain ⟨hvalue, front, last, hgroups, hfront, hlast, hlength⟩ := groups_varint n 9 hwidth
  refine ⟨⟨front, last, hgroups, hfront, hlast⟩, ?_, hvalue, h⟩
  rw [hgroups, List.length_append, List.length_singleton]
  exact Nat.succ_le_succ hlength

theorem keyForm_keyBytes (h : ValidNumber number) (wire : WireType) :
    KeyForm number wire (keyBytes number wire) := by
  have hw : wire.number < 8 := by cases wire <;> decide
  have hlimit : keyLimit < 2 ^ 64 := by decide
  have hfits := h.2
  exact ⟨h, numberForm_varint (by omega)⟩

theorem KeyForm.read (h : KeyForm number wire bytes) (rest : Bytes) :
    readKey (bytes ++ rest) = .ok (number, wire, rest) := by
  obtain ⟨hne, hle⟩ := h.valid
  have hw : wire.number < 8 := by cases wire <;> decide
  have hmod : (8 * number + wire.number) % 8 = wire.number := by omega
  have hdiv : (8 * number + wire.number) / 8 = number := by omega
  have hfits : ¬ 8 * number + wire.number > keyLimit := by omega
  simp only [readKey, h.spelled.read, hmod, hdiv, hne, hfits, WireType.ofNumber?_number, if_false]

theorem take_append (content rest : Bytes) :
    take content.length (content ++ rest) = .ok (content, rest) := by
  simp only [take, Bytes.split?_append rfl]

theorem readDelimited_append {size content : Bytes} (h : NumberForm content.length size)
    (rest : Bytes) : readDelimited (size ++ (content ++ rest)) = .ok (content, rest) := by
  simp only [readDelimited, h.read, take_append]

theorem ContentForm.skip (h : ContentForm wire content) (rest : Bytes) :
    skipContent wire (content ++ rest) = .ok rest := by
  cases h with
  | varint spelled => simp only [skipContent, spelled.read, Except.map]
  | fixed64 width | fixed32 width =>
    have htake := take_append content rest
    rw [width] at htake
    simp only [skipContent, htake, Except.map]
  | delimited spelled =>
    rw [List.append_assoc]
    simp only [skipContent, readDelimited_append spelled, Except.map]

section Groups

variable {outer opened : List Nat} {input rest : Bytes}

theorem skipGroups_of_endGroup (hk : readKey input = .ok (number, .endGroup, rest)) :
    skipGroups (number :: outer) input = skipGroups outer rest := by
  rw [skipGroups]
  split
  all_goals
    rename_i hk'
    rw [hk] at hk'
    cases hk'
  · rw [if_pos rfl]
  · contradiction

theorem skipGroups_of_startGroup (hroom : (n :: outer).length < depthLimit)
    (hk : readKey input = .ok (number, .startGroup, rest)) :
    skipGroups (n :: outer) input = skipGroups (number :: n :: outer) rest := by
  rw [skipGroups]
  split
  all_goals
    rename_i hk'
    rw [hk] at hk'
    cases hk'
  · rw [if_neg (Nat.not_le.mpr hroom)]
  · contradiction

theorem skipGroups_of_content (hroom : (n :: outer).length < depthLimit) {middle : Bytes}
    (hk : readKey input = .ok (number, wire, middle)) (hs : skipContent wire middle = .ok rest) :
    skipGroups (n :: outer) input = skipGroups (n :: outer) rest := by
  rw [skipGroups]
  split
  all_goals
    rename_i hk'
    rw [hk] at hk'
    cases hk'
  · cases hs
  · cases hs
  · rw [if_neg (Nat.not_le.mpr hroom)]
    split
    · rename_i hs'
      rw [hs] at hs'
      cases hs'
    · rename_i hs'
      rw [hs] at hs'
      cases hs'
      rfl

/-- Fields inside groups are passed over as long as there is room for the groups around them. -/
theorem FieldsForm.skip (h : FieldsForm room bytes) {opened : List Nat} (hopen : opened ≠ [])
    (hroom : opened.length + room ≤ depthLimit) (rest : Bytes) :
    skipGroups opened (bytes ++ rest) = skipGroups opened rest := by
  obtain ⟨n, outer, rfl⟩ := List.exists_cons_of_ne_nil hopen
  induction h generalizing n outer rest with
  | nil => rfl
  | plain keyed filled more ih =>
    rw [List.append_assoc, List.append_assoc,
      skipGroups_of_content (by omega) (keyed.read _) (filled.skip _)]
    exact ih rest n outer hopen hroom
  | @group room number first inside last more opened filled closed _ ihInside ihMore =>
    have hinner : (number :: n :: outer).length + room ≤ depthLimit := by
      rw [List.length_cons]
      omega
    rw [List.append_assoc, List.append_assoc, List.append_assoc,
      skipGroups_of_startGroup (by omega) (opened.read _),
      ihInside _ number (n :: outer) (List.cons_ne_nil _ _) hinner, skipGroups_of_endGroup (closed.read _)]
    exact ihMore rest n outer hopen hroom

end Groups

theorem ContentForm.skipField (h : ContentForm wire content) (number : Nat) (rest : Bytes) :
    skipField number wire (content ++ rest) = .ok rest := by
  have hskip := h.skip rest
  cases h <;> exact hskip

/-- A field is passed over behind its key. -/
theorem FieldForm.skip (h : FieldForm number bytes) (rest : Bytes) :
    ∃ wire behind, readKey (bytes ++ rest) = .ok (number, wire, behind) ∧
      skipField number wire behind = .ok rest := by
  cases h with
  | plain keyed filled =>
    rw [List.append_assoc]
    exact ⟨_, _, keyed.read _, filled.skipField number rest⟩
  | group opened filled closed =>
    rw [List.append_assoc, List.append_assoc]
    refine ⟨_, _, opened.read _, ?_⟩
    rw [skipField, filled.skip (List.cons_ne_nil number []) (Nat.le_refl _),
      skipGroups_of_endGroup (closed.read rest), skipGroups]

end TypedBus.Protobuf
