namespace TypedBus

abbrev Bytes := List UInt8

namespace Bytes

/-- The low `width` bytes of a number, least significant first. -/
def ofNat : Nat → Nat → Bytes
  | 0, _ => []
  | width + 1, n => UInt8.ofNat n :: ofNat width (n / 256)

/-- The number that bytes spell, least significant first. -/
def toNat : Bytes → Nat
  | [] => 0
  | b :: rest => b.toNat + 256 * toNat rest

/-- How many numbers so many bytes can spell. -/
def limit : Nat → Nat
  | 0 => 1
  | width + 1 => 256 * limit width

/-- Cuts the first `n` bytes off, when there are that many. Nothing is copied where the cut is at the
end. -/
def split? : Nat → Bytes → Option (Bytes × Bytes)
  | 0, bytes => some ([], bytes)
  | n + 1, bytes =>
    match bytes.drop n with
    | [] => none
    | [_] => some (bytes, [])
    | _ :: rest => some (bytes.take (n + 1), rest)

@[simp] theorem length_ofNat (width n : Nat) : (ofNat width n).length = width := by
  induction width generalizing n with
  | zero => rfl
  | succ width ih => simp [ofNat, ih]

theorem toNat_lt (bytes : Bytes) : toNat bytes < limit bytes.length := by
  induction bytes with
  | nil => simp [toNat, limit]
  | cons b rest ih =>
    have hb : b.toNat < 256 := b.toNat_lt
    simp only [toNat, List.length_cons, limit]
    omega

theorem toNat_ofNat (width n : Nat) : toNat (ofNat width n) = n % limit width := by
  induction width generalizing n with
  | zero => simp [ofNat, toNat, limit, Nat.mod_one]
  | succ width ih =>
    have hb : (UInt8.ofNat n).toNat = n % 256 := UInt8.toNat_ofNat'
    rw [ofNat, toNat, ih, hb, limit, Nat.mod_mul]

theorem toNat_ofNat_of_lt {width n : Nat} (h : n < limit width) : toNat (ofNat width n) = n := by
  rw [toNat_ofNat, Nat.mod_eq_of_lt h]

theorem ofNat_toNat {width : Nat} {bytes : Bytes} (h : bytes.length = width) :
    ofNat width (toNat bytes) = bytes := by
  induction bytes generalizing width with
  | nil => subst h; rfl
  | cons b rest ih =>
    subst h
    have hb : b.toNat < 256 := b.toNat_lt
    have hdiv : (b.toNat + 256 * toNat rest) / 256 = toNat rest := by omega
    have hbyte : UInt8.ofNat (b.toNat + 256 * toNat rest) = b := by
      apply UInt8.toNat_inj.mp
      rw [UInt8.toNat_ofNat']
      omega
    simp only [toNat, List.length_cons, ofNat, hdiv, hbyte, ih rfl]

theorem split?_eq_none_iff {n : Nat} {bytes : Bytes} : split? n bytes = none ↔ bytes.length < n := by
  cases n with
  | zero => simp [split?]
  | succ n =>
    rw [Nat.lt_succ_iff, ← List.drop_eq_nil_iff, split?]
    split <;> simp_all

theorem split?_append {front rest : Bytes} {n : Nat} (h : front.length = n) :
    split? n (front ++ rest) = some (front, rest) := by
  cases n with
  | zero => simp_all [split?]
  | succ n =>
    obtain ⟨init, last, rfl⟩ : ∃ init last, front = init ++ [last] :=
      ⟨_, _, (List.dropLast_concat_getLast (by rintro rfl; simp at h)).symm⟩
    obtain rfl : init.length = n := by simpa using h
    rw [split?, List.append_assoc, List.singleton_append, List.drop_left]
    cases rest with
    | nil => rfl
    | cons b rest =>
      rw [show init ++ last :: b :: rest = init ++ [last] ++ b :: rest by simp, List.take_left' h]

theorem split?_eq_some_iff {n : Nat} {bytes front rest : Bytes} :
    split? n bytes = some (front, rest) ↔ bytes = front ++ rest ∧ front.length = n := by
  constructor
  · intro h
    have hn : n ≤ bytes.length := by
      rw [← Nat.not_lt, ← split?_eq_none_iff, h]
      exact Option.some_ne_none _
    have ht : (bytes.take n).length = n := by simp [hn]
    have hs : split? n (bytes.take n ++ bytes.drop n) = some (bytes.take n, bytes.drop n) :=
      split?_append ht
    rw [List.take_append_drop, h] at hs
    obtain ⟨rfl, rfl⟩ := by simpa using hs
    exact ⟨(List.take_append_drop n bytes).symm, ht⟩
  · rintro ⟨rfl, h⟩
    exact split?_append h

end Bytes

end TypedBus
