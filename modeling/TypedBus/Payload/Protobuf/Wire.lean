import TypedBus.Bytes

namespace TypedBus.Protobuf

/-- How the content of a field is written. -/
inductive WireType
  | varint
  | fixed64
  | lengthDelimited
  | startGroup
  | endGroup
  | fixed32
deriving DecidableEq, Repr

namespace WireType

def number : WireType → Nat
  | varint => 0
  | fixed64 => 1
  | lengthDelimited => 2
  | startGroup => 3
  | endGroup => 4
  | fixed32 => 5

def ofNumber? : Nat → Option WireType
  | 0 => some varint
  | 1 => some fixed64
  | 2 => some lengthDelimited
  | 3 => some startGroup
  | 4 => some endGroup
  | 5 => some fixed32
  | _ => none

def name : WireType → String
  | varint => "Varint"
  | fixed64 => "SixtyFourBit"
  | lengthDelimited => "LengthDelimited"
  | startGroup => "StartGroup"
  | endGroup => "EndGroup"
  | fixed32 => "ThirtyTwoBit"

theorem ofNumber?_number (w : WireType) : ofNumber? w.number = some w := by cases w <;> rfl

end WireType

inductive Fault
  | invalidVarint
  | invalidKey (key : Nat)
  | invalidWireType (found : Nat)
  | zeroNumber
  | underflow
  | unexpectedWireType (found : WireType)
  | invalidText
  | unexpectedEndGroup
  | tooDeep
deriving DecidableEq, Repr

def Fault.message : Fault → String
  | invalidVarint => "invalid varint"
  | invalidKey key => s!"invalid key value: {key}"
  | invalidWireType found => s!"invalid wire type value: {found}"
  | zeroNumber => "invalid tag value: 0"
  | underflow => "buffer underflow"
  | unexpectedWireType found => s!"invalid wire type: {found.name} (expected LengthDelimited)"
  | invalidText => "invalid string value: data is not UTF-8 encoded"
  | unexpectedEndGroup => "unexpected end group tag"
  | tooDeep => "recursion limit reached"

/-- Seven bits a byte, lowest first; every byte but the last has its high bit set. -/
def varint (n : Nat) : Bytes :=
  if n < 128 then [UInt8.ofNat n] else UInt8.ofNat (n % 128 + 128) :: varint (n / 128)
termination_by n
decreasing_by omega

/-- A number of at most `width` bytes, of which the last possible one is zero or one. -/
def readVarintIn : Nat → Bytes → Option (Nat × Bytes)
  | 0, _ => none
  | _, [] => none
  | 1, b :: rest => if b ≤ 1 then some (b.toNat, rest) else none
  | width + 2, b :: rest =>
    if b < 128 then some (b.toNat, rest)
    else match readVarintIn (width + 1) rest with
      | some (n, rest) => some (b.toNat - 128 + 128 * n, rest)
      | none => none

/-- A number of at most 64 bits. -/
def readVarint (input : Bytes) : Except Fault (Nat × Bytes) :=
  match readVarintIn 10 input with
  | some taken => .ok taken
  | none => .error .invalidVarint

def keyLimit : Nat := UInt32.size - 1

def keyBytes (number : Nat) (wire : WireType) : Bytes := varint (8 * number + wire.number)

/-- The number of a field and how its content is written. -/
def readKey (input : Bytes) : Except Fault (Nat × WireType × Bytes) :=
  match readVarint input with
  | .error e => .error e
  | .ok (key, rest) =>
    if key > keyLimit then .error (.invalidKey key)
    else match WireType.ofNumber? (key % 8) with
      | none => .error (.invalidWireType (key % 8))
      | some wire => if key / 8 = 0 then .error .zeroNumber else .ok (key / 8, wire, rest)

def take (n : Nat) (input : Bytes) : Except Fault (Bytes × Bytes) :=
  match Bytes.split? n input with
  | some taken => .ok taken
  | none => .error .underflow

def readDelimited (input : Bytes) : Except Fault (Bytes × Bytes) :=
  match readVarint input with
  | .error e => .error e
  | .ok (size, rest) => take size rest

/-- Passes over the content of a field that is no group. -/
def skipContent (wire : WireType) (input : Bytes) : Except Fault Bytes :=
  match wire with
  | .varint => (readVarint input).map (·.2)
  | .fixed64 => (take 8 input).map (·.2)
  | .fixed32 => (take 4 input).map (·.2)
  | .lengthDelimited => (readDelimited input).map (·.2)
  | .startGroup | .endGroup => .error .unexpectedEndGroup

/-- How many groups may enclose a field, less one. -/
def depthLimit : Nat := 100

theorem length_readVarintIn_lt {width n : Nat} {input rest : Bytes}
    (h : readVarintIn width input = some (n, rest)) : rest.length < input.length := by
  fun_induction readVarintIn width input generalizing n rest with
  | case1 => simp at h
  | case2 => simp at h
  | case3 b tail hb =>
    simp only [Option.some.injEq, Prod.mk.injEq] at h
    simp [← h.2]
  | case4 => simp at h
  | case5 width b tail hb =>
    simp only [Option.some.injEq, Prod.mk.injEq] at h
    simp [← h.2]
  | case6 width b tail hb m tail' hm ih =>
    simp only [Option.some.injEq, Prod.mk.injEq] at h
    have := ih hm
    simp only [List.length_cons, ← h.2]
    omega
  | case7 => simp at h

theorem length_readVarint_lt {n : Nat} {input rest : Bytes} (h : readVarint input = .ok (n, rest)) :
    rest.length < input.length := by
  simp only [readVarint] at h
  split at h
  · rename_i hv
    cases h
    exact length_readVarintIn_lt hv
  · simp at h

theorem length_readKey_lt {number : Nat} {wire : WireType} {input rest : Bytes}
    (h : readKey input = .ok (number, wire, rest)) : rest.length < input.length := by
  simp only [readKey] at h
  split at h
  · simp at h
  · rename_i key tail hv
    have := length_readVarint_lt hv
    split at h
    · simp at h
    · split at h
      · simp at h
      · split at h
        · simp at h
        · simp only [Except.ok.injEq, Prod.mk.injEq] at h
          rw [← h.2.2]
          exact this

theorem length_take_le {n : Nat} {input front rest : Bytes} (h : take n input = .ok (front, rest)) :
    rest.length ≤ input.length := by
  simp only [take] at h
  split at h
  · rename_i hs
    cases h
    obtain ⟨rfl, _⟩ := Bytes.split?_eq_some_iff.mp hs
    simp
  · simp at h

theorem length_readDelimited_le {input content rest : Bytes}
    (h : readDelimited input = .ok (content, rest)) : rest.length ≤ input.length := by
  simp only [readDelimited] at h
  split at h
  · simp at h
  · rename_i hv
    have h1 := length_readVarint_lt hv
    have h2 := length_take_le h
    omega

theorem length_skipContent_le {wire : WireType} {input rest : Bytes}
    (h : skipContent wire input = .ok rest) : rest.length ≤ input.length := by
  have snd {α : Type} {e : Except Fault (α × Bytes)} (h : e.map (·.2) = .ok rest) :
      ∃ a, e = .ok (a, rest) := by
    cases e with
    | error e => simp [Except.map] at h
    | ok p => simp only [Except.map, Except.ok.injEq] at h; exact ⟨p.1, by rw [← h]⟩
  cases wire <;> simp only [skipContent] at h
  · obtain ⟨n, h⟩ := snd h
    exact Nat.le_of_lt (length_readVarint_lt h)
  · obtain ⟨n, h⟩ := snd h
    exact length_take_le h
  · obtain ⟨n, h⟩ := snd h
    exact length_readDelimited_le h
  · simp at h
  · simp at h
  · obtain ⟨n, h⟩ := snd h
    exact length_take_le h

/-- Passes over what is left of the groups that are open, innermost first. -/
def skipGroups (opened : List Nat) (input : Bytes) : Except Fault Bytes :=
  match opened with
  | [] => .ok input
  | number :: outer =>
    match _hk : readKey input with
    | .error e => .error e
    | .ok (n, .endGroup, rest) =>
      if n = number then skipGroups outer rest else .error .unexpectedEndGroup
    | .ok (n, .startGroup, rest) =>
      if opened.length ≥ depthLimit then .error .tooDeep else skipGroups (n :: opened) rest
    | .ok (_, wire, rest) =>
      if opened.length ≥ depthLimit then .error .tooDeep
      else match _hs : skipContent wire rest with
        | .error e => .error e
        | .ok rest => skipGroups opened rest
termination_by input.length
decreasing_by
  · exact length_readKey_lt _hk
  · exact length_readKey_lt _hk
  · exact Nat.lt_of_le_of_lt (length_skipContent_le _hs) (length_readKey_lt _hk)

/-- Passes over the content of a field. -/
def skipField (number : Nat) (wire : WireType) (input : Bytes) : Except Fault Bytes :=
  match wire with
  | .startGroup => skipGroups [number] input
  | wire => skipContent wire input

theorem length_skipGroups_le {opened : List Nat} {input rest : Bytes}
    (h : skipGroups opened input = .ok rest) : rest.length ≤ input.length := by
  induction hn : input.length using Nat.strongRecOn generalizing opened input with
  | ind n ih =>
    subst hn
    cases opened with
    | nil =>
      rw [skipGroups] at h
      cases h
      exact Nat.le_refl _
    | cons number outer =>
      rw [skipGroups] at h
      split at h
      · simp at h
      · rename_i m tail hk
        have hlt := length_readKey_lt hk
        split at h
        · exact Nat.le_trans (ih _ hlt h rfl) (Nat.le_of_lt hlt)
        · simp at h
      · rename_i m tail hk
        have hlt := length_readKey_lt hk
        split at h
        · simp at h
        · exact Nat.le_trans (ih _ hlt h rfl) (Nat.le_of_lt hlt)
      · rename_i m wire tail _ _ hk
        have hlt := length_readKey_lt hk
        split at h
        · simp at h
        · split at h
          · simp at h
          · rename_i after hs
            have hle := length_skipContent_le hs
            have := ih _ (Nat.lt_of_le_of_lt hle hlt) h rfl
            omega

theorem length_skipField_le {number : Nat} {wire : WireType} {input rest : Bytes}
    (h : skipField number wire input = .ok rest) : rest.length ≤ input.length := by
  cases wire <;> simp only [skipField] at h <;>
    first | exact length_skipGroups_le h | exact length_skipContent_le h

end TypedBus.Protobuf
