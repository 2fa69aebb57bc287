namespace TypedBus.Text

/-- The number that digits continue, the one that weighs most first. -/
def valueFrom (base : Nat) (n : Nat) (digits : List Nat) : Nat :=
  digits.foldl (fun n d => base * n + d) n

def value (base : Nat) (digits : List Nat) : Nat := valueFrom base 0 digits

/-- The number that digits continue if it is less than the limit. As soon as the limit is reached
the other digits do not count. -/
def valueBelowFrom? (base limit : Nat) : Nat → List Nat → Option Nat
  | n, [] => if n < limit then some n else none
  | n, d :: digits => if n < limit then valueBelowFrom? base limit (base * n + d) digits else none

def valueBelow? (base limit : Nat) (digits : List Nat) : Option Nat :=
  valueBelowFrom? base limit 0 digits

theorem le_valueFrom {base : Nat} (hb : 0 < base) (n : Nat) (digits : List Nat) :
    n ≤ valueFrom base n digits := by
  induction digits generalizing n with
  | nil => exact Nat.le_refl n
  | cons d digits ih =>
    have step : n ≤ base * n + d := Nat.le_trans (Nat.le_mul_of_pos_left n hb) (Nat.le_add_right _ d)
    exact Nat.le_trans step (ih (base * n + d))

theorem valueBelowFrom?_eq {base : Nat} (hb : 0 < base) (limit n : Nat) (digits : List Nat) :
    valueBelowFrom? base limit n digits =
      if valueFrom base n digits < limit then some (valueFrom base n digits) else none := by
  induction digits generalizing n with
  | nil => rfl
  | cons d digits ih =>
    by_cases h : n < limit
    · simp only [valueBelowFrom?, h, if_true, ih]
      rfl
    · have hl : ¬ valueFrom base n (d :: digits) < limit := fun hv =>
        h (Nat.lt_of_le_of_lt (le_valueFrom hb n (d :: digits)) hv)
      simp only [valueBelowFrom?, h, if_false, hl]

theorem valueBelow?_eq {base : Nat} (hb : 0 < base) (limit : Nat) (digits : List Nat) :
    valueBelow? base limit digits =
      if value base digits < limit then some (value base digits) else none :=
  valueBelowFrom?_eq hb limit 0 digits

end TypedBus.Text
