import Charting.Axis

namespace Charting

namespace Numeral

@[simp]
theorem length_padded (places n : Nat) : (padded places n).length = places := by
  induction places generalizing n with
  | zero => rfl
  | succ places ih =>
    unfold padded
    rw [List.length_append, ih, List.length_singleton]

theorem length_ofNat_mono {m n : Nat} (below : m ≤ n) : (ofNat m).length ≤ (ofNat n).length := by
  induction n using Nat.strongRecOn generalizing m with
  | ind n ih =>
    rw [ofNat.eq_def m, ofNat.eq_def n]
    by_cases short : m < 10
    · rw [if_pos short]
      split <;> simp
    · have fewer := ih (n / 10) (by omega) (Nat.div_le_div_right (c := 10) below)
      rw [if_neg short, if_neg (by omega), List.length_append, List.length_append]
      exact Nat.add_le_add_right fewer 1

end Numeral

namespace Axis

def sign (value : Int) : Nat :=
  if value < 0 then 1 else 0

def places (axis : Axis) : Nat :=
  (-axis.exponent).toNat

-- All that the text of a value has beside its sign and its whole part: the zeros behind it, or the separator and the
-- fraction.
def tail (axis : Axis) : Nat :=
  if 0 ≤ axis.exponent then axis.exponent.toNat else axis.places + 1

theorem length_ofInt (value : Int) :
    (Numeral.ofInt value).length = sign value + (Numeral.ofNat value.natAbs).length := by
  unfold Numeral.ofInt sign
  split
  · rw [List.length_cons, Nat.add_comm]
  · rw [Nat.zero_add]

theorem length_digits (axis : Axis) (separator : Char) (value : Int) :
    (axis.digits separator value).length =
      sign value + (Numeral.ofNat (value.natAbs / Nat.pow 10 axis.places)).length + axis.tail := by
  unfold digits tail
  by_cases up : 0 ≤ axis.exponent
  · have whole : axis.places = 0 := by
      unfold places
      omega
    rw [if_pos up, if_pos up, whole, List.length_append, length_ofInt, List.length_replicate]
    change _ = sign value + (Numeral.ofNat (value.natAbs / 1)).length + _
    rw [Nat.div_one]
  · have signs : (if value < 0 then ['-'] else []).length = sign value := by
      unfold sign
      split <;> rfl
    rw [if_neg up, if_neg up]
    unfold places
    simp only [List.length_append, List.length_cons, Numeral.length_padded, signs]

theorem length_digits_between (axis : Axis) (separator : Char) {low value high : Int} (above : low ≤ value)
    (below : value ≤ high) :
    (axis.digits separator value).length ≤
      max (axis.digits separator low).length (axis.digits separator high).length := by
  have shorter := fun {m n : Nat} (le : m ≤ n) =>
    Numeral.length_ofNat_mono (Nat.div_le_div_right (c := Nat.pow 10 axis.places) le)
  rw [length_digits, length_digits, length_digits]
  by_cases negative : value < 0
  · have towards := shorter (show value.natAbs ≤ low.natAbs by omega)
    have signs : sign value = sign low := by
      unfold sign
      rw [if_pos negative, if_pos (by omega)]
    exact Nat.le_trans (by omega) (Nat.le_max_left _ _)
  · have towards := shorter (show value.natAbs ≤ high.natAbs by omega)
    have signs : sign value = sign high := by
      unfold sign
      rw [if_neg negative, if_neg (by omega)]
    exact Nat.le_trans (by omega) (Nat.le_max_right _ _)

theorem displayed_mono (axis : Axis) {v w : Int} (le : v ≤ w) : axis.displayed v ≤ axis.displayed w := by
  unfold displayed saturate
  omega

theorem length_format_between (axis : Axis) (separator : Char) {low value high : Int} (above : low ≤ value)
    (below : value ≤ high) :
    (axis.format separator value).length ≤
      max (axis.format separator low).length (axis.format separator high).length := by
  unfold format
  rw [String.length_ofList, String.length_ofList, String.length_ofList]
  exact axis.length_digits_between separator (axis.displayed_mono above) (axis.displayed_mono below)

end Axis

end Charting
