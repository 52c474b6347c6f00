import Charting.Grid
import Charting.Proofs.AxisRanges

namespace Charting

theorem Axis.displayed_of_fits {axis : Axis} {value : Int} (fits : axis.Fits value) :
    axis.displayed value = value + axis.offset.toInt := by
  unfold Fits Nice.lowest Nice.highest at fits
  unfold displayed saturate
  omega

namespace AxisRange

-- There is something between the ends of a range, and what is shown of its least value has 32 bits.
structure Sound (axis : Axis) (r : AxisRange) : Prop where
  ordered : r.min < r.max
  shown : axis.Fits r.min

theorem Sound.min_le_last {axis : Axis} {r : AxisRange} (sound : r.Sound axis) : r.min ≤ r.last := by
  have ordered := sound.ordered
  unfold last
  split <;> omega

theorem continuous_sound (axis : Axis) (values : List Int) : Sound axis (continuous axis values) := by
  have low := Nice.roundWide_down_between (least values + axis.offset.toInt)
  have bounds : Nice.top ≤ Nice.highest := by decide
  constructor
  · unfold continuous
    dsimp only
    split <;> omega
  · rw [continuous_eq]
    unfold Axis.Fits
    dsimp only
    omega

theorem discrete_sound (axis : Axis) (count : Nat) : Sound axis (discrete count) := by
  refine ⟨?_, axis.fits_zero⟩
  unfold discrete
  dsimp only
  omega

theorem category_sound (axis : Axis) (count : Nat) : Sound axis (category count) := by
  refine ⟨?_, axis.fits_zero⟩
  unfold category
  dsimp only
  omega

theorem ofValues_sound (kind : Kind) (primary secondary : Axis) (v : Values) :
    Sound primary (ofValues kind primary secondary v).1 ∧ Sound secondary (ofValues kind primary secondary v).2 := by
  cases kind with
  | scatter => exact ⟨continuous_sound primary _, continuous_sound secondary _⟩
  | column stacked | bar stacked => exact ⟨category_sound primary _, continuous_sound secondary _⟩
  | pie | line stacked | area stacked => exact ⟨discrete_sound primary _, continuous_sound secondary _⟩

end AxisRange

variable {α : Type}

def GridSide.Sound (v : View α) (side : GridSide) : Prop :=
  side.range.Sound (v.axis side.selector)

theorem GridSides.ofView_sound (v : View α) (kind : Kind) :
    (GridSides.ofView v kind).horizontal.Sound v ∧ (GridSides.ofView v kind).vertical.Sound v := by
  have sound := AxisRange.ofValues_sound kind v.primary v.secondary v.values
  cases kind with
  | bar stacked => exact ⟨sound.2, sound.1⟩
  | pie | scatter | line stacked | area stacked | column stacked => exact sound

namespace GridAxis

variable {a : GridAxis α} {value : Int}

-- Steps go up, and the base is the last whole step that is not above the least value.
structure Stepped (a : GridAxis α) : Prop where
  positive : 1 ≤ a.delta
  base_le : a.base ≤ a.min
  min_lt : a.min < a.base + a.delta

theorem Stepped.firstTick (stepped : a.Stepped) :
    a.min ≤ a.firstTick ∧ a.firstTick < a.min + a.delta ∧ a.delta ∣ a.firstTick - a.base := by
  have positive := stepped.positive
  have low := stepped.base_le
  have high := stepped.min_lt
  unfold GridAxis.firstTick
  split
  · refine ⟨by omega, by omega, 1, by omega⟩
  · refine ⟨by omega, by omega, 0, by omega⟩

theorem Stepped.mem_ticks (stepped : a.Stepped) :
    value ∈ a.ticks ↔ a.min ≤ value ∧ value ≤ a.lastTick ∧ a.delta ∣ value - a.base := by
  have positive := stepped.positive
  obtain ⟨low, near, whole⟩ := stepped.firstTick
  unfold ticks
  constructor
  · intro member
    split at member
    · cases member
    · obtain ⟨k, counted, rfl⟩ := List.mem_map.mp member
      rw [List.mem_range] at counted
      have fits : (k : Int) * a.delta ≤ a.lastTick - a.firstTick :=
        calc (k : Int) * a.delta
          _ ≤ (a.lastTick - a.firstTick) / a.delta * a.delta := Int.mul_le_mul_of_nonneg_right (by omega) (by omega)
          _ ≤ a.lastTick - a.firstTick := Int.ediv_mul_le _ (by omega)
      have forward : 0 ≤ (k : Int) * a.delta := Int.mul_nonneg (by omega) (by omega)
      refine ⟨by omega, by omega, ?_⟩
      rw [show a.firstTick + k * a.delta - a.base = a.firstTick - a.base + k * a.delta by omega]
      exact Int.dvd_add whole (Int.dvd_mul_left _ _)
  · rintro ⟨above, below, steps⟩
    have between : a.delta ∣ value - a.firstTick := by
      rw [show value - a.firstTick = value - a.base - (a.firstTick - a.base) by omega]
      exact Int.dvd_sub steps whole
    obtain ⟨k, distance⟩ := between
    -- The first tick is less than a step above the least value, so no whole step leads back below it.
    have forward : 0 ≤ k := by
      apply Int.not_lt.mp
      intro backward
      have back : a.delta * k ≤ a.delta * -1 := Int.mul_le_mul_of_nonneg_left (by omega) (by omega)
      omega
    have steps : 0 ≤ a.delta * k := Int.mul_nonneg (by omega) forward
    rw [if_neg (by omega)]
    apply List.mem_map.mpr
    refine ⟨k.toNat, List.mem_range.mpr ?_, ?_⟩
    · have reached : k ≤ (a.lastTick - a.firstTick) / a.delta := by
        apply (Int.le_ediv_iff_mul_le (by omega)).mpr
        rw [Int.mul_comm]
        omega
      omega
    · rw [Int.toNat_of_nonneg forward, Int.mul_comm]
      omega

theorem Stepped.ticks_apart (stepped : a.Stepped) : a.ticks.Pairwise fun v w => v + a.delta ≤ w := by
  have positive := stepped.positive
  unfold ticks
  split
  · exact .nil
  · apply List.pairwise_map.mpr
    apply List.pairwise_lt_range.imp
    intro i k before
    have next : ((i : Int) + 1) * a.delta ≤ k * a.delta := Int.mul_le_mul_of_nonneg_right (by omega) (by omega)
    rw [Int.add_mul, Int.one_mul] at next
    omega

end GridAxis

namespace Grid

variable [Scalar α]

theorem axisBetween_stepped {v : View α} {side : GridSide} (sound : side.Sound v) (orientation : Orientation)
    {delta : Int} (positive : 1 ≤ delta) (start stop : α) :
    (axisBetween v side orientation delta start stop).Stepped := by
  have shown := Axis.displayed_of_fits sound.shown
  have below := Int.ediv_mul_le (side.range.min + (v.axis side.selector).offset.toInt) (show delta ≠ 0 by omega)
  have above := Int.lt_ediv_add_one_mul_self (side.range.min + (v.axis side.selector).offset.toInt)
    (show 0 < delta by omega)
  rw [Int.add_mul, Int.one_mul] at above
  have base : baseValue (v.axis side.selector) side.range.min delta =
      (side.range.min + (v.axis side.selector).offset.toInt) / delta * delta - (v.axis side.selector).offset.toInt := by
    unfold baseValue
    rw [shown, Int.fdiv_eq_ediv_of_nonneg _ (by omega)]
  refine ⟨positive, ?_, ?_⟩
  · change baseValue _ _ _ ≤ side.range.min
    omega
  · change side.range.min < baseValue _ _ _ + delta
    omega

theorem ticks_between {v : View α} {side : GridSide} (sound : side.Sound v) {orientation : Orientation} {delta : Int}
    (positive : 1 ≤ delta) {start stop : α} {value : Int}
    (tick : value ∈ (axisBetween v side orientation delta start stop).ticks) :
    side.range.min ≤ value ∧ value ≤ side.range.last := by
  obtain ⟨above, below, _⟩ := (axisBetween_stepped sound orientation positive start stop).mem_ticks.mp tick
  refine ⟨above, below.trans ?_⟩
  unfold GridAxis.lastTick AxisRange.last axisBetween
  dsimp only
  split <;> omega

theorem one_le_step (span labelExtent pixels : α) : 1 ≤ step span labelExtent pixels :=
  Int.le_max_right _ _

end Grid

end Charting
