import Charting.Proofs.CacheHistory
import Charting.Proofs.LabelLength
import Charting.Proofs.Ticks

namespace Charting

theorem takeWhile_range {f : Nat → Int} {last : Int} {count n : Nat} (within : ∀ k < count, f k ≤ last)
    (past : last < f count) (enough : count < n) :
    ((List.range n).map f).takeWhile (· ≤ last) = (List.range count).map f := by
  obtain ⟨more, rfl⟩ : ∃ more, n = count + (more + 1) := ⟨n - count - 1, by omega⟩
  have first : ∀ value ∈ (List.range count).map f, decide (value ≤ last) = true := by
    intro value member
    obtain ⟨k, counted, rfl⟩ := List.mem_map.mp member
    exact decide_eq_true (within k (List.mem_range.mp counted))
  rw [List.range_add, List.map_append, List.takeWhile_append_of_pos first, List.range_succ_eq_map]
  simp [past]

variable {α : Type}

namespace GridAxis

variable {a : GridAxis α}

def candidate (a : GridAxis α) (k : Nat) : Int :=
  a.firstTick + k * a.delta

theorem Stepped.ticks_eq (stepped : a.Stepped) :
    ∃ count, a.ticks = (List.range count).map a.candidate ∧ a.lastTick < a.candidate count := by
  have positive := stepped.positive
  unfold ticks candidate
  split
  · refine ⟨0, rfl, ?_⟩
    simpa using ‹a.lastTick < a.firstTick›
  · refine ⟨((a.lastTick - a.firstTick) / a.delta + 1).toNat, rfl, ?_⟩
    have whole : 0 ≤ (a.lastTick - a.firstTick) / a.delta := Int.ediv_nonneg (by omega) (by omega)
    have past := Int.lt_ediv_add_one_mul_self (a.lastTick - a.firstTick) (show 0 < a.delta by omega)
    rw [Int.toNat_of_nonneg (by omega)]
    omega

-- The gridlines of an axis, with values shown as a chart axis says. Going up from the first candidate one by one comes
-- to an end, and passes just those values of the axis that are shown as multiples of the step.
structure Ruled (axis : Axis) (a : GridAxis α) : Prop extends Stepped a where
  base : a.delta ∣ a.base + axis.offset.toInt
  ends : ∃ count, ∀ n, count < n → ((List.range n).map a.candidate).takeWhile (· ≤ a.lastTick) = a.ticks
  ascending : a.ticks.Pairwise (· < ·)
  multiples : ∀ value, value ∈ a.ticks ↔ a.min ≤ value ∧ value ≤ a.lastTick ∧ a.delta ∣ value + axis.offset.toInt

theorem Stepped.ruled (stepped : a.Stepped) {axis : Axis} (base : a.delta ∣ a.base + axis.offset.toInt) :
    a.Ruled axis where
  toStepped := stepped
  base := base
  ends := by
    obtain ⟨count, ticks, past⟩ := stepped.ticks_eq
    refine ⟨count, fun n enough => ?_⟩
    rw [ticks]
    refine takeWhile_range ?_ past enough
    intro k counted
    have tick : a.candidate k ∈ a.ticks := by
      rw [ticks]
      exact List.mem_map_of_mem (List.mem_range.mpr counted)
    exact (stepped.mem_ticks.mp tick).2.1
  ascending := by
    have positive := stepped.positive
    apply stepped.ticks_apart.imp
    intro low high apart
    omega
  multiples := by
    intro value
    have shown : a.delta ∣ value - a.base ↔ a.delta ∣ value + axis.offset.toInt := by
      rw [show value + axis.offset.toInt = value - a.base + (a.base + axis.offset.toInt) by omega]
      exact (Int.dvd_add_left base).symm
    rw [stepped.mem_ticks, shown]

def last (a : GridAxis α) : Int :=
  match a.kind with
  | .category => Max.max (a.max - 1) a.min
  | _ => a.max

def LongestAtEnds [Scalar α] (v : View α) (a : GridAxis α) : Prop :=
  ∀ value ∈ a.ticks, (v.format a.selector value).length ≤
    Max.max (v.format a.selector a.min).length (v.format a.selector a.last).length

end GridAxis

namespace Grid

variable {M : Type} [Scalar α] [TextMeasurer α M]

omit [TextMeasurer α M] in
theorem axisBetween_ruled {v : View α} {side : GridSide} (sound : side.Sound v) (orientation : Orientation)
    {delta : Int} (positive : 1 ≤ delta) (start stop : α) :
    (axisBetween v side orientation delta start stop).Ruled (v.axis side.selector) := by
  refine (axisBetween_stepped sound orientation positive start stop).ruled ?_
  change delta ∣ baseValue (v.axis side.selector) side.range.min delta + _
  unfold baseValue
  rw [Int.sub_add_cancel]
  exact Int.dvd_mul_left _ _

-- The step is positive, whatever numbers it is found from. On both axes, the values with a gridline are just those that
-- are shown as multiples of it. Each has a label, on the horizontal axis and then on the vertical one.
theorem layOut_gridlines (v : View α) (kind : Kind) (m : M) :
    let g := (layOut v kind m).1
    (∀ span labelExtent pixels : α, 1 ≤ step span labelExtent pixels) ∧
      (g.horizontal.selector, g.vertical.selector) =
        (if kind.isSwapped then (.secondary, .primary) else (.primary, .secondary)) ∧
      g.horizontal.Ruled (v.axis g.horizontal.selector) ∧ g.vertical.Ruled (v.axis g.vertical.selector) ∧
      g.labels.map GridLabel.text =
        g.horizontal.ticks.map (v.format g.horizontal.selector) ++
          g.vertical.ticks.map (v.format g.vertical.selector) := by
  intro g
  have sound := GridSides.ofView_sound v kind
  refine ⟨one_le_step, ?_, axisBetween_ruled sound.1 _ (one_le_step _ _ _) _ _, ?_, ?_⟩
  · cases kind <;> rfl
  · cases kind <;> exact axisBetween_ruled sound.2 _ (one_le_step _ _ _) _ _
  · change List.map _ (horizontalLabels v g.horizontal g.core ++ verticalLabels v g.vertical g.core) = _
    unfold horizontalLabels verticalLabels
    simp [Function.comp_def]

omit [TextMeasurer α M] in
theorem axisBetween_longest {v : View α} {side : GridSide} (sound : side.Sound v) (orientation : Orientation)
    {delta : Int} (positive : 1 ≤ delta) (start stop : α) :
    (axisBetween v side orientation delta start stop).LongestAtEnds v := by
  intro value tick
  have between := ticks_between sound positive tick
  exact (v.axis side.selector).length_format_between v.config.separator between.1 between.2

def endQuestions (v : View α) (a : GridAxis α) : List (TextQuestion α) :=
  [a.min, a.last].map fun value => .measure (v.format a.selector value) v.config.textStyle

theorem measureSide_calls (v : View α) (side : GridSide) (leastChars : α) (r : Recorded α M) :
    (LabelExtents.measureSide v side leastChars r).2.calls =
      r.calls ++ [side.range.min, side.range.last].map fun value =>
        .measure (v.format side.selector value) v.config.textStyle := by
  change (r.calls ++ [_]) ++ [_] = _
  rw [List.append_assoc]
  rfl

-- Four texts are measured, those of the two ends of each axis. No label of an axis has more characters than the longer
-- one of its two, however values are shifted and scaled and whatever separates their places.
theorem layOut_longest_labels (v : View α) (kind : Kind) (m : M) :
    let g := (layOut v kind m).1
    g.horizontal.LongestAtEnds v ∧ g.vertical.LongestAtEnds v ∧
      (layOut v kind (Recorded.mk m [])).2.calls = endQuestions v g.horizontal ++ endQuestions v g.vertical := by
  intro g
  have sound := GridSides.ofView_sound v kind
  refine ⟨axisBetween_longest sound.1 _ (one_le_step _ _ _) _ _, ?_, ?_⟩
  · cases kind <;> exact axisBetween_longest sound.2 _ (one_le_step _ _ _) _ _
  · change (LabelExtents.measureSide v _ 6 (LabelExtents.measureSide v _ 3 (Recorded.mk m [])).2).2.calls = _
    rw [measureSide_calls, measureSide_calls]
    cases kind <;> rfl

end Grid

end Charting
