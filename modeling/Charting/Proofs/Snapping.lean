import Charting.Proofs.Ticks
import Charting.Scalar.Exact
import Mathlib.Data.Rat.Floor
import Mathlib.Tactic.FieldSimp
import Mathlib.Tactic.Linarith
import Mathlib.Tactic.NormNum

namespace Charting

namespace Exact

theorem truncate_intCast (n : Int) : truncate n = n := by
  unfold truncate
  split
  · rw [← Int.cast_neg, Rat.floor_intCast, Int.neg_neg]
  · rw [Rat.floor_intCast]

theorem round_near (q : Rat) : q - 1 / 2 ≤ round q ∧ round q ≤ q + 1 / 2 := by
  unfold round
  split
  · have below := Rat.floor_le (-q + 1 / 2)
    have above := Rat.lt_floor_add_one (-q + 1 / 2)
    push_cast at above ⊢
    constructor <;> linarith
  · have below := Rat.floor_le (q + 1 / 2)
    have above := Rat.lt_floor_add_one (q + 1 / 2)
    push_cast at above
    constructor <;> linarith

end Exact

theorem Scalar.max_exact (a b : Rat) : Scalar.max a b = Max.max a b := by
  unfold Scalar.max
  by_cases less : a < b
  · rw [if_pos less]
    exact (max_eq_right less.le).symm
  · rw [if_neg less, if_pos (le_refl a)]
    exact (max_eq_left (not_lt.mp less)).symm

theorem Scalar.oneAndHalf_exact : @OfScientific.ofScientific Rat Scalar.instOfScientific 15 true 1 = 3 / 2 := by
  change ((15 : Int) : Rat) / ((10 : Int) : Rat) = 3 / 2
  norm_num

theorem Scale.interpolate_exact {baseStart baseEnd : Rat} (apart : baseStart ≠ baseEnd) (start stop x : Rat) :
    interpolate baseStart baseEnd start stop x = start + (x - baseStart) / (baseEnd - baseStart) * (stop - start) := by
  have length : ¬(baseEnd - baseStart ≤ 0 ∧ 0 ≤ baseEnd - baseStart) := by
    rintro ⟨below, above⟩
    exact apart (by linarith)
  change (if decide (baseEnd - baseStart ≤ 0) && decide (0 ≤ baseEnd - baseStart) then _ else _) = _
  rw [← Bool.decide_and, decide_eq_false length]
  rfl

theorem Scale.map_exact {s : Scale Rat} (room : s.domainStart < s.domainEnd) (value : Rat) :
    s.map value =
      s.rangeStart + (value - s.domainStart) / (s.domainEnd - s.domainStart) * (s.rangeEnd - s.rangeStart) :=
  interpolate_exact room.ne _ _ value

theorem Scale.map_sub {s : Scale Rat} (room : s.domainStart < s.domainEnd) (low high : Rat) :
    s.map high - s.map low = (high - low) / (s.domainEnd - s.domainStart) * (s.rangeEnd - s.rangeStart) := by
  rw [map_exact room, map_exact room]
  ring

namespace Grid

def leastStep (span labelExtent pixels : Rat) : Int :=
  ⌈span * labelExtent / pixels⌉

theorem step_exact {span labelExtent pixels : Rat} (room : 1 ≤ pixels) :
    step span labelExtent pixels = Max.max (Nice.roundWide .up (leastStep span labelExtent pixels)) 1 := by
  have ceil : (span * labelExtent / pixels).ceil = leastStep span labelExtent pixels := by
    rw [Rat.ceil_eq_neg_floor_neg]
    rfl
  change Max.max (Nice.roundWide .up (Exact.truncate ((span * labelExtent / Scalar.max pixels 1).ceil : Int))) 1 = _
  rw [Exact.truncate_intCast, Scalar.max_exact, ← ceil, max_eq_left room]

theorem labelExtent_le_step {span labelExtent pixels : Rat} (spread : 0 < span) (room : 1 ≤ pixels)
    (fits : leastStep span labelExtent pixels ≤ Nice.highest) :
    labelExtent ≤ pixels * step span labelExtent pixels / span := by
  have needed : span * labelExtent / pixels ≤ leastStep span labelExtent pixels := Int.le_ceil _
  have taken : leastStep span labelExtent pixels ≤ step span labelExtent pixels := by
    rw [step_exact room]
    exact (Nice.roundWide_up fits).trans (Int.le_max_left _ _)
  rw [div_le_iff₀ (by linarith)] at needed
  rw [le_div_iff₀ spread]
  calc labelExtent * span
    _ = span * labelExtent := mul_comm _ _
    _ ≤ leastStep span labelExtent pixels * pixels := needed
    _ ≤ step span labelExtent pixels * pixels := mul_le_mul_of_nonneg_right (Int.cast_le.mpr taken) (by linarith)
    _ = pixels * step span labelExtent pixels := mul_comm _ _

def wholePixels (extent span : Rat) (delta : Int) : Int :=
  ⌊extent * delta / span⌋

theorem labelExtent_lt_wholePixels {span labelExtent pixels : Rat} (spread : 0 < span) (room : 1 ≤ pixels)
    (fits : leastStep span labelExtent pixels ≤ Nice.highest) :
    labelExtent < wholePixels pixels span (step span labelExtent pixels) + 1 :=
  (labelExtent_le_step spread room fits).trans_lt (Int.lt_floor_add_one _)

theorem one_le_wholePixels {span labelExtent pixels : Rat} (spread : 0 < span) (room : 1 ≤ pixels)
    (fits : leastStep span labelExtent pixels ≤ Nice.highest) (wide : 1 ≤ labelExtent) :
    1 ≤ wholePixels pixels span (step span labelExtent pixels) := by
  apply Int.le_floor.mpr
  rw [Int.cast_one]
  exact wide.trans (labelExtent_le_step spread room fits)

-- What is left of an extent after snapping: no more than there was, and a step has a whole number of pixels.
structure Snapped (extent span : Rat) (delta : Int) (snapped : Rat) : Prop where
  positive : 1 ≤ wholePixels extent span delta
  pixels : snapped * delta = span * wholePixels extent span delta
  narrower : snapped ≤ extent

variable {extent span : Rat} {delta : Int}

theorem Snapped.pos {snapped : Rat} (cut : Snapped extent span delta snapped) (spread : 0 < span)
    (positive : 1 ≤ delta) : 0 < snapped := by
  have step : (0 : Rat) < delta := Int.cast_pos.mpr (by omega)
  have whole : (0 : Rat) < wholePixels extent span delta := Int.cast_pos.mpr cut.positive
  apply pos_of_mul_pos_left _ step.le
  rw [cut.pixels]
  exact mul_pos spread whole

theorem snappedExtent_cases (room : 0 < extent) (spread : 0 < span) (positive : 1 ≤ delta) :
    (wholePixels extent span delta < 1 ∧ snappedExtent extent span delta = none) ∨
      ∃ snapped, Snapped extent span delta snapped ∧ snappedExtent extent span delta = some snapped := by
  have step : (0 : Rat) < delta := Int.cast_pos.mpr (by omega)
  have below : (wholePixels extent span delta : Rat) ≤ extent * delta / span := Int.floor_le _
  have reading : snappedExtent extent span delta =
      if 1 ≤ wholePixels extent span delta
      then some (extent / (extent * delta / span) * wholePixels extent span delta) else none := by
    change (if ((1 : Int) : Rat) ≤ ((extent * delta / span).floor : Int) then _ else _) = _
    simp only [Int.cast_le]
    rfl
  rw [reading]
  by_cases whole : 1 ≤ wholePixels extent span delta
  · right
    rw [if_pos whole]
    refine ⟨_, ⟨whole, ?_, ?_⟩, rfl⟩
    · field_simp
    · rw [le_div_iff₀ spread] at below
      calc extent / (extent * delta / span) * wholePixels extent span delta
        _ = wholePixels extent span delta * span / delta := by field_simp
        _ ≤ extent := (div_le_iff₀ step).mpr below
  · left
    rw [if_neg whole]
    exact ⟨by omega, rfl⟩

theorem snapHorizontal_cases {core : Rect Rat} (room : 0 < core.width) (spread : 0 < span) (positive : 1 ≤ delta) :
    (wholePixels core.width span delta < 1 ∧ snapHorizontal core span delta = core) ∨
      ∃ (left : Int) (width : Rat), Snapped core.width span delta width ∧ core.x0 - 1 / 2 ≤ left ∧
        snapHorizontal core span delta = { core with x0 := left, x1 := left + width } := by
  rcases snappedExtent_cases room spread positive with ⟨small, kept⟩ | ⟨width, snapped, cut⟩
  · left
    refine ⟨small, ?_⟩
    unfold snapHorizontal
    rw [kept]
  · right
    refine ⟨Exact.round (core.x0 + (core.width - width) / 2), width, snapped, ?_, ?_⟩
    · have near := (Exact.round_near (core.x0 + (core.width - width) / 2)).1
      have narrower := snapped.narrower
      linarith
    · unfold snapHorizontal
      rw [cut]
      rfl

theorem sub_half_le_snapHorizontal {core : Rect Rat} (room : 0 < core.width) (spread : 0 < span)
    (positive : 1 ≤ delta) : core.x0 - 1 / 2 ≤ (snapHorizontal core span delta).x0 := by
  rcases snapHorizontal_cases room spread positive with ⟨_, kept⟩ | ⟨left, width, _, near, snapped⟩
  · rw [kept]
    linarith
  · rw [snapped]
    exact near

theorem snapVertical_cases {core : Rect Rat} (room : 0 < core.height) (spread : 0 < span) (positive : 1 ≤ delta) :
    (wholePixels core.height span delta < 1 ∧ snapVertical core span delta = core) ∨
      ∃ (bottom : Int) (height : Rat), Snapped core.height span delta height ∧
        snapVertical core span delta = { core with y0 := bottom - height, y1 := bottom } := by
  rcases snappedExtent_cases room spread positive with ⟨small, kept⟩ | ⟨height, snapped, cut⟩
  · left
    refine ⟨small, ?_⟩
    unfold snapVertical
    rw [kept]
  · right
    refine ⟨Exact.round (core.y0 + (core.height - height) / 2 + height), height, snapped, ?_⟩
    unfold snapVertical
    rw [cut]
    rfl

theorem snap_eq {α : Type} [Scalar α] (core : Rect α) (spanH spanV : α) (deltaH deltaV : Int) :
    snapVertical (snapHorizontal core spanH deltaH) spanV deltaV =
      { x0 := (snapHorizontal core spanH deltaH).x0, y0 := (snapVertical core spanV deltaV).y0
        x1 := (snapHorizontal core spanH deltaH).x1, y1 := (snapVertical core spanV deltaV).y1 } := by
  have height : (snapHorizontal core spanH deltaH).height = core.height := by
    unfold snapHorizontal
    split <;> rfl
  have vertical : (snapHorizontal core spanH deltaH).y0 = core.y0 ∧
      (snapHorizontal core spanH deltaH).y1 = core.y1 := by
    unfold snapHorizontal
    split <;> exact ⟨rfl, rfl⟩
  unfold snapVertical
  rw [height]
  split
  · rw [vertical.1]
  · rw [← vertical.1, ← vertical.2]

theorem unsnappedCore_room (v : View Rat) (sides : GridSides) (extents : LabelExtents Rat) :
    1 ≤ (unsnappedCore v sides extents).width ∧ 1 ≤ (unsnappedCore v sides extents).height := by
  have room := fun a b : Rat => (le_max_right a (b + 1)).trans_eq (Scalar.max_exact a (b + 1)).symm
  exact ⟨le_sub_iff_add_le'.mpr (room _ _), le_sub_iff_add_le'.mpr (room _ _)⟩

theorem snapHorizontal_snapped {core : Rect Rat} {labelExtent : Rat} (room : 1 ≤ core.width) (spread : 0 < span)
    (fits : leastStep span labelExtent core.width ≤ Nice.highest) (wide : 1 ≤ labelExtent) :
    Snapped core.width span (step span labelExtent core.width)
      (snapHorizontal core span (step span labelExtent core.width)).width := by
  have whole := one_le_wholePixels spread room fits wide
  rcases snapHorizontal_cases (by linarith) spread (one_le_step span labelExtent core.width)
    with ⟨small, _⟩ | ⟨left, width, cut, _, snapped⟩
  · exact absurd whole (Int.not_le.mpr small)
  · rw [snapped]
    unfold Rect.width
    dsimp only
    rw [add_sub_cancel_left]
    exact cut

theorem snapVertical_snapped {core : Rect Rat} {labelExtent : Rat} (room : 1 ≤ core.height) (spread : 0 < span)
    (fits : leastStep span labelExtent core.height ≤ Nice.highest) (wide : 1 ≤ labelExtent) :
    Snapped core.height span (step span labelExtent core.height)
      (snapVertical core span (step span labelExtent core.height)).height := by
  have whole := one_le_wholePixels spread room fits wide
  rcases snapVertical_cases (by linarith) spread (one_le_step span labelExtent core.height)
    with ⟨small, _⟩ | ⟨bottom, height, cut, snapped⟩
  · exact absurd whole (Int.not_le.mpr small)
  · rw [snapped]
    unfold Rect.height
    dsimp only
    rw [sub_sub_cancel]
    exact cut

theorem axisBetween_map_sub {v : View Rat} {side : GridSide} (sound : side.Sound v) (orientation : Orientation)
    (delta : Int) (start stop low high : Rat) :
    let axis := axisBetween v side orientation delta start stop
    axis.map high - axis.map low = (high - low) / side.range.span * (stop - start) := by
  intro axis
  have ordered : (side.range.min : Rat) < side.range.max := Int.cast_lt.mpr sound.ordered
  have span : (side.range.span : Rat) = side.range.max - side.range.min := Int.cast_sub _ _
  rw [span]
  exact Scale.map_sub (s := axis.scale) ordered low high

theorem axisBetween_labelPosition_sub {v : View Rat} {side : GridSide} (sound : side.Sound v)
    (orientation : Orientation) (delta : Int) (start stop : Rat) (low high : Int) :
    let axis := axisBetween v side orientation delta start stop
    axis.labelPosition high - axis.labelPosition low = (high - low) / side.range.span * (stop - start) := by
  intro axis
  have mapped := axisBetween_map_sub sound orientation delta start stop
  have shifted : ∀ shift : Rat, axis.map (high + shift) - axis.map (low + shift) =
      (high - low) / side.range.span * (stop - start) := by
    intro shift
    rw [mapped, add_sub_add_right_eq_sub]
  unfold GridAxis.labelPosition
  split
  · exact shifted _
  · exact mapped _ _

theorem span_pos {v : View Rat} {side : GridSide} (sound : side.Sound v) : (0 : Rat) < side.range.span :=
  Int.cast_pos.mpr (Int.sub_pos.mpr sound.ordered)

theorem Snapped.wholePixels_le {v : View Rat} {side : GridSide} (sound : side.Sound v) {extent snapped : Rat}
    {delta : Int} (cut : Snapped extent side.range.span delta snapped) (positive : 1 ≤ delta)
    (orientation : Orientation) {start stop : Rat} (length : |stop - start| = snapped) {low high : Int}
    (apart : low + delta ≤ high) :
    let axis := axisBetween v side orientation delta start stop
    (wholePixels extent side.range.span delta : Rat) ≤ |axis.labelPosition high - axis.labelPosition low| := by
  intro axis
  have spread : (0 : Rat) < side.range.span := span_pos sound
  have step : (0 : Rat) < delta := Int.cast_pos.mpr (by omega)
  have far : (delta : Rat) ≤ high - low := by
    rw [← Int.cast_sub]
    exact Int.cast_le.mpr (by omega)
  have pixels := cut.pixels
  have wide : 0 ≤ snapped := length ▸ abs_nonneg _
  rw [axisBetween_labelPosition_sub sound, abs_mul, length, abs_of_nonneg (div_nonneg (by linarith) spread.le)]
  calc (wholePixels extent side.range.span delta : Rat)
    _ = delta / side.range.span * snapped := by field_simp; linarith
    _ ≤ (high - low) / side.range.span * snapped :=
      mul_le_mul_of_nonneg_right (div_le_div_of_nonneg_right far spread.le) wide

-- There is nearly as much between the labels of two ticks as one label has been given.
theorem Snapped.ticks_spread {v : View Rat} {side : GridSide} (sound : side.Sound v)
    {labelExtent extent snapped : Rat} (room : 1 ≤ extent)
    (fits : leastStep side.range.span labelExtent extent ≤ Nice.highest)
    (cut : Snapped extent side.range.span (step side.range.span labelExtent extent) snapped)
    (orientation : Orientation) {start stop : Rat} (length : |stop - start| = snapped) :
    let axis := axisBetween v side orientation (step side.range.span labelExtent extent) start stop
    axis.ticks.Pairwise fun low high => labelExtent - 1 < |axis.labelPosition high - axis.labelPosition low| := by
  intro axis
  have positive := one_le_step (side.range.span : Rat) labelExtent extent
  have pixels := labelExtent_lt_wholePixels (span_pos sound) room fits
  apply (axisBetween_stepped sound orientation positive start stop).ticks_apart.imp
  intro low high apart
  have between := cut.wholePixels_le sound positive orientation length apart
  linarith

end Grid

end Charting
