import Charting.Proofs.LabelRoom
import Mathlib.Order.Monotone.Basic

namespace Charting

namespace Scale

variable {s : Scale Rat}

theorem invert_map (values : s.domainStart < s.domainEnd) (pixels : s.rangeStart ≠ s.rangeEnd) (value : Rat) :
    s.invert (s.map value) = value := by
  have domain : s.domainEnd - s.domainStart ≠ 0 := by linarith
  have range : s.rangeEnd - s.rangeStart ≠ 0 := sub_ne_zero.mpr pixels.symm
  rw [invert, interpolate_exact pixels, map_exact values]
  field_simp
  ring

theorem map_invert (values : s.domainStart < s.domainEnd) (pixels : s.rangeStart ≠ s.rangeEnd) (pixel : Rat) :
    s.map (s.invert pixel) = pixel := by
  have domain : s.domainEnd - s.domainStart ≠ 0 := by linarith
  have range : s.rangeEnd - s.rangeStart ≠ 0 := sub_ne_zero.mpr pixels.symm
  rw [map_exact values, invert, interpolate_exact pixels]
  field_simp
  ring

theorem map_strictMono (values : s.domainStart < s.domainEnd) (pixels : s.rangeStart < s.rangeEnd) :
    StrictMono s.map := by
  intro low high less
  apply sub_pos.mp
  rw [map_sub values]
  exact mul_pos (div_pos (sub_pos.mpr less) (sub_pos.mpr values)) (sub_pos.mpr pixels)

theorem map_strictAnti (values : s.domainStart < s.domainEnd) (pixels : s.rangeEnd < s.rangeStart) :
    StrictAnti s.map := by
  intro low high less
  apply sub_neg.mp
  rw [map_sub values]
  exact mul_neg_of_pos_of_neg (div_pos (sub_pos.mpr less) (sub_pos.mpr values)) (sub_neg.mpr pixels)

end Scale

namespace GridAxis

structure TwoWay (a : GridAxis Rat) : Prop where
  ordered : a.min < a.max
  unmap_map : ∀ value, a.unmap (a.map value) = value
  map_unmap : ∀ pixel, a.map (a.unmap pixel) = pixel

-- What became of the extent that an axis was given: `length` is left of it, and `edge` is the side of the core that the
-- axis is held at. A step of less than a pixel leaves it alone. Otherwise a step gets the whole pixels that it had.
inductive Fitted (a : GridAxis Rat) (extent length edge : Rat) : Prop where
  | kept (small : extent * a.delta / a.span < 1) (same : length = extent)
  | snapped (pixels : Int) (whole : pixels = ⌊extent * a.delta / a.span⌋) (positive : 1 ≤ pixels)
      (step : ∀ value, |a.map (value + a.delta) - a.map value| = pixels) (narrower : length ≤ extent)
      (onPixel : ∃ n : Int, edge = n)

end GridAxis

namespace Grid

section

variable {v : View Rat} {side : GridSide} {delta : Int} {start stop : Rat}

theorem axisBetween_twoWay (sound : side.Sound v) (orientation : Orientation) (delta : Int) (apart : start ≠ stop) :
    (axisBetween v side orientation delta start stop).TwoWay where
  ordered := sound.ordered
  unmap_map := Scale.invert_map (Int.cast_lt.mpr sound.ordered) apart
  map_unmap := Scale.map_invert (Int.cast_lt.mpr sound.ordered) apart

theorem axisBetween_strictMono (sound : side.Sound v) (orientation : Orientation) (delta : Int) (up : start < stop) :
    StrictMono (axisBetween v side orientation delta start stop).map :=
  Scale.map_strictMono (Int.cast_lt.mpr sound.ordered) up

theorem axisBetween_strictAnti (sound : side.Sound v) (orientation : Orientation) (delta : Int) (down : stop < start) :
    StrictAnti (axisBetween v side orientation delta start stop).map :=
  Scale.map_strictAnti (Int.cast_lt.mpr sound.ordered) down

def Fits (extent span : Rat) (delta : Int) (length edge : Rat) : Prop :=
  wholePixels extent span delta < 1 ∧ length = extent ∨
    Snapped extent span delta length ∧ ∃ n : Int, edge = n

theorem Fits.axisBetween {extent length edge : Rat} (fits : Fits extent side.range.span delta length edge)
    (sound : side.Sound v) (orientation : Orientation) (positive : 1 ≤ delta) (long : |stop - start| = length) :
    (axisBetween v side orientation delta start stop).Fitted extent length edge := by
  rcases fits with ⟨small, same⟩ | ⟨cut, onPixel⟩
  · refine .kept ?_ same
    have below := Int.floor_lt.mp small
    rwa [Int.cast_one] at below
  · refine .snapped (wholePixels extent side.range.span delta) rfl cut.positive ?_ cut.narrower onPixel
    intro value
    have spread : (0 : Rat) < side.range.span := span_pos sound
    have step : (0 : Rat) < delta := Int.cast_pos.mpr (by omega)
    have pixels := cut.pixels
    change |(Grid.axisBetween v side orientation delta start stop).map (value + delta) - _| = _
    rw [axisBetween_map_sub sound, add_sub_cancel_left, abs_mul, long, abs_of_pos (div_pos step spread)]
    field_simp
    linarith

end

section

variable {core : Rect Rat} {span : Rat} {delta : Int}

theorem snapHorizontal_fits (room : 0 < core.width) (spread : 0 < span) (positive : 1 ≤ delta) :
    let snapped := snapHorizontal core span delta
    snapped.x0 < snapped.x1 ∧ Fits core.width span delta snapped.width snapped.x0 := by
  rcases snapHorizontal_cases room spread positive with ⟨small, kept⟩ | ⟨left, width, cut, _, snapped⟩
  · rw [kept]
    exact ⟨sub_pos.mp room, .inl ⟨small, rfl⟩⟩
  · rw [snapped]
    have long : (Rect.mk (left : Rat) core.y0 (left + width) core.y1).width = width := add_sub_cancel_left _ _
    refine ⟨lt_add_of_pos_right _ (cut.pos spread positive), .inr ⟨?_, left, rfl⟩⟩
    rwa [long]

theorem snapVertical_fits (room : 0 < core.height) (spread : 0 < span) (positive : 1 ≤ delta) :
    let snapped := snapVertical core span delta
    snapped.y0 < snapped.y1 ∧ Fits core.height span delta snapped.height snapped.y1 := by
  rcases snapVertical_cases room spread positive with ⟨small, kept⟩ | ⟨bottom, height, cut, snapped⟩
  · rw [kept]
    exact ⟨sub_pos.mp room, .inl ⟨small, rfl⟩⟩
  · rw [snapped]
    have long : (Rect.mk core.x0 (bottom - height : Rat) core.x1 bottom).height = height := sub_sub_cancel _ _
    refine ⟨sub_lt_self _ (cut.pos spread positive), .inr ⟨?_, bottom, rfl⟩⟩
    rwa [long]

end

variable {M : Type} [TextMeasurer Rat M]

theorem arrange_fits (v : View Rat) (kind : Kind) (extents : LabelExtents Rat) :
    let sides := GridSides.ofView v kind
    let room := unsnappedCore v sides extents
    let core := (arrange v kind extents).core
    (core.x0 < core.x1 ∧
        Fits room.width sides.horizontal.range.span (horizontalStep v sides extents) core.width core.x0) ∧
      core.y0 < core.y1 ∧
        Fits room.height sides.vertical.range.span (verticalStep v sides extents) core.height core.y1 := by
  intro sides room core
  have sound := GridSides.ofView_sound v kind
  obtain ⟨wide, high⟩ := unsnappedCore_room v sides extents
  have across := snapHorizontal_fits (by linarith) (span_pos sound.1) (one_le_horizontalStep v sides extents)
  have down := snapVertical_fits (by linarith) (span_pos sound.2) (one_le_verticalStep v sides extents)
  have fitted : core = _ := arrange_core v kind extents
  rw [fitted]
  exact ⟨across, down⟩

theorem arrange_horizontal_two_way (v : View Rat) (kind : Kind) (extents : LabelExtents Rat) :
    let room := unsnappedCore v (GridSides.ofView v kind) extents
    let g := arrange v kind extents
    g.horizontal.TwoWay ∧ StrictMono g.horizontal.map ∧ g.horizontal.Fitted room.width g.core.width g.core.x0 := by
  intro room g
  have sound := (GridSides.ofView_sound v kind).1
  have step := one_le_horizontalStep v (GridSides.ofView v kind) extents
  obtain ⟨⟨left, fits⟩, _⟩ := arrange_fits v kind extents
  have long : |g.core.x1 - g.core.x0| = g.core.width := abs_of_pos (sub_pos.mpr left)
  exact ⟨axisBetween_twoWay sound .horizontal _ left.ne, axisBetween_strictMono sound .horizontal _ left,
    fits.axisBetween sound .horizontal step long⟩

theorem arrange_vertical_two_way (v : View Rat) (kind : Kind) (extents : LabelExtents Rat) :
    let room := unsnappedCore v (GridSides.ofView v kind) extents
    let g := arrange v kind extents
    g.vertical.TwoWay ∧ (if kind.isSwapped then StrictMono g.vertical.map else StrictAnti g.vertical.map) ∧
      g.vertical.Fitted room.height g.core.height g.core.y1 := by
  intro room g
  have sound := (GridSides.ofView_sound v kind).2
  have step := one_le_verticalStep v (GridSides.ofView v kind) extents
  obtain ⟨_, top, fits⟩ := arrange_fits v kind extents
  have vertical : g.vertical = _ := arrange_vertical_eq v kind extents
  have long : |g.core.y1 - g.core.y0| = g.core.height := abs_of_pos (sub_pos.mpr top)
  rw [vertical]
  cases kind.isSwapped with
  | true =>
    exact ⟨axisBetween_twoWay sound .vertical _ top.ne, axisBetween_strictMono sound .vertical _ top,
      fits.axisBetween sound .vertical step long⟩
  | false =>
    exact ⟨axisBetween_twoWay sound .vertical _ top.ne', axisBetween_strictAnti sound .vertical _ top,
      fits.axisBetween sound .vertical step ((abs_sub_comm _ _).trans long)⟩

-- Whatever the size of the view, the font, the widths of texts, the data and the axes: in exact arithmetic there is
-- something between the ends of both axes and of the core, so that values and pixels tell each other. Values grow to
-- the right and upwards, but the places of bars run down. Each axis is fitted to its step.
theorem layOut_two_way (v : View Rat) (kind : Kind) (m : M) :
    let sides := GridSides.ofView v kind
    let room := unsnappedCore v sides (LabelExtents.measure v sides m).1
    let g := (layOut v kind m).1
    (g.core.x0 < g.core.x1 ∧ g.core.y0 < g.core.y1) ∧
      (g.horizontal.TwoWay ∧ g.vertical.TwoWay) ∧
      (StrictMono g.horizontal.map ∧
        if kind.isSwapped then StrictMono g.vertical.map else StrictAnti g.vertical.map) ∧
      g.horizontal.Fitted room.width g.core.width g.core.x0 ∧
      g.vertical.Fitted room.height g.core.height g.core.y1 := by
  intro sides room g
  let extents := (LabelExtents.measure v sides m).1
  obtain ⟨⟨left, _⟩, top, _⟩ := arrange_fits v kind extents
  obtain ⟨twoWayH, rightwards, fittedH⟩ := arrange_horizontal_two_way v kind extents
  obtain ⟨twoWayV, direction, fittedV⟩ := arrange_vertical_two_way v kind extents
  exact ⟨⟨left, top⟩, ⟨twoWayH, twoWayV⟩, ⟨rightwards, direction⟩, fittedH, fittedV⟩

end Grid

end Charting
