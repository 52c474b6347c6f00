import Charting.Proofs.LabelLength
import Charting.Proofs.Measuring
import Charting.Proofs.Snapping
import Mathlib.Order.CompletePartialOrder
import Mathlib.Order.Interval.Set.Disjoint

namespace Charting

open TextMeasurer (ask)

def GridLabel.stretch (style : TextStyle Rat) (label : GridLabel Rat) : Set Rat :=
  let width := (Heuristic.metrics label.text style).advance
  match label.anchor with
  | .start => Set.Icc label.position.x (label.position.x + width)
  | .middle => Set.Icc (label.position.x - width / 2) (label.position.x + width / 2)
  | .stop => Set.Icc (label.position.x - width) label.position.x

namespace Heuristic

variable {style : TextStyle Rat}

theorem advance_mono (glyph : 0 ≤ glyphWidth style) {short long : String} (le : short.length ≤ long.length) :
    (metrics short style).advance ≤ (metrics long style).advance :=
  mul_le_mul_of_nonneg_left (Int.cast_le.mpr (Int.ofNat_le.mpr le)) glyph

theorem advance_nonneg (glyph : 0 ≤ glyphWidth style) (text : String) : 0 ≤ (metrics text style).advance :=
  mul_nonneg glyph (Int.cast_nonneg (Int.natCast_nonneg _))

theorem glyphWidth_nonneg (wide : 1 ≤ (FontMetrics.ofSample (metrics FontMetrics.sample style)).charWidth) :
    0 ≤ glyphWidth style := by
  have near := (Exact.round_near ((metrics FontMetrics.sample style).advance / 52 * 2)).2
  have advance : (metrics FontMetrics.sample style).advance = glyphWidth style * 52 := rfl
  change 1 ≤ (Exact.round ((metrics FontMetrics.sample style).advance / 52 * 2) : Rat) / 2 at wide
  rw [advance] at near wide
  linarith

end Heuristic

variable {M : Type} [TextMeasurer Rat M] {v : View Rat}

namespace View

def labelWidth (v : View Rat) (side : GridSide) (value : Int) : Rat :=
  (Heuristic.metrics (v.format side.selector value) v.config.textStyle).advance

theorem labelWidth_between (glyph : 0 ≤ Heuristic.glyphWidth v.config.textStyle) (side : GridSide) {value : Int}
    (above : side.range.min ≤ value) (below : value ≤ side.range.last) :
    v.labelWidth side value ≤ max (v.labelWidth side side.range.min) (v.labelWidth side side.range.last) := by
  have length := (v.axis side.selector).length_format_between v.config.separator above below
  rcases Nat.le_total (v.format side.selector side.range.min).length (v.format side.selector side.range.last).length
    with longer | longer
  · apply le_max_of_le_right
    exact Heuristic.advance_mono glyph (length.trans_eq (max_eq_right longer))
  · apply le_max_of_le_left
    exact Heuristic.advance_mono glyph (length.trans_eq (max_eq_left longer))

theorem labelWidth_nonneg (glyph : 0 ≤ Heuristic.glyphWidth v.config.textStyle) (side : GridSide) (value : Int) :
    0 ≤ v.labelWidth side value :=
  Heuristic.advance_nonneg glyph _

end View

namespace LabelExtents

-- Each label of an axis fits in the extent measured for its labels, with a character to spare.
structure Ample (v : View Rat) (sides : GridSides) (extents : LabelExtents Rat) : Prop where
  horizontal : ∀ value, sides.horizontal.range.min ≤ value → value ≤ sides.horizontal.range.last →
    v.labelWidth sides.horizontal value + v.layout.font.charWidth ≤ extents.horizontal
  vertical : ∀ value, sides.vertical.range.min ≤ value → value ≤ sides.vertical.range.last →
    v.labelWidth sides.vertical value + v.layout.font.charWidth + Scalar.halfUp v.layout.font.charWidth ≤
      extents.vertical

theorem measureSide_heuristic (v : View Rat) (side : GridSide) (leastChars : Rat) {m : M}
    (heuristic : Follows (ask Rat M) Heuristic.answers m) :
    (measureSide v side leastChars m).1 =
      max (max (leastChars * v.layout.font.charWidth)
        (v.labelWidth side side.range.min + v.layout.font.charWidth))
        (v.labelWidth side side.range.last + v.layout.font.charWidth) := by
  let least : TextQuestion Rat := .measure (v.format side.selector side.range.min) v.config.textStyle
  let last : TextQuestion Rat := .measure (v.format side.selector side.range.last) v.config.textStyle
  have first := heuristic.answer least
  have second := (heuristic.after least).answer last
  change Scalar.max (Scalar.max _ (TextMetrics.advance (ask Rat M least m).1 + _))
    (TextMetrics.advance (ask Rat M last (ask Rat M least m).2).1 + _) = _
  rw [first, second, Scalar.max_exact, Scalar.max_exact]
  rfl

theorem le_measureSide (glyph : 0 ≤ Heuristic.glyphWidth v.config.textStyle) (side : GridSide) (leastChars : Rat)
    {m : M} (heuristic : Follows (ask Rat M) Heuristic.answers m) {value : Int}
    (above : side.range.min ≤ value) (below : value ≤ side.range.last) :
    v.labelWidth side value + v.layout.font.charWidth ≤ (measureSide v side leastChars m).1 := by
  rw [measureSide_heuristic v side leastChars heuristic]
  rcases le_max_iff.mp (View.labelWidth_between glyph side above below) with least | last
  · exact le_max_of_le_left (le_max_of_le_right (by linarith))
  · exact le_max_of_le_right (by linarith)

theorem measure_ample (glyph : 0 ≤ Heuristic.glyphWidth v.config.textStyle) (sides : GridSides) {m : M}
    (heuristic : Follows (ask Rat M) Heuristic.answers m) : (measure v sides m).1.Ample v sides := by
  have after := (measureSide_determined v sides.horizontal 3).after heuristic
  constructor
  · intro value above below
    exact le_measureSide glyph sides.horizontal 3 heuristic above below
  · intro value above below
    have side := le_measureSide glyph sides.vertical 6 after above below
    exact add_le_add_left side _

end LabelExtents

namespace Grid

variable {kind : Kind} {extents : LabelExtents Rat}

-- The steps that the labels of both axes ask for have 32 bits. A label of the vertical axis asks for a line and a half.
structure StepsFit (v : View Rat) (sides : GridSides) (extents : LabelExtents Rat) : Prop where
  horizontal : leastStep sides.horizontal.range.span extents.horizontal (unsnappedCore v sides extents).width ≤
    Nice.highest
  vertical : leastStep sides.vertical.range.span (3 / 2 * v.layout.font.lineHeight)
    (unsnappedCore v sides extents).height ≤ Nice.highest

def horizontalStep (v : View Rat) (sides : GridSides) (extents : LabelExtents Rat) : Int :=
  step sides.horizontal.range.span extents.horizontal (unsnappedCore v sides extents).width

def verticalStep (v : View Rat) (sides : GridSides) (extents : LabelExtents Rat) : Int :=
  step sides.vertical.range.span (3 / 2 * v.layout.font.lineHeight) (unsnappedCore v sides extents).height

theorem one_le_horizontalStep (v : View Rat) (sides : GridSides) (extents : LabelExtents Rat) :
    1 ≤ horizontalStep v sides extents :=
  one_le_step _ _ _

theorem one_le_verticalStep (v : View Rat) (sides : GridSides) (extents : LabelExtents Rat) :
    1 ≤ verticalStep v sides extents :=
  one_le_step _ _ _

theorem arrange_core (v : View Rat) (kind : Kind) (extents : LabelExtents Rat) :
    let sides := GridSides.ofView v kind
    let core := unsnappedCore v sides extents
    let horizontal := snapHorizontal core sides.horizontal.range.span (horizontalStep v sides extents)
    let vertical := snapVertical core sides.vertical.range.span (verticalStep v sides extents)
    (arrange v kind extents).core = ⟨horizontal.x0, vertical.y0, horizontal.x1, vertical.y1⟩ := by
  unfold verticalStep
  rw [← Scalar.oneAndHalf_exact]
  exact snap_eq _ _ _ _ _

theorem arrange_vertical_eq (v : View Rat) (kind : Kind) (extents : LabelExtents Rat) :
    let sides := GridSides.ofView v kind
    let g := arrange v kind extents
    let axis := axisBetween v sides.vertical .vertical (verticalStep v sides extents)
    g.vertical = if kind.isSwapped then axis g.core.y0 g.core.y1 else axis g.core.y1 g.core.y0 := by
  intro sides g axis
  unfold axis verticalStep
  rw [← Scalar.oneAndHalf_exact]
  cases kind <;> rfl

theorem arrange_vertical (v : View Rat) (kind : Kind) (extents : LabelExtents Rat) :
    let sides := GridSides.ofView v kind
    let g := arrange v kind extents
    ∃ start stop, |stop - start| = |g.core.height| ∧
      g.vertical = axisBetween v sides.vertical .vertical (verticalStep v sides extents) start stop := by
  intro sides g
  have vertical := arrange_vertical_eq v kind extents
  cases swapped : kind.isSwapped with
  | true =>
    rw [swapped] at vertical
    exact ⟨g.core.y0, g.core.y1, rfl, vertical⟩
  | false =>
    rw [swapped] at vertical
    exact ⟨g.core.y1, g.core.y0, abs_sub_comm _ _, vertical⟩

theorem horizontalTick_fits (ample : extents.Ample v (GridSides.ofView v kind)) {value : Int}
    (tick : value ∈ (arrange v kind extents).horizontal.ticks) :
    v.labelWidth (GridSides.ofView v kind).horizontal value + v.layout.font.charWidth ≤ extents.horizontal := by
  have between := ticks_between (GridSides.ofView_sound v kind).1 (one_le_step _ _ _) tick
  exact ample.horizontal value between.1 between.2

theorem verticalTick_fits (ample : extents.Ample v (GridSides.ofView v kind)) {value : Int}
    (tick : value ∈ (arrange v kind extents).vertical.ticks) :
    v.labelWidth (GridSides.ofView v kind).vertical value + v.layout.font.charWidth +
      Scalar.halfUp v.layout.font.charWidth ≤ extents.vertical := by
  obtain ⟨start, stop, _, vertical⟩ := arrange_vertical v kind extents
  rw [vertical] at tick
  have between := ticks_between (GridSides.ofView_sound v kind).2 (one_le_step _ _ _) tick
  exact ample.vertical value between.1 between.2

theorem disjoint_of_far {left right width other : Rat} (far : (width + other) / 2 < |right - left|) :
    Disjoint (Set.Icc (left - width / 2) (left + width / 2)) (Set.Icc (right - other / 2) (right + other / 2)) := by
  apply Set.disjoint_left.mpr
  intro x inLeft inRight
  have near : |right - left| ≤ (width + other) / 2 :=
    abs_le.mpr ⟨by linarith [inLeft.1, inRight.2], by linarith [inLeft.2, inRight.1]⟩
  exact absurd far (not_lt.mpr near)

-- Between two ticks there is more than the extent without a pixel, and the wider label leaves a character of that.
theorem horizontalLabels_disjoint (glyph : 0 ≤ Heuristic.glyphWidth v.config.textStyle)
    (wide : 1 ≤ v.layout.font.charWidth) (ample : extents.Ample v (GridSides.ofView v kind))
    (fits : StepsFit v (GridSides.ofView v kind) extents) :
    let g := arrange v kind extents
    (horizontalLabels v g.horizontal g.core).Pairwise fun a b =>
      Disjoint (a.stretch v.config.textStyle) (b.stretch v.config.textStyle) := by
  intro g
  have sound := (GridSides.ofView_sound v kind).1
  have room := (unsnappedCore_room v (GridSides.ofView v kind) extents).1
  have least := ample.horizontal _ (Int.le_refl _) sound.min_le_last
  have nonneg := View.labelWidth_nonneg glyph (GridSides.ofView v kind).horizontal
  have extent : 1 ≤ extents.horizontal := by linarith [nonneg (GridSides.ofView v kind).horizontal.range.min]
  have cut := snapHorizontal_snapped room (span_pos sound) fits.horizontal extent
  have length : |g.core.x1 - g.core.x0| = (snapHorizontal (unsnappedCore v (GridSides.ofView v kind) extents)
      (GridSides.ofView v kind).horizontal.range.span (horizontalStep v (GridSides.ofView v kind) extents)).width := by
    rw [arrange_core]
    exact abs_of_pos (cut.pos (span_pos sound) (one_le_step _ _ _))
  have spread := cut.ticks_spread sound room fits.horizontal .horizontal length
  apply List.pairwise_map.mpr
  apply spread.imp_of_mem
  intro low high lowTick highTick apart
  have lowFits := horizontalTick_fits ample lowTick
  have highFits := horizontalTick_fits ample highTick
  apply disjoint_of_far
  refine lt_of_le_of_lt ?_ apart
  change (v.labelWidth (GridSides.ofView v kind).horizontal low +
    v.labelWidth (GridSides.ofView v kind).horizontal high) / 2 ≤ _
  linarith

theorem verticalLabels_apart (high : 2 ≤ v.layout.font.lineHeight)
    (fits : StepsFit v (GridSides.ofView v kind) extents) :
    let g := arrange v kind extents
    (verticalLabels v g.vertical g.core).Pairwise fun a b =>
      v.layout.font.lineHeight ≤ |a.position.y - b.position.y| := by
  intro g
  have sound := (GridSides.ofView_sound v kind).2
  have room := (unsnappedCore_room v (GridSides.ofView v kind) extents).2
  have cut := snapVertical_snapped room (span_pos sound) fits.vertical (by linarith)
  obtain ⟨start, stop, length, vertical⟩ := arrange_vertical v kind extents
  rw [arrange_core] at length
  have spread := cut.ticks_spread sound room fits.vertical .vertical
    (length.trans (abs_of_pos (cut.pos (span_pos sound) (one_le_step _ _ _))))
  apply List.pairwise_map.mpr
  rw [vertical]
  apply spread.imp
  intro low high apart
  rw [abs_sub_comm]
  refine le_trans ?_ apart.le
  linarith

theorem verticalLabels_inside (wide : 1 ≤ v.layout.font.charWidth) (ample : extents.Ample v (GridSides.ofView v kind)) :
    let g := arrange v kind extents
    ∀ label ∈ verticalLabels v g.vertical g.core,
      label.stretch v.config.textStyle ⊆ Set.Ici (v.layout.body.x0 + nameExtent v g.vertical.selector) := by
  intro g label member
  obtain ⟨value, tick, rfl⟩ := List.mem_map.mp member
  have fits := verticalTick_fits ample tick
  have sound := (GridSides.ofView_sound v kind).1
  have room := (unsnappedCore_room v (GridSides.ofView v kind) extents).1
  have edge : (unsnappedCore v (GridSides.ofView v kind) extents).x0 - 1 / 2 ≤ g.core.x0 := by
    rw [arrange_core]
    exact sub_half_le_snapHorizontal (by linarith) (span_pos sound) (one_le_step _ _ _)
  have selector : g.vertical.selector = (GridSides.ofView v kind).vertical.selector := by
    obtain ⟨start, stop, _, vertical⟩ := arrange_vertical v kind extents
    rw [vertical]
    rfl
  intro x inside
  change x ∈ Set.Icc (g.core.x0 - Scalar.halfUp v.layout.font.charWidth -
    (Heuristic.metrics (v.format g.vertical.selector value) v.config.textStyle).advance) _ at inside
  rw [selector] at inside
  have left : g.core.x0 - Scalar.halfUp v.layout.font.charWidth -
      v.labelWidth (GridSides.ofView v kind).vertical value ≤ x := inside.1
  have margin : (unsnappedCore v (GridSides.ofView v kind) extents).x0 =
    v.layout.body.x0 + nameExtent v (GridSides.ofView v kind).vertical.selector + extents.vertical := rfl
  rw [Set.mem_Ici, selector]
  linarith

-- In exact arithmetic, with all characters equally wide, no two labels of the horizontal axis run into each other,
-- those of the vertical axis are a line apart, and none of these is left of the margin behind the name of its axis.
theorem layOut_labels_apart {m : M} (heuristic : Follows (ask Rat M) Heuristic.answers m)
    (font : v.layout.font = FontMetrics.ofSample (Heuristic.metrics FontMetrics.sample v.config.textStyle))
    (wide : 1 ≤ v.layout.font.charWidth) (high : 2 ≤ v.layout.font.lineHeight)
    (fits : StepsFit v (GridSides.ofView v kind) (LabelExtents.measure v (GridSides.ofView v kind) m).1) :
    let g := (layOut v kind m).1
    let horizontal := horizontalLabels v g.horizontal g.core
    let vertical := verticalLabels v g.vertical g.core
    g.labels = horizontal ++ vertical ∧
      (horizontal.Pairwise fun a b => Disjoint (a.stretch v.config.textStyle) (b.stretch v.config.textStyle)) ∧
      (vertical.Pairwise fun a b => v.layout.font.lineHeight ≤ |a.position.y - b.position.y|) ∧
      ∀ label ∈ vertical,
        label.stretch v.config.textStyle ⊆ Set.Ici (v.layout.body.x0 + nameExtent v g.vertical.selector) := by
  intro g horizontal vertical
  have glyph : 0 ≤ Heuristic.glyphWidth v.config.textStyle := by
    apply Heuristic.glyphWidth_nonneg
    rw [← font]
    exact wide
  have ample := LabelExtents.measure_ample glyph (GridSides.ofView v kind) heuristic
  exact ⟨rfl, horizontalLabels_disjoint glyph wide ample fits, verticalLabels_apart high fits,
    verticalLabels_inside wide ample⟩

end Grid

namespace Demo

def balance : View Rat :=
  let config : Config Rat := { Config.standard with textStyle := { size := 12 } }
  let data : List DataSet := [.ofContents (.stored #[120, -45, 310]), .ofContents (.stored #[-800, 75])]
  { data
    values := (Values.collect (N := Forecast) data none).1
    primary := { name := some "Month" }
    secondary := { exponent := -1, offset := 20, name := some "Units" }
    hot := none
    layout := Layout.arrange ⟨400, 300⟩
      (FontMetrics.ofSample (Heuristic.metrics FontMetrics.sample config.textStyle)) false
    config }

theorem balance_labels_apart :
    let g := (Grid.layOut balance (.column true) Heuristic.mk).1
    let horizontal := Grid.horizontalLabels balance g.horizontal g.core
    let vertical := Grid.verticalLabels balance g.vertical g.core
    horizontal.length = 3 ∧ vertical.length = 14 ∧
      (horizontal.Pairwise fun a b =>
        Disjoint (a.stretch balance.config.textStyle) (b.stretch balance.config.textStyle)) ∧
      (vertical.Pairwise fun a b => 12 ≤ |a.position.y - b.position.y|) ∧
      ∀ label ∈ vertical, label.stretch balance.config.textStyle ⊆ Set.Ici 18 := by
  have fits : Grid.StepsFit balance (GridSides.ofView balance (.column true))
      (LabelExtents.measure balance (GridSides.ofView balance (.column true)) Heuristic.mk).1 :=
    ⟨by decide +kernel, by decide +kernel⟩
  have apart := Grid.layOut_labels_apart (v := balance) (Heuristic.follows ⟨⟩) rfl (by decide +kernel)
    (by decide +kernel) fits
  have line : balance.layout.font.lineHeight = 12 := by decide +kernel
  have edge : balance.layout.body.x0 + Grid.nameExtent balance .secondary = 18 := by decide +kernel
  refine ⟨by decide +kernel, by decide +kernel, apart.2.1, ?_, ?_⟩
  · rw [line] at apart
    exact apart.2.2.1
  · intro label member
    have inside := apart.2.2.2 label member
    rw [← edge]
    exact inside

end Demo

end Charting
