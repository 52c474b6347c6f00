import Charting.Plot
import Charting.Proofs.Stateless

namespace Charting

open TextMeasurer (ask)

variable {α M : Type} [TextMeasurer α M]

theorem View.textWidth_determined (v : View α) (text : String) : Determined (ask α M) (v.textWidth text) :=
  (TextMeasurer.measure_determined text v.config.textStyle).map TextMetrics.advance

variable [Scalar α]

theorem FontMetrics.measure_determined (style : TextStyle α) :
    Determined (ask α M) (FontMetrics.measure style) :=
  (TextMeasurer.measure_determined sample style).map ofSample

theorem LabelExtents.measureSide_determined (v : View α) (side : GridSide) (leastChars : α) :
    Determined (ask α M) (measureSide v side leastChars) :=
  (v.textWidth_determined _).bind fun _ => (v.textWidth_determined _).map _

theorem LabelExtents.measure_determined (v : View α) (sides : GridSides) :
    Determined (ask α M) (LabelExtents.measure v sides) :=
  (measureSide_determined v sides.horizontal 3).bind fun _ => (measureSide_determined v sides.vertical 6).map _

theorem Grid.layOut_determined (v : View α) (kind : Kind) : Determined (ask α M) (Grid.layOut v kind) :=
  (LabelExtents.measure_determined v _).map _

theorem Pie.measureLabels_determined (v : View α) : Determined (ask α M) (Pie.measureLabels v) :=
  .mapM (fun slice => v.textWidth_determined (labelText v slice)) _

theorem Legend.hitTest_determined (v : View α) (p : Point α) : Determined (ask α M) (Legend.hitTest v p) := by
  unfold Legend.hitTest
  dsimp only
  split
  · exact .pure _
  · split
    · exact .pure _
    · split
      · exact .pure _
      · exact (TextMeasurer.hit_determined _ _ _).map _

namespace View

variable [Circular α]

theorem paintBody_determined (v : View α) (kind : Kind) : Determined (ask α M) (v.paintBody kind) := by
  cases kind with
  | pie => exact (Pie.measureLabels_determined v).map _
  | scatter | line | area | column | bar => exact (Grid.layOut_determined v _).map _

theorem paint_determined (v : View α) (kind : Kind) (title : String) :
    Determined (ask α M) (v.paint kind title) :=
  (v.paintBody_determined kind).map _

theorem hitBody_determined (v : View α) (kind : Kind) (p : Point α) :
    Determined (ask α M) (v.hitBody kind p) := by
  cases kind with
  | pie => exact .pure _
  | scatter | line | area | column | bar => exact (Grid.layOut_determined v _).map _

theorem hitTest_determined (v : View α) (kind : Kind) (p : Point α) :
    Determined (ask α M) (v.hitTest kind p) := by
  unfold View.hitTest
  split
  · exact Legend.hitTest_determined v p
  · split
    · exact v.hitBody_determined kind p
    · exact .pure _

end View

end Charting
