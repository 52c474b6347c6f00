import Charting.Demo
import Charting.Proofs.HitBounds
import Mathlib.Data.List.Nodup

namespace Charting

structure BoxFill (α : Type) where
  box : ColumnBox α
  plain : Color
  lit : Color

-- Two pictures of one view, without and with something under the pointer: calls are the same in both, or fill a box, or
-- are added by the pointer. The last two lists are the calls added and the boxes filled, in the order of the picture.
inductive Highlighted {α : Type} : Picture α → Picture α → Picture α → List (BoxFill α) → Prop where
  | nil : Highlighted [] [] [] []
  | kept {plain lit added : Picture α} {fills : List (BoxFill α)} (call : DrawCall α)
      (rest : Highlighted plain lit added fills) : Highlighted (call :: plain) (call :: lit) added fills
  | filled {plain lit added : Picture α} {fills : List (BoxFill α)} (fill : BoxFill α)
      (rest : Highlighted plain lit added fills) :
      Highlighted (.fillRect fill.box.rect fill.plain :: plain) (.fillRect fill.box.rect fill.lit :: lit) added
        (fill :: fills)
  | added {plain lit added : Picture α} {fills : List (BoxFill α)} (call : DrawCall α)
      (rest : Highlighted plain lit added fills) : Highlighted plain (call :: lit) (call :: added) fills

namespace Highlighted

variable {α β : Type}

theorem append {plain lit added plain' lit' added' : Picture α} {fills fills' : List (BoxFill α)}
    (first : Highlighted plain lit added fills) (second : Highlighted plain' lit' added' fills') :
    Highlighted (plain ++ plain') (lit ++ lit') (added ++ added') (fills ++ fills') := by
  induction first with
  | nil => exact second
  | kept call _ ih => exact .kept call ih
  | filled fill _ ih => exact .filled fill ih
  | added call _ ih => exact .added call ih

theorem same (picture : Picture α) : Highlighted picture picture [] [] := by
  induction picture with
  | nil => exact .nil
  | cons call _ ih => exact .kept call ih

theorem inserted (marks : Picture α) : Highlighted [] marks marks [] := by
  induction marks with
  | nil => exact .nil
  | cons call _ ih => exact .added call ih

theorem after {plain lit added : Picture α} {fills : List (BoxFill α)} (first : Highlighted plain lit added fills)
    (picture : Picture α) : Highlighted (plain ++ picture) (lit ++ picture) added fills := by
  have whole := first.append (same picture)
  rwa [List.append_nil, List.append_nil] at whole

theorem flatMap {plain lit added : β → Picture α} {fills : β → List (BoxFill α)}
    (each : ∀ x, Highlighted (plain x) (lit x) (added x) (fills x)) (xs : List β) :
    Highlighted (xs.flatMap plain) (xs.flatMap lit) (xs.flatMap added) (xs.flatMap fills) := by
  induction xs with
  | nil => exact .nil
  | cons x _ ih => exact (each x).append ih

theorem flatMap_unfilled {plain lit added : β → Picture α} (each : ∀ x, Highlighted (plain x) (lit x) (added x) [])
    (xs : List β) : Highlighted (xs.flatMap plain) (xs.flatMap lit) (xs.flatMap added) [] := by
  have whole := flatMap each xs
  rwa [List.flatMap_eq_nil_iff.mpr fun _ _ => rfl] at whole

theorem marked (under : Bool) (mark : DrawCall α) (calls : Picture α) :
    Highlighted calls ((if under then [mark] else []) ++ calls) (if under then [mark] else []) [] := by
  cases under with
  | true => exact .added mark (.same calls)
  | false => exact .same calls

end Highlighted

theorem flatMap_marked {β γ : Type} (under : β → Bool) (f : β → γ) (xs : List β) :
    (xs.flatMap fun x => if under x then [f x] else []) = (xs.filter under).map f := by
  induction xs with
  | nil => rfl
  | cons x rest ih =>
    rw [List.flatMap_cons, ih, List.filter_cons]
    split <;> rfl

theorem filter_marked {β : Type} [DecidableEq β] {xs : List β} (distinct : xs.Nodup) (hot : β) :
    xs.filter (hot == ·) = if hot ∈ xs then [hot] else [] := by
  simp only [BEq.comm (a := hot)]
  rw [List.filter_beq, distinct.count]
  split <;> rfl

section

variable {α : Type} [Scalar α] (v : View α) (hot : HotItem)

def Legend.halo : Picture α :=
  if hot.set ∈ paintedRows v then [.fillPath (ring (row v hot.set).swatch) .evenOdd (v.hint hot.set)] else []

def Scatter.halos (g : Grid α) : Picture α :=
  (hot.index.elim (v.values.pairs hot.set) ([·])).map fun i =>
    .fillCircle (pairPoint v g hot.set i) markRadius (v.hint hot.set)

def Line.halos (g : Grid α) (stacked : Bool) : Picture α :=
  (if 1 < v.values.count hot.set then [.strokePath (polyline v g stacked hot.set) markWidth (v.hint hot.set)] else [])
    ++ hot.index.toList.map fun i => .fillCircle (vertexPoint v g stacked hot.set i) markRadius (v.hint hot.set)

def Column.fills (g : Grid α) (stacked : Bool) : List (BoxFill α) :=
  (boxes v g stacked).map fun box =>
    let color := v.color box.set
    let faint := color.withAlpha boxAlpha
    let covered := hot.set = box.set ∧ (hot.index = none ∨ hot.index = some box.index)
    { box, plain := faint, lit := if covered then color else faint }

def Pie.halo [Circular α] : Picture α :=
  let pie := ofView v
  ((pie.slices[hot.set]?).toList.filter PieSlice.isVisible).map fun slice =>
    .fillPath (Path.sector pie.center (pie.radius + 1.5) (pie.radius + 10) (Circular.toRadians slice.start)
      (Circular.toRadians slice.sweep)) .nonZero (v.hint hot.set)

end

section

variable {α : Type} [Scalar α] (v : View α) (hot : HotItem)

theorem Legend.paint_highlighted :
    Highlighted (paint { v with hot := none }) (paint { v with hot := some hot }) (halo v hot) [] := by
  have each : ∀ set, Highlighted (paintRow { v with hot := none } set) (paintRow { v with hot := some hot } set)
      (if hot.set == set then [.fillPath (ring (row v set).swatch) .evenOdd (v.hint set)] else []) [] :=
    fun set => .marked (hot.set == set) _ _
  have rows := Highlighted.flatMap_unfilled each (paintedRows v)
  have distinct : (paintedRows v).Nodup := List.nodup_range.sublist (List.takeWhile_sublist _)
  rw [flatMap_marked, filter_marked distinct] at rows
  have marks : (if hot.set ∈ paintedRows v then [hot.set] else []).map (fun set =>
      DrawCall.fillPath (ring (row v set).swatch) .evenOdd (v.hint set)) = halo v hot := by
    unfold halo
    split <;> rfl
  exact marks ▸ rows

theorem Scatter.marks_hot (g : Grid α) (within : ∀ i, hot.index = some i → i ∈ v.values.pairs hot.set) :
    marks { v with hot := some hot } g = halos v hot g := by
  have distinct : (v.values.pairs hot.set).Nodup :=
    List.nodup_range.map fun _ _ same => Nat.eq_of_mul_eq_mul_left Nat.two_pos same
  have covered : (v.values.pairs hot.set).filter (hot.covers hot.set) =
      hot.index.elim (v.values.pairs hot.set) ([·]) := by
    unfold HotItem.covers
    cases index : hot.index with
    | none => simp
    | some i =>
      have present := filter_marked distinct i
      rw [if_pos (within i index)] at present
      simpa using present
  exact congrArg (List.map _) covered

theorem Scatter.paint_highlighted (g : Grid α) (within : ∀ i, hot.index = some i → i ∈ v.values.pairs hot.set) :
    Highlighted (paint { v with hot := none } g) (paint { v with hot := some hot } g) (halos v hot g) [] := by
  have body := ((Highlighted.same (g.paint v)).append (.inserted (halos v hot g))).after (dots v g)
  rw [← marks_hot v hot g within] at body ⊢
  exact body

theorem Line.lineMark_hot (g : Grid α) (stacked : Bool) :
    lineMark { v with hot := some hot } g stacked ++ dotMark { v with hot := some hot } g stacked =
      halos v hot g stacked := by
  obtain ⟨set, index⟩ := hot
  cases index <;> rfl

theorem Line.paint_highlighted (g : Grid α) (stacked filled : Bool) :
    Highlighted (paint { v with hot := none } g stacked filled) (paint { v with hot := some hot } g stacked filled)
      (halos v hot g stacked) [] := by
  rw [← lineMark_hot]
  exact ((((Highlighted.same (g.paint v ++ if filled then areas v g stacked else [])).append (.inserted _)).after
    (lines v g stacked)).append (.inserted _)).after (dots v g stacked)

theorem Column.paint_highlighted (g : Grid α) (stacked : Bool) :
    Highlighted (paint { v with hot := none } g stacked) (paint { v with hot := some hot } g stacked) []
      (fills v hot g stacked) := by
  have covers : ∀ box : ColumnBox α, hot.covers box.set box.index = true ↔
      hot.set = box.set ∧ (hot.index = none ∨ hot.index = some box.index) := by
    intro box
    unfold HotItem.covers
    cases hot.index <;> simp
  have each : ∀ box, Highlighted (paintBox { v with hot := none } box) (paintBox { v with hot := some hot } box) []
      [⟨box, (v.color box.set).withAlpha boxAlpha,
        if hot.covers box.set box.index then v.color box.set else (v.color box.set).withAlpha boxAlpha⟩] :=
    fun box => Highlighted.filled ⟨box, _, _⟩ (.kept _ .nil)
  have painted := (Highlighted.same (g.paint v)).append (.flatMap each (boxes v g stacked))
  rw [← List.map_eq_flatMap, List.flatMap_eq_nil_iff.mpr fun _ _ => rfl] at painted
  simp only [covers] at painted
  exact painted

theorem Pie.le_slicesFrom_set {sum set : Nat} {start : α} {magnitudes : List Nat} {slice : PieSlice α}
    (member : slice ∈ slicesFrom sum set start magnitudes) : set ≤ slice.set := by
  induction magnitudes generalizing set start with
  | nil => cases member
  | cons magnitude rest ih =>
    rcases List.mem_cons.mp member with rfl | later
    · exact Nat.le_refl _
    · exact Nat.le_of_succ_le (ih later)

theorem Pie.slicesFrom_at (sum set place : Nat) (start : α) (magnitudes : List Nat) :
    (slicesFrom sum set start magnitudes).filter (set + place == ·.set) =
      (slicesFrom sum set start magnitudes)[place]?.toList := by
  induction magnitudes generalizing set place start with
  | nil => rfl
  | cons magnitude rest ih =>
    unfold slicesFrom
    cases place with
    | zero =>
      have later : (slicesFrom sum (set + 1) (start + 360 * Scalar.ofNat magnitude / Scalar.ofNat sum) rest).filter
          (set + 0 == ·.set) = [] := by
        refine List.filter_eq_nil_iff.mpr fun slice member => ?_
        have bound := le_slicesFrom_set member
        simp only [beq_iff_eq]
        omega
      rw [List.filter_cons_of_pos (by simp), later]
      rfl
    | succ place =>
      have shifted : set + (place + 1) = set + 1 + place := by omega
      rw [List.filter_cons_of_neg (by simp), shifted, ih]
      rfl

theorem Pie.slice_at (hot : Nat) :
    (ofView v).slices.filter (hot == ·.set) = (ofView v).slices[hot]?.toList := by
  have numbered := slicesFrom_at (α := α) (total (magnitudes v.values)) 0 hot (-90) (magnitudes v.values)
  rw [Nat.zero_add] at numbered
  unfold ofView slicesOf
  dsimp only
  split
  · rfl
  · exact numbered

theorem Pie.paint_highlighted [Circular α] (labelWidths : List α) :
    Highlighted (paint { v with hot := none } labelWidths) (paint { v with hot := some hot } labelWidths) (halo v hot)
      [] := by
  have each : ∀ slice, Highlighted (paintSlice { v with hot := none } (ofView v) slice)
      (paintSlice { v with hot := some hot } (ofView v) slice)
      (if hot.set == slice.set then
        [.fillPath (Path.sector (ofView v).center ((ofView v).radius + 1.5) ((ofView v).radius + 10)
          (Circular.toRadians slice.start) (Circular.toRadians slice.sweep)) .nonZero (v.hint slice.set)] else []) [] :=
    fun slice => .kept _ (.inserted _)
  have slices := Highlighted.flatMap_unfilled each (ofView v).visibleSlices
  have hovered : (ofView v).visibleSlices.filter (hot.set == ·.set) =
      ((ofView v).slices[hot.set]?).toList.filter PieSlice.isVisible := by
    rw [visibleSlices, List.filter_comm, slice_at]
  have halos : (((ofView v).slices[hot.set]?).toList.filter PieSlice.isVisible).map (fun slice =>
      DrawCall.fillPath (Path.sector (ofView v).center ((ofView v).radius + 1.5) ((ofView v).radius + 10)
        (Circular.toRadians slice.start) (Circular.toRadians slice.sweep)) .nonZero (v.hint slice.set)) =
      halo v hot := by
    refine List.map_congr_left fun slice member => ?_
    rw [← slice_at, List.mem_filter, List.mem_filter, beq_iff_eq] at member
    rw [member.1.2]
  rw [flatMap_marked, hovered, halos] at slices
  exact (slices.after (separators v (ofView v))).after _

end

namespace View

variable {α M : Type} [Scalar α] [Circular α] [TextMeasurer α M] (v : View α) (kind : Kind) (hot : HotItem)

def halos (g : Grid α) : Picture α :=
  match kind with
  | .pie => Pie.halo v hot
  | .scatter => Scatter.halos v hot g
  | .line stacked | .area stacked => Line.halos v hot g stacked
  | .column _ | .bar _ => []

def fills (g : Grid α) : List (BoxFill α) :=
  match kind with
  | .column stacked | .bar stacked => Column.fills v hot g stacked
  | _ => []

theorem paintBody_highlighted (within : ∀ i, kind = .scatter → hot.index = some i → i ∈ v.values.pairs hot.set)
    (m : M) :
    Highlighted ({ v with hot := none }.paintBody kind m).1 ({ v with hot := some hot }.paintBody kind m).1
      (v.halos kind hot (Grid.layOut v kind m).1) (v.fills kind hot (Grid.layOut v kind m).1) := by
  cases kind with
  | pie => exact Pie.paint_highlighted v hot (Pie.measureLabels v m).1
  | scatter => exact Scatter.paint_highlighted v hot _ fun i => within i rfl
  | line stacked => exact Line.paint_highlighted v hot _ stacked false
  | area stacked => exact Line.paint_highlighted v hot _ stacked true
  | column stacked | bar stacked => exact Column.paint_highlighted v hot _ stacked

-- Under the pointer, a picture gets marks in the hint color of the data set of the item: a ring in the legend, and what
-- its kind adds to the body; and boxes that the item covers are filled in full color. Nothing else is different.
theorem paint_hovered (title : String) (m : M) (counted : v.values.Counted v.data)
    (valid : hot.Within kind v.data) :
    Highlighted ({ v with hot := none }.paint kind title m).1 ({ v with hot := some hot }.paint kind title m).1
      (Legend.halo v hot ++ v.halos kind hot (Grid.layOut v kind m).1) (v.fills kind hot (Grid.layOut v kind m).1) := by
  have within : ∀ i, kind = .scatter → hot.index = some i → i ∈ v.values.pairs hot.set := by
    intro i scatter index
    obtain ⟨d, found, bounds⟩ := valid
    obtain ⟨_, _, pair⟩ := bounds i index
    obtain ⟨even, complete⟩ := pair scatter
    have count := counted.count_eq found
    exact List.mem_map.mpr ⟨i / 2, List.mem_range.mpr (by omega), by omega⟩
  exact ((Legend.paint_highlighted v hot).after (v.paintTitle title)).append (v.paintBody_highlighted kind hot within m)

end View

namespace Demo

def twoPairs : Chart host :=
  { Chart.new (SvgScreen.mk none : host.Service) { kind := .scatter } with
    data := [.ofContents (.stored #[3, 9, 27, 81])] }

theorem secondPair_highlighted :
    let v := twoPairs.view.1
    let m := twoPairs.view.2.measurer
    let hot := HotItem.value 0 2
    v.values.Counted v.data ∧ hot.Within .scatter v.data ∧
      Highlighted ({ v with hot := none }.paint .scatter "" m).1 ({ v with hot := some hot }.paint .scatter "" m).1
        (Legend.halo v hot ++ Scatter.halos v hot (Grid.layOut v .scatter m).1) [] := by
  have counted : twoPairs.view.1.values.Counted twoPairs.view.1.data :=
    Values.collect_counted twoPairs.data twoPairs.supplier
  have valid : (HotItem.value 0 2).Within .scatter twoPairs.view.1.data :=
    ⟨.ofContents (.stored #[3, 9, 27, 81]), rfl, by rintro i ⟨⟩; decide⟩
  exact ⟨counted, valid, twoPairs.view.1.paint_hovered .scatter (.value 0 2) "" _ counted valid⟩

end Demo

end Charting
