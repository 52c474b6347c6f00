import Charting.Proofs.WellFormed
import Charting.Proofs.WordGrid

namespace Charting

open Word

namespace Word

def subtract? (a b : Nat) : Option Nat :=
  if b ≤ a then some (a - b) else none

def log2? (n : Nat) : Option Nat :=
  if n = 0 then none else some n.log2

end Word

variable {α : Type}

namespace Color

variable [Scalar α]

def sequenceHue? (index : Nat) : Option α :=
  if index < 3 then some (120 * Scalar.ofNat index)
  else do
    let base ← unsigned? (3 * Nat.pow 2 (← log2? (index / 3)))
    let i ← subtract? index base
    return 180 / Scalar.ofNat base + Scalar.ofNat (i / 3) * (360 / Scalar.ofNat base) + Scalar.ofNat (i % 3) * 120

theorem roundBase_le {index : Nat} (later : 3 ≤ index) : roundBase index ≤ index := by
  have below := Nat.log2_self_le (show index / 3 ≠ 0 by omega)
  change 3 * 2 ^ (index / 3).log2 ≤ index
  omega

theorem sequenceHue?_eq {index : Nat} (few : index < 2 ^ 31) :
    sequenceHue? (α := α) index = some (sequenceHue index) := by
  unfold sequenceHue? sequenceHue
  split
  · rfl
  · rename_i later
    have below := roundBase_le (Nat.not_lt.mp later)
    have log : log2? (index / 3) = some (index / 3).log2 := if_neg (by omega)
    have base : unsigned? (3 * Nat.pow 2 (index / 3).log2) = some (roundBase index) :=
      unsigned?_eq (below.trans (by omega))
    have left : subtract? index (roundBase index) = some (index - roundBase index) := if_pos below
    simp only [log, base, left, Option.bind_eq_bind, Option.bind_some]
    rfl

end Color

namespace Values

def level? (v : Values) (stacked : Bool) (set i : Nat) : Option Int :=
  if stacked then v.stacked? set i else some (v.value set i)

def floor? (v : Values) (stacked : Bool) (set i : Nat) : Option Int :=
  if stacked then v.stackedBelow? set i else some 0

theorem Bounded.level?_eq {v : Values} (bounded : v.Bounded) (stacked : Bool) (set i : Nat) :
    v.level? stacked set i = some (Line.level v stacked set i) := by
  cases stacked with
  | false => rfl
  | true => exact bounded.stacked?_eq set i

theorem Bounded.floor?_eq {v : Values} (bounded : v.Bounded) (stacked : Bool) (set i : Nat) :
    v.floor? stacked set i = some (Line.floor v stacked set i) := by
  cases stacked with
  | false => rfl
  | true => exact bounded.stackedBelow?_eq set i

end Values

variable {v : View α}

section

variable [Scalar α]

namespace Column

def sides? (values : Values) (stacked : Bool) (set index : Nat) : Option (α × α) :=
  let group := Scalar.ofNat index + groupPadding
  if stacked then some (group, group + groupWidth)
  else do
    let width := groupWidth / Scalar.ofNat values.length
    return (group + Scalar.ofNat set * width, group + Scalar.ofNat (← unsigned? (set + 1)) * width)

def box? (v : View α) (g : Grid α) (stacked : Bool) (set index : Nat) : Option (ColumnBox α) := do
  let (near, far) ← sides? v.values stacked set index
  let foot : α := Scalar.ofInt (← v.values.floor? stacked set index)
  let head : α := Scalar.ofInt (← v.values.level? stacked set index)
  return { set, index
           rect := Rect.spanning (g.point near foot) (g.point far head)
           border := [g.point near foot, g.point near head, g.point far head, g.point far foot] }

def boxes? (v : View α) (g : Grid α) (stacked : Bool) : Option (List (ColumnBox α)) := do
  let groups ← (List.range v.values.maxCount).mapM fun index =>
    (setsAt v.values index).mapM fun set => box? v g stacked set index
  return groups.flatten

theorem sides?_eq (values : Values) (stacked : Bool) {set : Nat} (few : set < 2 ^ 31) (index : Nat) :
    sides? (α := α) values stacked set index = some (sides values stacked set index) := by
  unfold sides? sides
  cases stacked with
  | true => rfl
  | false =>
    rw [unsigned?_eq (by omega)]
    rfl

theorem box?_eq (bounded : v.Bounded) (g : Grid α) (stacked : Bool) {set : Nat} (few : set < 2 ^ 31) (index : Nat) :
    box? v g stacked set index = some (box v g stacked set index) := by
  unfold box?
  simp only [sides?_eq v.values stacked few, bounded.values.floor?_eq, bounded.values.level?_eq, Option.bind_eq_bind,
    Option.bind_some]
  rfl

theorem boxes?_eq (bounded : v.Bounded) (g : Grid α) (stacked : Bool) :
    boxes? v g stacked = some (boxes v g stacked) := by
  have sets := bounded.values.sets
  have groups : (List.range v.values.maxCount).mapM (fun index =>
      (setsAt v.values index).mapM fun set => box? v g stacked set index) =
      some ((List.range v.values.maxCount).map fun index =>
        (setsAt v.values index).map fun set => box v g stacked set index) := by
    apply mapM_eq
    intro index _
    apply mapM_eq
    intro set member
    have present := List.mem_range.mp (List.mem_of_mem_filter member)
    exact box?_eq bounded g stacked (by omega) index
  unfold boxes?
  rw [groups]
  rfl

end Column

namespace Line

def vertexPoint? (v : View α) (g : Grid α) (stacked : Bool) (set i : Nat) : Option (Point α) := do
  return g.point (Scalar.ofNat i) (Scalar.ofInt (← v.values.level? stacked set i))

def floorPoint? (v : View α) (g : Grid α) (stacked : Bool) (set i : Nat) : Option (Point α) := do
  return g.point (Scalar.ofNat i) (Scalar.ofInt (← v.values.floor? stacked set i))

theorem vertexPoint?_eq (bounded : v.Bounded) (g : Grid α) (stacked : Bool) (set i : Nat) :
    vertexPoint? v g stacked set i = some (vertexPoint v g stacked set i) := by
  unfold vertexPoint?
  rw [bounded.values.level?_eq]
  rfl

theorem floorPoint?_eq (bounded : v.Bounded) (g : Grid α) (stacked : Bool) (set i : Nat) :
    floorPoint? v g stacked set i = some (floorPoint v g stacked set i) := by
  unfold floorPoint?
  rw [bounded.values.floor?_eq]
  rfl

end Line

namespace Scatter

def points? (v : View α) (g : Grid α) (set : Nat) : Option (List (Point α)) := do
  (← v.values.pairs? set).mapM fun i => do
    return g.point (Scalar.ofInt (v.values.value set i)) (Scalar.ofInt (v.values.value set (← unsigned? (i + 1))))

theorem points?_eq (bounded : v.Bounded) (g : Grid α) (set : Nat) :
    points? v g set = some ((v.values.pairs set).map (pairPoint v g set)) := by
  unfold points?
  rw [bounded.values.pairs?_eq, Option.bind_eq_bind, Option.bind_some]
  apply mapM_eq
  intro i pair
  have room := bounded.values.pair_lt pair
  rw [unsigned?_eq (by omega)]
  rfl

end Scatter

namespace Pie

def slices? (values : Values) : Option (List (PieSlice α)) := do
  let magnitudes ← magnitudes? values
  let sum ← total? magnitudes
  return if sum = 0 then [] else slicesFrom sum 0 (-90) magnitudes

theorem slices?_eq {values : Values} (bounded : values.Bounded) :
    slices? (α := α) values = some (slicesOf (magnitudes values)) := by
  unfold slices?
  simp only [magnitudes?_eq, total?_eq bounded, Option.bind_eq_bind, Option.bind_some]
  rfl

end Pie

end

namespace Pie

def labelText? (v : View α) (set : Nat) : Option String := do
  v.format? .primary (← natural? (v.values.value set 0).natAbs)

theorem labelText?_eq (bounded : v.Bounded) (slice : PieSlice α) :
    labelText? v slice.set = some (labelText v slice) := by
  have between := v.values.value_between slice.set 0
  unfold labelText?
  rw [natural?_eq (by omega)]
  apply bounded.format?_eq
  unfold Modest
  omega

end Pie

namespace View

def valueText? (v : View α) (kind : Kind) (set i : Nat) : Option String :=
  match kind with
  | .pie => v.format? .primary (v.values.value set i)
  | .scatter => do
    return (← v.format? .primary (v.values.value set i)) ++ " / "
      ++ (← v.format? .secondary (v.values.value set (← unsigned? (i + 1))))
  | _ => v.format? .secondary (v.values.value set i)

theorem valueText?_eq (bounded : v.Bounded) (kind : Kind) (set : Nat) {i : Nat} (within : i < 2 ^ 62) :
    v.tooltipText kind (.value set i) = v.valueText? kind set i := by
  have text := fun selector i => bounded.format?_eq selector (v.values.value_modest set i)
  cases kind with
  | pie => exact (text .primary i).symm
  | scatter =>
    simp only [valueText?, unsigned?_eq (show i + 1 ≤ 18446744073709551615 by omega), text, Option.bind_eq_bind,
      Option.bind_some]
    rfl
  | line | area | column | bar => exact (text .secondary i).symm

end View

-- All that a view is laid out, drawn, hit-tested and labelled with has a result in words of 64 bits, and this is the
-- result without them. No sum and no product fills a word on the way there, no shown value is cut off at a bound, and
-- nothing is divided by zero.
structure View.InWords [Scalar α] (v : View α) : Prop where
  sums : ∀ set i, v.values.stackedBelow? set i = some (v.values.stackedBelow set i)
  ranges : ∀ kind, AxisRange.ofValues? kind v.primary v.secondary v.values =
    some (AxisRange.ofValues kind v.primary v.secondary v.values)
  ends : ∀ kind, let sides := GridSides.ofView v kind
    ∀ side ∈ [sides.horizontal, sides.vertical], Grid.endTexts? v side =
      some (v.format side.selector side.range.min, v.format side.selector side.range.last)
  grids : ∀ kind extents, Grid.arrange? v kind extents = some (Grid.arrange v kind extents)
  ticks : ∀ kind extents, let g := Grid.arrange v kind extents
    ∀ axis ∈ [g.horizontal, g.vertical], axis.ticks? = some axis.ticks
  boxes : ∀ g stacked, Column.boxes? v g stacked = some (Column.boxes v g stacked)
  vertices : ∀ g stacked set i, Line.vertexPoint? v g stacked set i = some (Line.vertexPoint v g stacked set i)
  floors : ∀ g stacked set i, Line.floorPoint? v g stacked set i = some (Line.floorPoint v g stacked set i)
  dots : ∀ g set, Scatter.points? v g set = some ((v.values.pairs set).map (Scatter.pairPoint v g set))
  slices : Pie.slices? (α := α) v.values = some (Pie.slicesOf (Pie.magnitudes v.values))
  sliceLabels : ∀ slice, Pie.labelText? v slice.set = some (Pie.labelText v slice)
  tooltips : ∀ kind set i, i < v.values.count set → v.tooltipText kind (.value set i) = v.valueText? kind set i
  hues : ∀ set < v.values.length, Color.sequenceHue? (α := α) set = some (Color.sequenceHue set)

theorem View.Bounded.inWords [Scalar α] (bounded : v.Bounded) : v.InWords where
  sums := bounded.values.stackedBelow?_eq
  ranges kind := AxisRange.ofValues?_eq kind v.primary v.secondary bounded.values
  ends kind := by
    have sound := GridSides.ofView_sound v kind
    have near := GridSides.ofView_near bounded kind
    intro sides side member
    rcases List.mem_pair.mp member with rfl | rfl
    · exact Grid.endTexts?_eq bounded sound.1 near.1
    · exact Grid.endTexts?_eq bounded sound.2 near.2
  grids := Grid.arrange?_eq bounded
  ticks kind extents := by
    have roomy := Grid.arrange_roomy bounded kind extents
    intro g axis member
    rcases List.mem_pair.mp member with rfl | rfl
    · exact roomy.1.ticks?_eq
    · exact roomy.2.ticks?_eq
  boxes := Column.boxes?_eq bounded
  vertices := Line.vertexPoint?_eq bounded
  floors := Line.floorPoint?_eq bounded
  dots := Scatter.points?_eq bounded
  slices := Pie.slices?_eq bounded.values
  sliceLabels := Pie.labelText?_eq bounded
  tooltips kind set i there := View.valueText?_eq bounded kind set (there.trans (bounded.values.count_lt set))
  hues set present := Color.sequenceHue?_eq (present.trans bounded.values.sets)

theorem Values.Counted.bounded {values : Values} {data : List DataSet} (counted : values.Counted data)
    (sets : data.length < 2 ^ 31) (counts : ∀ d ∈ data, d.count < 2 ^ 62) : values.Bounded where
  sets := by rwa [counted.length]
  counts := by
    intro series member
    have listed : series.count ∈ data.map DataSet.count := by
      rw [← counted]
      exact List.mem_map_of_mem member
    obtain ⟨d, present, same⟩ := List.mem_map.mp listed
    rw [← same]
    exact counts d present

namespace Chart

variable {H : Host}

-- Whatever has been done to a chart, whatever its data sets hold or are supplied with, and however its axes are shifted
-- and scaled: as long as it has fewer than 2 ^ 31 data sets of fewer than 2 ^ 62 values, words of 64 bits are enough.
theorem run_inWords (service : H.Service) (style : ChartStyle) (config : Config H.Length) (ops : List (Operation H))
    (sets : ((withConfig service style config).run ops).data.length < 2 ^ 31)
    (counts : ∀ d ∈ ((withConfig service style config).run ops).data, d.count < 2 ^ 62) :
    ((withConfig service style config).run ops).view.1.InWords := by
  have sound := (run_wellFormed service style config ops).toSound
  generalize (withConfig service style config).run ops = c at sets counts sound ⊢
  have counted : c.view.1.values.Counted c.data := Values.collect_counted c.data _
  exact View.Bounded.inWords ⟨counted.bounded sets counts, sound.axes⟩

end Chart

namespace Demo

def edgeEdits : List (Operation host) :=
  [.insertDataSet 0 (.stored #[-2147483648, 2147483647]), .insertDataSet 1 (.stored #[-2147483648, 2147483647]),
    .setOffset .secondary (-2147483648), .setExponent .secondary (-9)]

def edge : Chart host :=
  (Chart.withConfig (SvgScreen.mk none : host.Service) { kind := .column true } .standard).run edgeEdits

theorem edge_inWords :
    edge.data.length < 2 ^ 31 ∧ (∀ d ∈ edge.data, d.count < 2 ^ 62) ∧ edge.view.1.InWords ∧
      edge.view.1.values.stackedBelow? 2 0 = some (-4294967296) ∧
      edge.secondary.displayed? (-4294967296) = some (-6442450944) := by
  have sets : edge.data.length < 2 ^ 31 := by decide
  have counts : ∀ d ∈ edge.data, d.count < 2 ^ 62 := by decide
  exact ⟨sets, counts, Chart.run_inWords _ { kind := .column true } .standard edgeEdits sets counts, by decide, by decide⟩

end Demo

end Charting
