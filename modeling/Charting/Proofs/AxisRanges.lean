import Charting.Demo
import Charting.Proofs.NiceNumbers
import Mathlib.Order.Lattice

namespace Charting

-- Whether the shown value is a number of 32 bits.
def Axis.Fits (axis : Axis) (value : Int) : Prop :=
  Nice.lowest ≤ value + axis.offset.toInt ∧ value + axis.offset.toInt ≤ Nice.highest

theorem Axis.fits_zero (axis : Axis) : axis.Fits 0 := by
  have low := axis.offset.le_toInt
  have high := axis.offset.toInt_lt
  unfold Fits Nice.lowest Nice.highest
  omega

namespace Nice

theorem roundWide_displayed (direction : Direction) (axis : Axis) (value : Int) :
    roundWide direction (axis.displayed value) = roundWide direction (value + axis.offset.toInt) := by
  have clamped : clamp (axis.displayed value) = clamp (value + axis.offset.toInt) := by
    unfold clamp Axis.displayed Axis.saturate lowest highest
    omega
  unfold roundWide
  rw [clamped]

end Nice

section

variable {β : Type} [LinearOrder β] (values : List β)

theorem foldl_min_le (least : β) : values.foldl min least ≤ least ∧ ∀ v ∈ values, values.foldl min least ≤ v := by
  induction values generalizing least with
  | nil => exact ⟨le_refl _, fun _ absent => nomatch absent⟩
  | cons head rest ih =>
    obtain ⟨start, tail⟩ := ih (min least head)
    rw [List.foldl_cons]
    refine ⟨start.trans (min_le_left _ _), ?_⟩
    intro v member
    rcases List.mem_cons.mp member with rfl | later
    · exact start.trans (min_le_right _ _)
    · exact tail v later

theorem le_foldl_max (greatest : β) :
    greatest ≤ values.foldl max greatest ∧ ∀ v ∈ values, v ≤ values.foldl max greatest := by
  induction values generalizing greatest with
  | nil => exact ⟨le_refl _, fun _ absent => nomatch absent⟩
  | cons head rest ih =>
    obtain ⟨start, tail⟩ := ih (max greatest head)
    rw [List.foldl_cons]
    refine ⟨(le_max_left _ _).trans start, ?_⟩
    intro v member
    rcases List.mem_cons.mp member with rfl | later
    · exact (le_max_right _ _).trans start
    · exact tail v later

end

namespace AxisRange

def Covers (r : AxisRange) (value : Int) : Prop :=
  r.min ≤ value ∧ value ≤ r.max

def least (values : List Int) : Int :=
  values.foldl Min.min 0

def greatest (values : List Int) : Int :=
  let hi := values.foldl Max.max 0
  if least values = hi then hi + 1 else hi

theorem least_le (values : List Int) : least values ≤ 0 ∧ ∀ v ∈ values, least values ≤ v :=
  foldl_min_le values 0

theorem le_greatest (values : List Int) :
    0 ≤ greatest values ∧ least values < greatest values ∧ ∀ v ∈ values, v ≤ greatest values := by
  have low := (least_le values).1
  have high := le_foldl_max values 0
  unfold greatest
  dsimp only
  split
  · refine ⟨by omega, by omega, ?_⟩
    intro v member
    have below := high.2 v member
    omega
  · exact ⟨high.1, by omega, high.2⟩

-- The two ends are never found in the wrong order, or one on the other.
theorem continuous_eq (axis : Axis) (values : List Int) :
    continuous axis values =
      ⟨.continuous, Nice.roundWide .down (least values + axis.offset.toInt) - axis.offset.toInt,
        Nice.roundWide .up (greatest values + axis.offset.toInt) - axis.offset.toInt⟩ := by
  have apart := Nice.roundWide_apart (Int.add_lt_add_right (le_greatest values).2.1 axis.offset.toInt)
  unfold continuous
  dsimp only
  rw [Nice.roundWide_displayed, Nice.roundWide_displayed]
  change AxisRange.mk _ (Nice.roundWide .down (least values + axis.offset.toInt) - axis.offset.toInt)
    (if Nice.roundWide .up (greatest values + axis.offset.toInt) - axis.offset.toInt ≤
        Nice.roundWide .down (least values + axis.offset.toInt) - axis.offset.toInt then _ else _) = _
  rw [if_neg (by omega)]
  rfl

theorem continuous_covers (axis : Axis) {values : List Int} {value : Int} (member : value ∈ 0 :: values) :
    (continuous axis values).Covers value ↔ axis.Fits value := by
  have between : least values ≤ value ∧ value ≤ greatest values := by
    rcases List.mem_cons.mp member with rfl | scanned
    · exact ⟨(least_le values).1, (le_greatest values).1⟩
    · exact ⟨(least_le values).2 value scanned, (le_greatest values).2.2 value scanned⟩
  have low := Nice.roundWide_down_le_iff (Int.add_le_add_right between.1 axis.offset.toInt)
  have high := Nice.le_roundWide_up_iff (Int.add_le_add_right between.2 axis.offset.toInt)
  rw [continuous_eq]
  unfold Covers Axis.Fits
  dsimp only
  omega

theorem discrete_covers {count i : Nat} (below : i < count) : (discrete count).Covers i := by
  unfold Covers discrete
  dsimp only
  omega

theorem category_covers {count i : Nat} (below : i < count) :
    (category count).Covers i ∧ (category count).Covers (i + 1) := by
  unfold Covers category
  dsimp only
  omega

end AxisRange

namespace Values

variable {values : Values} {set i : Nat}

theorem count_le_maxCount (values : Values) (set : Nat) : values.count set ≤ values.maxCount := by
  unfold count maxCount
  cases found : values[set]? with
  | none => exact Nat.zero_le _
  | some series =>
    have member : series.count ∈ values.map Series.count :=
      List.mem_map.mpr ⟨series, List.mem_of_getElem? found, rfl⟩
    exact (le_foldl_max (values.map Series.count) 0).2 _ member

theorem mem_sets (below : i < values.count set) : set ∈ values.sets := by
  apply List.mem_range.mpr
  apply Nat.lt_of_not_le
  intro beyond
  unfold count at below
  rw [List.getElem?_eq_none beyond] at below
  exact Nat.not_lt_zero i below

theorem value_scanned (below : i < values.count set) : values.value set i ∈ values.heights false := by
  apply List.mem_flatMap.mpr
  exact ⟨set, mem_sets below, List.mem_map.mpr ⟨i, List.mem_range.mpr below, rfl⟩⟩

theorem stacked_scanned (present : set ∈ values.sets) (below : i < values.maxCount) :
    values.stacked set i ∈ values.heights true := by
  apply List.mem_flatMap.mpr
  exact ⟨set, present, List.mem_map.mpr ⟨i, List.mem_range.mpr below, rfl⟩⟩

theorem stackedBelow_scanned (present : set ∈ values.sets) (below : i < values.maxCount) :
    values.stackedBelow set i ∈ 0 :: values.heights true := by
  cases set with
  | zero => exact List.mem_cons_self
  | succ set =>
    have before : set ∈ values.sets := List.mem_range.mpr (Nat.lt_of_succ_lt (List.mem_range.mp present))
    exact List.mem_cons_of_mem 0 (stacked_scanned before below)

theorem level_scanned (stacked : Bool) (below : i < values.count set) :
    Line.level values stacked set i ∈ 0 :: values.heights stacked := by
  apply List.mem_cons_of_mem
  cases stacked with
  | false => exact value_scanned below
  | true => exact stacked_scanned (mem_sets below) (Nat.lt_of_lt_of_le below (values.count_le_maxCount set))

theorem floor_scanned (stacked : Bool) (below : i < values.count set) :
    Line.floor values stacked set i ∈ 0 :: values.heights stacked := by
  cases stacked with
  | false => exact List.mem_cons_self
  | true => exact stackedBelow_scanned (mem_sets below) (Nat.lt_of_lt_of_le below (values.count_le_maxCount set))

theorem mem_sets_of_pair (pair : i ∈ values.pairs set) : set ∈ values.sets := by
  obtain ⟨k, below, _⟩ := List.mem_map.mp pair
  rw [List.mem_range] at below
  exact mem_sets (i := k) (by omega)

theorem pair_scanned (pair : i ∈ values.pairs set) :
    values.value set i ∈ values.abscissas ∧ values.value set (i + 1) ∈ values.ordinates := by
  have present := mem_sets_of_pair pair
  exact ⟨List.mem_flatMap.mpr ⟨set, present, List.mem_map.mpr ⟨i, pair, rfl⟩⟩,
    List.mem_flatMap.mpr ⟨set, present, List.mem_map.mpr ⟨i, pair, rfl⟩⟩⟩

end Values

section

variable {α M : Type} [Scalar α] [TextMeasurer α M]

def GridAxis.Covers (a : GridAxis α) (value : Int) : Prop :=
  a.min ≤ value ∧ value ≤ a.max

namespace Grid

omit [TextMeasurer α M] in
theorem arrange_covers (v : View α) (kind : Kind) (extents : LabelExtents α) (value : Int) :
    let ranges := AxisRange.ofValues kind v.primary v.secondary v.values
    ((arrange v kind extents).primary.Covers value ↔ ranges.1.Covers value) ∧
      ((arrange v kind extents).secondary.Covers value ↔ ranges.2.Covers value) := by
  cases kind <;> exact ⟨Iff.rfl, Iff.rfl⟩

-- Every place and all of its room lie in the range of the axis of places. A value that is mapped to a continuous axis,
-- the end of an area or of a box included, lies in its range if and only if what is shown of it is a number of 32 bits.
theorem layOut_covers (v : View α) (kind : Kind) (m : M) :
    let g := (layOut v kind m).1
    match kind with
    | .pie => True
    | .scatter => ∀ set, ∀ i ∈ v.values.pairs set,
      (g.horizontal.Covers (v.values.value set i) ↔ v.primary.Fits (v.values.value set i)) ∧
        (g.vertical.Covers (v.values.value set (i + 1)) ↔ v.secondary.Fits (v.values.value set (i + 1)))
    | .line stacked | .area stacked => ∀ set i, i < v.values.count set →
      g.primary.Covers i ∧
        (g.secondary.Covers (Line.level v.values stacked set i) ↔
          v.secondary.Fits (Line.level v.values stacked set i)) ∧
        (g.secondary.Covers (Line.floor v.values stacked set i) ↔
          v.secondary.Fits (Line.floor v.values stacked set i))
    | .column stacked | .bar stacked => ∀ set i, i < v.values.count set →
      g.primary.Covers i ∧ g.primary.Covers (i + 1) ∧
        (g.secondary.Covers (Column.base v.values stacked set i) ↔
          v.secondary.Fits (Column.base v.values stacked set i)) ∧
        (g.secondary.Covers (Column.top v.values stacked set i) ↔
          v.secondary.Fits (Column.top v.values stacked set i)) := by
  intro g
  have covers := fun value => arrange_covers v kind (LabelExtents.measure v (GridSides.ofView v kind) m).1 value
  have within := fun set i (below : i < v.values.count set) =>
    Nat.lt_of_lt_of_le below (v.values.count_le_maxCount set)
  cases kind with
  | pie => trivial
  | scatter =>
    intro set i pair
    have scanned := Values.pair_scanned pair
    exact ⟨(covers _).1.trans (AxisRange.continuous_covers _ (List.mem_cons_of_mem 0 scanned.1)),
      (covers _).2.trans (AxisRange.continuous_covers _ (List.mem_cons_of_mem 0 scanned.2))⟩
  | line stacked | area stacked =>
    intro set i below
    exact ⟨(covers _).1.mpr (AxisRange.discrete_covers (within set i below)),
      (covers _).2.trans (AxisRange.continuous_covers _ (Values.level_scanned stacked below)),
      (covers _).2.trans (AxisRange.continuous_covers _ (Values.floor_scanned stacked below))⟩
  | column stacked | bar stacked =>
    intro set i below
    have place := AxisRange.category_covers (within set i below)
    exact ⟨(covers _).1.mpr place.1, (covers _).1.mpr place.2,
      (covers _).2.trans (AxisRange.continuous_covers _ (Values.floor_scanned stacked below)),
      (covers _).2.trans (AxisRange.continuous_covers _ (Values.level_scanned stacked below))⟩

end Grid

end

namespace Demo

def heap : Chart host :=
  { Chart.new (SvgScreen.mk none : host.Service) { kind := .column true } with
    data := [.ofContents (.stored #[2000000000]), .ofContents (.stored #[2000000000])] }

theorem heap_uncovered :
    ∃ g, heap.grid.1 = some g ∧
      Column.top heap.view.1.values true 1 0 = 4000000000 ∧ g.secondary.max = 2147483647 ∧
        ¬g.secondary.Covers (Column.top heap.view.1.values true 1 0) := by
  refine ⟨_, rfl, by decide, by decide, ?_⟩
  intro covered
  exact absurd covered.2 (by decide)

end Demo

end Charting
