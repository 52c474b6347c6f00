import Charting.Proofs.TightRounding
import Charting.Proofs.Words

namespace Charting

open Word

namespace Nice

def roundWide? (direction : Direction) (value : Int) : Option Int :=
  walk? direction (clamp value)

theorem roundWide?_eq (direction : Direction) (value : Int) :
    roundWide? direction value = some (roundWide direction value) :=
  walk?_eq direction (clamp value)

theorem clamp_saturate (value : Int) : clamp (Axis.saturate value) = clamp value := by
  unfold clamp Axis.saturate lowest highest
  omega

end Nice

namespace Values

variable {v : Values}

def abscissas? (v : Values) : Option (List Int) := do
  let lists ← v.sets.mapM fun set => do return (← v.pairs? set).map (v.value set)
  return lists.flatten

def ordinates? (v : Values) : Option (List Int) := do
  let lists ← v.sets.mapM fun set => do
    (← v.pairs? set).mapM fun i => do return v.value set (← unsigned? (i + 1))
  return lists.flatten

def heights? (v : Values) (stacked : Bool) : Option (List Int) := do
  let lists ← v.sets.mapM fun set =>
    if stacked then (List.range v.maxCount).mapM (v.stacked? set)
    else some ((List.range (v.count set)).map (v.value set))
  return lists.flatten

theorem Bounded.pair_lt (bounded : v.Bounded) {set i : Nat} (pair : i ∈ v.pairs set) : i + 1 < 2 ^ 62 := by
  have count := bounded.count_lt set
  obtain ⟨k, below, rfl⟩ := List.mem_map.mp pair
  rw [List.mem_range] at below
  omega

theorem Bounded.abscissas?_eq (bounded : v.Bounded) : v.abscissas? = some v.abscissas := by
  have lists : v.sets.mapM (fun set => do return (← v.pairs? set).map (v.value set)) =
      some (v.sets.map fun set => (v.pairs set).map (v.value set)) := by
    apply mapM_eq
    intro set _
    rw [bounded.pairs?_eq]
    rfl
  unfold abscissas?
  rw [lists]
  rfl

theorem Bounded.ordinates?_eq (bounded : v.Bounded) : v.ordinates? = some v.ordinates := by
  have lists : v.sets.mapM (fun set => do
      (← v.pairs? set).mapM fun i => do return v.value set (← unsigned? (i + 1))) =
      some (v.sets.map fun set => (v.pairs set).map fun i => v.value set (i + 1)) := by
    apply mapM_eq
    intro set _
    rw [bounded.pairs?_eq, Option.bind_eq_bind, Option.bind_some]
    apply mapM_eq
    intro i pair
    have room := bounded.pair_lt pair
    rw [unsigned?_eq (by omega)]
    rfl
  unfold ordinates?
  rw [lists]
  rfl

theorem Bounded.heights?_eq (bounded : v.Bounded) (stacked : Bool) : v.heights? stacked = some (v.heights stacked) := by
  have lists : v.sets.mapM (fun set =>
      if stacked then (List.range v.maxCount).mapM (v.stacked? set)
      else some ((List.range (v.count set)).map (v.value set))) =
      some (v.sets.map fun set =>
        if stacked then (List.range v.maxCount).map (v.stacked set)
        else (List.range (v.count set)).map (v.value set)) := by
    apply mapM_eq
    intro set _
    split
    · exact mapM_eq fun i _ => bounded.stacked?_eq set i
    · rfl
  unfold heights?
  rw [lists]
  rfl

theorem abscissas_modest : ∀ value ∈ v.abscissas, Modest value := by
  intro value member
  obtain ⟨set, _, there⟩ := List.mem_flatMap.mp member
  obtain ⟨i, _, rfl⟩ := List.mem_map.mp there
  exact v.value_modest set i

theorem ordinates_modest : ∀ value ∈ v.ordinates, Modest value := by
  intro value member
  obtain ⟨set, _, there⟩ := List.mem_flatMap.mp member
  obtain ⟨i, _, rfl⟩ := List.mem_map.mp there
  exact v.value_modest set (i + 1)

theorem Bounded.heights_modest (bounded : v.Bounded) (stacked : Bool) : ∀ value ∈ v.heights stacked, Modest value := by
  intro value member
  obtain ⟨set, _, there⟩ := List.mem_flatMap.mp member
  split at there
  · obtain ⟨i, _, rfl⟩ := List.mem_map.mp there
    exact bounded.stacked_modest set i
  · obtain ⟨i, _, rfl⟩ := List.mem_map.mp there
    exact v.value_modest set i

end Values

namespace AxisRange

def roundedEnd? (axis : Axis) (direction : Direction) (value : Int) : Option Int := do
  signed? ((← Nice.roundWide? direction (← axis.displayed? value)) - axis.offset.toInt)

def continuous? (axis : Axis) (values : List Int) : Option AxisRange := do
  let lo := values.foldl Min.min 0
  let hi := values.foldl Max.max 0
  let hi ← (if lo = hi then signed? (hi + 1) else some hi)
  let min ← roundedEnd? axis .down lo
  let max ← roundedEnd? axis .up hi
  let max ← (if max ≤ min then signed? (min + 1) else some max)
  return ⟨.continuous, min, max⟩

def discrete? (count : Nat) : Option AxisRange := do
  return ⟨.discrete, 0, Max.max (← signed? ((← natural? count) - 1)) 1⟩

def category? (count : Nat) : Option AxisRange := do
  return ⟨.category, 0, Max.max (← natural? count) 1⟩

def ofValues? (kind : Kind) (primary secondary : Axis) (v : Values) : Option (AxisRange × AxisRange) :=
  match kind with
  | .scatter => do return (← continuous? primary (← v.abscissas?), ← continuous? secondary (← v.ordinates?))
  | .column stacked | .bar stacked => do
    return (← category? v.maxCount, ← continuous? secondary (← v.heights? stacked))
  | _ => do return (← discrete? v.maxCount, ← continuous? secondary (← v.heights? kind.isStacked))

def last? (r : AxisRange) : Option Int :=
  match r.kind with
  | .category => do return Max.max (← signed? (r.max - 1)) r.min
  | _ => some r.max

def extent? (r : AxisRange) : Option Int :=
  signed? (r.max - r.min)

theorem rounded_between (direction : Direction) (value : Int) :
    -2147483648 ≤ Nice.roundWide direction value ∧ Nice.roundWide direction value ≤ 2147483647 := by
  have bounds : Nice.lowest = -2147483648 ∧ Nice.highest = 2147483647 ∧ Nice.top = 2000000000 := ⟨rfl, rfl, rfl⟩
  cases direction with
  | down =>
    have between := Nice.roundWide_down_between value
    omega
  | up =>
    have between := Nice.roundWide_up_between value
    omega

theorem roundedEnd?_eq {axis : Axis} (direction : Direction) {value : Int} (modest : Modest value) :
    roundedEnd? axis direction value =
      some (Nice.roundWide direction (axis.displayed value) - axis.offset.toInt) := by
  have rounded := rounded_between direction (axis.displayed value)
  have offset := axis.offset_between
  unfold roundedEnd?
  simp only [Axis.displayed?_eq modest, Nice.roundWide?_eq, Option.bind_eq_bind, Option.bind_some]
  exact signed?_eq (by omega) (by omega)

theorem continuous?_eq (axis : Axis) {values : List Int} (modest : ∀ value ∈ values, Modest value) :
    continuous? axis values = some (continuous axis values) := by
  have all : ∀ value ∈ 0 :: values, Modest value := List.forall_mem_cons.mpr ⟨Nat.zero_le _, modest⟩
  have low : Modest (values.foldl Min.min 0) := all _ (least_isLeast values).1
  have high : Modest (values.foldl Max.max 0) := all _ (foldl_max_isGreatest values).1
  have around := (least_le values).1
  have beyond := (le_foldl_max values 0).1
  change values.foldl Min.min 0 ≤ 0 at around
  unfold continuous? continuous
  dsimp only
  generalize values.foldl Min.min 0 = lo at *
  generalize values.foldl Max.max 0 = hi at *
  -- The two are one and the same only at zero.
  have widened : (if lo = hi then signed? (hi + 1) else some hi) = some (if lo = hi then hi + 1 else hi) := by
    split
    · exact signed?_eq (by omega) (by omega)
    · rfl
  have wide : Modest (if lo = hi then hi + 1 else hi) := by
    unfold Modest at high ⊢
    split <;> omega
  rw [widened, Option.bind_eq_bind, Option.bind_some, roundedEnd?_eq .down low, Option.bind_some,
    roundedEnd?_eq .up wide, Option.bind_some]
  have bottom := rounded_between .down (axis.displayed lo)
  have offset := axis.offset_between
  generalize Nice.roundWide .up _ - axis.offset.toInt = max
  have raised : ∀ min, -(2 ^ 32) ≤ min → min ≤ 2 ^ 32 →
      (if max ≤ min then signed? (min + 1) else some max) = some (if max ≤ min then min + 1 else max) := by
    intro min low high
    split
    · exact signed?_eq (by omega) (by omega)
    · rfl
  rw [raised _ (by omega) (by omega)]
  rfl

theorem discrete?_eq {count : Nat} (fewer : count < 2 ^ 62) : discrete? count = some (discrete count) := by
  unfold discrete?
  rw [natural?_eq (by omega), Option.bind_eq_bind, Option.bind_some, signed?_eq (by omega) (by omega)]
  rfl

theorem category?_eq {count : Nat} (fewer : count < 2 ^ 62) : category? count = some (category count) := by
  unfold category?
  rw [natural?_eq (by omega)]
  rfl

theorem ofValues?_eq (kind : Kind) (primary secondary : Axis) {v : Values} (bounded : v.Bounded) :
    ofValues? kind primary secondary v = some (ofValues kind primary secondary v) := by
  have count := bounded.maxCount_lt
  have heights := fun stacked => continuous?_eq secondary (bounded.heights_modest stacked)
  cases kind with
  | scatter =>
    simp only [ofValues?, bounded.abscissas?_eq, bounded.ordinates?_eq, Option.bind_eq_bind, Option.bind_some,
      continuous?_eq primary Values.abscissas_modest, continuous?_eq secondary Values.ordinates_modest]
    rfl
  | column stacked | bar stacked =>
    simp only [ofValues?, category?_eq count, bounded.heights?_eq, Option.bind_eq_bind, Option.bind_some, heights]
    rfl
  | pie | line stacked | area stacked =>
    simp only [ofValues?, discrete?_eq count, bounded.heights?_eq, Option.bind_eq_bind, Option.bind_some, heights]
    rfl

-- How far the ends of a range can be from zero. The lower one is a number of 32 bits less an offset of 32 bits; the
-- upper one may be a number of values.
structure Near (r : AxisRange) : Prop where
  low : -(2 ^ 32) ≤ r.min
  high : r.max ≤ 2 ^ 62

theorem continuous_near (axis : Axis) (values : List Int) : (continuous axis values).Near := by
  have low := rounded_between .down (least values + axis.offset.toInt)
  have high := rounded_between .up (greatest values + axis.offset.toInt)
  have offset := axis.offset_between
  rw [continuous_eq]
  constructor
  · dsimp only
    omega
  · dsimp only
    omega

theorem discrete_near {count : Nat} (fewer : count < 2 ^ 62) : (discrete count).Near := by
  unfold discrete
  constructor
  · dsimp only
    omega
  · dsimp only
    omega

theorem category_near {count : Nat} (fewer : count < 2 ^ 62) : (category count).Near := by
  unfold category
  constructor
  · dsimp only
    omega
  · dsimp only
    omega

theorem ofValues_near (kind : Kind) (primary secondary : Axis) {v : Values} (bounded : v.Bounded) :
    (ofValues kind primary secondary v).1.Near ∧ (ofValues kind primary secondary v).2.Near := by
  have count := bounded.maxCount_lt
  cases kind with
  | scatter => exact ⟨continuous_near primary _, continuous_near secondary _⟩
  | column stacked | bar stacked => exact ⟨category_near count, continuous_near secondary _⟩
  | pie | line stacked | area stacked => exact ⟨discrete_near count, continuous_near secondary _⟩

variable {r : AxisRange}

theorem Near.min_modest (near : r.Near) (ordered : r.min < r.max) : Modest r.min := by
  have low := near.low
  have high := near.high
  unfold Modest
  omega

theorem Near.last_modest (near : r.Near) (ordered : r.min < r.max) : Modest r.last := by
  have low := near.low
  have high := near.high
  unfold Modest last
  split <;> omega

theorem Near.last?_eq (near : r.Near) (ordered : r.min < r.max) : r.last? = some r.last := by
  have low := near.low
  have high := near.high
  unfold last? last
  cases r.kind with
  | category =>
    dsimp only
    rw [signed?_eq (by omega) (by omega)]
    rfl
  | continuous | discrete => rfl

theorem Near.extent?_eq (near : r.Near) (ordered : r.min < r.max) : r.extent? = some (r.max - r.min) := by
  have low := near.low
  have high := near.high
  exact signed?_eq (by omega) (by omega)

end AxisRange

end Charting
