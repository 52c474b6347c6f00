import Charting.Plot
import Charting.Scalar.Exact
import Mathlib.Algebra.BigOperators.Group.List.Basic
import Mathlib.Data.Rat.Floor
import Mathlib.Data.List.Chain
import Mathlib.Data.List.Range
import Mathlib.Data.Nat.SuccPred
import Mathlib.Order.SuccPred.IntervalSucc
import Mathlib.Tactic.FieldSimp
import Mathlib.Tactic.Linarith
import Mathlib.Tactic.NormNum

namespace Charting

namespace Scalar

variable {a m : Rat}

theorem modulo_eq {b : Rat} (turns : Int) (low : 0 ≤ b) (high : b < m) (same : a = b + m * turns) :
    Scalar.modulo a m = b := by
  have positive : 0 < m := low.trans_lt high
  have whole : ⌊a / m⌋ = turns := by
    apply Int.floor_eq_iff.mpr
    rw [same, add_div, mul_div_cancel_left₀ _ positive.ne']
    have above := div_nonneg low positive.le
    have below := (div_lt_one positive).mpr high
    constructor <;> linarith
  change a - m * (⌊a / m⌋ : Int) = b
  rw [whole, same]
  ring

theorem exists_turns (a : Rat) (positive : 0 < m) :
    ∃ turns : Int, a = Scalar.modulo a m + m * turns ∧ 0 ≤ Scalar.modulo a m ∧ Scalar.modulo a m < m := by
  have low := (le_div_iff₀ positive).mp (Int.floor_le (a / m))
  have high := (div_lt_iff₀ positive).mp (Int.lt_floor_add_one (a / m))
  refine ⟨⌊a / m⌋, ?_⟩
  change a = a - m * (⌊a / m⌋ : Int) + _ ∧ 0 ≤ a - m * (⌊a / m⌋ : Int) ∧ a - m * (⌊a / m⌋ : Int) < m
  refine ⟨by ring, by linarith, by linarith⟩

end Scalar

namespace Pie

def fromTop (angle : Rat) : Rat :=
  Scalar.modulo (angle + 90) 360

theorem fromTop_turns (angle : Rat) :
    ∃ turns : Int, angle + 90 = fromTop angle + 360 * turns ∧ 0 ≤ fromTop angle ∧ fromTop angle < 360 :=
  Scalar.exists_turns (angle + 90) (by norm_num)

section

variable (magnitudes : List Nat)

def reach (sets : Nat) : Rat :=
  360 * (magnitudes.take sets).sum / magnitudes.sum

def share (set : Nat) : Set Rat :=
  Set.Ico (reach magnitudes set) (reach magnitudes (set + 1))

def shareSlice (set : Nat) : PieSlice Rat :=
  ⟨set, reach magnitudes set - 90, reach magnitudes (set + 1) - reach magnitudes set⟩

theorem reach_zero : reach magnitudes 0 = 0 := by
  simp [reach]

theorem reach_succ {set : Nat} (present : set < magnitudes.length) :
    reach magnitudes (set + 1) = reach magnitudes set + 360 * magnitudes[set] / magnitudes.sum := by
  unfold reach
  rw [List.sum_take_succ magnitudes set present, Nat.cast_add]
  ring

theorem reach_beyond {sets : Nat} (beyond : magnitudes.length ≤ sets) :
    reach magnitudes sets = reach magnitudes magnitudes.length := by
  unfold reach
  rw [List.take_of_length_le beyond, List.take_length]

theorem reach_mono : Monotone (reach magnitudes) := by
  apply monotone_nat_of_le_succ
  intro set
  by_cases present : set < magnitudes.length
  · rw [reach_succ magnitudes present]
    exact le_add_of_nonneg_right (by positivity)
  · have beyond := Nat.le_of_not_lt present
    rw [reach_beyond magnitudes beyond, reach_beyond magnitudes (Nat.le_succ_of_le beyond)]

variable {magnitudes} (filled : magnitudes.sum ≠ 0)

include filled

theorem reach_length : reach magnitudes magnitudes.length = 360 := by
  unfold reach
  rw [List.take_length]
  field_simp

theorem reach_le (sets : Nat) : reach magnitudes sets ≤ 360 := by
  rw [← reach_length filled]
  rcases Nat.le_total sets magnitudes.length with within | beyond
  · exact reach_mono magnitudes within
  · exact (reach_beyond magnitudes beyond).le

omit filled in
theorem share_present {set : Nat} {direction : Rat} (inside : direction ∈ share magnitudes set) :
    set < magnitudes.length := by
  by_contra absent
  have beyond := Nat.le_of_not_lt absent
  have less : reach magnitudes set < reach magnitudes (set + 1) := inside.1.trans_lt inside.2
  rw [reach_beyond magnitudes beyond, reach_beyond magnitudes (Nat.le_succ_of_le beyond)] at less
  exact lt_irrefl _ less

omit filled in
theorem share_visible {set : Nat} {direction : Rat} (inside : direction ∈ share magnitudes set) :
    (shareSlice magnitudes set).isVisible = true :=
  decide_eq_true (sub_pos.mpr (inside.1.trans_lt inside.2))

-- A slice covers the angles in the directions of its share, whichever of the angles of a direction it is asked for.
theorem covers_iff (set : Nat) (angle : Rat) :
    (shareSlice magnitudes set).covers angle = true ↔ fromTop angle ∈ share magnitudes set := by
  obtain ⟨turns, same, low, high⟩ := fromTop_turns angle
  have start : 0 ≤ reach magnitudes set := reach_zero magnitudes ▸ reach_mono magnitudes (Nat.zero_le set)
  have stop := reach_le filled (set + 1)
  have near := reach_le filled set
  have reading : (shareSlice magnitudes set).covers angle = true ↔
      Scalar.modulo (angle - (reach magnitudes set - 90)) 360 < reach magnitudes (set + 1) - reach magnitudes set :=
    decide_eq_true_iff
  rw [reading, share, Set.mem_Ico]
  by_cases reached : reach magnitudes set ≤ fromTop angle
  · rw [Scalar.modulo_eq turns (b := fromTop angle - reach magnitudes set) (by linarith) (by linarith) (by linarith)]
    constructor
    · intro inside
      exact ⟨reached, by linarith⟩
    · rintro ⟨_, inside⟩
      linarith
  · -- Before its start, a slice would have to reach over the top, where the last one ends.
    rw [Scalar.modulo_eq (turns - 1) (b := fromTop angle - reach magnitudes set + 360) (by linarith) (by linarith)
      (by push_cast; linarith)]
    constructor
    · intro inside
      linarith
    · rintro ⟨inside, _⟩
      exact absurd inside reached

theorem existsUnique_share (angle : Rat) : ∃! set, fromTop angle ∈ share magnitudes set := by
  obtain ⟨_, _, low, high⟩ := fromTop_turns angle
  have passed : ∃ sets, fromTop angle < reach magnitudes sets := ⟨magnitudes.length, by rwa [reach_length filled]⟩
  obtain ⟨set, last⟩ : ∃ set, Nat.find passed = set + 1 := by
    apply Nat.exists_eq_succ_of_ne_zero
    intro first
    have beyond := Nat.find_spec passed
    rw [first, reach_zero] at beyond
    linarith
  have reached : reach magnitudes set ≤ fromTop angle := not_lt.mp (Nat.find_min passed (by omega))
  have ended := Nat.find_spec passed
  rw [last] at ended
  refine ⟨set, ⟨reached, ended⟩, ?_⟩
  intro other inside
  by_contra apart
  have disjoint := (reach_mono magnitudes).pairwise_disjoint_on_Ico_succ apart
  exact Set.disjoint_left.mp disjoint inside ⟨reached, ended⟩

omit filled

theorem slicesFrom_getElem? (sum set place : Nat) (start : Rat) (magnitudes : List Nat) :
    (slicesFrom sum set start magnitudes)[place]? = magnitudes[place]?.map fun magnitude =>
      ⟨set + place, start + 360 * (magnitudes.take place).sum / sum, 360 * magnitude / sum⟩ := by
  induction magnitudes generalizing set place start with
  | nil => rfl
  | cons magnitude rest ih =>
    cases place with
    | zero =>
      have there : start + 360 * ((magnitude :: rest).take 0).sum / sum = start := by simp
      rw [there]
      rfl
    | succ place =>
      have later : set + 1 + place = set + (place + 1) := by omega
      have further : start + 360 * magnitude / sum + 360 * (rest.take place).sum / sum =
          start + 360 * ((magnitude :: rest).take (place + 1)).sum / sum := by
        rw [List.take_succ_cons, List.sum_cons, Nat.cast_add]
        ring
      rw [← later, ← further]
      exact ih (set + 1) place (start + 360 * magnitude / sum)

include filled

theorem slicesOf_eq : slicesOf magnitudes = (List.range magnitudes.length).map (shareSlice magnitudes) := by
  have cut : slicesOf magnitudes = slicesFrom magnitudes.sum 0 (-90 : Rat) magnitudes := if_neg filled
  rw [cut]
  apply List.ext_getElem?
  intro place
  rw [slicesFrom_getElem?, List.getElem?_map]
  by_cases present : place < magnitudes.length
  · rw [List.getElem?_eq_getElem present, List.getElem?_range present, Option.map_some, Option.map_some,
      Nat.zero_add]
    have start : -90 + 360 * (magnitudes.take place).sum / magnitudes.sum = reach magnitudes place - 90 := by
      unfold reach
      ring
    have sweep : 360 * magnitudes[place] / magnitudes.sum =
        reach magnitudes (place + 1) - reach magnitudes place := by
      rw [reach_succ magnitudes present]
      ring
    unfold shareSlice
    rw [← start, ← sweep]
  · rw [List.getElem?_eq_none (by omega), List.getElem?_eq_none (by rw [List.length_range]; omega)]
    rfl

theorem mem_slicesOf {slice : PieSlice Rat} :
    slice ∈ slicesOf magnitudes ↔ ∃ set < magnitudes.length, shareSlice magnitudes set = slice := by
  rw [slicesOf_eq filled]
  simp only [List.mem_map, List.mem_range]

theorem find?_covers {set : Nat} {angle : Rat} (inside : fromTop angle ∈ share magnitudes set) :
    (slicesOf magnitudes).find? (fun slice => slice.isVisible && slice.covers angle) =
      some (shareSlice magnitudes set) := by
  cases found : (slicesOf magnitudes).find? fun slice => slice.isVisible && slice.covers angle with
  | none =>
    have refused := List.find?_eq_none.mp found _ ((mem_slicesOf filled).mpr ⟨set, share_present inside, rfl⟩)
    rw [(covers_iff filled set angle).mpr inside, share_visible inside] at refused
    exact absurd rfl refused
  | some slice =>
    obtain ⟨other, _, rfl⟩ := (mem_slicesOf filled).mp (List.mem_of_find?_eq_some found)
    have hit := List.find?_some found
    have covered := (covers_iff filled other angle).mp (Bool.and_eq_true_iff.mp hit).2
    rw [(existsUnique_share filled angle).unique covered inside]

omit filled

theorem sweeps_sum (sets : Nat) :
    (((List.range sets).map (shareSlice magnitudes)).map PieSlice.sweep).sum = reach magnitudes sets := by
  induction sets with
  | zero => exact (reach_zero magnitudes).symm
  | succ sets ih =>
    rw [List.range_succ, List.map_append, List.map_append, List.sum_append, ih]
    simp [shareSlice]

end

structure SharedOut (values : Values) (slices : List (PieSlice Rat)) : Prop where
  sets : slices.map PieSlice.set = values.sets
  proportional : ∃ degrees : Rat, 0 < degrees ∧
    ∀ slice ∈ slices, slice.sweep = degrees * |(values.value slice.set 0 : Rat)|
  nonneg : ∀ slice ∈ slices, 0 ≤ slice.sweep
  zero_iff : ∀ slice ∈ slices, slice.sweep = 0 ↔ values.value slice.set 0 = 0
  whole : (slices.map PieSlice.sweep).sum = 360
  top : ∀ first ∈ slices.head?, first.start = -90
  joints : slices.IsChain fun before after => after.start = before.start + before.sweep
  covered : ∀ angle, ∃! slice,
    slice ∈ slices ∧ 0 < slice.sweep ∧ Scalar.modulo (angle - slice.start) 360 < slice.sweep

section

variable {values : Values}

theorem sum_magnitudes_eq_zero_iff : (magnitudes values).sum = 0 ↔ ∀ set ∈ values.sets, values.value set 0 = 0 := by
  unfold magnitudes
  rw [List.sum_eq_zero_iff_forall_eq_nat, List.forall_mem_map]
  simp only [Int.natAbs_eq_zero]

theorem length_magnitudes : (magnitudes values).length = values.length := by
  unfold magnitudes Values.sets
  rw [List.length_map, List.length_range]

theorem magnitudes_getElem {set : Nat} (listed : set < (magnitudes values).length) :
    (magnitudes values)[set] = (values.value set 0).natAbs := by
  simp [magnitudes, Values.sets]

theorem shareSlice_sweep {set : Nat} (present : set < values.length) :
    (shareSlice (magnitudes values) set).sweep =
      360 / (magnitudes values).sum * |(values.value set 0 : Rat)| := by
  have listed : set < (magnitudes values).length := by rwa [length_magnitudes]
  change reach _ (set + 1) - reach _ set = _
  rw [reach_succ _ listed, magnitudes_getElem, Nat.cast_natAbs, Int.cast_abs]
  ring

theorem slicesOf_sweep (filled : (magnitudes values).sum ≠ 0) :
    ∀ slice ∈ slicesOf (magnitudes values),
      slice.sweep = 360 / (magnitudes values).sum * |(values.value slice.set 0 : Rat)| := by
  intro slice member
  obtain ⟨set, present, rfl⟩ := (mem_slicesOf filled).mp member
  exact shareSlice_sweep (length_magnitudes ▸ present)

theorem slicesOf_sharedOut (filled : (magnitudes values).sum ≠ 0) :
    SharedOut values (slicesOf (magnitudes values)) where
  sets := by
    rw [slicesOf_eq filled, length_magnitudes, List.map_map]
    exact List.map_id _
  proportional := ⟨_, by positivity, slicesOf_sweep filled⟩
  nonneg := by
    intro slice member
    rw [slicesOf_sweep filled slice member]
    positivity
  zero_iff := by
    intro slice member
    have degrees : (360 / (magnitudes values).sum : Rat) ≠ 0 := by positivity
    rw [slicesOf_sweep filled slice member, mul_eq_zero, abs_eq_zero, Int.cast_eq_zero]
    exact or_iff_right degrees
  whole := by rw [slicesOf_eq filled, sweeps_sum, reach_length filled]
  top := by
    intro first head
    rw [slicesOf_eq filled, List.head?_map, List.head?_range] at head
    split at head
    · cases head
    · obtain rfl := Option.some.inj head
      change reach _ 0 - 90 = -90
      rw [reach_zero]
      norm_num
  joints := by
    rw [slicesOf_eq filled, List.isChain_map, List.isChain_range]
    intro set _
    change reach _ (set + 1) - 90 = reach _ set - 90 + (reach _ (set + 1) - reach _ set)
    ring
  covered := by
    intro angle
    obtain ⟨set, inside, only⟩ := existsUnique_share filled angle
    refine ⟨shareSlice (magnitudes values) set, ⟨?_, ?_, ?_⟩, ?_⟩
    · exact (mem_slicesOf filled).mpr ⟨set, share_present inside, rfl⟩
    · exact of_decide_eq_true (share_visible inside)
    · exact of_decide_eq_true ((covers_iff filled set angle).mpr inside)
    · rintro slice ⟨member, _, covered⟩
      obtain ⟨other, _, rfl⟩ := (mem_slicesOf filled).mp member
      rw [only other ((covers_iff filled other angle).mp (decide_eq_true covered))]

end

-- Whatever the data sets hold, and whatever angle each point is seen at: if all first values are zero, a pie has no slice
-- and nothing is found in it. Otherwise its slices share out the circle, and a point that is not outside of the radius is
-- over the one data set whose share its direction is in.
theorem hitTest_shares [Circular Rat] (v : View Rat) :
    let pie := ofView v
    ((∀ set ∈ v.values.sets, v.values.value set 0 = 0) → pie.slices = [] ∧ ∀ p, hitTest v p = none) ∧
      ((∃ set ∈ v.values.sets, v.values.value set 0 ≠ 0) → SharedOut v.values pie.slices ∧
        ∀ p, if pie.radius * pie.radius < p.dist2 pie.center then hitTest v p = none
          else ∃ set ∈ v.values.sets, hitTest v p = some (.value set 0) ∧
            ∀ other, fromTop (pie.angleOf p) ∈ share (magnitudes v.values) other ↔ other = set) := by
  intro pie
  constructor
  · intro zeros
    have empty : pie.slices = [] := if_pos (sum_magnitudes_eq_zero_iff.mpr zeros)
    refine ⟨empty, ?_⟩
    intro p
    unfold hitTest sliceAt sliceUnder
    rw [empty]
    simp
  · rintro ⟨first, present, nonzero⟩
    have filled : (magnitudes v.values).sum ≠ 0 := by
      intro empty
      exact nonzero (sum_magnitudes_eq_zero_iff.mp empty first present)
    refine ⟨slicesOf_sharedOut filled, ?_⟩
    intro p
    obtain ⟨set, inside, only⟩ := existsUnique_share filled (pie.angleOf p)
    have found : pie.sliceUnder (pie.angleOf p) = some (shareSlice (magnitudes v.values) set) :=
      find?_covers filled inside
    unfold hitTest sliceAt
    split
    · rfl
    · refine ⟨set, List.mem_range.mpr (length_magnitudes ▸ share_present inside), ?_, ?_⟩
      · rw [found]
        rfl
      · intro other
        constructor
        · exact only other
        · rintro rfl
          exact inside

end Pie

end Charting
