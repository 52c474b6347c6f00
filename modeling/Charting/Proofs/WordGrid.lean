import Charting.Proofs.Gridlines
import Charting.Proofs.WordRanges

namespace Charting

open Word

variable {α : Type}

namespace GridAxis

variable {a : GridAxis α}

def firstTick? (a : GridAxis α) : Option Int :=
  if a.base < a.min then signed? (a.base + a.delta) else some a.base

def lastTick? (a : GridAxis α) : Option Int :=
  match a.kind with
  | .category => signed? (a.max - 1)
  | _ => some a.max

-- The values from a place on, each worked out from its place, up to the first one that is past the end. It is worked
-- out as well, and so is the place after it.
def ticksFrom? (a : GridAxis α) : (fuel place : Nat) → Option (List Int)
  | 0, _ => none
  | fuel + 1, place => do
    let next ← natural? (place + 1)
    let value ← signed? ((← a.firstTick?) + (← signed? (place * a.delta)))
    if (← a.lastTick?) < value then return []
    return value :: (← a.ticksFrom? fuel next)

def ticks? (a : GridAxis α) : Option (List Int) :=
  a.ticksFrom? (2 ^ 63) 0

-- An axis of which all numbers are so near to zero that nothing on it fills a word.
structure Roomy (a : GridAxis α) : Prop extends Stepped a where
  near : a.range.Near
  ordered : a.min < a.max
  step : a.delta ≤ 2 ^ 31

theorem Roomy.bounds (roomy : a.Roomy) :
    -(2 ^ 32) ≤ a.firstTick ∧ a.firstTick ≤ 2 ^ 62 + 2 ^ 31 ∧ -(2 ^ 32) ≤ a.lastTick ∧ a.lastTick ≤ 2 ^ 62 := by
  have low : -(2 ^ 32) ≤ a.min := roomy.near.low
  have high : a.max ≤ 2 ^ 62 := roomy.near.high
  have ordered := roomy.ordered
  have step := roomy.step
  obtain ⟨above, close, _⟩ := roomy.toStepped.firstTick
  refine ⟨by omega, by omega, ?_⟩
  unfold lastTick
  split <;> omega

theorem Roomy.firstTick?_eq (roomy : a.Roomy) : a.firstTick? = some a.firstTick := by
  have bounds := roomy.bounds
  unfold firstTick at bounds
  unfold firstTick? firstTick
  split
  · rename_i below
    rw [if_pos below] at bounds
    exact signed?_eq (by omega) (by omega)
  · rfl

theorem Roomy.lastTick?_eq (roomy : a.Roomy) : a.lastTick? = some a.lastTick := by
  have bounds := roomy.bounds
  unfold lastTick at bounds
  unfold lastTick? lastTick
  cases kind : a.kind with
  | category =>
    rw [kind] at bounds
    dsimp only at bounds ⊢
    exact signed?_eq (by omega) (by omega)
  | continuous | discrete => rfl

theorem Roomy.candidate_le (roomy : a.Roomy) {place : Nat} (before : ∀ k < place, a.candidate k ≤ a.lastTick) :
    (place : Int) ≤ place * a.delta ∧ place * a.delta ≤ 2 ^ 62 + 2 ^ 33 ∧ a.candidate place ≤ 2 ^ 62 + 2 ^ 31 := by
  have positive := roomy.positive
  have step := roomy.step
  have bounds := roomy.bounds
  refine ⟨le_mul_of_one_le_right (Int.natCast_nonneg _) positive, ?_⟩
  unfold candidate
  cases place with
  | zero =>
    rw [Nat.cast_zero, Int.zero_mul]
    omega
  | succ place =>
    have last : a.firstTick + place * a.delta ≤ a.lastTick := before place (Nat.lt_succ_self place)
    rw [Nat.cast_succ, Int.add_mul, Int.one_mul]
    omega

-- Going on from a place takes the candidates up to the first one past the end, if there is fuel for all of them. The
-- induction is on the fuel; a candidate fits because the ones before it are not past the end.
theorem Roomy.ticksFrom?_eq (roomy : a.Roomy) {count : Nat} (within : ∀ k < count, a.candidate k ≤ a.lastTick)
    (past : a.lastTick < a.candidate count) {fuel place : Nat} (reached : place ≤ count) (enough : count - place < fuel) :
    a.ticksFrom? fuel place = some ((List.range' place (count - place)).map a.candidate) := by
  induction fuel generalizing place with
  | zero => omega
  | succ fuel ih =>
    have bounds := roomy.bounds
    obtain ⟨near, far, low⟩ := roomy.candidate_le fun k before => within k (Nat.lt_of_lt_of_le before reached)
    have value : a.candidate place = a.firstTick + place * a.delta := rfl
    unfold ticksFrom?
    rw [natural?_eq (show place + 1 ≤ 9223372036854775807 by omega)]
    simp only [Option.bind_eq_bind, Option.bind_some, roomy.firstTick?_eq, roomy.lastTick?_eq]
    rw [signed?_eq (by omega) (by omega), Option.bind_some, signed?_eq (by omega) (by omega), Option.bind_some, ← value]
    rcases Nat.lt_or_eq_of_le reached with more | rfl
    · have rest : count - place = count - (place + 1) + 1 := by omega
      rw [if_neg (Int.not_lt.mpr (within place more)), ih (Nat.succ_le_of_lt more) (by omega), rest, List.range'_succ]
      rfl
    · rw [if_pos past, Nat.sub_self]
      rfl

theorem Roomy.ticks?_eq (roomy : a.Roomy) : a.ticks? = some a.ticks := by
  obtain ⟨count, ticks, past⟩ := roomy.toStepped.ticks_eq
  have within : ∀ k < count, a.candidate k ≤ a.lastTick := by
    intro k counted
    have tick : a.candidate k ∈ a.ticks := by
      rw [ticks]
      exact List.mem_map_of_mem (List.mem_range.mpr counted)
    exact (roomy.toStepped.mem_ticks.mp tick).2.1
  obtain ⟨near, far, _⟩ := roomy.candidate_le within
  rw [ticks, List.range_eq_range']
  exact roomy.ticksFrom?_eq within past (Nat.zero_le _) (by omega)

theorem Roomy.tick_modest (roomy : a.Roomy) {value : Int} (tick : value ∈ a.ticks) : Modest value := by
  obtain ⟨above, below, _⟩ := roomy.toStepped.mem_ticks.mp tick
  have low : -(2 ^ 32) ≤ a.min := roomy.near.low
  have bounds := roomy.bounds
  unfold Modest
  omega

end GridAxis

structure View.Bounded (v : View α) : Prop where
  values : v.values.Bounded
  axes : v.primary.InRange ∧ v.secondary.InRange

namespace View

variable {v : View α}

def format? (v : View α) (selector : AxisSelector) (raw : Int) : Option String :=
  (v.axis selector).format? v.config.separator raw

theorem Bounded.format?_eq (bounded : v.Bounded) (selector : AxisSelector) {raw : Int} (modest : Modest raw) :
    v.format? selector raw = some (v.format selector raw) := by
  cases selector with
  | secondary => exact Axis.format?_eq bounded.axes.2 _ modest
  | primary | both => exact Axis.format?_eq bounded.axes.1 _ modest

end View

namespace GridSides

def ofView? (v : View α) (kind : Kind) : Option GridSides := do
  let (primary, secondary) ← AxisRange.ofValues? kind v.primary v.secondary v.values
  return if kind.isSwapped then ⟨⟨.secondary, secondary⟩, ⟨.primary, primary⟩⟩
    else ⟨⟨.primary, primary⟩, ⟨.secondary, secondary⟩⟩

theorem ofView?_eq {v : View α} (bounded : v.Bounded) (kind : Kind) : ofView? v kind = some (ofView v kind) := by
  unfold ofView?
  rw [AxisRange.ofValues?_eq kind v.primary v.secondary bounded.values]
  rfl

theorem ofView_near {v : View α} (bounded : v.Bounded) (kind : Kind) :
    (ofView v kind).horizontal.range.Near ∧ (ofView v kind).vertical.range.Near := by
  have near := AxisRange.ofValues_near kind v.primary v.secondary bounded.values
  cases kind with
  | bar stacked => exact ⟨near.2, near.1⟩
  | pie | scatter | line stacked | area stacked | column stacked => exact near

end GridSides

namespace Grid

variable {v : View α}

def endTexts? (v : View α) (side : GridSide) : Option (String × String) := do
  return (← v.format? side.selector side.range.min, ← v.format? side.selector (← side.range.last?))

def baseValue? (axis : Axis) (min delta : Int) : Option Int := do
  let steps ← quotient? (← axis.displayed? min) delta
  signed? ((← signed? (steps * delta)) - axis.offset.toInt)

variable [Scalar α]

def axisBetween? (v : View α) (side : GridSide) (orientation : Orientation) (delta : Int) (start stop : α) :
    Option (GridAxis α) := do
  return { selector := side.selector
           kind := side.range.kind
           orientation := orientation
           min := side.range.min
           max := side.range.max
           base := ← baseValue? (v.axis side.selector) side.range.min delta
           delta := delta
           scale := ⟨Scalar.ofInt side.range.min, Scalar.ofInt side.range.max, start, stop⟩ }

-- Whole parts that a word has no room for are cut off at its bounds.
def step? (span labelExtent pixels : α) : Option Int := do
  let raw := Axis.saturate (Scalar.toInt (Scalar.ceil (span * labelExtent / Scalar.max pixels 1)))
  return max (← Nice.roundWide? .up raw) 1

def verticalAxis (v : View α) (kind : Kind) (side : GridSide) (delta : Int) (core : Rect α) : GridAxis α :=
  if kind.isSwapped then axisBetween v side .vertical delta core.y0 core.y1
  else axisBetween v side .vertical delta core.y1 core.y0

def verticalAxis? (v : View α) (kind : Kind) (side : GridSide) (delta : Int) (core : Rect α) : Option (GridAxis α) :=
  if kind.isSwapped then axisBetween? v side .vertical delta core.y0 core.y1
  else axisBetween? v side .vertical delta core.y1 core.y0

def labels? (v : View α) (axis : GridAxis α) (label : String → Int → GridLabel α) :
    Option (List (GridLabel α)) := do
  (← axis.ticks?).mapM fun value => do return label (← v.format? axis.selector value) value

def horizontalLabels? (v : View α) (axis : GridAxis α) (core : Rect α) : Option (List (GridLabel α)) :=
  labels? v axis fun text value =>
    { text
      position := ⟨axis.labelPosition value, core.y1 + Scalar.halfUp v.layout.font.lineHeight⟩
      anchor := .middle
      baseline := .hanging
      angle := 0 }

def verticalLabels? (v : View α) (axis : GridAxis α) (core : Rect α) : Option (List (GridLabel α)) :=
  labels? v axis fun text value =>
    { text
      position := ⟨core.x0 - Scalar.halfUp v.layout.font.charWidth, axis.labelPosition value⟩
      anchor := .stop
      baseline := .middle
      angle := 0 }

def arrange? (v : View α) (kind : Kind) (extents : LabelExtents α) : Option (Grid α) := do
  let sides ← GridSides.ofView? v kind
  let body := v.layout.body
  let lineHeight := v.layout.font.lineHeight
  let core := unsnappedCore v sides extents
  let spanH : α := Scalar.ofInt (← sides.horizontal.range.extent?)
  let spanV : α := Scalar.ofInt (← sides.vertical.range.extent?)
  let deltaH ← step? spanH extents.horizontal core.width
  let deltaV ← step? spanV (1.5 * lineHeight) core.height
  let core := snapVertical (snapHorizontal core spanH deltaH) spanV deltaV
  let horizontal ← axisBetween? v sides.horizontal .horizontal deltaH core.x0 core.x1
  let vertical ← verticalAxis? v kind sides.vertical deltaV core
  return { horizontal, vertical, core
           swapped := kind.isSwapped
           labels := (← horizontalLabels? v horizontal core) ++ (← verticalLabels? v vertical core)
           names := nameLabel v sides.horizontal.selector ⟨core.center.x, body.y1 - lineHeight⟩ 0
             ++ nameLabel v sides.vertical.selector ⟨body.x0, core.center.y⟩ (-90) }

theorem step?_eq (span labelExtent pixels : α) : step? span labelExtent pixels = some (step span labelExtent pixels) := by
  unfold step? step
  dsimp only
  rw [Nice.roundWide?_eq]
  unfold Nice.roundWide
  rw [Nice.clamp_saturate]
  rfl

theorem step_le (span labelExtent pixels : α) : step span labelExtent pixels ≤ 2 ^ 31 := by
  have rounded := AxisRange.rounded_between .up
    (Scalar.toInt (Scalar.ceil (span * labelExtent / Scalar.max pixels 1)))
  unfold step
  dsimp only
  omega

omit [Scalar α] in
theorem baseValue?_eq {axis : Axis} {min delta : Int} (modest : Modest min) (fits : axis.Fits min)
    (positive : 1 ≤ delta) (step : delta ≤ 2 ^ 31) : baseValue? axis min delta = some (baseValue axis min delta) := by
  have offset := axis.offset_between
  have shown : -2147483648 ≤ axis.displayed min ∧ axis.displayed min ≤ 2147483647 := by
    rw [Axis.displayed_of_fits fits]
    exact fits
  have below := Int.ediv_mul_le (axis.displayed min) (show delta ≠ 0 by omega)
  have above := Int.lt_ediv_add_one_mul_self (axis.displayed min) (show 0 < delta by omega)
  rw [Int.add_mul, Int.one_mul] at above
  have smaller := Int.natAbs_ediv_le_natAbs (axis.displayed min) delta
  have steps : quotient? (axis.displayed min) delta = some (axis.displayed min / delta) := by
    unfold quotient?
    rw [if_neg (by omega)]
    exact signed?_eq (by omega) (by omega)
  unfold baseValue? baseValue
  simp only [Axis.displayed?_eq modest, steps, Option.bind_eq_bind, Option.bind_some]
  rw [signed?_eq (by omega) (by omega), Option.bind_some, signed?_eq (by omega) (by omega),
    Int.fdiv_eq_ediv_of_nonneg _ (by omega)]

section

variable {side : GridSide} {delta : Int} (sound : side.Sound v) (near : side.range.Near) (positive : 1 ≤ delta)
  (step : delta ≤ 2 ^ 31)

include sound near positive step

theorem axisBetween?_eq (orientation : Orientation) (start stop : α) :
    axisBetween? v side orientation delta start stop = some (axisBetween v side orientation delta start stop) := by
  unfold axisBetween?
  rw [baseValue?_eq (near.min_modest sound.ordered) sound.shown positive step]
  rfl

theorem axisBetween_roomy (orientation : Orientation) (start stop : α) :
    (axisBetween v side orientation delta start stop).Roomy where
  toStepped := axisBetween_stepped sound orientation positive start stop
  near := near
  ordered := sound.ordered
  step := step

theorem verticalAxis?_eq (kind : Kind) (core : Rect α) :
    verticalAxis? v kind side delta core = some (verticalAxis v kind side delta core) := by
  unfold verticalAxis? verticalAxis
  split <;> exact axisBetween?_eq sound near positive step _ _ _

theorem verticalAxis_roomy (kind : Kind) (core : Rect α) : (verticalAxis v kind side delta core).Roomy := by
  unfold verticalAxis
  split <;> exact axisBetween_roomy sound near positive step _ _ _

end

omit [Scalar α] in
theorem labels?_eq (bounded : v.Bounded) {axis : GridAxis α} (roomy : axis.Roomy)
    (label : String → Int → GridLabel α) :
    labels? v axis label = some (axis.ticks.map fun value => label (v.format axis.selector value) value) := by
  unfold labels?
  rw [roomy.ticks?_eq, Option.bind_eq_bind, Option.bind_some]
  apply mapM_eq
  intro value tick
  rw [bounded.format?_eq axis.selector (roomy.tick_modest tick)]
  rfl

omit [Scalar α] in
theorem endTexts?_eq (bounded : v.Bounded) {side : GridSide} (sound : side.Sound v) (near : side.range.Near) :
    endTexts? v side = some (v.format side.selector side.range.min, v.format side.selector side.range.last) := by
  unfold endTexts?
  simp only [bounded.format?_eq side.selector (near.min_modest sound.ordered), near.last?_eq sound.ordered,
    bounded.format?_eq side.selector (near.last_modest sound.ordered), Option.bind_eq_bind, Option.bind_some]
  rfl

theorem arrange_roomy (bounded : v.Bounded) (kind : Kind) (extents : LabelExtents α) :
    (arrange v kind extents).horizontal.Roomy ∧ (arrange v kind extents).vertical.Roomy := by
  have sound := GridSides.ofView_sound v kind
  have near := GridSides.ofView_near bounded kind
  exact ⟨axisBetween_roomy sound.1 near.1 (one_le_step _ _ _) (step_le _ _ _) _ _ _,
    verticalAxis_roomy sound.2 near.2 (one_le_step _ _ _) (step_le _ _ _) kind _⟩

theorem arrange?_eq (bounded : v.Bounded) (kind : Kind) (extents : LabelExtents α) :
    arrange? v kind extents = some (arrange v kind extents) := by
  have sound := GridSides.ofView_sound v kind
  have near := GridSides.ofView_near bounded kind
  unfold arrange?
  simp only [GridSides.ofView?_eq bounded, near.1.extent?_eq sound.1.ordered, near.2.extent?_eq sound.2.ordered,
    step?_eq, Option.bind_eq_bind, Option.bind_some]
  rw [axisBetween?_eq sound.1 near.1 (one_le_step _ _ _) (step_le _ _ _), Option.bind_some,
    verticalAxis?_eq sound.2 near.2 (one_le_step _ _ _) (step_le _ _ _), Option.bind_some]
  unfold horizontalLabels? verticalLabels?
  rw [labels?_eq bounded (axisBetween_roomy sound.1 near.1 (one_le_step _ _ _) (step_le _ _ _) _ _ _), Option.bind_some,
    labels?_eq bounded (verticalAxis_roomy sound.2 near.2 (one_le_step _ _ _) (step_le _ _ _) kind _)]
  rfl

end Grid

end Charting
