import Charting.Proofs.RangeEnds
import Charting.Proofs.Slices
import Mathlib.Algebra.Order.BigOperators.Group.List

namespace Charting

namespace Word

-- A number with a sign; there is none for one that needs more than 64 bits.
def signed? (n : Int) : Option Int :=
  if -9223372036854775808 ≤ n ∧ n ≤ 9223372036854775807 then some n else none

def natural? (n : Nat) : Option Nat :=
  if n ≤ 9223372036854775807 then some n else none

def unsigned? (n : Nat) : Option Nat :=
  if n ≤ 18446744073709551615 then some n else none

-- Rounded down for a positive divisor. The least number divided by minus one has no result either.
def quotient? (a b : Int) : Option Int :=
  if b = 0 then none else signed? (a / b)

def divide? (a b : Nat) : Option (Nat × Nat) :=
  if b = 0 then none else some (a / b, a % b)

def powerOfTen? : Nat → Option Nat
  | 0 => some 1
  | k + 1 => do unsigned? ((← powerOfTen? k) * 10)

-- A number that leaves room for many of 32 bits to be added.
def Modest (n : Int) : Prop :=
  n.natAbs ≤ 2 ^ 62

theorem signed?_eq {n : Int} (low : -9223372036854775808 ≤ n) (high : n ≤ 9223372036854775807) : signed? n = some n :=
  if_pos ⟨low, high⟩

theorem natural?_eq {n : Nat} (high : n ≤ 9223372036854775807) : natural? n = some n :=
  if_pos high

theorem unsigned?_eq {n : Nat} (high : n ≤ 18446744073709551615) : unsigned? n = some n :=
  if_pos high

theorem Modest.signed? {n : Int} (modest : Modest n) : signed? n = some n := by
  unfold Modest at modest
  exact signed?_eq (by omega) (by omega)

theorem powerOfTen?_eq {k : Nat} (within : k ≤ 19) : powerOfTen? k = some (Nat.pow 10 k) := by
  induction k with
  | zero => rfl
  | succ k ih =>
    have room : Nat.pow 10 (k + 1) ≤ Nat.pow 10 19 := Nat.pow_le_pow_right (by decide) within
    have most : Nat.pow 10 19 ≤ 18446744073709551615 := by decide
    unfold powerOfTen?
    rw [ih (by omega)]
    exact unsigned?_eq (room.trans most)

theorem mapM_eq {β γ : Type} {f : β → Option γ} {g : β → γ} {values : List β} (each : ∀ b ∈ values, f b = some (g b)) :
    values.mapM f = some (values.map g) := by
  induction values with
  | nil => rfl
  | cons b rest ih =>
    rw [List.mapM_cons, each b List.mem_cons_self, ih fun b later => each b (List.mem_cons_of_mem _ later)]
    rfl

end Word

open Word

namespace Axis

def displayed? (axis : Axis) (raw : Int) : Option Int :=
  signed? (raw + axis.offset.toInt)

def digits? (axis : Axis) (separator : Char) (value : Int) : Option (List Char) :=
  if 0 ≤ axis.exponent then some (Numeral.ofInt value ++ List.replicate axis.exponent.toNat '0')
  else do
    let places := (-axis.exponent).toNat
    let factor ← powerOfTen? places
    let magnitude ← unsigned? value.natAbs
    let (whole, fraction) ← divide? magnitude factor
    let sign := if value < 0 then ['-'] else []
    return sign ++ Numeral.ofNat whole ++ separator :: Numeral.padded places fraction

def format? (axis : Axis) (separator : Char) (raw : Int) : Option String := do
  return String.ofList (← axis.digits? separator (← axis.displayed? raw))

theorem offset_between (axis : Axis) : -2147483648 ≤ axis.offset.toInt ∧ axis.offset.toInt ≤ 2147483647 :=
  ⟨axis.offset.le_toInt, Int.le_of_lt_add_one axis.offset.toInt_lt⟩

-- An offset never takes a modest number to a bound, so that nothing is lost there.
theorem displayed_eq_add {axis : Axis} {raw : Int} (modest : Modest raw) :
    axis.displayed raw = raw + axis.offset.toInt := by
  have offset := axis.offset_between
  unfold Modest at modest
  unfold displayed saturate
  omega

theorem displayed_between (axis : Axis) (raw : Int) :
    -9223372036854775808 ≤ axis.displayed raw ∧ axis.displayed raw ≤ 9223372036854775807 := by
  unfold displayed saturate
  omega

theorem displayed?_eq {axis : Axis} {raw : Int} (modest : Modest raw) :
    axis.displayed? raw = some (axis.displayed raw) := by
  have between := axis.displayed_between raw
  rw [displayed_eq_add modest] at between ⊢
  exact signed?_eq between.1 between.2

theorem digits?_eq {axis : Axis} (inRange : axis.InRange) (separator : Char) {value : Int}
    (low : -9223372036854775808 ≤ value) (high : value ≤ 9223372036854775807) :
    axis.digits? separator value = some (axis.digits separator value) := by
  have exponent : -9 ≤ axis.exponent := inRange.1
  unfold digits? digits
  split
  · rfl
  · have factor := powerOfTen?_eq (show (-axis.exponent).toNat ≤ 19 by omega)
    have magnitude := unsigned?_eq (show value.natAbs ≤ 18446744073709551615 by omega)
    have nonzero : Nat.pow 10 (-axis.exponent).toNat ≠ 0 := (Nat.pow_pos (by decide)).ne'
    simp only [factor, magnitude, divide?, if_neg nonzero, Option.bind_eq_bind, Option.bind_some]
    rfl

theorem format?_eq {axis : Axis} (inRange : axis.InRange) (separator : Char) {raw : Int} (modest : Modest raw) :
    axis.format? separator raw = some (axis.format separator raw) := by
  have between := axis.displayed_between raw
  unfold format?
  rw [displayed?_eq modest, Option.bind_eq_bind, Option.bind_some, digits?_eq inRange separator between.1 between.2]
  rfl

end Axis

namespace Values

variable {v : Values}

def stackedBelow? (v : Values) : Nat → Nat → Option Int
  | 0, _ => some 0
  | set + 1, i => do signed? ((← v.stackedBelow? set i) + v.value set i)

def stacked? (v : Values) (set i : Nat) : Option Int :=
  v.stackedBelow? (set + 1) i

def pairs? (v : Values) (set : Nat) : Option (List Nat) :=
  (List.range (v.count set / 2)).mapM fun pair => unsigned? (2 * pair)

structure Bounded (v : Values) : Prop where
  sets : v.length < 2 ^ 31
  counts : ∀ series ∈ v, series.count < 2 ^ 62

theorem Bounded.maxCount_lt (bounded : v.Bounded) : v.maxCount < 2 ^ 62 := by
  rcases List.mem_cons.mp (foldl_mem_cons max_choice 0 (v.map Series.count)) with none | some
  · unfold maxCount
    omega
  · obtain ⟨series, member, same⟩ := List.mem_map.mp some
    unfold maxCount
    rw [← same]
    exact bounded.counts series member

theorem Bounded.count_lt (bounded : v.Bounded) (set : Nat) : v.count set < 2 ^ 62 :=
  (v.count_le_maxCount set).trans_lt bounded.maxCount_lt

theorem value_between (v : Values) (set i : Nat) : -2147483648 ≤ v.value set i ∧ v.value set i ≤ 2147483647 :=
  ⟨Int32.le_toInt _, Int.le_of_lt_add_one (Int32.toInt_lt _)⟩

theorem value_modest (v : Values) (set i : Nat) : Modest (v.value set i) := by
  have between := v.value_between set i
  unfold Modest
  omega

theorem value_absent {set : Nat} (absent : v.length ≤ set) (i : Nat) : v.value set i = 0 := by
  unfold value
  rw [List.getElem?_eq_none absent]
  rfl

theorem stackedBelow_natAbs_le (v : Values) (set i : Nat) :
    (v.stackedBelow set i).natAbs ≤ min set v.length * 2147483648 := by
  induction set with
  | zero => exact Nat.zero_le _
  | succ set ih =>
    have between := v.value_between set i
    change (v.stackedBelow set i + v.value set i).natAbs ≤ _
    by_cases absent : v.length ≤ set
    · rw [value_absent absent]
      omega
    · omega

theorem Bounded.stackedBelow_modest (bounded : v.Bounded) (set i : Nat) : Modest (v.stackedBelow set i) := by
  have sets := bounded.sets
  have below := v.stackedBelow_natAbs_le set i
  unfold Modest
  omega

theorem Bounded.stacked_modest (bounded : v.Bounded) (set i : Nat) : Modest (v.stacked set i) :=
  bounded.stackedBelow_modest (set + 1) i

theorem Bounded.stackedBelow?_eq (bounded : v.Bounded) (set i : Nat) :
    v.stackedBelow? set i = some (v.stackedBelow set i) := by
  induction set with
  | zero => rfl
  | succ set ih =>
    unfold stackedBelow?
    rw [ih]
    exact (bounded.stackedBelow_modest (set + 1) i).signed?

theorem Bounded.stacked?_eq (bounded : v.Bounded) (set i : Nat) : v.stacked? set i = some (v.stacked set i) :=
  bounded.stackedBelow?_eq (set + 1) i

theorem Bounded.pairs?_eq (bounded : v.Bounded) (set : Nat) : v.pairs? set = some (v.pairs set) := by
  have count := bounded.count_lt set
  apply mapM_eq
  intro pair member
  rw [List.mem_range] at member
  exact unsigned?_eq (by omega)

end Values

namespace Pie

variable {values : Values}

def magnitudes? (values : Values) : Option (List Nat) :=
  values.sets.mapM fun set => natural? (values.value set 0).natAbs

def total? (magnitudes : List Nat) : Option Nat :=
  magnitudes.foldlM (fun sum magnitude => natural? (sum + magnitude)) 0

theorem magnitudes?_eq (values : Values) : magnitudes? values = some (magnitudes values) := by
  apply mapM_eq
  intro set _
  have between := values.value_between set 0
  exact natural?_eq (by omega)

theorem foldlM_natural?_eq {magnitudes : List Nat} {sum : Nat} (room : sum + total magnitudes ≤ 9223372036854775807) :
    magnitudes.foldlM (fun sum magnitude => natural? (sum + magnitude)) sum = some (sum + total magnitudes) := by
  induction magnitudes generalizing sum with
  | nil => rfl
  | cons magnitude rest ih =>
    change sum + (magnitude + total rest) ≤ _ at room
    change (natural? (sum + magnitude)).bind _ = some (sum + (magnitude + total rest))
    rw [natural?_eq (by omega), Option.bind_some, ih (by omega), Nat.add_assoc]

theorem total_le {magnitudes : List Nat} {most : Nat} (each : ∀ magnitude ∈ magnitudes, magnitude ≤ most) :
    total magnitudes ≤ magnitudes.length * most := by
  change magnitudes.sum ≤ _
  exact List.sum_le_card_nsmul magnitudes most each

theorem total?_eq (bounded : values.Bounded) : total? (magnitudes values) = some (total (magnitudes values)) := by
  have sets := bounded.sets
  have most : total (magnitudes values) ≤ (magnitudes values).length * 2147483648 := by
    apply total_le
    intro magnitude member
    obtain ⟨set, _, rfl⟩ := List.mem_map.mp member
    have between := values.value_between set 0
    omega
  rw [length_magnitudes] at most
  have sum := foldlM_natural?_eq (show 0 + total (magnitudes values) ≤ 9223372036854775807 by omega)
  rwa [Nat.zero_add] at sum

end Pie

end Charting
