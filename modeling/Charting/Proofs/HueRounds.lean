import Charting.Color.Sequence
import Charting.Scalar.Exact
import Mathlib.Algebra.Order.Field.Basic
import Mathlib.Data.Rat.Defs
import Mathlib.Data.Set.Function
import Mathlib.Order.Interval.Set.Basic
import Mathlib.Tactic.FieldSimp
import Mathlib.Tactic.Linarith
import Mathlib.Tactic.NormNum
import Mathlib.Tactic.Ring

namespace Charting

namespace Color

def roundStart (round : Nat) : Nat :=
  3 * 2 ^ round

-- The circle in as many equal parts as there are colors before a round.
def cut (round k : Nat) : Rat :=
  k * 120 / 2 ^ round

-- Which of the gaps left by the colors before a round is cut by the color at a place of the round: the places go round
-- the thirds of the circle.
def gapAt (round place : Nat) : Nat :=
  place / 3 + 2 ^ round * (place % 3)

-- Which of the cuts of a round an earlier color is.
def cutOf : Nat → Nat → Nat
  | 0, index => index
  | round + 1, index =>
    if index < roundStart round then 2 * cutOf round index
    else 2 * gapAt round (index - roundStart round) + 1

theorem roundStart_succ (round : Nat) : roundStart (round + 1) = roundStart round + roundStart round := by
  unfold roundStart
  omega

theorem cut_double (round k : Nat) : cut (round + 1) (2 * k) = cut round k := by
  unfold cut
  push_cast
  field_simp
  ring

theorem cut_strictMono (round : Nat) : StrictMono (cut round) := by
  intro k later before
  unfold cut
  have less : (k : Rat) < later := Nat.cast_lt.mpr before
  gcongr

theorem cut_roundStart (round : Nat) : cut round (roundStart round) = 360 := by
  unfold cut roundStart
  push_cast
  field_simp
  norm_num

def placeOf (round gap : Nat) : Nat :=
  3 * (gap % 2 ^ round) + gap / 2 ^ round

theorem gapAt_inverse (round : Nat) :
    Set.InvOn (placeOf round) (gapAt round) (Set.Iio (roundStart round)) (Set.Iio (roundStart round)) := by
  have positive := Nat.two_pow_pos round
  unfold gapAt placeOf roundStart
  constructor
  · intro place inside
    have within : place / 3 < 2 ^ round := by
      rw [Set.mem_Iio] at inside
      omega
    dsimp only
    rw [Nat.add_mul_mod_self_left, Nat.mod_eq_of_lt within, Nat.add_mul_div_left _ _ positive,
      Nat.div_eq_of_lt within, Nat.zero_add, Nat.div_add_mod]
  · intro gap inside
    have third : gap / 2 ^ round < 3 := (Nat.div_lt_iff_lt_mul positive).mpr inside
    have parts : ∀ a b, b < 3 → (3 * a + b) / 3 = a ∧ (3 * a + b) % 3 = b := by omega
    dsimp only
    rw [(parts _ _ third).1, (parts _ _ third).2, Nat.mod_add_div]

theorem gapAt_lt {round place : Nat} (inside : place < roundStart round) : gapAt round place < roundStart round := by
  have positive := Nat.two_pow_pos round
  have turns : 2 ^ round * (place % 3) ≤ 2 ^ round * 2 := Nat.mul_le_mul_left _ (by omega)
  unfold gapAt
  unfold roundStart at inside ⊢
  omega

theorem placeOf_lt {round gap : Nat} (inside : gap < roundStart round) : placeOf round gap < roundStart round := by
  have positive := Nat.two_pow_pos round
  have part := Nat.mod_lt gap positive
  have third : gap / 2 ^ round < 3 := (Nat.div_lt_iff_lt_mul positive).mpr inside
  unfold placeOf roundStart
  omega

theorem gapAt_bijOn (round : Nat) :
    Set.BijOn (gapAt round) (Set.Iio (roundStart round)) (Set.Iio (roundStart round)) :=
  (gapAt_inverse round).bijOn (fun _ => gapAt_lt) (fun _ => placeOf_lt)

theorem roundBase_eq {round place : Nat} (inside : place < roundStart round) :
    roundBase (roundStart round + place) = roundStart round := by
  have third : (roundStart round + place) / 3 = 2 ^ round + place / 3 := by
    unfold roundStart
    omega
  have logarithm : (2 ^ round + place / 3).log2 = round := by
    have positive := Nat.two_pow_pos round
    unfold roundStart at inside
    rw [Nat.log2_eq_iff (by omega)]
    omega
  unfold roundBase
  rw [third, logarithm]
  rfl

theorem sequenceHue_round {round place : Nat} (inside : place < roundStart round) :
    (sequenceHue (roundStart round + place) : Rat) = cut (round + 1) (2 * gapAt round place + 1) := by
  have later : ¬roundStart round + place < 3 := by
    have positive := Nat.two_pow_pos round
    unfold roundStart
    omega
  have hue : (sequenceHue (roundStart round + place) : Rat) =
      180 / roundStart round + (place / 3 : Nat) * (360 / roundStart round) + (place % 3 : Nat) * 120 := by
    unfold sequenceHue
    dsimp only
    rw [if_neg later, roundBase_eq inside, Nat.add_sub_cancel_left]
    rfl
  rw [hue]
  unfold cut gapAt roundStart
  push_cast
  field_simp
  ring

theorem cutOf_early {round index : Nat} (early : index < roundStart round) :
    cutOf (round + 1) index = 2 * cutOf round index :=
  if_pos early

theorem cutOf_late (round place : Nat) :
    cutOf (round + 1) (roundStart round + place) = 2 * gapAt round place + 1 := by
  have late : ¬roundStart round + place < roundStart round := by omega
  unfold cutOf
  rw [if_neg late, Nat.add_sub_cancel_left]

theorem early_or_late {round index : Nat} (inside : index < roundStart (round + 1)) :
    index < roundStart round ∨ ∃ place < roundStart round, index = roundStart round + place := by
  rw [roundStart_succ] at inside
  by_cases early : index < roundStart round
  · exact .inl early
  · exact .inr ⟨index - roundStart round, by omega, by omega⟩

-- Earlier colors are the even cuts of the next round, and its own colors the odd ones.
theorem cutOf_bijOn (round : Nat) :
    Set.BijOn (cutOf round) (Set.Iio (roundStart round)) (Set.Iio (roundStart round)) := by
  induction round with
  | zero => exact Set.bijOn_id _
  | succ round ih =>
    have gaps := gapAt_bijOn round
    refine ⟨?_, ?_, ?_⟩
    · intro index inside
      rw [Set.mem_Iio, roundStart_succ]
      rcases early_or_late inside with early | ⟨place, late, rfl⟩
      · have lower : cutOf round index < roundStart round := ih.mapsTo early
        rw [cutOf_early early]
        omega
      · have lower : gapAt round place < roundStart round := gaps.mapsTo late
        rw [cutOf_late]
        omega
    · intro index inside other inside' same
      rcases early_or_late inside with early | ⟨place, late, rfl⟩ <;>
        rcases early_or_late inside' with early' | ⟨place', late', rfl⟩
      · rw [cutOf_early early, cutOf_early early'] at same
        exact ih.injOn early early' (by omega)
      · rw [cutOf_early early, cutOf_late] at same
        omega
      · rw [cutOf_late, cutOf_early early'] at same
        omega
      · rw [cutOf_late, cutOf_late] at same
        rw [gaps.injOn late late' (by omega)]
    · intro k inside
      rw [Set.mem_Iio, roundStart_succ] at inside
      rcases Nat.even_or_odd' k with ⟨half, rfl | rfl⟩
      · obtain ⟨index, early, rfl⟩ := ih.surjOn (show half < roundStart round by omega)
        rw [Set.mem_Iio] at early
        refine ⟨index, ?_, cutOf_early early⟩
        rw [Set.mem_Iio, roundStart_succ]
        omega
      · obtain ⟨place, late, rfl⟩ := gaps.surjOn (show half < roundStart round by omega)
        rw [Set.mem_Iio] at late
        refine ⟨roundStart round + place, ?_, cutOf_late round place⟩
        rw [Set.mem_Iio, roundStart_succ]
        omega

theorem sequenceHue_eq {round index : Nat} (inside : index < roundStart round) :
    (sequenceHue index : Rat) = cut round (cutOf round index) := by
  induction round with
  | zero =>
    have hue : (sequenceHue index : Rat) = 120 * index := if_pos inside
    rw [hue]
    unfold cut cutOf
    ring
  | succ round ih =>
    rcases early_or_late inside with early | ⟨place, late, rfl⟩
    · rw [cutOf_early early, cut_double]
      exact ih early
    · rw [cutOf_late]
      exact sequenceHue_round late

theorem sequenceHue_bijOn (round : Nat) :
    Set.BijOn (sequenceHue : Nat → Rat) (Set.Iio (roundStart round)) (cut round '' Set.Iio (roundStart round)) := by
  have cuts : Set.BijOn (cut round ∘ cutOf round) (Set.Iio (roundStart round))
      (cut round '' Set.Iio (roundStart round)) :=
    (cut_strictMono round).injective.injOn.bijOn_image.comp (cutOf_bijOn round)
  exact cuts.congr fun index inside => (sequenceHue_eq inside).symm

-- Two hues next to each other among those before a round. The last gap goes up to the first hue, a turn further.
structure IsGap (round : Nat) (low high : Rat) : Prop where
  left : ∃ index < roundStart round, sequenceHue index = low
  right : (∃ index < roundStart round, sequenceHue index = high) ∨ high = 360
  less : low < high
  empty : ∀ index < roundStart round, (sequenceHue index : Rat) ∉ Set.Ioo low high

theorem hue_iff_cut {round : Nat} {hue : Rat} :
    (∃ index < roundStart round, sequenceHue index = hue) ↔ ∃ k < roundStart round, cut round k = hue :=
  Set.ext_iff.mp (sequenceHue_bijOn round).image_eq hue

theorem isGap_iff {round : Nat} {low high : Rat} :
    IsGap round low high ↔ ∃ k < roundStart round, low = cut round k ∧ high = cut round (k + 1) := by
  constructor
  · intro gap
    obtain ⟨k, inside, rfl⟩ := hue_iff_cut.mp gap.left
    refine ⟨k, inside, rfl, ?_⟩
    obtain ⟨last, within, rfl⟩ : ∃ last ≤ roundStart round, cut round last = high := by
      rcases gap.right with hue | rfl
      · obtain ⟨last, within, same⟩ := hue_iff_cut.mp hue
        exact ⟨last, within.le, same⟩
      · exact ⟨roundStart round, le_refl _, cut_roundStart round⟩
    have before : k < last := (cut_strictMono round).lt_iff_lt.mp gap.less
    by_contra further
    have between : k + 1 < last := by
      refine lt_of_le_of_ne before ?_
      rintro rfl
      exact further rfl
    obtain ⟨index, early, same⟩ := hue_iff_cut.mpr ⟨k + 1, between.trans_le within, rfl⟩
    exact gap.empty index early (same ▸ ⟨cut_strictMono round (Nat.lt_succ_self k), cut_strictMono round between⟩)
  · rintro ⟨k, inside, rfl, rfl⟩
    refine ⟨hue_iff_cut.mpr ⟨k, inside, rfl⟩, ?_, cut_strictMono round (Nat.lt_succ_self k), ?_⟩
    · by_cases last : k + 1 < roundStart round
      · exact .inl (hue_iff_cut.mpr ⟨k + 1, last, rfl⟩)
      · rw [show k + 1 = roundStart round by omega]
        exact .inr (cut_roundStart round)
    · intro index early inside
      obtain ⟨other, _, same⟩ := hue_iff_cut.mp ⟨index, early, rfl⟩
      rw [← same] at inside
      have above := (cut_strictMono round).lt_iff_lt.mp inside.1
      have below := (cut_strictMono round).lt_iff_lt.mp inside.2
      omega

theorem cut_middle (round k : Nat) : cut (round + 1) (2 * k + 1) = (cut round k + cut round (k + 1)) / 2 := by
  unfold cut
  push_cast
  field_simp
  ring

theorem cut_between {round k half : Nat} :
    cut (round + 1) (2 * half + 1) ∈ Set.Ioo (cut round k) (cut round (k + 1)) ↔ half = k := by
  rw [← cut_double round k, ← cut_double round (k + 1), Set.mem_Ioo, (cut_strictMono (round + 1)).lt_iff_lt,
    (cut_strictMono (round + 1)).lt_iff_lt]
  omega

structure EvenlySpread (round : Nat) : Prop where
  cuts : Set.BijOn (sequenceHue : Nat → Rat) (Set.Iio (3 * 2 ^ round))
    {hue | ∃ k : Nat, k < 3 * 2 ^ round ∧ hue = k * 120 / 2 ^ round}
  inside : ∀ index < 3 * 2 ^ round, (sequenceHue index : Rat) ∈ Set.Ico 0 360
  bisected : ∀ low high, IsGap round low high → ∃ index ∈ Set.Ico (3 * 2 ^ round) (3 * 2 ^ (round + 1)),
    (sequenceHue index : Rat) = (low + high) / 2 ∧
      ∀ other ∈ Set.Ico (3 * 2 ^ round) (3 * 2 ^ (round + 1)), (sequenceHue other : Rat) ∈ Set.Ioo low high →
        other = index
  bisects : ∀ index ∈ Set.Ico (3 * 2 ^ round) (3 * 2 ^ (round + 1)),
    ∃ low high, IsGap round low high ∧ (sequenceHue index : Rat) = (low + high) / 2

theorem round_place {round index : Nat} (member : index ∈ Set.Ico (roundStart round) (roundStart (round + 1))) :
    ∃ place < roundStart round, index = roundStart round + place := by
  rcases early_or_late member.2 with early | late
  · exact absurd early (Nat.not_lt.mpr member.1)
  · exact late

theorem evenlySpread (round : Nat) : EvenlySpread round where
  cuts := by
    have spread := sequenceHue_bijOn round
    have angles : cut round '' Set.Iio (roundStart round) =
        {hue : Rat | ∃ k : Nat, k < 3 * 2 ^ round ∧ hue = k * 120 / 2 ^ round} := by
      ext hue
      constructor
      · rintro ⟨k, inside, rfl⟩
        exact ⟨k, inside, rfl⟩
      · rintro ⟨k, inside, rfl⟩
        exact ⟨k, inside, rfl⟩
    rwa [angles] at spread
  inside := by
    intro index early
    rw [sequenceHue_eq early, ← cut_roundStart round]
    have low : cut round 0 = 0 := by
      unfold cut
      simp
    constructor
    · exact low ▸ (cut_strictMono round).monotone (Nat.zero_le _)
    · exact cut_strictMono round ((cutOf_bijOn round).mapsTo early)
  bisected := by
    intro low high gap
    obtain ⟨k, inside, rfl, rfl⟩ := isGap_iff.mp gap
    obtain ⟨place, within, rfl⟩ := (gapAt_bijOn round).surjOn inside
    rw [Set.mem_Iio] at within
    refine ⟨roundStart round + place, ⟨Nat.le_add_right _ _, ?_⟩, ?_, ?_⟩
    · change _ < roundStart (round + 1)
      rw [roundStart_succ]
      omega
    · rw [sequenceHue_round within, cut_middle]
    · intro other member between
      obtain ⟨place', within', rfl⟩ := round_place member
      rw [sequenceHue_round within', cut_between] at between
      rw [(gapAt_bijOn round).injOn within' within between]
  bisects := by
    intro index member
    obtain ⟨place, within, rfl⟩ := round_place member
    refine ⟨_, _, isGap_iff.mpr ⟨gapAt round place, gapAt_lt within, rfl, rfl⟩, ?_⟩
    rw [sequenceHue_round within, cut_middle]

-- Before each round the hues cut the circle evenly, the hues of the round cut each gap once and in the middle, and no two
-- colors of the sequence have the same hue.
theorem sequenceHue_spread : (∀ round, EvenlySpread round) ∧ Function.Injective (sequenceHue : Nat → Rat) := by
  refine ⟨evenlySpread, ?_⟩
  intro index other same
  have early : ∀ n ≤ max index other, n < roundStart (max index other) := by
    intro n least
    have power := Nat.lt_two_pow_self (n := max index other)
    unfold roundStart
    omega
  exact (sequenceHue_bijOn (max index other)).injOn (early index (le_max_left _ _)) (early other (le_max_right _ _)) same

end Color

end Charting
