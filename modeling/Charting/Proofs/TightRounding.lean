import Charting.Proofs.NiceNumbers
import Mathlib.Order.Bounds.Basic

namespace Charting

theorem find?_first {β : Type} {r : β → β → Prop} {list : List β} {p : β → Bool} {first : β} (refl : ∀ b, r b b)
    (sorted : list.Pairwise r) (found : list.find? p = some first) : ∀ b ∈ list, p b → r first b := by
  obtain ⟨_, before, after, rfl, fails⟩ := List.find?_eq_some_iff_append.mp found
  intro b member holds
  rcases List.mem_append.mp member with early | late
  · have refused := fails b early
    simp [holds] at refused
  · rcases List.mem_cons.mp late with rfl | later
    · exact refl b
    · exact (List.pairwise_cons.mp (List.pairwise_append.mp sorted).2.1).1 b later

namespace Nice

variable {direction : Direction} {value : Int}

def bound : Direction → Int
  | .down => lowest
  | .up => highest

-- Zero, the ladder, the negatives of the ladder, and the bound of 32 bits.
def IsRound (direction : Direction) (n : Int) : Prop :=
  n = 0 ∨ n ∈ ladder ∨ -n ∈ ladder ∨ n = bound direction

theorem ladder_sorted : ladder.Pairwise (· ≤ ·) := by decide

theorem top_mem_ladder : top ∈ ladder := by decide

theorem one_mem_ladder : 1 ∈ ladder := by decide

theorem top_within : 0 < top ∧ top < highest ∧ lowest < -top := by decide

theorem onLadder_up_isLeast (below : value ≤ top) :
    IsLeast {rung | rung ∈ ladder ∧ value ≤ rung} (onLadder .up value) := by
  unfold onLadder
  cases found : ladder.find? (value ≤ ·) with
  | none =>
    have refused := List.find?_eq_none.mp found top top_mem_ladder
    simp [below] at refused
  | some rung =>
    refine ⟨⟨List.mem_of_find?_eq_some found, by simpa using List.find?_some found⟩, ?_⟩
    rintro n ⟨member, above⟩
    exact find?_first Int.le_refl ladder_sorted found n member (by simpa using above)

theorem onLadder_down_isGreatest (positive : 0 < value) :
    IsGreatest {rung | rung ∈ ladder ∧ rung ≤ value} (onLadder .down value) := by
  unfold onLadder
  cases found : ladder.reverse.find? (· ≤ value) with
  | none =>
    have refused := List.find?_eq_none.mp found 1 (List.mem_reverse.mpr one_mem_ladder)
    simp only [decide_eq_true_eq] at refused
    omega
  | some rung =>
    have member := List.mem_reverse.mp (List.mem_of_find?_eq_some found)
    refine ⟨⟨member, by simpa using List.find?_some found⟩, ?_⟩
    rintro n ⟨other, below⟩
    have sorted : ladder.reverse.Pairwise (· ≥ ·) := List.pairwise_reverse.mpr ladder_sorted
    exact find?_first (r := (· ≥ ·)) Int.le_refl sorted found n (List.mem_reverse.mpr other) (by simpa using below)

theorem onLadder_mem (positive : 0 < value) (below : value ≤ top) : onLadder direction value ∈ ladder := by
  cases direction with
  | up => exact (onLadder_up_isLeast below).1.1
  | down => exact (onLadder_down_isGreatest positive).1.1

theorem round_inside (positive : 0 < value) (below : value ≤ top) :
    round direction value = onLadder direction value := by
  unfold round roundPositive
  rw [if_neg (by omega), if_pos positive, if_neg (by omega)]

theorem round_mirrored (negative : value < 0) (above : -top ≤ value) :
    round direction value = -onLadder direction.opposite (-value) := by
  unfold round
  rw [if_neg (by omega), if_neg (by omega), if_neg (by omega)]

theorem round_beyond (beyond : top < value) :
    round direction value = match direction with | .up => highest | .down => top := by
  have order := top_within
  unfold round roundPositive
  rw [if_neg (by omega), if_pos (by omega)]
  refine (if_pos beyond).trans ?_
  cases direction <;> rfl

theorem round_below (beyond : value < -top) :
    round direction value = match direction with | .up => -top | .down => lowest := by
  have order := top_within
  unfold round
  rw [if_neg (by omega), if_neg (by omega)]
  refine (if_pos beyond).trans ?_
  cases direction <;> rfl

theorem round_cases (motive : Int → Prop) (zero : motive 0) (inside : ∀ value, 0 < value → value ≤ top → motive value)
    (mirrored : ∀ value, value < 0 → -top ≤ value → motive value) (beyond : ∀ value, top < value → motive value)
    (below : ∀ value, value < -top → motive value) (value : Int) : motive value := by
  have order := top_within
  rcases Int.lt_trichotomy value 0 with negative | rfl | positive
  · by_cases above : -top ≤ value
    · exact mirrored value negative above
    · exact below value (by omega)
  · exact zero
  · by_cases inside' : value ≤ top
    · exact inside value positive inside'
    · exact beyond value (by omega)

theorem round_isRound (direction : Direction) (value : Int) : IsRound direction (round direction value) := by
  induction value using round_cases with
  | zero => exact .inl rfl
  | inside value positive below =>
    rw [round_inside positive below]
    exact .inr (.inl (onLadder_mem positive below))
  | mirrored value negative above =>
    rw [round_mirrored negative above]
    refine .inr (.inr (.inl ?_))
    rw [Int.neg_neg]
    exact onLadder_mem (by omega) (by omega)
  | beyond value beyond =>
    rw [round_beyond beyond]
    cases direction with
    | up => exact .inr (.inr (.inr rfl))
    | down => exact .inr (.inl top_mem_ladder)
  | below value beyond =>
    rw [round_below beyond]
    cases direction with
    | up => exact .inr (.inr (.inl (by rw [Int.neg_neg]; exact top_mem_ladder)))
    | down => exact .inr (.inr (.inr rfl))

theorem IsRound.reach {n : Int} (isRound : IsRound direction n) :
    n = 0 ∨ (n ∈ ladder ∧ 0 < n ∧ n ≤ top) ∨ (-n ∈ ladder ∧ n < 0 ∧ -top ≤ n) ∨ n = bound direction := by
  rcases isRound with zero | rung | mirrored | last
  · exact .inl zero
  · have between := ladder_between rung
    exact .inr (.inl ⟨rung, by omega, by omega⟩)
  · have between := ladder_between mirrored
    exact .inr (.inr (.inl ⟨mirrored, by omega, by omega⟩))
  · exact .inr (.inr (.inr last))

theorem round_up_least {n : Int} (isRound : IsRound .up n) (above : value ≤ n) : round .up value ≤ n := by
  have order := top_within
  have reach : n = 0 ∨ (n ∈ ladder ∧ 0 < n ∧ n ≤ top) ∨ (-n ∈ ladder ∧ n < 0 ∧ -top ≤ n) ∨ n = highest := isRound.reach
  induction value using round_cases with
  | zero => exact above
  | inside value positive below =>
    have least := onLadder_up_isLeast below
    have capped := (onLadder_up below).2
    rw [round_inside positive below]
    rcases reach with _ | ⟨rung, _⟩ | _ | _
    · omega
    · exact least.2 ⟨rung, above⟩
    · omega
    · omega
  | mirrored value negative inside =>
    have greatest := onLadder_down_isGreatest (show 0 < -value by omega)
    have positive := (ladder_between greatest.1.1).1
    rw [round_mirrored negative inside]
    change -onLadder .down (-value) ≤ n
    rcases reach with _ | _ | ⟨mirrored, _⟩ | _
    · omega
    · omega
    · have reached : -n ≤ onLadder .down (-value) := greatest.2 ⟨mirrored, by omega⟩
      omega
    · omega
  | beyond value beyond =>
    rw [round_beyond beyond]
    change highest ≤ n
    omega
  | below value beyond =>
    rw [round_below beyond]
    change -top ≤ n
    omega

-- The bounds are no mirror images of each other, so a value below the ladder is rounded down to no such image.
theorem round_mirror (above : -top ≤ value) : round .down value = -round .up (-value) := by
  induction value using round_cases with
  | zero => rfl
  | inside value positive below =>
    rw [round_inside positive below, round_mirrored (by omega) (by omega), Int.neg_neg, Int.neg_neg]
    rfl
  | mirrored value negative inside =>
    rw [round_mirrored negative inside, round_inside (by omega) (by omega)]
    rfl
  | beyond value beyond =>
    rw [round_beyond beyond, round_below (by omega), Int.neg_neg]
  | below value beyond => omega

theorem round_neg (low : -top ≤ value) (high : value ≤ top) :
    round direction (-value) = -round direction.opposite value := by
  cases direction with
  | up =>
    change round .up (-value) = -round .down value
    rw [round_mirror low, Int.neg_neg]
  | down =>
    change round .down (-value) = -round .up value
    rw [round_mirror (by omega), Int.neg_neg]

theorem IsRound.mirror {n : Int} (isRound : IsRound .down n) (inside : n ≠ lowest) : IsRound .up (-n) := by
  rcases isRound with zero | rung | mirrored | last
  · exact .inl (by omega)
  · exact .inr (.inr (.inl (by rwa [Int.neg_neg])))
  · exact .inr (.inl mirrored)
  · exact absurd last inside

theorem round_down_greatest {n : Int} (isRound : IsRound .down n) (below : n ≤ value) : n ≤ round .down value := by
  have order := top_within
  by_cases inside : -top ≤ value
  · by_cases last : n = lowest
    · have least := (round_down (show lowest ≤ value by omega)).2.1
      omega
    · have up := round_up_least (isRound.mirror last) (Int.neg_le_neg below)
      rw [round_mirror inside]
      omega
  · have last : n = lowest := by
      rcases isRound.reach with _ | _ | _ | last
      · omega
      · omega
      · omega
      · exact last
    rw [round_below (by omega)]
    exact Int.le_of_eq last

theorem round_up_isLeast (high : value ≤ highest) : IsLeast {n | IsRound .up n ∧ value ≤ n} (round .up value) :=
  ⟨⟨round_isRound .up value, (round_up high).1⟩, fun _ other => round_up_least other.1 other.2⟩

theorem round_down_isGreatest (low : lowest ≤ value) :
    IsGreatest {n | IsRound .down n ∧ n ≤ value} (round .down value) :=
  ⟨⟨round_isRound .down value, (round_down low).1⟩, fun _ other => round_down_greatest other.1 other.2⟩

theorem IsRound.fixed {n : Int} (isRound : IsRound direction n) : round direction n = n := by
  have order := top_within
  have inside : lowest ≤ n ∧ n ≤ highest := by
    rcases isRound.reach with _ | _ | _ | last
    · omega
    · omega
    · omega
    · cases direction with
      | up =>
        change n = highest at last
        omega
      | down =>
        change n = lowest at last
        omega
  cases direction with
  | up => exact Int.le_antisymm (round_up_least isRound (Int.le_refl n)) (round_up inside.2).1
  | down => exact Int.le_antisymm (round_down inside.1).1 (round_down_greatest isRound (Int.le_refl n))

theorem round_mono {greater : Int} (low : lowest ≤ value) (high : greater ≤ highest) (order : value ≤ greater) :
    round direction value ≤ round direction greater := by
  cases direction with
  | up => exact round_up_least (round_isRound .up greater) (Int.le_trans order (round_up high).1)
  | down => exact round_down_greatest (round_isRound .down value) (Int.le_trans (round_down low).1 order)

def word? (n : Int) : Option Int :=
  if lowest ≤ n ∧ n ≤ highest then some n else none

-- Up the ladder to the first rung that is not below a value, and one rung back to round down to less than that. There
-- is no result if the walk gets past the last rung, or back from the first one.
def climb? (direction : Direction) (value : Int) : Option Int := do
  let place ← ladder.findIdx? (value ≤ ·)
  let rung ← ladder[place]?
  if rung = value ∨ direction = .up then some rung
  else if place = 0 then none
  else ladder[place - 1]?

-- Rounding by that walk in numbers of 32 bits: a negative value is rounded the other way without its sign.
def walk? (direction : Direction) (value : Int) : Option Int :=
  if value = 0 then some 0
  else if top < value then some (match direction with | .up => highest | .down => top)
  else if 0 < value then climb? direction value
  else if value < -top then some (match direction with | .up => -top | .down => lowest)
  else do word? (-(← climb? direction.opposite (← word? (-value))))

theorem ladder_le {low high : Nat} (order : low ≤ high) (within : high < ladder.length) :
    ladder[low] ≤ ladder[high] := by
  rcases Nat.lt_or_eq_of_le order with before | rfl
  · exact List.pairwise_iff_getElem.mp ladder_sorted low high (by omega) within before
  · exact Int.le_refl _

structure Ends (value : Int) (place : Nat) : Prop where
  inside : place < ladder.length
  before : ∀ other, ∀ within : other < ladder.length, ladder[other] < value ↔ other < place

theorem exists_ends (below : value ≤ top) : ∃ place, ladder.findIdx? (value ≤ ·) = some place ∧ Ends value place := by
  cases found : ladder.findIdx? (value ≤ ·) with
  | none =>
    have refused := List.findIdx?_eq_none_iff.mp found top top_mem_ladder
    simp [below] at refused
  | some place =>
    obtain ⟨inside, reached, early⟩ := List.findIdx?_eq_some_iff_getElem.mp found
    simp only [decide_eq_true_eq, Int.not_le] at reached early
    refine ⟨place, rfl, inside, ?_⟩
    intro other within
    constructor
    · intro lower
      by_contra late
      have higher := ladder_le (Nat.le_of_not_lt late) within
      omega
    · exact early other

theorem Ends.up {place : Nat} (ends : Ends value place) (below : value ≤ top) :
    ladder[place]? = some (onLadder .up value) := by
  have inside := ends.inside
  have least : IsLeast {rung | rung ∈ ladder ∧ value ≤ rung} ladder[place] := by
    refine ⟨⟨List.getElem_mem inside, ?_⟩, ?_⟩
    · exact Int.not_lt.mp (mt (ends.before place inside).mp (Nat.lt_irrefl place))
    · rintro _ ⟨member, above⟩
      obtain ⟨other, within, rfl⟩ := List.mem_iff_getElem.mp member
      have late := mt (ends.before other within).mpr (Int.not_lt.mpr above)
      exact ladder_le (Nat.le_of_not_lt late) within
  rw [List.getElem?_eq_getElem inside, least.unique (onLadder_up_isLeast below)]

theorem Ends.down {place : Nat} (ends : Ends value place) (positive : 0 < value) (below : value ≤ top)
    (between : onLadder .up value ≠ value) : place ≠ 0 ∧ ladder[place - 1]? = some (onLadder .down value) := by
  have up := ends.up below
  have above := (onLadder_up below).1
  have later : place ≠ 0 := by
    rintro rfl
    have first : 1 = onLadder .up value := Option.some.inj up
    omega
  have back : place - 1 < ladder.length := Nat.lt_of_le_of_lt (Nat.sub_le place 1) ends.inside
  have greatest : IsGreatest {rung | rung ∈ ladder ∧ rung ≤ value} ladder[place - 1] := by
    refine ⟨⟨List.getElem_mem back, Int.le_of_lt ((ends.before _ back).mpr (by omega))⟩, ?_⟩
    rintro _ ⟨member, reachable⟩
    obtain ⟨other, within, rfl⟩ := List.mem_iff_getElem.mp member
    have lower : ladder[other] < value := by
      refine lt_of_le_of_ne reachable ?_
      intro same
      have least := (onLadder_up_isLeast below).2 ⟨member, Int.le_of_eq same.symm⟩
      omega
    have early := (ends.before other within).mp lower
    exact ladder_le (by omega) back
  exact ⟨later, by rw [List.getElem?_eq_getElem back, greatest.unique (onLadder_down_isGreatest positive)]⟩

theorem onLadder_down_eq (positive : 0 < value) (below : value ≤ top) (exact : onLadder .up value = value) :
    onLadder .down value = value := by
  have up := onLadder_up_isLeast below
  have down := onLadder_down_isGreatest positive
  exact Int.le_antisymm down.1.2 (down.2 ⟨exact ▸ up.1.1, Int.le_refl value⟩)

theorem climb?_eq (positive : 0 < value) (below : value ≤ top) :
    climb? direction value = some (onLadder direction value) := by
  obtain ⟨place, found, ends⟩ := exists_ends below
  unfold climb?
  simp only [found, ends.up below, Option.bind_eq_bind, Option.bind_some]
  cases direction with
  | up => rw [if_pos (.inr rfl)]
  | down =>
    by_cases exact : onLadder .up value = value
    · rw [if_pos (.inl exact), exact, onLadder_down_eq positive below exact]
    · obtain ⟨later, back⟩ := ends.down positive below exact
      rw [if_neg (by simp [exact]), if_neg later, back]

theorem walk?_eq (direction : Direction) (value : Int) : walk? direction value = some (round direction value) := by
  have order := top_within
  unfold walk?
  induction value using round_cases with
  | zero => rfl
  | inside value positive below =>
    rw [if_neg (by omega), if_neg (by omega), if_pos positive, climb?_eq positive below,
      round_inside positive below]
  | mirrored value negative above =>
    have rung : onLadder direction.opposite (-value) ∈ ladder := onLadder_mem (by omega) (by omega)
    have between := ladder_between rung
    have magnitude : word? (-value) = some (-value) := if_pos (by omega)
    have mirrored : word? (-onLadder direction.opposite (-value)) = some (-onLadder direction.opposite (-value)) :=
      if_pos (by omega)
    rw [if_neg (by omega), if_neg (by omega), if_neg (by omega), if_neg (by omega), magnitude,
      round_mirrored negative above]
    change (climb? direction.opposite (-value)).bind (fun rung => word? (-rung)) = _
    rw [climb?_eq (by omega) (by omega)]
    exact mirrored
  | beyond value beyond => rw [if_neg (by omega), if_pos beyond, round_beyond beyond]
  | below value beyond =>
    rw [if_neg (by omega), if_neg (by omega), if_neg (by omega), if_pos beyond, round_below beyond]

-- A value of 32 bits is rounded to the nearest round number on its side. The walk up the ladder comes to the same
-- number for each of them: it never gets past an end of the ladder, and no negation leaves the 32 bits.
theorem round_tightest (value : Int32) :
    IsLeast {n | IsRound .up n ∧ value.toInt ≤ n} (round .up value.toInt) ∧
      IsGreatest {n | IsRound .down n ∧ n ≤ value.toInt} (round .down value.toInt) ∧
      (∀ direction, walk? direction value.toInt = some (round direction value.toInt)) ∧
      round .down value.toInt ≤ value.toInt ∧ value.toInt ≤ round .up value.toInt ∧
      (∀ direction, round direction (round direction value.toInt) = round direction value.toInt) ∧
      (∀ direction (greater : Int32), value ≤ greater → round direction value.toInt ≤ round direction greater.toInt) ∧
      (-top ≤ value.toInt → value.toInt ≤ top → ∀ direction,
        round direction (-value.toInt) = -round direction.opposite value.toInt) := by
  have low : lowest ≤ value.toInt := value.le_toInt
  have high : ∀ w : Int32, w.toInt ≤ highest := fun w => Int.le_of_lt_add_one w.toInt_lt
  have least := round_up_isLeast (high value)
  have greatest := round_down_isGreatest low
  refine ⟨least, greatest, fun direction => walk?_eq direction _, greatest.1.2, least.1.2, ?_, ?_, ?_⟩
  · intro direction
    exact (round_isRound direction value.toInt).fixed
  · intro direction greater order
    exact round_mono low (high greater) (Int32.le_iff_toInt_le.mp order)
  · intro above below direction
    exact round_neg above below

end Nice

end Charting
