import Charting.Axis.Nice

namespace Charting

namespace Nice

theorem ladder_between {step : Int} (member : step ∈ ladder) : 1 ≤ step ∧ step ≤ top := by
  have all : ∀ step ∈ ladder, 1 ≤ step ∧ step ≤ top := by decide
  exact all step member

theorem onLadder_up {value : Int} (below : value ≤ top) : value ≤ onLadder .up value ∧ onLadder .up value ≤ top := by
  unfold onLadder
  cases found : ladder.find? (value ≤ ·) with
  | none => exact ⟨below, Int.le_refl _⟩
  | some step =>
    have reached : value ≤ step := by simpa using List.find?_some found
    exact ⟨reached, (ladder_between (List.mem_of_find?_eq_some found)).2⟩

theorem onLadder_down {value : Int} (positive : 0 ≤ value) :
    0 ≤ onLadder .down value ∧ onLadder .down value ≤ value ∧ onLadder .down value ≤ top := by
  have bound : 0 ≤ top := by decide
  unfold onLadder
  cases found : ladder.reverse.find? (· ≤ value) with
  | none => exact ⟨Int.le_refl _, positive, bound⟩
  | some step =>
    have reached : step ≤ value := by simpa using List.find?_some found
    have between := ladder_between (List.mem_reverse.mp (List.mem_of_find?_eq_some found))
    exact ⟨by simp only [Option.getD_some]; omega, reached, between.2⟩

theorem round_up {value : Int} (high : value ≤ highest) :
    value ≤ round .up value ∧ -top ≤ round .up value ∧ round .up value ≤ highest := by
  have bound : 0 ≤ top ∧ top ≤ highest := by decide
  unfold round roundPositive Direction.opposite
  split
  · exact ⟨by omega, by decide, by decide⟩
  · split
    · split
      · exact ⟨high, by decide, by decide⟩
      · have bracket := onLadder_up (show value ≤ top by omega)
        omega
    · split
      · exact ⟨by dsimp only; omega, by decide, by decide⟩
      · have bracket := onLadder_down (show 0 ≤ -value by omega)
        dsimp only
        omega

theorem round_down {value : Int} (low : lowest ≤ value) :
    round .down value ≤ value ∧ lowest ≤ round .down value ∧ round .down value ≤ top := by
  have bound : 0 ≤ top ∧ lowest ≤ -top := by decide
  unfold round roundPositive Direction.opposite
  split
  · exact ⟨by omega, by decide, by decide⟩
  · split
    · split
      · exact ⟨by dsimp only; omega, by decide, by decide⟩
      · have bracket := onLadder_down (show 0 ≤ value by omega)
        omega
    · split
      · exact ⟨low, by decide, by decide⟩
      · have bracket := onLadder_up (show -value ≤ top by omega)
        dsimp only
        omega

theorem clamp_between (value : Int) : lowest ≤ clamp value ∧ clamp value ≤ highest := by
  have order : lowest ≤ highest := by decide
  unfold clamp
  omega

theorem roundWide_up {value : Int} (high : value ≤ highest) : value ≤ roundWide .up value := by
  have between := clamp_between value
  have bracket := (round_up between.2).1
  have reached : value ≤ clamp value := by
    unfold clamp
    omega
  exact Int.le_trans reached bracket

theorem roundWide_up_between (value : Int) :
    -top ≤ roundWide .up value ∧ roundWide .up value ≤ highest :=
  (round_up (clamp_between value).2).2

theorem roundWide_up_saturated {value : Int} (beyond : highest ≤ value) : roundWide .up value = highest := by
  have order : lowest ≤ highest := by decide
  have clamped : clamp value = highest := by
    unfold clamp
    omega
  unfold roundWide
  rw [clamped]
  decide

theorem roundWide_down {value : Int} (low : lowest ≤ value) : roundWide .down value ≤ value := by
  have between := clamp_between value
  have bracket := (round_down between.1).1
  have reached : clamp value ≤ value := by
    unfold clamp
    omega
  exact Int.le_trans bracket reached

theorem roundWide_down_saturated {value : Int} (beyond : value ≤ lowest) : roundWide .down value = lowest := by
  have order : lowest ≤ highest := by decide
  have clamped : clamp value = lowest := by
    unfold clamp
    omega
  unfold roundWide
  rw [clamped]
  decide

theorem roundWide_down_between (value : Int) :
    lowest ≤ roundWide .down value ∧ roundWide .down value ≤ top :=
  (round_down (clamp_between value).1).2

theorem roundWide_down_le_iff {low value : Int} (below : low ≤ value) :
    roundWide .down low ≤ value ↔ lowest ≤ value := by
  constructor
  · intro rounded
    exact Int.le_trans (roundWide_down_between low).1 rounded
  · intro fits
    by_cases inside : lowest ≤ low
    · exact Int.le_trans (roundWide_down inside) below
    · rw [roundWide_down_saturated (by omega)]
      exact fits

theorem le_roundWide_up_iff {high value : Int} (above : value ≤ high) :
    value ≤ roundWide .up high ↔ value ≤ highest := by
  constructor
  · intro rounded
    exact Int.le_trans rounded (roundWide_up_between high).2
  · intro fits
    by_cases inside : high ≤ highest
    · exact Int.le_trans above (roundWide_up inside)
    · rw [roundWide_up_saturated (by omega)]
      exact fits

theorem roundWide_apart {low high : Int} (order : low < high) : roundWide .down low < roundWide .up high := by
  have bounds : top < highest ∧ lowest < -top := by decide
  have down := roundWide_down_between low
  have up := roundWide_up_between high
  by_cases left : lowest ≤ low
  · by_cases right : high ≤ highest
    · have below := roundWide_down left
      have above := roundWide_up right
      omega
    · rw [roundWide_up_saturated (by omega)]
      omega
  · rw [roundWide_down_saturated (by omega)]
    omega

end Nice

end Charting
