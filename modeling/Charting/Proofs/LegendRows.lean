import Charting.Legend
import Charting.Proofs.Snapping
import Charting.Text.Heuristic
import Mathlib.Data.List.TakeWhile

namespace Charting

theorem takeWhile_range_first (keep : Nat → Bool) (n : Nat) :
    ∃ count ≤ n, (List.range n).takeWhile keep = List.range count ∧ (count < n → keep count = false) := by
  induction n with
  | zero => exact ⟨0, Nat.le_refl 0, rfl, fun below => absurd below (Nat.lt_irrefl 0)⟩
  | succ n ih =>
    obtain ⟨count, within, taken, stopped⟩ := ih
    rw [List.range_succ, List.takeWhile_append, taken, List.length_range, List.length_range]
    by_cases all : count = n
    · subst all
      rw [if_pos rfl]
      cases keeps : keep count with
      | true => exact ⟨count + 1, Nat.le_refl _, by simp [keeps, List.range_succ], by simp⟩
      | false => exact ⟨count, Nat.le_succ _, by simp [keeps], fun _ => keeps⟩
    · rw [if_neg all]
      exact ⟨count, by omega, rfl, fun _ => stopped (by omega)⟩

namespace Legend

variable {v : View Rat} {set : Nat}

def top (v : View Rat) (set : Nat) : Rat :=
  (row v set).textOrigin.y

def bottom (v : View Rat) (set : Nat) : Rat :=
  top v set + v.layout.font.lineHeight

def CutOff (v : View Rat) (set : Nat) : Prop :=
  top v set < v.layout.legend.y1 ∧ v.layout.legend.y1 < bottom v set

theorem top_eq (v : View Rat) (set : Nat) :
    top v set = v.layout.legend.y0 + set * v.layout.font.lineHeight :=
  rfl

theorem bottom_eq (v : View Rat) (set : Nat) : bottom v set = top v (set + 1) := by
  rw [bottom, top_eq, top_eq]
  push_cast
  ring

theorem top_mono (tall : 0 ≤ v.layout.font.lineHeight) : Monotone (top v) := by
  intro upper lower below
  rw [top_eq, top_eq]
  have rows : (upper : Rat) ≤ lower := Nat.cast_le.mpr below
  linarith [mul_le_mul_of_nonneg_right rows tall]

theorem fits_iff : fits v set = true ↔ bottom v set ≤ v.layout.legend.y1 := by
  change (!decide (v.layout.legend.y1 < bottom v set)) = true ↔ _
  simp

theorem mem_paintedRows (tall : 0 ≤ v.layout.font.lineHeight) :
    set ∈ paintedRows v ↔ set < v.data.length ∧ bottom v set ≤ v.layout.legend.y1 := by
  obtain ⟨count, within, painted, stopped⟩ := takeWhile_range_first (fits v) v.data.length
  rw [← fits_iff]
  constructor
  · intro member
    exact ⟨List.mem_range.mp (List.takeWhile_subset _ member), List.mem_takeWhile_imp member⟩
  · rintro ⟨present, fit⟩
    unfold paintedRows
    rw [painted, List.mem_range]
    by_contra left
    have least : bottom v count ≤ bottom v set := by
      rw [bottom_eq, bottom_eq]
      exact top_mono tall (by omega)
    have fitted := fits_iff.mpr (least.trans (fits_iff.mp fit))
    rw [stopped (by omega)] at fitted
    cases fitted

theorem paintedRows_eq (v : View Rat) : paintedRows v = List.range (paintedRows v).length := by
  obtain ⟨count, _, painted, _⟩ := takeWhile_range_first (fits v) v.data.length
  unfold paintedRows
  rw [painted, List.length_range]

variable {M : Type} [TextMeasurer Rat M] {p : Point Rat} {m : M}

theorem band_iff (tall : 0 < v.layout.font.lineHeight) (below : v.layout.legend.y0 ≤ p.y) :
    Scalar.toNat (Scalar.floor ((p.y - v.layout.legend.y0) / v.layout.font.lineHeight)) = set ↔
      top v set ≤ p.y ∧ p.y < bottom v set := by
  have lines : 0 ≤ (p.y - v.layout.legend.y0) / v.layout.font.lineHeight :=
    div_nonneg (sub_nonneg.mpr below) tall.le
  have whole : Scalar.toNat (Scalar.floor ((p.y - v.layout.legend.y0) / v.layout.font.lineHeight)) =
      ⌊(p.y - v.layout.legend.y0) / v.layout.font.lineHeight⌋₊ := by
    change (Exact.truncate (((p.y - v.layout.legend.y0) / v.layout.font.lineHeight).floor : Int)).toNat = _
    rw [Exact.truncate_intCast]
    rfl
  rw [whole, Nat.floor_eq_iff lines, le_div_iff₀ tall, div_lt_iff₀ tall, bottom_eq, top_eq, top_eq]
  push_cast
  constructor <;> rintro ⟨low, high⟩ <;> constructor <;> linarith

theorem hitTest_band (found : (hitTest v p m).1 = some (.whole set)) :
    (0 < v.layout.font.lineHeight ∧ v.layout.legend.contains p = true) ∧
      set < v.data.length ∧ top v set ≤ p.y ∧ p.y < bottom v set := by
  unfold hitTest at found
  dsimp only at found
  split at found
  · cases found
  · rename_i searched
    simp only [Bool.or_eq_true, Bool.not_eq_true', decide_eq_true_eq, not_or, Bool.not_eq_false, not_le] at searched
    obtain ⟨inside, tall⟩ := searched
    split at found
    · cases found
    · rename_i present
      have same : Scalar.toNat (Scalar.floor ((p.y - v.layout.legend.y0) / v.layout.font.lineHeight)) = set := by
        split at found
        · cases found
          rfl
        · change (if TextHit.inside _ then some (HotItem.whole _) else none) = some (.whole set) at found
          split at found
          · cases found
            rfl
          · cases found
      rw [same] at present
      exact ⟨⟨tall, inside⟩, Nat.lt_of_not_le present, (band_iff tall (Rect.contains_iff.mp inside).2.1).mp same⟩

theorem hitTest_left (tall : 0 < v.layout.font.lineHeight) (wide : v.layout.legend.x0 < v.layout.legend.x1)
    (present : set < v.data.length) (begun : top v set < v.layout.legend.y1) :
    (hitTest v ⟨v.layout.legend.x0, top v set⟩ m).1 = some (.whole set) := by
  have below : v.layout.legend.y0 ≤ top v set := by
    rw [top_eq]
    exact le_add_of_nonneg_right (mul_nonneg (Nat.cast_nonneg set) tall.le)
  have inside : v.layout.legend.contains ⟨v.layout.legend.x0, top v set⟩ = true :=
    Rect.contains_iff.mpr ⟨⟨le_refl _, wide⟩, below, begun⟩
  have band := (band_iff (p := ⟨v.layout.legend.x0, top v set⟩) tall below).mpr
    ⟨le_refl _, lt_add_of_pos_right _ tall⟩
  have left : v.layout.legend.x0 < (row v set).textOrigin.x := by
    change v.layout.legend.x0 < v.layout.legend.x0 + v.layout.font.lineHeight + ((6 : Int) : Rat)
    push_cast
    linarith
  unfold hitTest
  dsimp only
  rw [band, inside, decide_eq_false (not_le.mpr tall), if_neg (by simp), if_neg (Nat.not_le.mpr present), if_pos left]
  rfl

-- A row that is found is painted, or it is the first one that is not, and the lower edge of the legend cuts it off. So
-- no more than what is painted is found if and only if the edge cuts off no row.
theorem hitTest_rows (v : View Rat) (m : M) :
    (∀ p set, (hitTest v p m).1 = some (.whole set) →
        (top v set ≤ p.y ∧ p.y < bottom v set) ∧
          (set ∈ paintedRows v ∨ set = (paintedRows v).length ∧ CutOff v set)) ∧
      (0 < v.layout.font.lineHeight → v.layout.legend.x0 < v.layout.legend.x1 →
        ((∀ p set, (hitTest v p m).1 = some (.whole set) → set ∈ paintedRows v) ↔
          ∀ set < v.data.length, ¬CutOff v set)) := by
  have rows : ∀ p set, (hitTest v p m).1 = some (.whole set) →
      (top v set ≤ p.y ∧ p.y < bottom v set) ∧
        (set ∈ paintedRows v ∨ set = (paintedRows v).length ∧ CutOff v set) := by
    intro p set found
    obtain ⟨⟨tall, inside⟩, present, band⟩ := hitTest_band found
    have edge := (Rect.contains_iff.mp inside).2.2
    refine ⟨band, ?_⟩
    by_cases fit : bottom v set ≤ v.layout.legend.y1
    · exact .inl ((mem_paintedRows tall.le).mpr ⟨present, fit⟩)
    · have begun : top v set < v.layout.legend.y1 := band.1.trans_lt edge
      refine .inr ⟨?_, begun, not_le.mp fit⟩
      -- Every row above a row that has begun has come to its end.
      have above : ∀ k, k < (paintedRows v).length ↔ k < set := by
        intro k
        rw [← List.mem_range, ← paintedRows_eq, mem_paintedRows tall.le, bottom_eq]
        constructor
        · rintro ⟨_, ended⟩
          by_contra beyond
          apply fit
          rw [bottom_eq]
          exact (top_mono tall.le (by omega)).trans ended
        · intro before
          exact ⟨by omega, (top_mono tall.le (by omega)).trans begun.le⟩
      have least := (above (paintedRows v).length).mpr.mt (Nat.lt_irrefl _)
      have greatest := (above set).mp.mt (Nat.lt_irrefl _)
      omega
  refine ⟨rows, fun tall wide => ⟨?_, ?_⟩⟩
  · intro painted set present cut
    have fit := (mem_paintedRows tall.le).mp (painted _ set (hitTest_left tall wide present cut.1))
    exact absurd fit.2 (not_le.mpr cut.2)
  · intro whole p set found
    rcases (rows p set found).2 with painted | ⟨_, cut⟩
    · exact painted
    · exact absurd cut (whole set (hitTest_band found).2.1)

end Legend

namespace Demo

def lowLegend : View Rat :=
  let config : Config Rat := { Config.standard with textStyle := { size := 12 } }
  { data := [.ofContents (.stored #[1]), .ofContents (.stored #[2])]
    values := [⟨1, #[1]⟩, ⟨1, #[2]⟩]
    primary := {}
    secondary := {}
    hot := none
    layout := Layout.arrange ⟨400, 30⟩
      (FontMetrics.ofSample (Heuristic.metrics FontMetrics.sample config.textStyle)) false
    config }

theorem lowLegend_unpainted :
    (Legend.hitTest lowLegend ⟨306, 20⟩ Heuristic.mk).1 = some (.whole 1) ∧
      Legend.paintedRows lowLegend = [0] ∧ Legend.paint lowLegend = Legend.paintRow lowLegend 0 ∧
        Legend.CutOff lowLegend 1 := by
  have painted : Legend.paintedRows lowLegend = [0] := by decide +kernel
  refine ⟨by decide +kernel, painted, ?_, by decide +kernel, by decide +kernel⟩
  rw [Legend.paint, painted]
  rfl

end Demo

end Charting
