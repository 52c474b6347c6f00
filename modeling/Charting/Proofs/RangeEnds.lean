import Charting.Proofs.Ticks
import Charting.Proofs.TightRounding
import Charting.Proofs.WellFormed
import Mathlib.Order.MinMax

namespace Charting

theorem foldl_mem_cons {β : Type} {f : β → β → β} (chooses : ∀ a b, f a b = a ∨ f a b = b) (start : β)
    (values : List β) : values.foldl f start ∈ start :: values := by
  induction values generalizing start with
  | nil => exact List.mem_cons_self
  | cons head rest ih =>
    rw [List.foldl_cons]
    rcases List.mem_cons.mp (ih (f start head)) with same | later
    · rw [same]
      rcases chooses start head with first | second
      · rw [first]
        exact List.mem_cons_self
      · rw [second]
        exact List.mem_cons_of_mem start List.mem_cons_self
    · exact List.mem_cons_of_mem start (List.mem_cons_of_mem head later)

theorem Nice.roundWide_of_fits {direction : Direction} {axis : Axis} {value : Int} (fits : axis.Fits value) :
    roundWide direction (value + axis.offset.toInt) = round direction (value + axis.offset.toInt) := by
  have clamped : clamp (value + axis.offset.toInt) = value + axis.offset.toInt := by
    unfold Axis.Fits at fits
    unfold clamp
    omega
  unfold roundWide
  rw [clamped]

namespace AxisRange

theorem least_isLeast (values : List Int) : IsLeast {v | v ∈ 0 :: values} (least values) := by
  refine ⟨foldl_mem_cons min_choice 0 values, ?_⟩
  intro v member
  rcases List.mem_cons.mp member with rfl | drawn
  · exact (least_le values).1
  · exact (least_le values).2 v drawn

theorem foldl_max_isGreatest (values : List Int) : IsGreatest {v | v ∈ 0 :: values} (values.foldl Max.max 0) := by
  refine ⟨foldl_mem_cons max_choice 0 values, ?_⟩
  intro v member
  rcases List.mem_cons.mp member with rfl | drawn
  · exact (le_foldl_max values 0).1
  · exact (le_foldl_max values 0).2 v drawn

theorem continuous_congr (axis : Axis) {values others : List Int} (same : ∀ v, v ∈ 0 :: values ↔ v ∈ 0 :: others) :
    continuous axis values = continuous axis others := by
  have sets : {v | v ∈ 0 :: values} = {v | v ∈ 0 :: others} := Set.ext same
  have low : values.foldl Min.min 0 = others.foldl Min.min 0 :=
    (least_isLeast values).unique (sets ▸ least_isLeast others)
  have high : values.foldl Max.max 0 = others.foldl Max.max 0 :=
    (foldl_max_isGreatest values).unique (sets ▸ foldl_max_isGreatest others)
  unfold continuous
  rw [low, high]

-- The range of an axis with some values drawn on it. It is the range of these values, whatever else has been looked at.
-- There is something between its ends, and zero. If what is shown of the least and of the greatest value has 32 bits,
-- the ends are shown as the nearest round numbers around them.
structure Tight (axis : Axis) (drawn : List Int) (r : AxisRange) : Prop where
  read : r = continuous axis drawn
  ordered : r.min < r.max
  zero : r.min ≤ 0 ∧ 0 ≤ r.max
  ends : ∃ lo hi, IsLeast {v | v ∈ 0 :: drawn} lo ∧ IsGreatest {v | v ∈ 0 :: drawn} hi ∧
    let hi := if lo = 0 ∧ hi = 0 then 1 else hi
    let offset := axis.offset.toInt
    axis.Fits lo → axis.Fits hi →
      IsGreatest {n | Nice.IsRound .down n ∧ n ≤ lo + offset} (r.min + offset) ∧
        IsLeast {n | Nice.IsRound .up n ∧ hi + offset ≤ n} (r.max + offset)

theorem greatest_eq (values : List Int) :
    greatest values = if least values = 0 ∧ values.foldl Max.max 0 = 0 then 1 else values.foldl Max.max 0 := by
  have low := (least_le values).1
  have high := (le_foldl_max values 0).1
  unfold greatest
  dsimp only
  split
  · rw [if_pos (by omega)]
    omega
  · rw [if_neg (by omega)]

theorem continuous_tight (axis : Axis) (drawn : List Int) : (continuous axis drawn).Tight axis drawn where
  read := rfl
  ordered := (continuous_sound axis drawn).ordered
  zero := (continuous_covers axis List.mem_cons_self).mpr axis.fits_zero
  ends := by
    refine ⟨least drawn, drawn.foldl Max.max 0, least_isLeast drawn, foldl_max_isGreatest drawn, ?_⟩
    intro hi offset low high
    have last : hi = greatest drawn := (greatest_eq drawn).symm
    rw [last] at high ⊢
    rw [continuous_eq, Nice.roundWide_of_fits low, Nice.roundWide_of_fits high]
    dsimp only
    rw [Int.sub_add_cancel, Int.sub_add_cancel]
    exact ⟨Nice.round_down_isGreatest low.1, Nice.round_up_isLeast high.2⟩

end AxisRange

namespace Values

variable {v : Values} {set i : Nat}

-- The heights that are drawn: one for each value of a data set, and none for places beyond its end.
def levels (v : Values) (stacked : Bool) : List Int :=
  v.sets.flatMap fun set => (List.range (v.count set)).map (Line.level v stacked set)

theorem level_mem_levels (stacked : Bool) (below : i < v.count set) :
    Line.level v stacked set i ∈ v.levels stacked := by
  apply List.mem_flatMap.mpr
  exact ⟨set, mem_sets below, List.mem_map.mpr ⟨i, List.mem_range.mpr below, rfl⟩⟩

def Trimmed (v : Values) : Prop :=
  ∀ series ∈ v, series.entries.size ≤ series.count

theorem Trimmed.value_beyond (trimmed : v.Trimmed) (beyond : v.count set ≤ i) : v.value set i = 0 := by
  unfold value
  cases found : v[set]? with
  | none => rfl
  | some series =>
    have size := trimmed series (List.mem_of_getElem? found)
    unfold count at beyond
    rw [found] at beyond
    change series.count ≤ i at beyond
    rw [Option.bind_some, Array.getElem?_eq_none (by omega)]
    rfl

theorem Trimmed.stackedBelow_succ (trimmed : v.Trimmed) (beyond : v.count set ≤ i) :
    v.stackedBelow (set + 1) i = v.stackedBelow set i := by
  change v.stackedBelow set i + v.value set i = v.stackedBelow set i
  rw [trimmed.value_beyond beyond, Int.add_zero]

-- What a data set stands on is the ground, or the stack of an earlier one that is drawn at the same place.
theorem Trimmed.stackedBelow_mem (trimmed : v.Trimmed) (set i : Nat) : v.stackedBelow set i ∈ 0 :: v.levels true := by
  induction set with
  | zero => exact List.mem_cons_self
  | succ set ih =>
    by_cases below : i < v.count set
    · exact List.mem_cons_of_mem 0 (level_mem_levels true below)
    · rw [trimmed.stackedBelow_succ (Nat.le_of_not_lt below)]
      exact ih

theorem mem_levels {stacked : Bool} {n : Int} :
    n ∈ v.levels stacked ↔ ∃ set i, i < v.count set ∧ n = Line.level v stacked set i := by
  constructor
  · intro member
    obtain ⟨set, _, drawn⟩ := List.mem_flatMap.mp member
    obtain ⟨i, below, rfl⟩ := List.mem_map.mp drawn
    exact ⟨set, i, List.mem_range.mp below, rfl⟩
  · rintro ⟨set, i, below, rfl⟩
    exact level_mem_levels stacked below

theorem Trimmed.mem_heights_iff (trimmed : v.Trimmed) (stacked : Bool) (n : Int) :
    n ∈ 0 :: v.heights stacked ↔ n ∈ 0 :: v.levels stacked := by
  constructor
  · intro member
    rcases List.mem_cons.mp member with rfl | scanned
    · exact List.mem_cons_self
    · cases stacked with
      | false => exact List.mem_cons_of_mem 0 scanned
      | true =>
        obtain ⟨set, _, there⟩ := List.mem_flatMap.mp scanned
        obtain ⟨i, _, rfl⟩ := List.mem_map.mp there
        exact trimmed.stackedBelow_mem (set + 1) i
  · intro member
    rcases List.mem_cons.mp member with rfl | drawn
    · exact List.mem_cons_self
    · obtain ⟨set, i, below, rfl⟩ := mem_levels.mp drawn
      exact level_scanned stacked below

section

variable {N : Type} [Supplier N] {data : List DataSet}

theorem collectFrom_trimmed (room : Bool) (held : ∀ d ∈ data, ∀ values, d.values = some values → values.size = d.count)
    (set : Nat) (supplier : Option N) : (collectFrom room set data supplier).1.Trimmed := by
  induction data generalizing set supplier with
  | nil => exact fun _ absent => nomatch absent
  | cons d rest ih =>
    have tail := fun supplier => ih (fun d later => held d (List.mem_cons_of_mem _ later)) (set + 1) supplier
    have cons : ∀ {series : Series} {rest : Values}, series.entries.size ≤ series.count → rest.Trimmed →
        Trimmed (series :: rest) := fun first later => List.forall_mem_cons.mpr ⟨first, later⟩
    unfold collectFrom
    cases kept : d.values with
    | some values =>
      have size := held d List.mem_cons_self values kept
      exact cons (Nat.le_of_eq size) (tail supplier)
    | none =>
      dsimp only
      split
      · exact cons (by simp [fetchAll]) (tail (fetchAll supplier set d.count).2)
      · exact cons (Nat.zero_le _) (tail supplier)

theorem collect_trimmed_of_held (held : ∀ d ∈ data, ∀ values, d.values = some values → values.size = d.count)
    (supplier : Option N) : (collect data supplier).1.Trimmed := by
  rw [collect_eq]
  exact collectFrom_trimmed _ held 0 supplier

theorem collect_trimmed (sound : ∀ d ∈ data, d.Sound) (supplier : Option N) : (collect data supplier).1.Trimmed :=
  collect_trimmed_of_held (fun d member => (sound d member).held) supplier

end

end Values

def GridAxis.range {α : Type} (a : GridAxis α) : AxisRange :=
  ⟨a.kind, a.min, a.max⟩

namespace Grid

variable {α M : Type} [Scalar α] [TextMeasurer α M]

def Tight (g : Grid α) (v : View α) (kind : Kind) : Prop :=
  match kind with
  | .scatter =>
    g.horizontal.range.Tight v.primary v.values.abscissas ∧ g.vertical.range.Tight v.secondary v.values.ordinates
  | kind => g.secondary.range.Tight v.secondary (v.values.levels kind.isStacked)

theorem layOut_tight {v : View α} (trimmed : v.values.Trimmed) (kind : Kind) (m : M) :
    (layOut v kind m).1.Tight v kind := by
  have tight : ∀ stacked, (AxisRange.continuous v.secondary (v.values.heights stacked)).Tight v.secondary
      (v.values.levels stacked) := by
    intro stacked
    rw [AxisRange.continuous_congr v.secondary (trimmed.mem_heights_iff stacked)]
    exact AxisRange.continuous_tight v.secondary _
  cases kind with
  | scatter => exact ⟨AxisRange.continuous_tight v.primary _, AxisRange.continuous_tight v.secondary _⟩
  | pie => exact tight false
  | line stacked | area stacked | column stacked | bar stacked => exact tight stacked

end Grid

namespace Chart

variable {H : Host}

theorem view_trimmed {c : Chart H} (sound : c.Sound) : c.view.1.values.Trimmed :=
  Values.collect_trimmed sound.data _

theorem grid_laidOut {c : Chart H} {g : Grid H.Length} (shown : c.grid.1 = some g) :
    g = (Grid.layOut c.view.1 c.style.kind c.view.2.measurer).1 := by
  unfold grid at shown
  split at shown
  · exact (Option.some.inj shown).symm
  · cases shown

-- Whatever has been done to a chart, whatever its data sets hold or are supplied with, and however its axes are
-- shifted: the continuous axes of its grid have the ranges of the values drawn on them, and these ranges are tight.
theorem run_ranges (service : H.Service) (style : ChartStyle) (config : Config H.Length) (ops : List (Operation H))
    {g : Grid H.Length} (shown : ((withConfig service style config).run ops).grid.1 = some g) :
    let c := (withConfig service style config).run ops
    let values := c.view.1.values
    match c.style.kind with
    | .scatter =>
      g.horizontal.range.Tight c.primary values.abscissas ∧ g.vertical.range.Tight c.secondary values.ordinates
    | kind => g.secondary.range.Tight c.secondary (values.levels kind.isStacked) := by
  intro c values
  have sound := (run_wellFormed service style config ops).toSound
  rw [grid_laidOut shown]
  exact Grid.layOut_tight (view_trimmed sound) c.style.kind c.view.2.measurer

end Chart

namespace Demo

def raggedEdits : List (Operation host) :=
  [.insertDataSet 0 (.stored #[40, -13, 25]), .insertDataSet 1 (.stored #[5]), .setOffset .secondary 7]

def ragged : Chart host :=
  (Chart.withConfig (SvgScreen.mk none : host.Service) { kind := .area true } .standard).run raggedEdits

theorem ragged_ranges :
    ∃ g, ragged.grid.1 = some g ∧ ragged.view.1.values.levels true = [40, -13, 25, 45] ∧
      g.secondary.range = ⟨.continuous, -17, 53⟩ ∧ g.secondary.range.Tight ragged.secondary [40, -13, 25, 45] := by
  obtain ⟨g, shown, range⟩ : ∃ g, ragged.grid.1 = some g ∧ g.secondary.range = ⟨.continuous, -17, 53⟩ :=
    ⟨_, rfl, by decide⟩
  have levels : ragged.view.1.values.levels true = [40, -13, 25, 45] := by decide
  have tight := Chart.run_ranges _ { kind := .area true } .standard raggedEdits shown
  change g.secondary.range.Tight ragged.secondary (ragged.view.1.values.levels true) at tight
  rw [levels] at tight
  exact ⟨g, shown, levels, range, tight⟩

end Demo

end Charting
