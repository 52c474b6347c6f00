import Charting.Proofs.Caption
import Charting.Proofs.Looks
import Charting.Proofs.HitBounds
import Charting.Proofs.Repaint
import Mathlib.Data.List.Basic

namespace Charting

namespace Values

def points (v : Values) (set : Nat) : List (Int × Int) :=
  (v.pairs set).map fun i => (v.value set i, v.value set (i + 1))

def SameRead (kind : Kind) (v w : Values) : Prop :=
  match kind with
  | .pie => ∀ set, v.value set 0 = w.value set 0
  | .scatter => ∀ set, v.points set = w.points set
  | .line _ | .area _ | .column _ | .bar _ => v = w

variable {v w : Values} {set : Nat}

theorem pairs_of_points (same : v.points set = w.points set) : v.pairs set = w.pairs set := by
  have length := congrArg List.length same
  simp only [points, pairs, List.length_map, List.length_range] at length
  unfold pairs
  rw [length]

theorem pair_of_points (same : v.points set = w.points set) {i : Nat} (pair : i ∈ v.pairs set) :
    v.value set i = w.value set i ∧ v.value set (i + 1) = w.value set (i + 1) := by
  have maps := same
  unfold points at maps
  rw [← pairs_of_points same] at maps
  exact Prod.mk.inj (List.map_inj_left.mp maps i pair)

theorem components_of_points (component : Int × Int → Int) (length : v.length = w.length)
    (same : ∀ set, v.points set = w.points set) :
    v.sets.flatMap (fun set => (v.points set).map component) =
      w.sets.flatMap (fun set => (w.points set).map component) := by
  rw [sets, sets, length]
  simp only [same]

theorem abscissas_of_points (length : v.length = w.length) (same : ∀ set, v.points set = w.points set) :
    v.abscissas = w.abscissas := by
  have firsts : ∀ u : Values, u.abscissas = u.sets.flatMap fun set => (u.points set).map Prod.fst := by
    intro u
    simp only [abscissas, points, List.map_map]
    rfl
  rw [firsts, firsts]
  exact components_of_points Prod.fst length same

theorem ordinates_of_points (length : v.length = w.length) (same : ∀ set, v.points set = w.points set) :
    v.ordinates = w.ordinates := by
  have seconds : ∀ u : Values, u.ordinates = u.sets.flatMap fun set => (u.points set).map Prod.snd := by
    intro u
    simp only [ordinates, points, List.map_map]
    rfl
  rw [seconds, seconds]
  exact components_of_points Prod.snd length same

theorem magnitudes_of_firsts (length : v.length = w.length) (same : ∀ set, v.value set 0 = w.value set 0) :
    Pie.magnitudes v = Pie.magnitudes w := by
  unfold Pie.magnitudes sets
  simp only [length, same]

end Values

section

variable {α : Type} {others : Values} {kind : Kind}

theorem GridSides.ofView_unread (v : View α) (length : others.length = v.values.length)
    (same : others.SameRead kind v.values) (grid : kind.hasGrid = true) :
    GridSides.ofView { v with values := others } kind = GridSides.ofView v kind := by
  cases kind with
  | pie => cases grid
  | scatter =>
    unfold GridSides.ofView AxisRange.ofValues
    simp only [Values.abscissas_of_points length same, Values.ordinates_of_points length same]
  | line | area | column | bar =>
    cases same
    rfl

variable [Scalar α]

section

variable (v : View α) (g : Grid α) (same : ∀ set, others.points set = v.values.points set)

include same

theorem Scatter.pairPoint_unread {set i : Nat} (pair : i ∈ v.values.pairs set) :
    pairPoint { v with values := others } g set i = pairPoint v g set i := by
  rw [← Values.pairs_of_points (same set)] at pair
  obtain ⟨x, y⟩ := Values.pair_of_points (same set) pair
  unfold pairPoint
  simp only [x, y]

theorem Scatter.marks_unread : marks { v with values := others } g = marks v g := by
  unfold marks
  cases v.hot with
  | none => rfl
  | some hot =>
    dsimp only
    rw [Values.pairs_of_points (same hot.set)]
    refine List.map_congr_left fun i hovered => ?_
    exact congrArg (DrawCall.fillCircle · markRadius (v.hint hot.set))
      (pairPoint_unread v g same (List.mem_filter.mp hovered).1)

theorem Scatter.dots_unread (length : others.length = v.values.length) :
    dots { v with values := others } g = dots v g := by
  unfold dots Values.sets
  dsimp only
  rw [length]
  refine List.flatMap_congr fun set _ => ?_
  rw [Values.pairs_of_points (same set)]
  refine List.map_congr_left fun i pair => ?_
  exact congrArg (DrawCall.fillCircle · dotRadius (v.color set)) (pairPoint_unread v g same pair)

theorem Scatter.paint_unread (length : others.length = v.values.length) :
    paint { v with values := others } g = paint v g := by
  unfold paint
  rw [marks_unread v g same, dots_unread v g same length]
  rfl

theorem Scatter.verticesWithin_unread (length : others.length = v.values.length) (lo hi : α) :
    verticesWithin { v with values := others } g lo hi = verticesWithin v g lo hi := by
  unfold verticesWithin Values.sets
  dsimp only
  rw [length]
  refine List.flatMap_congr fun set _ => ?_
  have pairs := Values.pairs_of_points (same set)
  have within : (others.pairs set).filter (fun i =>
        let x : α := Scalar.ofInt (others.value set i)
        decide (lo ≤ x) && decide (x ≤ hi)) =
      (v.values.pairs set).filter fun i =>
        let x : α := Scalar.ofInt (v.values.value set i)
        decide (lo ≤ x) && decide (x ≤ hi) := by
    rw [pairs]
    refine List.filter_congr fun i pair => ?_
    rw [(Values.pair_of_points (same set) (pairs ▸ pair)).1]
  rw [within]
  refine List.map_congr_left fun i inWindow => ?_
  exact congrArg (Vertex.mk (.value set i)) (pairPoint_unread v g same (List.mem_filter.mp inWindow).1)

theorem Scatter.hitTest_unread (length : others.length = v.values.length) (p : Point α) :
    hitTest { v with values := others } g p = hitTest v g p := by
  unfold hitTest
  simp only [verticesWithin_unread v g same length]

end

section

variable (v : View α) (same : ∀ set, others.value set 0 = v.values.value set 0)

include same

theorem Pie.ofView_unread (length : others.length = v.values.length) :
    ofView { v with values := others } = ofView v := by
  unfold ofView
  simp only [Values.magnitudes_of_firsts length same]

omit [Scalar α] in
theorem Pie.labelText_unread : labelText (α := α) { v with values := others } = labelText v := by
  funext slice
  unfold labelText
  dsimp only
  rw [same]
  rfl

variable [Circular α]

theorem Pie.paint_unread (length : others.length = v.values.length) :
    paint { v with values := others } = paint v := by
  funext widths
  unfold paint label
  rw [ofView_unread v same length, labelText_unread v same]
  rfl

theorem Pie.hitTest_unread (length : others.length = v.values.length) (p : Point α) :
    hitTest { v with values := others } p = hitTest v p := by
  unfold hitTest
  rw [ofView_unread v same length]

end

end

section

variable {α M : Type} [Scalar α] [Circular α] [TextMeasurer α M] {others : Values} {kind : Kind} (v : View α)
  (length : others.length = v.values.length) (same : others.SameRead kind v.values)

include length same

omit [Circular α] in
theorem Grid.layOut_unread (grid : kind.hasGrid = true) :
    (Grid.layOut { v with values := others } kind : StateM M _) = Grid.layOut v kind := by
  unfold Grid.layOut Grid.arrange
  rw [GridSides.ofView_unread v length same grid]
  rfl

theorem View.paintBody_unread : ({ v with values := others }.paintBody kind : StateM M _) = v.paintBody kind := by
  cases kind with
  | pie =>
    unfold View.paintBody Pie.measureLabels
    simp only [Pie.paint_unread v same length, Pie.ofView_unread v same length, Pie.labelText_unread v same]
    rfl
  | scatter =>
    have laidOut := Grid.layOut_unread (M := M) v length same rfl
    have painted := fun g => Scatter.paint_unread v g same length
    unfold View.paintBody
    simp only [laidOut, painted]
  | line | area | column | bar =>
    cases same
    rfl

theorem View.paint_unread (title : String) :
    ({ v with values := others }.paint kind title : StateM M _) = v.paint kind title := by
  unfold View.paint
  rw [v.paintBody_unread length same]
  rfl

theorem View.hitBody_unread (p : Point α) :
    ({ v with values := others }.hitBody kind p : StateM M _) = v.hitBody kind p := by
  cases kind with
  | pie =>
    unfold View.hitBody
    simp only [Pie.hitTest_unread v same length]
  | scatter =>
    have laidOut := Grid.layOut_unread (M := M) v length same rfl
    have found := fun g => Scatter.hitTest_unread v g same length p
    unfold View.hitBody
    simp only [laidOut, found]
  | line | area | column | bar =>
    cases same
    rfl

theorem View.hitTest_unread (p : Point α) :
    ({ v with values := others }.hitTest kind p : StateM M _) = v.hitTest kind p := by
  unfold View.hitTest
  rw [v.hitBody_unread length same p]
  rfl

end

-- All that a chart of a kind says of an item, it reads off values that it cannot do without.
def Values.Reads (kind : Kind) (v : Values) (item : HotItem) : Prop :=
  ∀ i, item.index = some i → (kind = .pie → i = 0) ∧ (kind = .scatter → i ∈ v.pairs item.set)

section

variable {α M : Type} [Scalar α] {others : Values} {kind : Kind} {item : HotItem} (v : View α)

theorem View.hitTest_reads [Circular α] [TextMeasurer α M] {p : Point α} {m : M}
    (found : (v.hitTest kind p m).1 = some item) : v.values.Reads kind item := by
  unfold View.hitTest at found
  split at found
  · obtain ⟨set, _, rfl⟩ := Legend.hitTest_mem found
    exact fun i none => nomatch none
  · split at found
    · cases kind with
      | pie =>
        obtain ⟨set, _, rfl⟩ := Pie.hitTest_mem found
        rintro i ⟨⟩
        exact ⟨fun _ => rfl, nofun⟩
      | scatter =>
        obtain ⟨set, _, j, pair, rfl⟩ := Scatter.hitTest_mem found
        rintro i ⟨⟩
        exact ⟨nofun, fun _ => pair⟩
      | line | area | column | bar => exact fun i _ => ⟨nofun, nofun⟩
    · cases found

omit [Scalar α] in
theorem View.tooltipText_unread (same : others.SameRead kind v.values) (reads : v.values.Reads kind item) :
    { v with values := others }.tooltipText kind item = v.tooltipText kind item := by
  refine Option.map_congr fun i index => ?_
  obtain ⟨first, pair⟩ := reads i index
  cases kind with
  | pie =>
    cases first rfl
    exact congrArg (v.format .primary) (same item.set)
  | scatter =>
    have read := Values.pairs_of_points (same item.set)
    obtain ⟨x, y⟩ := Values.pair_of_points (same item.set) (read ▸ pair rfl)
    unfold Scatter.tooltipText
    dsimp only
    rw [x, y]
    rfl
  | line | area | column | bar =>
    cases same
    rfl

end

namespace Chart

variable {H : Host}

def values (c : Chart H) : Values :=
  (Values.collect c.data c.supplier).1

-- Charts that agree in everything they show, but for the values of their data sets.
structure Lookalike (c d : Chart H) : Prop where
  data : DataSet.Alike c.data d.data
  primary : c.primary = d.primary
  secondary : c.secondary = d.secondary
  kind : c.style.kind = d.style.kind
  config : c.config = d.config
  title : c.title = d.title
  size : c.size = d.size
  measurer : c.measurer = d.measurer
  hot : c.hot = d.hot

variable {c d : Chart H}

theorem Lookalike.length (alike : c.Lookalike d) : c.values.length = d.values.length := by
  have sets : c.data.length = d.data.length := by simpa using congrArg List.length alike.data.colors
  rw [values, values, (Values.collect_counted c.data c.supplier).length,
    (Values.collect_counted d.data d.supplier).length, sets]

theorem Lookalike.view (alike : c.Lookalike d) :
    c.view.1 = { d.view.1 with data := c.data, values := c.values } ∧ c.view.2.measurer = d.view.2.measurer := by
  have layOut : c.layOut.1 = d.layOut.1 ∧ c.layOut.2.measurer = d.layOut.2.measurer := by
    unfold Chart.layOut measuring
    rw [alike.config, alike.measurer, alike.size, alike.title]
    exact ⟨rfl, rfl⟩
  refine ⟨?_, layOut.2⟩
  change View.mk c.data c.values c.primary c.secondary c.hot c.layOut.1 c.config =
    View.mk c.data c.values d.primary d.secondary d.hot d.layOut.1 d.config
  rw [alike.primary, alike.secondary, alike.hot, layOut.1, alike.config]

section

variable (alike : c.Lookalike d) (same : c.values.SameRead c.style.kind d.values)

include alike same

theorem upcoming_unread : c.upcoming = d.upcoming := by
  obtain ⟨view, measurer⟩ := alike.view
  have values := d.view.1.paint_unread (M := ChartMeasurer H.Length H.Measurer) alike.length same d.title
  have looks := { d.view.1 with values := c.values }.paint_alike (M := ChartMeasurer H.Length H.Measurer) alike.data
    c.style.kind d.title
  have picture : c.picture.1 = d.picture.1 := by
    change (c.view.1.paint c.style.kind c.title c.view.2.measurer).1 =
      (d.view.1.paint d.style.kind d.title d.view.2.measurer).1
    rw [view, measurer, alike.title, ← alike.kind]
    exact congrArg (fun painted : StateM _ _ => (painted d.view.2.measurer).1) (looks.trans values)
  rw [upcoming, upcoming, picture, viewRect, viewRect, alike.size, alike.config]

theorem grid_unread : c.grid.1 = d.grid.1 := by
  obtain ⟨view, measurer⟩ := alike.view
  unfold grid
  rw [← alike.kind]
  split
  · rename_i laid
    have values := Grid.layOut_unread (M := ChartMeasurer H.Length H.Measurer) d.view.1 alike.length same laid
    change some (Grid.layOut c.view.1 c.style.kind c.view.2.measurer).1 =
      some (Grid.layOut d.view.1 d.style.kind d.view.2.measurer).1
    rw [view, measurer, ← alike.kind]
    exact congrArg (fun laidOut : StateM _ _ => some (laidOut d.view.2.measurer).1) values
  · rfl

theorem hitTest_unread (p : Point H.Length) :
    (c.hitTest p).1 = (d.hitTest p).1 ∧ (c.hitTest p).2.Lookalike (d.hitTest p).2 := by
  obtain ⟨view, measurer⟩ := alike.view
  have values := d.view.1.hitTest_unread (M := ChartMeasurer H.Length H.Measurer) alike.length same p
  have legends := { d.view.1 with values := c.values }.hitTest_legends (M := ChartMeasurer H.Length H.Measurer)
    alike.data.legends c.style.kind p
  have found : c.view.1.hitTest c.style.kind p c.view.2.measurer =
      d.view.1.hitTest d.style.kind p d.view.2.measurer := by
    rw [view, measurer, ← alike.kind]
    exact congrFun (legends.trans values) d.view.2.measurer
  obtain ⟨data, primary, secondary, kind, config, title, size, _, hot⟩ := alike
  obtain ⟨item, asked⟩ := Prod.ext_iff.mp found
  exact ⟨item, data, primary, secondary, kind, config, title, size, asked, hot⟩

theorem tooltipContent_unread {p : Point H.Length} {item : HotItem} (found : (d.hitTest p).1 = some item) :
    (c.tooltipContent item).1 = (d.tooltipContent item).1 := by
  obtain ⟨view, measurer⟩ := alike.view
  change (d.view.1.hitTest d.style.kind p d.view.2.measurer).1 = some item at found
  rw [← alike.kind] at found
  have reads := View.hitTest_reads d.view.1 found
  have values := d.view.1.tooltipText_unread same reads
  have text : c.view.1.tooltipText c.style.kind item = d.view.1.tooltipText c.style.kind item := by
    rw [view]
    exact values
  rw [tooltipContent_eq, tooltipContent_eq, text, ← alike.kind, measurer, alike.config]

end

-- Charts that agree in all but values which their kind does not read paint the same calls, lay out the same grid, find
-- the same item everywhere and say the same of it. They still agree after they asked their measurers for that.
theorem unread_values (alike : c.Lookalike d) (same : c.values.SameRead c.style.kind d.values) :
    c.upcoming = d.upcoming ∧ c.grid.1 = d.grid.1 ∧
      ∀ p, (c.hitTest p).1 = (d.hitTest p).1 ∧ (c.hitTest p).2.Lookalike (d.hitTest p).2 ∧
        ∀ item, (c.hitTest p).1 = some item → (c.tooltipContent item).1 = (d.tooltipContent item).1 := by
  refine ⟨upcoming_unread alike same, grid_unread alike same, ?_⟩
  intro p
  obtain ⟨found, after⟩ := hitTest_unread alike same p
  exact ⟨found, after, fun item there => tooltipContent_unread alike same (found ▸ there)⟩

end Chart

namespace Demo

def holding (kind : Kind) (values : Array Int32) : Chart host :=
  { Chart.new (SvgScreen.mk none : host.Service) { kind } with data := [.ofContents (.stored values)] }

theorem holding_lookalike (kind : Kind) (values others : Array Int32) :
    (holding kind values).Lookalike (holding kind others) :=
  ⟨⟨rfl, rfl⟩, rfl, rfl, rfl, rfl, rfl, rfl, rfl, rfl⟩

theorem trailing_unread :
    (holding .scatter #[3, 9, 27]).values.SameRead .scatter (holding .scatter #[3, 9]).values ∧
      (holding .scatter #[3, 9, 27]).upcoming = (holding .scatter #[3, 9]).upcoming ∧
      (holding .pie #[3, 9, 27]).values.SameRead .pie (holding .pie #[3]).values ∧
      (holding .pie #[3, 9, 27]).upcoming = (holding .pie #[3]).upcoming := by
  have pairs : (holding .scatter #[3, 9, 27]).values.SameRead .scatter (holding .scatter #[3, 9]).values := by
    intro set
    cases set with
    | zero => decide
    | succ set => rfl
  have firsts : (holding .pie #[3, 9, 27]).values.SameRead .pie (holding .pie #[3]).values := by
    intro set
    cases set with
    | zero => decide
    | succ set => rfl
  exact ⟨pairs, (Chart.unread_values (holding_lookalike _ _ _) pairs).1,
    firsts, (Chart.unread_values (holding_lookalike _ _ _) firsts).1⟩

end Demo

end Charting
