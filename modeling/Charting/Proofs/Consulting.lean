import Charting.Chart.Paint
import Charting.Proofs.Measuring

namespace Charting

structure Model (H : Host) where
  data : List DataSet
  primary : Axis
  secondary : Axis
  style : ChartStyle
  config : Config H.Length
  title : String
  size : Size H.Length

structure Answers (H : Host) where
  text : (q : TextQuestion H.Length) → q.Answer
  values : Option ((q : FetchQuestion) → q.Answer)

variable {H : Host}

namespace ChartMeasurer

theorem follows_standard {answers : (q : TextQuestion H.Length) → q.Answer} {cache : MeasureCache H.Length Heuristic}
    (follows : Follows (TextMeasurer.ask _ (MeasureCache H.Length Heuristic)) answers cache) :
    Follows (TextMeasurer.ask _ (ChartMeasurer H.Length H.Measurer)) answers (.standard cache) := by
  obtain ⟨states, present, closed⟩ := follows
  refine ⟨fun m => ∃ cache, m = .standard cache ∧ states cache, ⟨cache, rfl, present⟩, ?_⟩
  rintro _ ⟨cache, rfl, present⟩ q
  cases q with
  | measure text style =>
    have answered := closed cache present (.measure text style)
    exact ⟨answered.1, _, rfl, answered.2⟩
  | hit text style x =>
    have answered := closed cache present (.hit text style x)
    exact ⟨answered.1, _, rfl, answered.2⟩

theorem follows_lent {answers : (q : TextQuestion H.Length) → q.Answer} {m : H.Measurer}
    (follows : Follows (TextMeasurer.ask _ H.Measurer) answers m) :
    Follows (TextMeasurer.ask _ (ChartMeasurer H.Length H.Measurer)) answers (.lent m) := by
  obtain ⟨states, present, closed⟩ := follows
  refine ⟨fun n => ∃ m, n = .lent m ∧ states m, ⟨m, rfl, present⟩, ?_⟩
  rintro _ ⟨m, rfl, present⟩ q
  cases q with
  | measure text style =>
    have answered := closed m present (.measure text style)
    exact ⟨answered.1, _, rfl, answered.2⟩
  | hit text style x =>
    have answered := closed m present (.hit text style x)
    exact ⟨answered.1, _, rfl, answered.2⟩

end ChartMeasurer

namespace Chart

def model (c : Chart H) : Model H where
  data := c.data
  primary := c.primary
  secondary := c.secondary
  style := c.style
  config := c.config
  title := c.title
  size := c.size

-- The objects lent to a chart answer as two tables say, now and later on.
structure Hears (answers : Answers H) (c : Chart H) : Prop where
  text : Follows (TextMeasurer.ask H.Length (ChartMeasurer H.Length H.Measurer)) answers.text c.measurer
  values : Values.Supplied answers.values c.supplier

structure Consulted (c d : Chart H) : Prop where
  frame : ∃ measurer supplier, d = { c with measurer, supplier }
  hears : ∀ answers, c.Hears answers → d.Hears answers

theorem Consulted.refl (c : Chart H) : c.Consulted c :=
  ⟨⟨_, _, rfl⟩, fun _ heard => heard⟩

theorem Consulted.trans {c d e : Chart H} (first : c.Consulted d) (second : d.Consulted e) : c.Consulted e := by
  obtain ⟨⟨_, _, rfl⟩, left⟩ := first
  obtain ⟨⟨_, _, rfl⟩, right⟩ := second
  exact ⟨⟨_, _, rfl⟩, fun answers heard => right answers (left answers heard)⟩

theorem measuring_consulted {β : Type} {x : StateM (ChartMeasurer H.Length H.Measurer) β}
    (determined : Determined (TextMeasurer.ask H.Length (ChartMeasurer H.Length H.Measurer)) x) (c : Chart H) :
    c.Consulted (c.measuring x).2 :=
  ⟨⟨_, _, rfl⟩, fun _ heard => ⟨determined.after heard.text, heard.values⟩⟩

theorem layOut_consulted (c : Chart H) : c.Consulted c.layOut.2 :=
  measuring_consulted (FontMetrics.measure_determined _) c

theorem view_consulted (c : Chart H) : c.Consulted c.view.2 := by
  refine c.layOut_consulted.trans ⟨⟨_, _, rfl⟩, fun answers heard => ⟨heard.text, ?_⟩⟩
  exact (Values.collect_determined c.data heard.values heard.values).2

theorem hitTest_consulted (p : Point H.Length) (c : Chart H) : c.Consulted (c.hitTest p).2 :=
  c.view_consulted.trans (measuring_consulted (c.view.1.hitTest_determined _ p) c.view.2)

theorem picture_consulted (c : Chart H) : c.Consulted c.picture.2 :=
  c.view_consulted.trans (measuring_consulted (c.view.1.paint_determined _ _) c.view.2)

theorem grid_consulted (c : Chart H) : c.Consulted c.grid.2 := by
  unfold grid
  split
  · exact c.view_consulted.trans (measuring_consulted (Grid.layOut_determined c.view.1 _) c.view.2)
  · exact .refl c

theorem print_consulted (target : H.Printer) (c : Chart H) : c.Consulted (c.print target).2 :=
  c.picture_consulted

theorem tooltipContent_consulted (hot : HotItem) (c : Chart H) : c.Consulted (c.tooltipContent hot).2 := by
  unfold tooltipContent
  dsimp only
  split
  · exact c.view_consulted
  · exact c.view_consulted.trans (measuring_consulted (TextMeasurer.measure_determined _ _) c.view.2)

variable {answers : Answers H} {c d : Chart H}

theorem layOut_determined (left : c.Hears answers) (right : d.Hears answers) (same : c.model = d.model) :
    c.layOut.1 = d.layOut.1 := by
  have size : c.size = d.size := congrArg Model.size same
  have title : c.title = d.title := congrArg Model.title same
  have config : c.config = d.config := congrArg Model.config same
  change Layout.arrange c.size (FontMetrics.measure c.config.textStyle c.measurer).1 (!c.title.isEmpty) =
    Layout.arrange d.size (FontMetrics.measure d.config.textStyle d.measurer).1 (!d.title.isEmpty)
  rw [size, title, config, (FontMetrics.measure_determined _).result left.text right.text]

theorem view_determined (left : c.Hears answers) (right : d.Hears answers) (same : c.model = d.model) :
    c.view.1 = { d.view.1 with hot := c.hot } := by
  have data : c.data = d.data := congrArg Model.data same
  have values : (Values.collect c.data c.supplier).1 = (Values.collect d.data d.supplier).1 := by
    rw [data]
    exact (Values.collect_determined d.data left.values right.values).1
  have layout := layOut_determined left right same
  have primary : c.primary = d.primary := congrArg Model.primary same
  have secondary : c.secondary = d.secondary := congrArg Model.secondary same
  have config : c.config = d.config := congrArg Model.config same
  change View.mk c.data (Values.collect c.data c.supplier).1 c.primary c.secondary c.hot c.layOut.1 c.config =
    View.mk d.data (Values.collect d.data d.supplier).1 d.primary d.secondary c.hot d.layOut.1 d.config
  rw [values, layout, data, primary, secondary, config]

theorem hitTest_determined (left : c.Hears answers) (right : d.Hears answers) (same : c.model = d.model)
    (p : Point H.Length) : (c.hitTest p).1 = (d.hitTest p).1 := by
  have view := view_determined left right same
  have style : c.style = d.style := congrArg Model.style same
  have before := (c.view_consulted.hears _ left).text
  have after := (d.view_consulted.hears _ right).text
  change (c.view.1.hitTest c.style.kind p c.view.2.measurer).1 = (d.view.1.hitTest d.style.kind p d.view.2.measurer).1
  rw [view, style]
  exact (d.view.1.hitTest_determined d.style.kind p).result before after

theorem picture_determined (left : c.Hears answers) (right : d.Hears answers) (same : c.model = d.model)
    (hot : c.hot = d.hot) : c.picture.1 = d.picture.1 := by
  have view : c.view.1 = d.view.1 := by rw [view_determined left right same, hot]; rfl
  have style : c.style = d.style := congrArg Model.style same
  have title : c.title = d.title := congrArg Model.title same
  have before := (c.view_consulted.hears _ left).text
  have after := (d.view_consulted.hears _ right).text
  change (c.view.1.paint c.style.kind c.title c.view.2.measurer).1 =
    (d.view.1.paint d.style.kind d.title d.view.2.measurer).1
  rw [view, style, title]
  exact (d.view.1.paint_determined d.style.kind d.title).result before after

end Chart

end Charting
