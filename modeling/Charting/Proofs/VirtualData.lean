import Charting.Proofs.Caption
import Charting.Proofs.HotItem

namespace Charting

variable {H : Host}

-- A data set that holds its values itself: a virtual one holds what the supplier leaves in a buffer of zeros for it.
def DataSet.direct {N : Type} [Supplier N] (supplier : Option N) (set : Nat) (d : DataSet) : DataSet :=
  { d with values := some (d.values.getD (Values.fetchAll supplier set d.count).1) }

theorem DataSet.alike_direct {N : Type} [Supplier N] (supplier : Option N) (data : List DataSet) :
    Alike (data.mapIdx (direct supplier)) data := by
  constructor
  · apply List.ext_getElem?
    intro i
    simp only [List.getElem?_map, List.getElem?_mapIdx]
    cases data[i]? <;> rfl
  · apply List.ext_getElem?
    intro i
    simp only [List.getElem?_map, List.getElem?_mapIdx]
    cases data[i]? <;> rfl

namespace Values

variable {N : Type} [Supplier N] {answers : Option ((q : FetchQuestion) → q.Answer)} {supplier now : Option N}

theorem fetchAll_nothing (supplier : Option N) (set : Nat) : (fetchAll supplier set 0).1 = #[] := by
  have empty : ∀ buffer : Vector Int32 0, buffer.toArray = #[] := by
    intro buffer
    exact Array.eq_empty_of_size_eq_zero buffer.size_toArray
  unfold fetchAll
  cases supplier with
  | none => exact empty _
  | some n => exact empty _

-- Data sets that hold their values are brought together without a question, and without room for a buffer. The supplier
-- may have been asked for other data sets before: it still answers as it would have at first.
theorem collectFrom_direct (first : Supplied answers supplier) (later : Supplied answers now) (room : Bool)
    (other : Option N) (data : List DataSet) (set : Nat) :
    (collectFrom room set (data.mapIdx fun i d => d.direct supplier (set + i)) other).1 =
      (collectFrom true set data now).1 := by
  induction data generalizing set now with
  | nil => rfl
  | cons d rest ih =>
    have shifted : (fun i d => DataSet.direct supplier (set + (i + 1)) d) =
        fun i d => DataSet.direct supplier (set + 1 + i) d := by
      funext i d
      rw [Nat.add_right_comm, Nat.add_assoc]
    rw [List.mapIdx_cons, shifted]
    unfold collectFrom
    cases held : d.values with
    | some values =>
      simp only [DataSet.direct, held, Option.getD_some]
      exact congrArg (_ :: ·) (ih later (set + 1))
    | none =>
      simp only [DataSet.direct, held, Option.getD_none, Bool.true_and]
      split
      · have fetched := fetchAll_determined first later set d.count
        have after := (fetchAll_determined later first set d.count).2
        rw [Nat.add_zero, fetched.1]
        exact congrArg (_ :: ·) (ih after (set + 1))
      · rename_i none
        have count : d.count = 0 := by simpa using none
        rw [count, fetchAll_nothing]
        exact congrArg (_ :: ·) (ih later (set + 1))

theorem collect_direct (stateless : ∀ n, supplier = some n → Stateless (Supplier.ask N) n) {data : List DataSet}
    (room : allocatable (virtualCount data)) (other : Option N) :
    (collect (data.mapIdx (DataSet.direct supplier)) other).1 = (collect data supplier).1 := by
  have supplied : ∃ answers, Supplied answers supplier := by
    cases supplier with
    | none => exact ⟨none, .none⟩
    | some n =>
      obtain ⟨table, follows⟩ := stateless n rfl
      exact ⟨some table, .some follows⟩
  obtain ⟨answers, supplied⟩ := supplied
  have same := collectFrom_direct supplied supplied (allocatable (virtualCount (data.mapIdx (DataSet.direct supplier))))
    other data 0
  simp only [Nat.zero_add] at same
  rw [collect_eq, collect_eq, room]
  exact same

end Values

namespace Chart

def direct (other : Option H.Source) (c : Chart H) : Chart H :=
  { c with data := c.data.mapIdx (DataSet.direct c.supplier), supplier := other }

section

variable {c : Chart H} (stateless : ∀ n, c.supplier = some n → Stateless (Supplier.ask H.Source) n)
  (room : Values.allocatable (Values.virtualCount c.data)) (other : Option H.Source)

include stateless room

theorem view_direct :
    (c.direct other).view.1 = { c.view.1 with data := c.data.mapIdx (DataSet.direct c.supplier) } := by
  have values := Values.collect_direct stateless room other
  change View.mk _ (Values.collect (c.data.mapIdx (DataSet.direct c.supplier)) other).1 _ _ _ _ _ =
    View.mk _ (Values.collect c.data c.supplier).1 _ _ _ _ _
  rw [values]
  rfl

theorem hitTest_direct (p : Point H.Length) : ((c.direct other).hitTest p).1 = (c.hitTest p).1 := by
  have same := c.view.1.hitTest_legends (M := ChartMeasurer H.Length H.Measurer)
    (DataSet.alike_direct c.supplier c.view.1.data).legends c.style.kind p
  change ((c.direct other).view.1.hitTest c.style.kind p c.layOut.2.measurer).1 =
    (c.view.1.hitTest c.style.kind p c.layOut.2.measurer).1
  rw [view_direct stateless room other]
  exact congrArg (fun found : StateM _ _ => (found c.layOut.2.measurer).1) same

theorem grid_direct : (c.direct other).grid.1 = c.grid.1 := by
  have style : (c.direct other).style = c.style := rfl
  unfold grid
  rw [style]
  split
  · change some (Grid.layOut (c.direct other).view.1 c.style.kind c.layOut.2.measurer).1 =
      some (Grid.layOut c.view.1 c.style.kind c.layOut.2.measurer).1
    rw [view_direct stateless room other]
    rfl
  · rfl

theorem picture_direct : (c.direct other).picture.1 = c.picture.1 := by
  have same := c.view.1.paint_alike (M := ChartMeasurer H.Length H.Measurer)
    (DataSet.alike_direct c.supplier c.view.1.data) c.style.kind c.title
  change ((c.direct other).view.1.paint c.style.kind c.title c.layOut.2.measurer).1 =
    (c.view.1.paint c.style.kind c.title c.layOut.2.measurer).1
  rw [view_direct stateless room other]
  exact congrArg (fun painted : StateM _ _ => (painted c.layOut.2.measurer).1) same

theorem tooltipContent_direct (hot : HotItem) :
    ((c.direct other).tooltipContent hot).1 = (c.tooltipContent hot).1 := by
  rw [tooltipContent_eq, tooltipContent_eq, view_direct stateless room other]
  rfl

theorem paintOn_direct (now : Nat) (surface : H.Surface) :
    ((c.direct other).paintOn now surface).surface = (c.paintOn now surface).surface ∧
      ((c.direct other).paintOn now surface).service = (c.paintOn now surface).service := by
  have picture := picture_direct stateless room other
  have service : (c.direct other).picture.2.service = c.picture.2.service := rfl
  have size : (c.direct other).picture.2.size = c.picture.2.size := rfl
  have rect : (c.direct other).picture.2.viewRect = c.picture.2.viewRect := congrArg Rect.ofSize size
  have config : (c.direct other).picture.2.config = c.picture.2.config := rfl
  unfold paintOn
  dsimp only
  rw [picture, service, rect, config]
  split <;> exact ⟨rfl, rfl⟩

theorem paint_direct (now : Nat) :
    ((c.direct other).paint now).surface = (c.paint now).surface ∧
      ((c.direct other).paint now).service = (c.paint now).service := by
  have redraw : (c.direct other).redraw = c.redraw := rfl
  have surface : (c.direct other).surface = c.surface := rfl
  have size : (c.direct other).size = c.size := rfl
  have service : (c.direct other).service = c.service := rfl
  unfold paint
  rw [redraw, surface, size, service]
  split
  · cases c.surface with
    | some surface => exact paintOn_direct stateless room other now surface
    | none =>
      dsimp only
      split
      · rename_i surface service _
        exact paintOn_direct (c := { c with service }) stateless room other now surface
      · exact ⟨rfl, rfl⟩
  · exact ⟨rfl, rfl⟩

end

-- Whoever holds the values, and whatever another supplier would say: the grid, the pictures on the screen and on paper,
-- what is found at every point and what a tooltip says of every item are the same.
theorem virtual_as_direct (c : Chart H) (stateless : ∀ n, c.supplier = some n → Stateless (Supplier.ask H.Source) n)
    (room : Values.allocatable (Values.virtualCount c.data)) (other : Option H.Source) :
    let d : Chart H := { c with data := c.data.mapIdx (DataSet.direct c.supplier), supplier := other }
    d.grid.1 = c.grid.1 ∧
      d.picture.1 = c.picture.1 ∧
      (∀ now, (d.paint now).surface = (c.paint now).surface ∧ (d.paint now).service = (c.paint now).service) ∧
      (∀ target, (d.print target).1 = (c.print target).1) ∧
      (∀ p, (d.hitTest p).1 = (c.hitTest p).1) ∧
      ∀ hot, (d.tooltipContent hot).1 = (c.tooltipContent hot).1 := by
  have picture := picture_direct stateless room other
  refine ⟨grid_direct stateless room other, picture, paint_direct stateless room other, ?_,
    hitTest_direct stateless room other, tooltipContent_direct stateless room other⟩
  intro target
  change Picture.drawOn (.fillRect c.viewRect c.config.background :: (c.direct other).picture.1) target =
    Picture.drawOn (.fillRect c.viewRect c.config.background :: c.picture.1) target
  rw [picture]

end Chart

namespace Demo

def mixed : Chart host :=
  { Chart.new (SvgScreen.mk none : host.Service) { kind := .column true } with
    data := [.ofContents (.virtual 3), .ofContents (.stored #[12, -19]), .ofContents (.virtual 1)]
    supplier := some {} }

example : (mixed.direct none).data.map DataSet.values = [some #[10, 14, 18], some #[12, -19], some #[10]] := by
  decide

theorem mixed_as_direct :
    (∀ n, mixed.supplier = some n → Stateless (Supplier.ask Forecast) n) ∧
      Values.allocatable (Values.virtualCount mixed.data) ∧
      (mixed.direct none).picture.1 = mixed.picture.1 ∧
      ∀ p : Point Float, ((mixed.direct none).hitTest p).1 = (mixed.hitTest p).1 := by
  have stateless : ∀ n, mixed.supplier = some n → Stateless (Supplier.ask Forecast) n :=
    fun _ _ => forecast_stateless
  have same := Chart.virtual_as_direct mixed stateless (by decide) none
  exact ⟨stateless, by decide, same.2.1, same.2.2.2.2.1⟩

end Demo

end Charting
