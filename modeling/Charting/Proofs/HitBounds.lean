import Charting.Chart.Change
import Charting.Proofs.DataSets

namespace Charting

-- An item that a chart of a kind can have under the pointer: a whole data set or one of its values, which is the first
-- one in a pie, and the first of a complete pair in a scatter chart.
def HotItem.Within (kind : Kind) (data : List DataSet) (item : HotItem) : Prop :=
  ∃ d, data[item.set]? = some d ∧
    ∀ i, item.index = some i →
      i < d.count ∧ (kind = .pie → i = 0) ∧ (kind = .scatter → i % 2 = 0 ∧ i + 1 < d.count)

theorem HotItem.whole_within {kind : Kind} {data : List DataSet} {set : Nat} (present : set < data.length) :
    (HotItem.whole set).Within kind data :=
  ⟨data[set], List.getElem?_eq_getElem present, fun _ none => nomatch none⟩

namespace Values

variable {values : Values} {data : List DataSet} {set i : Nat}

theorem Counted.value_within (counted : values.Counted data) (present : set ∈ values.sets)
    (below : i < values.count set) {kind : Kind} (free : kind ≠ .pie ∧ kind ≠ .scatter) :
    (HotItem.value set i).Within kind data := by
  obtain ⟨d, found, count⟩ := counted.dataSet present
  refine ⟨d, found, ?_⟩
  intro j same
  cases same
  exact ⟨count ▸ below, fun pie => absurd pie free.1, fun scatter => absurd scatter free.2⟩

theorem Counted.first_within (counted : values.Counted data) (present : set ∈ values.sets)
    (sound : ∀ d ∈ data, d.Sound) : (HotItem.value set 0).Within .pie data := by
  obtain ⟨d, found, _⟩ := counted.dataSet present
  refine ⟨d, found, ?_⟩
  intro j same
  cases same
  exact ⟨(sound d (List.mem_of_getElem? found)).filled, fun _ => rfl, (nomatch ·)⟩

theorem Counted.pair_within (counted : values.Counted data) (present : set ∈ values.sets)
    (pair : i ∈ values.pairs set) : (HotItem.value set i).Within .scatter data := by
  obtain ⟨d, found, count⟩ := counted.dataSet present
  obtain ⟨k, below, rfl⟩ := List.mem_map.mp pair
  rw [List.mem_range, count] at below
  refine ⟨d, found, ?_⟩
  intro j same
  cases same
  exact ⟨by omega, (nomatch ·), fun _ => by omega⟩

end Values

section

variable {α : Type} [Scalar α]

theorem Vertex.improve_item (slop : Size α) (p : Point α) (best : Nearest α) (vertex : Vertex α) :
    (best.improve slop p vertex).item = best.item ∨ (best.improve slop p vertex).item = some vertex.item := by
  unfold Nearest.improve
  dsimp only
  split
  · exact .inl rfl
  · split
    · exact .inr rfl
    · exact .inl rfl

theorem Vertex.foldl_item (slop : Size α) (p : Point α) (vertices : List (Vertex α)) (best : Nearest α) :
    (vertices.foldl (Nearest.improve slop p) best).item = best.item ∨
      ∃ vertex ∈ vertices, (vertices.foldl (Nearest.improve slop p) best).item = some vertex.item := by
  induction vertices generalizing best with
  | nil => exact .inl rfl
  | cons vertex rest ih =>
    rcases ih (best.improve slop p vertex) with kept | ⟨later, member, found⟩
    · rcases Vertex.improve_item slop p best vertex with same | improved
      · exact .inl (kept.trans same)
      · exact .inr ⟨vertex, by simp, kept.trans improved⟩
    · exact .inr ⟨later, by simp [member], found⟩

theorem Vertex.nearest_mem {slop : Size α} {p : Point α} {vertices : List (Vertex α)} {item : HotItem}
    (found : nearest slop p vertices = some item) : ∃ vertex ∈ vertices, vertex.item = item := by
  rcases Vertex.foldl_item slop p vertices ⟨none, slop.width * slop.height⟩ with none | ⟨vertex, member, same⟩
  · rw [nearest, none] at found
    cases found
  · rw [nearest, same] at found
    exact ⟨vertex, member, Option.some.inj found⟩

variable {v : View α} {p : Point α} {item : HotItem}

theorem Scatter.hitTest_mem {g : Grid α} (found : Scatter.hitTest v g p = some item) :
    ∃ set ∈ v.values.sets, ∃ i ∈ v.values.pairs set, item = .value set i := by
  obtain ⟨vertex, member, rfl⟩ := Vertex.nearest_mem found
  obtain ⟨set, present, inSet⟩ := List.mem_flatMap.mp member
  obtain ⟨i, inWindow, rfl⟩ := List.mem_map.mp inSet
  exact ⟨set, present, i, (List.mem_filter.mp inWindow).1, rfl⟩

theorem Scatter.hitTest_within {g : Grid α} (counted : v.values.Counted v.data)
    (found : Scatter.hitTest v g p = some item) : item.Within .scatter v.data := by
  obtain ⟨set, present, i, pair, rfl⟩ := hitTest_mem found
  exact counted.pair_within present pair

theorem Line.hitTest_within {g : Grid α} {stacked : Bool} {kind : Kind} (free : kind ≠ .pie ∧ kind ≠ .scatter)
    (counted : v.values.Counted v.data) (found : Line.hitTest v g stacked p = some item) :
    item.Within kind v.data := by
  obtain ⟨vertex, member, rfl⟩ := Vertex.nearest_mem found
  obtain ⟨set, present, inSet⟩ := List.mem_flatMap.mp member
  obtain ⟨i, inWindow, rfl⟩ := List.mem_map.mp inSet
  -- The window ends at the count of the data set at the latest, wherever it begins.
  have below : i < v.values.count set := by
    have bounds := List.mem_range'_1.mp inWindow
    omega
  exact counted.value_within present below free

theorem Column.boxes_mem {g : Grid α} {stacked : Bool} {b : ColumnBox α} (member : b ∈ Column.boxes v g stacked) :
    b.set ∈ v.values.sets ∧ b.index < v.values.count b.set := by
  obtain ⟨index, _, atIndex⟩ := List.mem_flatMap.mp member
  obtain ⟨set, there, rfl⟩ := List.mem_map.mp atIndex
  have there := List.mem_filter.mp there
  exact ⟨there.1, of_decide_eq_true there.2⟩

theorem Column.hitTest_within {g : Grid α} {stacked : Bool} {kind : Kind} (free : kind ≠ .pie ∧ kind ≠ .scatter)
    (counted : v.values.Counted v.data) (found : Column.hitTest v g stacked p = some item) :
    item.Within kind v.data := by
  obtain ⟨b, first, rfl⟩ := Option.map_eq_some_iff.mp found
  have member := Column.boxes_mem (List.mem_reverse.mp (List.mem_of_find?_eq_some first))
  exact counted.value_within member.1 member.2 free

theorem Pie.slicesFrom_set {sum set : Nat} {start : α} {magnitudes : List Nat} {slice : PieSlice α}
    (member : slice ∈ Pie.slicesFrom sum set start magnitudes) : slice.set < set + magnitudes.length := by
  induction magnitudes generalizing set start with
  | nil => cases member
  | cons magnitude rest ih =>
    rcases List.mem_cons.mp member with rfl | later
    · simp
    · have bound := ih later
      simp only [List.length_cons]
      omega

theorem Pie.hitTest_mem [Circular α] (found : Pie.hitTest v p = some item) :
    ∃ set ∈ v.values.sets, item = .value set 0 := by
  obtain ⟨slice, under, rfl⟩ := Option.map_eq_some_iff.mp found
  have member : slice ∈ (Pie.ofView v).slices := by
    unfold Pie.sliceAt at under
    split at under
    · cases under
    · exact List.mem_of_find?_eq_some under
  refine ⟨slice.set, ?_, rfl⟩
  simp only [Pie.ofView, Pie.slicesOf] at member
  split at member
  · cases member
  · simpa [Pie.magnitudes, Values.sets] using Pie.slicesFrom_set member

theorem Pie.hitTest_within [Circular α] (counted : v.values.Counted v.data) (sound : ∀ d ∈ v.data, d.Sound)
    (found : Pie.hitTest v p = some item) : item.Within .pie v.data := by
  obtain ⟨set, present, rfl⟩ := hitTest_mem found
  exact counted.first_within present sound

variable {M : Type} [TextMeasurer α M]

theorem Legend.hitTest_mem {m : M} (found : (Legend.hitTest v p m).1 = some item) :
    ∃ set < v.data.length, item = .whole set := by
  unfold Legend.hitTest at found
  dsimp only at found
  split at found
  · cases found
  · split at found
    · cases found
    · rename_i bound
      have present := Nat.lt_of_not_le bound
      split at found
      · cases found
        exact ⟨_, present, rfl⟩
      · change (if TextHit.inside _ then some (HotItem.whole _) else none) = some item at found
        split at found
        · cases found
          exact ⟨_, present, rfl⟩
        · cases found

theorem Legend.hitTest_within {m : M} {kind : Kind} (found : (Legend.hitTest v p m).1 = some item) :
    item.Within kind v.data := by
  obtain ⟨set, present, rfl⟩ := hitTest_mem found
  exact HotItem.whole_within present

theorem View.hitBody_within [Circular α] {m : M} {kind : Kind} (counted : v.values.Counted v.data)
    (sound : ∀ d ∈ v.data, d.Sound) (found : (v.hitBody kind p m).1 = some item) : item.Within kind v.data := by
  cases kind with
  | pie => exact Pie.hitTest_within counted sound found
  | scatter => exact Scatter.hitTest_within counted found
  | line | area => exact Line.hitTest_within (by simp) counted found
  | column | bar => exact Column.hitTest_within (by simp) counted found

theorem View.hitTest_within [Circular α] {m : M} {kind : Kind} (counted : v.values.Counted v.data)
    (sound : ∀ d ∈ v.data, d.Sound) (found : (v.hitTest kind p m).1 = some item) : item.Within kind v.data := by
  unfold View.hitTest at found
  split at found
  · exact Legend.hitTest_within found
  · split at found
    · exact View.hitBody_within counted sound found
    · cases found

end

namespace Chart

variable {H : Host}

theorem hitTest_within {c : Chart H} {p : Point H.Length} {item : HotItem} (sound : ∀ d ∈ c.data, d.Sound)
    (found : (c.hitTest p).1 = some item) : item.Within c.style.kind c.data := by
  have counted : c.view.1.values.Counted c.data := Values.collect_counted c.data c.supplier
  change (c.view.1.hitTest c.style.kind p c.view.2.measurer).1 = some item at found
  exact View.hitTest_within counted sound found

end Chart

end Charting
