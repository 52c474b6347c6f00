import Charting.Axis
import Charting.Proofs.Buffers

namespace Charting

namespace DataSet

-- A data set that has values, and holds as many as it says if it holds any.
structure Sound (d : DataSet) : Prop where
  filled : 0 < d.count
  held : ∀ values, d.values = some values → values.size = d.count

theorem sound_ofContents {contents : Contents} (filled : contents.count ≠ 0) : (ofContents contents).Sound := by
  refine ⟨Nat.pos_of_ne_zero filled, ?_⟩
  intro values held
  cases contents with
  | stored given =>
    cases held
    rfl
  | virtual count => cases held

theorem overwrite_eq {buffer values : Array Int32} (same : buffer.size = values.size) :
    overwrite buffer values = values := by
  apply Array.ext
  · simpa [overwrite] using same
  · intro i _ present
    simp [overwrite, Array.getElem?_eq_getElem present]

theorem replace_eq {d : DataSet} (sound : d.Sound) (contents : Contents) :
    d.replace contents = { d with count := contents.count, values := contents.values? } := by
  unfold replace
  dsimp only
  split
  · rename_i values buffer held
    split
    · rename_i same
      have count : d.count = values.size := (sound.held buffer held).symm.trans same
      rw [overwrite_eq same]
      change DataSet.mk d.count (some values) d.color d.legend = DataSet.mk values.size (some values) d.color d.legend
      rw [count]
    · rfl
  · rfl

theorem Sound.replace {d : DataSet} (sound : d.Sound) {contents : Contents} (filled : contents.count ≠ 0) :
    (d.replace contents).Sound := by
  rw [replace_eq sound]
  exact ⟨(sound_ofContents filled).filled, (sound_ofContents filled).held⟩

theorem sound_modify {data : List DataSet} (index : Nat) {f : DataSet → DataSet}
    (keeps : ∀ d, d.Sound → (f d).Sound) (sound : ∀ d ∈ data, d.Sound) : ∀ d ∈ data.modify index f, d.Sound := by
  intro d present
  obtain ⟨i, found⟩ := List.mem_iff_getElem?.mp present
  rw [List.getElem?_modify] at found
  obtain ⟨old, there, rfl⟩ := Option.map_eq_some_iff.mp found
  have before := sound old (List.mem_of_getElem? there)
  split
  · exact keeps old before
  · exact before

end DataSet

namespace Axis

def InRange (a : Axis) : Prop :=
  lowestExponent ≤ a.exponent ∧ a.exponent ≤ highestExponent

theorem default_inRange : InRange {} :=
  ⟨by decide, by decide⟩

end Axis

namespace Values

def Counted (values : Values) (data : List DataSet) : Prop :=
  values.map Series.count = data.map DataSet.count

theorem collectFrom_counted {N : Type} [Supplier N] (room : Bool) (data : List DataSet) (set : Nat)
    (supplier : Option N) : (collectFrom room set data supplier).1.Counted data := by
  induction data generalizing set supplier with
  | nil => rfl
  | cons d rest ih =>
    have tail := fun supplier : Option N => congrArg (d.count :: ·) (ih (set + 1) supplier)
    unfold Counted collectFrom
    cases d.values with
    | some values => exact tail supplier
    | none =>
      dsimp only
      split
      · exact tail (fetchAll supplier set d.count).2
      · exact tail supplier

theorem collect_counted {N : Type} [Supplier N] (data : List DataSet) (supplier : Option N) :
    (collect data supplier).1.Counted data := by
  rw [collect_eq]
  exact collectFrom_counted _ data 0 supplier

variable {values : Values} {data : List DataSet} {set : Nat}

theorem Counted.length (counted : values.Counted data) : values.length = data.length := by
  simpa using congrArg List.length counted

theorem Counted.count_getD (counted : values.Counted data) (set : Nat) :
    values.count set = (data[set]?.map DataSet.count).getD 0 := by
  have same := congrArg (·[set]?) counted
  simp only [List.getElem?_map] at same
  unfold count
  rw [same]

theorem Counted.count_eq (counted : values.Counted data) {d : DataSet} (found : data[set]? = some d) :
    values.count set = d.count := by
  rw [counted.count_getD, found]
  rfl

theorem Counted.dataSet (counted : values.Counted data) (present : set ∈ values.sets) :
    ∃ d, data[set]? = some d ∧ values.count set = d.count := by
  have bound : set < data.length := by simpa [sets, counted.length] using present
  have found := List.getElem?_eq_getElem bound
  exact ⟨data[set], found, counted.count_eq found⟩

end Values

end Charting
