import Charting.Data.Values

namespace Charting

namespace Values

variable {N : Type} [Supplier N]

def fetchAll (supplier : Option N) (set count : Nat) : Array Int32 × Option N :=
  let (buffer, supplier) := fetch supplier set (Vector.replicate count 0)
  (buffer.toArray, supplier)

-- The series of the data sets from place `set` on, when each virtual one has a buffer.
def collectFrom (room : Bool) : Nat → List DataSet → Option N → Values × Option N
  | _, [], supplier => ([], supplier)
  | set, d :: rest, supplier =>
    match d.values with
    | some values =>
      let (tail, supplier) := collectFrom room (set + 1) rest supplier
      (⟨d.count, values⟩ :: tail, supplier)
    | none =>
      if room && d.count != 0 then
        let (entries, supplier) := fetchAll supplier set d.count
        let (tail, supplier) := collectFrom room (set + 1) rest supplier
        (⟨d.count, entries⟩ :: tail, supplier)
      else
        let (tail, supplier) := collectFrom room (set + 1) rest supplier
        (⟨d.count, #[]⟩ :: tail, supplier)

-- A buffer that is taken up to a place, with zeros from there on for as many values as are still to come.
structure Vacant (buffer : Array Int32) (next count : Nat) : Prop where
  size : next + count ≤ buffer.size
  zeros : ∀ i, next ≤ i → i < buffer.size → buffer[i]? = some 0

section

variable {buffer : Array Int32} {next count rest : Nat}

theorem vacant_replicate (count : Nat) : Vacant (Array.replicate count 0) 0 count := by
  have size : (Array.replicate count (0 : Int32)).size = count := Array.size_replicate
  constructor
  · omega
  · intro i _ inside
    rw [Array.getElem?_replicate, if_pos (by omega)]

theorem part_vacant (vacant : Vacant buffer next (count + rest)) :
    part buffer next count = Vector.replicate count 0 := by
  apply Vector.ext
  intro i inside
  have size := vacant.size
  unfold part
  rw [Vector.getElem_ofFn, Vector.getElem_replicate, vacant.zeros (next + i) (by omega) (by omega)]
  rfl

theorem size_putBack (fetched : Vector Int32 count) : (putBack buffer next fetched).size = buffer.size :=
  Array.size_mapIdx

theorem putBack_before (fetched : Vector Int32 count) {i : Nat} (before : i < next) :
    (putBack buffer next fetched)[i]? = buffer[i]? := by
  unfold putBack
  rw [Array.getElem?_mapIdx]
  cases buffer[i]? with
  | none => rfl
  | some old => rw [Option.map_some, if_neg (by omega)]

theorem putBack_after (fetched : Vector Int32 count) {i : Nat} (after : next + count ≤ i) :
    (putBack buffer next fetched)[i]? = buffer[i]? := by
  unfold putBack
  rw [Array.getElem?_mapIdx]
  cases buffer[i]? with
  | none => rfl
  | some old =>
    have absent : fetched[i - next]? = none := Vector.getElem?_eq_none (by omega)
    rw [Option.map_some, if_pos (by omega), absent]
    rfl

theorem putBack_within (room : next + count ≤ buffer.size) (fetched : Vector Int32 count) {i : Nat}
    (within : i < count) : (putBack buffer next fetched)[next + i]? = some fetched[i] := by
  unfold putBack
  rw [Array.getElem?_mapIdx, Array.getElem?_eq_getElem (by omega), Option.map_some, if_pos (by omega),
    Nat.add_sub_cancel_left, Vector.getElem?_eq_getElem within]
  rfl

theorem entries_buffered (room : next + count ≤ buffer.size) (fetched : Vector Int32 count) {later : Array Int32}
    (size : later.size = buffer.size) (kept : ∀ i < next + count, later[i]? = (putBack buffer next fetched)[i]?) :
    (Slot.buffered next count).entries later = fetched.toArray := by
  apply Array.ext_getElem?
  intro i
  unfold Slot.entries
  dsimp only
  rw [Array.getElem?_extract, size, Vector.getElem?_toArray]
  by_cases within : i < count
  · rw [if_pos (by omega), kept (next + i) (by omega), putBack_within room fetched within,
      Vector.getElem?_eq_getElem within]
  · rw [if_neg (by omega), Vector.getElem?_eq_none (by omega)]

theorem Vacant.putBack (vacant : Vacant buffer next (count + rest)) (fetched : Vector Int32 count) :
    Vacant (putBack buffer next fetched) (next + count) rest := by
  constructor
  · rw [size_putBack, Nat.add_assoc]
    exact vacant.size
  · intro i after inside
    rw [size_putBack] at inside
    rw [putBack_after fetched after]
    exact vacant.zeros i (by omega) inside

end

-- What is placed in a vacant buffer leaves alone the values before, and reads as if each data set had a buffer.
theorem place_vacant (data : List DataSet) (set : Nat) {next : Nat} {buffer : Array Int32} (supplier : Option N)
    (vacant : Vacant buffer next (virtualCount data)) :
    let placed := place true set next data buffer supplier
    let collected := collectFrom true set data supplier
    placed.2.1.size = buffer.size ∧
      (∀ i < next, placed.2.1[i]? = buffer[i]?) ∧
      List.zipWith (fun d slot => Series.mk d.count (slot.entries placed.2.1)) data placed.1 = collected.1 ∧
      placed.2.2 = collected.2 := by
  induction data generalizing set next buffer supplier with
  | nil => exact ⟨rfl, fun _ _ => rfl, rfl, rfl⟩
  | cons d rest ih =>
    unfold place collectFrom
    unfold virtualCount at vacant
    cases held : d.values with
    | some values =>
      rw [held] at vacant
      obtain ⟨size, kept, series, same⟩ := ih (set + 1) supplier (by simpa using vacant)
      exact ⟨size, kept, congrArg (_ :: ·) series, same⟩
    | none =>
      rw [held] at vacant
      by_cases asked : (true && d.count != 0) = true
      · have taken : Vacant buffer next (d.count + virtualCount rest) := vacant
        have zeros := part_vacant taken
        obtain ⟨size, kept, series, same⟩ := ih (set + 1)
          (fetch supplier set (Vector.replicate d.count 0)).2
          (taken.putBack (fetch supplier set (Vector.replicate d.count 0)).1)
        simp only [if_pos asked, zeros]
        refine ⟨size.trans (size_putBack _), ?_, ?_, same⟩
        · intro i before
          rw [kept i (by omega), putBack_before _ before]
        · have entries := entries_buffered (Nat.le_trans (by omega) taken.size)
            (fetch supplier set (Vector.replicate d.count 0)).1 (size.trans (size_putBack _)) kept
          rw [List.zipWith_cons_cons, series, entries]
          rfl
      · obtain ⟨size, kept, series, same⟩ := ih (set + 1) supplier
          ⟨by have := vacant.size; omega, vacant.zeros⟩
        simp only [if_neg asked]
        exact ⟨size, kept, congrArg (_ :: ·) series, same⟩

theorem place_roomless (data : List DataSet) (set next : Nat) (buffer : Array Int32) (supplier : Option N) :
    let placed := place false set next data buffer supplier
    let collected := collectFrom false set data supplier
    (∀ later, List.zipWith (fun d slot => Series.mk d.count (slot.entries later)) data placed.1 = collected.1) ∧
      placed.2.2 = collected.2 := by
  induction data generalizing set with
  | nil => exact ⟨fun _ => rfl, rfl⟩
  | cons d rest ih =>
    obtain ⟨series, same⟩ := ih (set + 1)
    unfold place collectFrom
    cases d.values with
    | some values => exact ⟨fun later => congrArg (_ :: ·) (series later), same⟩
    | none => exact ⟨fun later => congrArg (_ :: ·) (series later), same⟩

theorem collect_eq (data : List DataSet) (supplier : Option N) :
    collect data supplier = collectFrom (allocatable (virtualCount data)) 0 data supplier := by
  unfold collect
  dsimp only
  cases allocatable (virtualCount data) with
  | true =>
    obtain ⟨_, _, series, same⟩ := place_vacant data 0 supplier (vacant_replicate (virtualCount data))
    exact Prod.ext series same
  | false =>
    obtain ⟨series, same⟩ := place_roomless data 0 0 #[] supplier
    exact Prod.ext (series _) same

end Values

end Charting
