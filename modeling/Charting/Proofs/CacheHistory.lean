import Charting.Proofs.Stateless
import Charting.Scalar.Exact
import Mathlib.Data.List.Dedup

namespace Charting

inductive CacheOperation (α : Type) where
  | ask (question : TextQuestion α)
  | clear

-- A measurer with a record of what it was asked. The questions go on to the measurer, whatever it is.
structure Recorded (α M : Type) where
  inner : M
  calls : List (TextQuestion α) := []

namespace Recorded

variable {α M : Type} [TextMeasurer α M]

instance : TextMeasurer α (Recorded α M) where
  measure text style := fun r =>
    let (metrics, inner) := TextMeasurer.measure text style r.inner
    (metrics, ⟨inner, r.calls ++ [.measure text style]⟩)
  hit text style x := fun r =>
    let (found, inner) := TextMeasurer.hit text style x r.inner
    (found, ⟨inner, r.calls ++ [.hit text style x]⟩)

theorem ask_answer (q : TextQuestion α) (r : Recorded α M) :
    (TextMeasurer.ask α (Recorded α M) q r).1 = (TextMeasurer.ask α M q r.inner).1 := by
  cases q <;> rfl

theorem ask_inner (q : TextQuestion α) (r : Recorded α M) :
    (TextMeasurer.ask α (Recorded α M) q r).2.inner = (TextMeasurer.ask α M q r.inner).2 := by
  cases q <;> rfl

theorem ask_calls (q : TextQuestion α) (r : Recorded α M) :
    (TextMeasurer.ask α (Recorded α M) q r).2.calls = r.calls ++ [q] := by
  cases q <;> rfl

theorem recorded_follows {answers : (q : TextQuestion α) → q.Answer} {inner : M}
    (follows : Follows (TextMeasurer.ask α M) answers inner) (calls : List (TextQuestion α)) :
    Follows (TextMeasurer.ask α (Recorded α M)) answers ⟨inner, calls⟩ := by
  obtain ⟨states, present, closed⟩ := follows
  refine ⟨fun r => states r.inner, present, ?_⟩
  intro r present q
  have answered := closed r.inner present q
  refine ⟨(ask_answer q r).trans answered.1, ?_⟩
  dsimp only
  rw [ask_inner]
  exact answered.2

end Recorded

namespace MeasureCache

variable {α M : Type} [Scalar α]

-- What was measured since the entries were last emptied. A new text that finds as many different ones as there is room
-- for empties them, and is then the first that was measured since.
def sinceEmptied (room : Nat) (since : List (MeasureKey α)) : CacheOperation α → List (MeasureKey α)
  | .clear => []
  | .ask (.hit _ _ _) => since
  | .ask (.measure text style) =>
    if ⟨text, style⟩ ∉ since ∧ room ≤ since.dedup.length then [⟨text, style⟩] else since ++ [⟨text, style⟩]

def era (capacity : Nat) (ops : List (CacheOperation α)) : List (MeasureKey α) :=
  ops.foldl (sinceEmptied (max capacity 1)) []

-- The texts of the entries are those measured since the entries were last emptied, each of them once.
structure Holds (room : Nat) (since : List (MeasureKey α)) (c : MeasureCache α M) : Prop where
  positive : 1 ≤ room
  capacity : c.capacity = room
  bounded : c.size ≤ room
  distinct : (c.entries.map Prod.fst).Nodup
  measured : ∀ key, key ∈ c.entries.map Prod.fst ↔ key ∈ since

section

variable {room : Nat} {since : List (MeasureKey α)} {c : MeasureCache α M}

omit [Scalar α] in
theorem Holds.emptied (positive : 1 ≤ room) (capacity : c.capacity = room) (empty : c.entries = []) :
    c.Holds room [] := by
  refine ⟨positive, capacity, ?_, ?_, ?_⟩
  · simp [MeasureCache.size, empty]
  · simp [empty]
  · simp [empty]

theorem Holds.size (holds : c.Holds room since) : c.size = since.dedup.length := by
  have same : (c.entries.map Prod.fst).Perm since.dedup := by
    apply (List.perm_ext_iff_of_nodup holds.distinct since.nodup_dedup).mpr
    intro key
    rw [holds.measured, List.mem_dedup]
  simpa [MeasureCache.size] using same.length_eq

theorem Holds.missed (holds : c.Holds room since) (key : MeasureKey α) : c.find? key = none ↔ key ∉ since := by
  rw [← holds.measured, find?, Option.map_eq_none_iff, List.find?_eq_none, List.mem_map]
  constructor
  · rintro absent ⟨entry, present, same⟩
    exact absent entry present (decide_eq_true same)
  · intro absent entry present same
    exact absent ⟨entry, present, of_decide_eq_true same⟩

omit [Scalar α] in
theorem Holds.again (holds : c.Holds room since) {key : MeasureKey α} (known : key ∈ since) :
    c.Holds room (since ++ [key]) := by
  refine ⟨holds.positive, holds.capacity, holds.bounded, holds.distinct, ?_⟩
  intro other
  rw [holds.measured, List.mem_append, List.mem_singleton]
  constructor
  · exact Or.inl
  · intro member
    rcases member with member | rfl
    · exact member
    · exact known

theorem Holds.store (holds : c.Holds room since) {key : MeasureKey α} (new : key ∉ since) (metrics : TextMetrics α) :
    (c.store key metrics).Holds room (if room ≤ since.dedup.length then [key] else since ++ [key]) := by
  have full : c.capacity ≤ c.entries.length ↔ room ≤ since.dedup.length := by
    rw [holds.capacity, ← holds.size]
    rfl
  unfold MeasureCache.store
  simp only [full]
  split
  · refine ⟨holds.positive, holds.capacity, holds.positive, ?_, ?_⟩
    · simp
    · simp
  · rename_i below
    refine ⟨holds.positive, holds.capacity, ?_, ?_, ?_⟩
    · change c.entries.length + 1 ≤ room
      have size : c.entries.length = since.dedup.length := holds.size
      omega
    · rw [List.map_cons, List.nodup_cons, holds.measured]
      exact ⟨new, holds.distinct⟩
    · intro other
      rw [List.map_cons, List.mem_cons, holds.measured, List.mem_append, List.mem_singleton, or_comm]

end

variable [TextMeasurer α M]

theorem measure_found {c : MeasureCache α M} {text : String} {style : TextStyle α} {metrics : TextMetrics α}
    (found : c.find? ⟨text, style⟩ = some metrics) : (measure text style c).2 = c := by
  simp only [measure, found]

theorem measure_missed {c : MeasureCache α M} {text : String} {style : TextStyle α}
    (missed : c.find? ⟨text, style⟩ = none) :
    (measure text style c).2 =
      { c with inner := (TextMeasurer.measure text style c.inner).2 }.store ⟨text, style⟩
        (TextMeasurer.measure text style c.inner).1 := by
  simp only [measure, missed]
  rfl

def step (c : MeasureCache α M) : CacheOperation α → MeasureCache α M
  | .ask q => (TextMeasurer.ask α (MeasureCache α M) q c).2
  | .clear => c.clear

def run (c : MeasureCache α M) (ops : List (CacheOperation α)) : MeasureCache α M :=
  ops.foldl step c

variable {room : Nat} {since : List (MeasureKey α)} {c : MeasureCache α M}

theorem Holds.measure (holds : c.Holds room since) (text : String) (style : TextStyle α) :
    (MeasureCache.measure text style c).2.Holds room (sinceEmptied room since (.ask (.measure text style))) := by
  simp only [sinceEmptied]
  by_cases known : (⟨text, style⟩ : MeasureKey α) ∈ since
  · simp only [known, not_true_eq_false, false_and, if_false]
    cases found : c.find? ⟨text, style⟩ with
    | none => exact absurd known ((holds.missed _).mp found)
    | some metrics =>
      rw [measure_found found]
      exact holds.again known
  · simp only [known, not_false_eq_true, true_and]
    rw [measure_missed ((holds.missed _).mpr known)]
    have asked : Holds room since { c with inner := (TextMeasurer.measure text style c.inner).2 } :=
      ⟨holds.positive, holds.capacity, holds.bounded, holds.distinct, holds.measured⟩
    exact asked.store known _

theorem Holds.step (holds : c.Holds room since) (op : CacheOperation α) :
    (c.step op).Holds room (sinceEmptied room since op) := by
  cases op with
  | clear => exact .emptied holds.positive holds.capacity rfl
  | ask q =>
    cases q with
    | measure text style => exact holds.measure text style
    | hit text style x =>
      exact ⟨holds.positive, holds.capacity, holds.bounded, holds.distinct, holds.measured⟩

theorem Holds.run (holds : c.Holds room since) (ops : List (CacheOperation α)) :
    (c.run ops).Holds room (ops.foldl (sinceEmptied room) since) := by
  induction ops generalizing c since with
  | nil => exact holds
  | cons op rest ih => exact ih (holds.step op)

theorem Agrees.run {answers : (q : TextQuestion α) → q.Answer} (agrees : c.Agrees answers)
    (ops : List (CacheOperation α)) : (c.run ops).Agrees answers := by
  induction ops generalizing c with
  | nil => exact agrees
  | cons op rest ih =>
    apply ih
    cases op with
    | ask q => exact (agrees.ask q).2
    | clear => exact ⟨agrees.inner, fun _ absent => nomatch absent⟩

theorem Holds.asked (holds : c.Holds room since) (text : String) (style : TextStyle α) :
    (MeasureCache.measure text style c).2.inner =
      if ⟨text, style⟩ ∈ since then c.inner else (TextMeasurer.measure text style c.inner).2 := by
  split
  · rename_i known
    cases found : c.find? ⟨text, style⟩ with
    | none => exact absurd known ((holds.missed _).mp found)
    | some metrics => rw [measure_found found]
  · rename_i new
    rw [measure_missed ((holds.missed _).mpr new)]
    rfl

theorem Holds.filled (holds : c.Holds room since) (text : String) (style : TextStyle α) :
    1 ≤ (MeasureCache.measure text style c).2.size := by
  have after := holds.measure text style
  have member : (⟨text, style⟩ : MeasureKey α) ∈ sinceEmptied room since (.ask (.measure text style)) := by
    simp only [sinceEmptied]
    split
    · exact List.mem_singleton_self _
    · exact List.mem_append_right _ (List.mem_singleton_self _)
  rw [after.size]
  exact List.length_pos_of_mem (List.mem_dedup.mpr member)

-- A cache around a measurer whose answers depend on the questions alone, after any history: it answers as the measurer
-- does, it is never larger than its room, and a look at the record of the measurer tells which questions went on to it.
theorem run_transparent (inner : M) (stateless : Stateless (TextMeasurer.ask α M) inner) (capacity : Nat)
    (ops : List (CacheOperation α)) :
    let c : MeasureCache α (Recorded α M) := (wrap ⟨inner, []⟩ capacity).run ops
    c.size ≤ max capacity 1 ∧
      ∀ q, let asked := TextMeasurer.ask α (MeasureCache α (Recorded α M)) q c
        asked.1 = (TextMeasurer.ask α M q inner).1 ∧
          match q with
          | .measure text style =>
            1 ≤ asked.2.size ∧
              asked.2.inner.calls =
                c.inner.calls ++ if ⟨text, style⟩ ∈ era capacity ops then [] else [.measure text style]
          | .hit text style x =>
            asked.2.inner.calls = c.inner.calls ++ [.hit text style x] ∧ asked.2.entries = c.entries := by
  obtain ⟨answers, follows⟩ := stateless
  have agrees := (agrees_wrap (Recorded.recorded_follows follows []) capacity).run ops
  have start : (wrap ⟨inner, []⟩ capacity : MeasureCache α (Recorded α M)).Holds (max capacity 1) [] :=
    .emptied (Nat.le_max_right _ _) rfl rfl
  have holds := start.run ops
  refine ⟨holds.bounded, ?_⟩
  intro q
  refine ⟨(agrees.ask q).1.trans (follows.answer q).symm, ?_⟩
  cases q with
  | measure text style =>
    refine ⟨holds.filled text style, ?_⟩
    have asked := congrArg Recorded.calls (holds.asked text style)
    refine asked.trans ?_
    unfold era
    split
    · rw [List.append_nil]
    · exact Recorded.ask_calls (.measure text style) _
  | hit text style x => exact ⟨Recorded.ask_calls (.hit text style x) _, rfl⟩

def labels : List (CacheOperation Rat) :=
  ["1", "2", "1", "3"].map fun text => .ask (.measure text .standard)

theorem labels_era : era 2 labels = [⟨"3", .standard⟩] := by
  decide

theorem labels_transparent :
    Stateless (TextMeasurer.ask Rat Heuristic) {} ∧
      let c : MeasureCache Rat (Recorded Rat Heuristic) := (wrap ⟨{}, []⟩ 2).run labels
      c.size ≤ 2 ∧ c.inner.calls = ["1", "2", "3"].map (.measure · .standard) ∧
        (measure "1" .standard c).2.inner.calls = c.inner.calls ++ [.measure "1" .standard] ∧
        (measure "3" .standard c).2.inner.calls = c.inner.calls := by
  have transparent := run_transparent ({} : Heuristic) (Heuristic.stateless (α := Rat) {}) 2 labels
  have first := (transparent.2 (.measure "1" .standard)).2.2
  have third := (transparent.2 (.measure "3" .standard)).2.2
  rw [labels_era] at first third
  refine ⟨Heuristic.stateless {}, transparent.1, rfl, ?_, ?_⟩
  · rw [if_neg (by decide)] at first
    exact first
  · rw [if_pos (by decide), List.append_nil] at third
    exact third

end MeasureCache

end Charting
