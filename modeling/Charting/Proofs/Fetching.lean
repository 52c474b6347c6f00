import Charting.Proofs.RangeEnds
import Charting.Proofs.Stateless

namespace Charting

structure FetchCall where
  question : FetchQuestion
  answer : question.Answer

-- The buffer as it came back. Whether the supplier says that it knows the data set does not matter.
def FetchCall.left (call : FetchCall) : Array Int32 :=
  call.answer.1.toArray

-- A supplier with a record of its calls. Each question goes on to the supplier in it, whatever that answers.
structure Overheard (N : Type) where
  inner : N
  calls : List FetchCall := []

instance {N : Type} [Supplier N] : Supplier (Overheard N) where
  fetch set first last buffer := fun s =>
    let (answer, inner) := Supplier.fetch set first last buffer s.inner
    (answer, ⟨inner, s.calls ++ [⟨⟨_, set, first, last, buffer⟩, answer⟩]⟩)

def DataSet.question (set : Nat) (d : DataSet) : FetchQuestion :=
  ⟨d.count, set, 0, d.count - 1, Vector.replicate d.count 0⟩

namespace Values

def questions (set : Nat) (data : List DataSet) : List FetchQuestion :=
  ((data.zipIdx set).filter fun (d, _) => d.values.isNone).map fun (d, set) => d.question set

def leftFor (calls : List FetchCall) (set : Nat) : Array Int32 :=
  (calls.find? (·.question.set == set)).elim #[] FetchCall.left

-- How series are brought together from data sets, from place `set` on, and from calls for the virtual ones in turn.
inductive Gathered : Nat → List DataSet → List FetchCall → Values → Prop where
  | nil (set : Nat) : Gathered set [] [] []
  | stored {set : Nat} {d : DataSet} {rest : List DataSet} {calls : List FetchCall} {values : Values}
      {held : Array Int32} (kept : d.values = some held) (tail : Gathered (set + 1) rest calls values) :
      Gathered set (d :: rest) calls (⟨d.count, held⟩ :: values)
  | fetched {set : Nat} {d : DataSet} {rest : List DataSet} {calls : List FetchCall} {values : Values}
      {call : FetchCall} (kept : d.values = none) (asked : call.question = d.question set)
      (tail : Gathered (set + 1) rest calls values) :
      Gathered set (d :: rest) (call :: calls) (⟨d.count, call.left⟩ :: values)

section

variable {set k : Nat} {data : List DataSet} {calls : List FetchCall} {values : Values} {d : DataSet}

theorem Gathered.questions (gathered : Gathered set data calls values) :
    calls.map FetchCall.question = questions set data := by
  induction gathered with
  | nil set => rfl
  | stored kept tail ih =>
    rw [ih, Values.questions, Values.questions, List.zipIdx_cons, List.filter_cons_of_neg]
    simp [kept]
  | fetched kept asked tail ih =>
    rw [List.map_cons, ih, asked, Values.questions, Values.questions, List.zipIdx_cons, List.filter_cons_of_pos]
    · rfl
    · simp [kept]

theorem Gathered.stored_at (gathered : Gathered set data calls values) (found : data[k]? = some d)
    {held : Array Int32} (kept : d.values = some held) : values[k]? = some ⟨d.count, held⟩ := by
  induction gathered generalizing k with
  | nil set => cases found
  | stored first tail ih =>
    cases k with
    | zero =>
      cases found
      cases first.symm.trans kept
      rfl
    | succ k => exact ih found
  | fetched first asked tail ih =>
    cases k with
    | zero =>
      cases found
      cases first.symm.trans kept
    | succ k => exact ih found

theorem Gathered.fetched_at (gathered : Gathered set data calls values) (found : data[k]? = some d)
    (kept : d.values = none) : values[k]? = some ⟨d.count, leftFor calls (set + k)⟩ := by
  induction gathered generalizing k with
  | nil set => cases found
  | @stored set _ _ _ _ _ first tail ih =>
    cases k with
    | zero =>
      cases found
      cases first.symm.trans kept
    | succ k =>
      rw [show set + (k + 1) = set + 1 + k by omega]
      exact ih found
  | @fetched set _ _ _ _ call first asked tail ih =>
    have place : call.question.set = set := congrArg FetchQuestion.set asked
    cases k with
    | zero =>
      cases found
      unfold leftFor
      rw [List.find?_cons_of_pos (by simp [place])]
      rfl
    | succ k =>
      unfold leftFor
      rw [List.find?_cons_of_neg (by simp [place]), show set + (k + 1) = set + 1 + k by omega]
      exact ih found

end

variable {N : Type} [Supplier N]

theorem asked_of_filled {d : DataSet} (filled : 0 < d.count) : (true && d.count != 0) = true := by
  simpa using Nat.ne_of_gt filled

-- One step of bringing together makes one call at most, and the record tells which. Otherwise it makes no difference
-- that the supplier is overheard.
theorem collectFrom_gathered {data : List DataSet} (filled : ∀ d ∈ data, 0 < d.count) (set : Nat)
    (s : Overheard N) :
    ∃ (calls : List FetchCall) (values : Values) (after : N),
      collectFrom true set data (some s) = (values, some ⟨after, s.calls ++ calls⟩) ∧
        collectFrom true set data (some s.inner) = (values, some after) ∧ Gathered set data calls values := by
  induction data generalizing set s with
  | nil => exact ⟨[], [], s.inner, by rw [List.append_nil]; rfl, rfl, .nil set⟩
  | cons d rest ih =>
    have more := fun d later => filled d (List.mem_cons_of_mem _ later)
    unfold collectFrom
    cases kept : d.values with
    | some held =>
      obtain ⟨calls, values, after, overheard, asked, gathered⟩ := ih more (set + 1) s
      refine ⟨calls, ⟨d.count, held⟩ :: values, after, ?_, ?_, .stored kept gathered⟩
      · simp only [overheard]
      · simp only [asked]
    | none =>
      let call : FetchCall := ⟨d.question set, (Supplier.ask N (d.question set) s.inner).1⟩
      let next : Overheard N := ⟨(Supplier.ask N (d.question set) s.inner).2, s.calls ++ [call]⟩
      have asks := asked_of_filled (filled d List.mem_cons_self)
      obtain ⟨calls, values, after, overheard, asked, gathered⟩ := ih more (set + 1) next
      refine ⟨call :: calls, ⟨d.count, call.left⟩ :: values, after, ?_, ?_, .fetched kept rfl gathered⟩
      · have first : fetchAll (some s) set d.count = (call.left, some next) := rfl
        have record : next.calls ++ calls = s.calls ++ call :: calls := List.append_assoc _ _ _
        simp only [if_pos asks, first, overheard, record]
      · have first : fetchAll (some s.inner) set d.count = (call.left, some next.inner) := rfl
        simp only [if_pos asks, first, asked]

theorem collectFrom_unasked {data : List DataSet} (filled : ∀ d ∈ data, 0 < d.count) (set : Nat) :
    collectFrom true set data (none : Option N) =
      (data.map fun d => ⟨d.count, d.values.getD (Array.replicate d.count 0)⟩, none) := by
  induction data generalizing set with
  | nil => rfl
  | cons d rest ih =>
    have more := ih (fun d later => filled d (List.mem_cons_of_mem _ later)) (set + 1)
    unfold collectFrom
    cases kept : d.values with
    | some held => simp only [more, List.map_cons, kept, Option.getD_some]
    | none =>
      have asks := asked_of_filled (filled d List.mem_cons_self)
      have first : fetchAll (none : Option N) set d.count = (Array.replicate d.count 0, none) := rfl
      simp only [if_pos asks, first, more, List.map_cons, kept, Option.getD_none]

-- How values read that were brought together from data sets: stored values as they are, virtual ones as they were left
-- for the data set, and zero beyond.
structure ReadAs (values : Values) (data : List DataSet) (left : Nat → Array Int32) : Prop where
  counts : values.Counted data
  stored : ∀ {set d held}, data[set]? = some d → d.values = some held →
    ∀ i, values.value set i = (held[i]?.getD 0).toInt
  fetched : ∀ {set d}, data[set]? = some d → d.values = none →
    ∀ i, values.value set i = ((left set)[i]?.getD 0).toInt
  beyond : ∀ {set i}, (data[set]?.map DataSet.count).getD 0 ≤ i → values.value set i = 0

theorem value_series {values : Values} {set count : Nat} {entries : Array Int32}
    (found : values[set]? = some ⟨count, entries⟩) (i : Nat) :
    values.value set i = (entries[i]?.getD 0).toInt := by
  unfold value
  rw [found]
  rfl

theorem Gathered.readAs {data : List DataSet} {calls : List FetchCall} {values : Values}
    (gathered : Gathered 0 data calls values) (counts : values.Counted data) (trimmed : values.Trimmed) :
    values.ReadAs data (leftFor calls) where
  counts := counts
  stored found kept i := value_series (gathered.stored_at found kept) i
  fetched found kept i := by
    rw [value_series (gathered.fetched_at found kept), Nat.zero_add]
  beyond past := trimmed.value_beyond ((counts.count_getD _).trans_le past)

theorem ReadAs.congr {data : List DataSet} {values others : Values} {left right : Nat → Array Int32}
    (reads : values.ReadAs data left) (alike : others.ReadAs data right) {set : Nat} (same : left set = right set)
    (i : Nat) : values.value set i = others.value set i := by
  cases found : data[set]? with
  | none =>
    have past : (data[set]?.map DataSet.count).getD 0 ≤ i := by
      rw [found]
      exact Nat.zero_le i
    rw [reads.beyond past, alike.beyond past]
  | some d =>
    cases kept : d.values with
    | some held => rw [reads.stored found kept, alike.stored found kept]
    | none => rw [reads.fetched found kept, alike.fetched found kept, same]

def fetches (data : List DataSet) (n : N) : List FetchCall :=
  (collect data (some (Overheard.mk n []))).2.elim [] Overheard.calls

theorem collect_gathered {data : List DataSet} (sound : ∀ d ∈ data, d.Sound)
    (room : allocatable (virtualCount data) = true) (n : N) :
    (collect data (some (Overheard.mk n []))).1 = (collect data (some n)).1 ∧
      (collect data (some (Overheard.mk n []))).2.map Overheard.inner = (collect data (some n)).2 ∧
      Gathered 0 data (fetches data n) (collect data (some n)).1 := by
  obtain ⟨calls, values, after, overheard, asked, gathered⟩ :=
    collectFrom_gathered (fun d member => (sound d member).filled) 0 (Overheard.mk n [])
  unfold fetches
  rw [collect_eq, collect_eq, room, overheard, asked]
  exact ⟨rfl, rfl, gathered⟩

theorem collect_unasked {data : List DataSet} (sound : ∀ d ∈ data, d.Sound)
    (room : allocatable (virtualCount data) = true) :
    (collect data (none : Option N)).1.ReadAs data (fun _ => #[]) := by
  have series : (collect data (none : Option N)).1 =
      data.map fun d => ⟨d.count, d.values.getD (Array.replicate d.count 0)⟩ := by
    rw [collect_eq, room, collectFrom_unasked fun d member => (sound d member).filled]
  have counts := collect_counted data (none : Option N)
  have entries : ∀ {set : Nat} {d : DataSet}, data[set]? = some d →
      (collect data (none : Option N)).1[set]? = some (Series.mk d.count (d.values.getD (.replicate d.count 0))) := by
    intro set d found
    rw [series, List.getElem?_map, found]
    rfl
  refine ⟨counts, ?_, ?_, ?_⟩
  · intro set d held found kept i
    rw [value_series (entries found), kept]
    rfl
  · intro set d found kept i
    rw [value_series (entries found), kept, Option.getD_none, Array.getElem?_replicate]
    split <;> rfl
  · intro set i past
    exact (collect_trimmed sound none).value_beyond ((counts.count_getD set).trans_le past)

-- A supplier may keep a state, write whatever it likes and say what it likes. With room for the buffer, it is asked
-- once for each virtual data set, in order, with zeros. What is read of such a data set is what this call left, and no
-- other call has an influence on it. Without a supplier it reads as zeros.
theorem collect_fetches {data : List DataSet} (sound : ∀ d ∈ data, d.Sound)
    (room : allocatable (virtualCount data) = true) (n : N) :
    let overheard := collect data (some (Overheard.mk n []))
    let calls := fetches data n
    let values := (collect data (some n)).1
    (overheard.1 = values ∧ overheard.2.map Overheard.inner = (collect data (some n)).2) ∧
      calls.map FetchCall.question = questions 0 data ∧
      values.ReadAs data (leftFor calls) ∧
      (collect data (none : Option N)).1.ReadAs data (fun _ => #[]) ∧
      ∀ {P : Type} [Supplier P] (p : P) (set : Nat), leftFor (fetches data p) set = leftFor calls set →
        ∀ i, (collect data (some p)).1.value set i = values.value set i := by
  intro overheard calls values
  have reads : ∀ {P : Type} [Supplier P] (p : P), (collect data (some p)).1.ReadAs data (leftFor (fetches data p)) :=
    fun p => (collect_gathered sound room p).2.2.readAs (collect_counted data _) (collect_trimmed sound _)
  obtain ⟨same, inner, gathered⟩ := collect_gathered sound room n
  refine ⟨⟨same, inner⟩, gathered.questions, reads n, collect_unasked sound room, ?_⟩
  intro P _ p set left
  exact (reads p).congr (reads n) left

end Values

namespace Demo

structure Grudging where
  calls : Nat

instance : Supplier Grudging where
  fetch _ _ _ buffer := fun s => ((buffer.map fun _ => Int32.ofNat (s.calls + 1), s.calls % 2 == 1), ⟨s.calls + 1⟩)

def interleaved : List DataSet :=
  [.ofContents (.virtual 2), .ofContents (.stored #[7, -7]), .ofContents (.virtual 1)]

theorem interleaved_fetches :
    let calls := Values.fetches interleaved (Grudging.mk 0)
    (∀ d ∈ interleaved, d.Sound) ∧ Values.allocatable (Values.virtualCount interleaved) = true ∧
      calls.map FetchCall.question = [⟨2, 0, 0, 1, #v[0, 0]⟩, ⟨1, 2, 0, 0, #v[0]⟩] ∧
      calls.map (·.answer.2) = [false, true] ∧
      Values.leftFor calls 0 = #[1, 1] ∧ Values.leftFor calls 2 = #[2] ∧
      (Values.collect interleaved (some (Grudging.mk 0))).1.ReadAs interleaved (Values.leftFor calls) := by
  intro calls
  have sound : ∀ d ∈ interleaved, d.Sound := by
    simp only [interleaved, List.forall_mem_cons]
    exact ⟨DataSet.sound_ofContents (by decide), DataSet.sound_ofContents (by decide),
      DataSet.sound_ofContents (by decide), nofun⟩
  have fetched := Values.collect_fetches sound (by decide) (Grudging.mk 0)
  exact ⟨sound, by decide, fetched.2.1.trans rfl, by decide, by decide +kernel, by decide +kernel, fetched.2.2.1⟩

end Demo

end Charting
