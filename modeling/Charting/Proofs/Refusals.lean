import Charting.Proofs.Attempts

namespace Charting

variable {H : Host} {T : Type}

namespace Request

def index? : Request T → Option Int64
  | .insertDataSet index _ | .deleteDataSet index | .getDataSet index _ | .setDataSet index _ | .getDataSetColor index
  | .setDataSetColor index _ | .getDataSetLegend index | .setDataSetLegend index _ => some index
  | _ => none

def contents? : Request T → Option Contents
  | .insertDataSet _ contents | .setDataSet _ contents => some contents
  | _ => none

def axis? : Request T → Option Int32
  | .getExponent axis | .setExponent axis _ | .getOffset axis | .setOffset axis _ | .getAxisName axis
  | .setAxisName axis _ => some axis
  | _ => none

def exponent? : Request T → Option Int32
  | .setExponent _ exponent => some exponent
  | _ => none

def inserts : Request T → Bool
  | .insertDataSet _ _ => true
  | _ => false

def axes : Request T → List Int
  | .setExponent _ _ => [0, 1, 2]
  | _ => [1, 2]

def indexFault (count : Nat) (request : Request T) : Option Refusal :=
  request.index?.bind fun index =>
    if index.toInt < 0 ∨ (request.inserts = false ∧ count ≤ index.toInt) then
      some (.noSuchDataSet index.toInt count)
    else none

def contentsFault (request : Request T) : Option Refusal :=
  request.contents?.bind fun contents =>
    if contents = .stored #[] ∨ contents = .virtual 0 then some .emptyDataSet else none

def axisFault (request : Request T) : Option Refusal :=
  request.axis?.bind fun axis => if axis.toInt ∈ request.axes then none else some (.noSuchAxis axis.toInt)

def exponentFault (request : Request T) : Option Refusal :=
  request.exponent?.bind fun exponent =>
    if -9 ≤ exponent.toInt ∧ exponent.toInt ≤ 9 then none else some (.exponentOutOfRange exponent.toInt)

-- All that is wrong, in the order in which a chart complains.
def faults (count : Nat) (request : Request T) : List Refusal :=
  [request.indexFault count, request.contentsFault, request.axisFault, request.exponentFault].reduceOption

section

variable {count : Nat} {request : Request T}

theorem head_faults_index {index : Int64} (named : request.index? = some index) (present : request.inserts = false)
    (axis : request.axis? = none) (exponent : request.exponent? = none) :
    (request.faults count).head? =
      if index.toInt < 0 ∨ count ≤ index.toInt then some (.noSuchDataSet index.toInt count)
      else request.contentsFault := by
  simp only [faults, indexFault, axisFault, exponentFault, named, present, axis, exponent, Option.bind_some,
    Option.bind_none, true_and]
  split <;> cases request.contentsFault <;> rfl

theorem head_faults_insert (index : Int64) (contents : Contents) :
    (faults count (.insertDataSet index contents : Request T)).head? =
      if index.toInt < 0 then some (.noSuchDataSet index.toInt count)
      else contentsFault (.insertDataSet index contents : Request T) := by
  have placed : indexFault count (.insertDataSet index contents : Request T) =
      if index.toInt < 0 then some (.noSuchDataSet index.toInt count) else none := by
    simp [indexFault, index?, inserts]
  rw [faults, placed]
  split
  · rfl
  · cases contentsFault (.insertDataSet index contents : Request T) <;> rfl

theorem head_faults_axis {axis : Int32} (named : request.axis? = some axis) (index : request.index? = none)
    (contents : request.contents? = none) :
    (request.faults count).head? =
      if axis.toInt ∈ request.axes then request.exponentFault else some (.noSuchAxis axis.toInt) := by
  simp only [faults, indexFault, contentsFault, axisFault, named, index, contents, Option.bind_some, Option.bind_none]
  split <;> cases request.exponentFault <;> rfl

end

end Request

theorem Contents.empty_iff (contents : Contents) :
    contents.count = 0 ↔ contents = .stored #[] ∨ contents = .virtual 0 := by
  cases contents <;> simp [count]

namespace Desk

open Request

variable (desk : Desk H)

-- A place is read first, then it has to be one of a data set, and whatever else can be wrong comes after that.
theorem indexed_guarded {β : Type} (index : Int64) {later : Option Refusal} {find : Nat → Attempt (Desk H) β}
    {answer : β → Attempt (Desk H) (Reply H.Tooltip)}
    (finds : ∀ place, (find place).Guarded desk
      (if place < desk.chart.data.length then later
        else some (.noSuchDataSet (min place Chart.highestIndex : Nat) desk.chart.data.length)))
    (answers : ∀ b d, (answer b).Guarded d none) :
    Attempt.Guarded (do answer (← find (← desk.chart.rawIndex index))) desk
      (if index.toInt < 0 ∨ desk.chart.data.length ≤ index.toInt then
        some (.noSuchDataSet index.toInt desk.chart.data.length) else later) := by
  unfold Chart.rawIndex
  by_cases negative : index.toInt < 0
  · rw [if_pos negative, if_pos (.inl negative)]
    rfl
  · rw [if_neg negative]
    have found := (finds index.toInt.toNat).andThen answers
    have bound := index.toInt_lt
    by_cases present : index.toInt.toNat < desk.chart.data.length
    · rw [if_pos present] at found
      rw [if_neg (by omega)]
      exact found
    · have place : (min index.toInt.toNat Chart.highestIndex : Nat) = index.toInt := by
        unfold Chart.highestIndex
        omega
      rw [if_neg present, place] at found
      rw [if_pos (by omega)]
      exact found

theorem dataSet_guarded (place : Nat) :
    Attempt.Guarded (liftM (desk.chart.dataSet place)) desk
      (if place < desk.chart.data.length then none
        else some (.noSuchDataSet (min place Chart.highestIndex : Nat) desk.chart.data.length)) := by
  unfold Chart.dataSet
  by_cases present : place < desk.chart.data.length
  · rw [if_pos present, List.getElem?_eq_getElem present]
    exact ⟨_, _, rfl⟩
  · rw [if_neg present, List.getElem?_eq_none (Nat.le_of_not_lt present)]
    rfl

theorem insertDataSet_guarded (index : Int64) (contents : Contents) :
    (serve (.insertDataSet index contents)).Guarded desk
      (if index.toInt < 0 then some (.noSuchDataSet index.toInt desk.chart.data.length)
        else contentsFault (.insertDataSet index contents : Request H.Tooltip)) := by
  change Attempt.Guarded (do return Reply.count (← handle (Chart.insertDataSet (← desk.chart.rawIndex index) contents)))
    desk _
  unfold Chart.rawIndex
  by_cases negative : index.toInt < 0
  · rw [if_pos negative, if_pos negative]
    rfl
  · rw [if_neg negative, if_neg negative]
    change Attempt.Guarded
      (handle (Chart.insertDataSet index.toInt.toNat contents) >>= fun n => pure (Reply.count n)) desk
      (if contents = .stored #[] ∨ contents = .virtual 0 then some .emptyDataSet else none)
    refine Attempt.Guarded.andThen (handle_guarded ?_) fun n d => ⟨_, d, rfl⟩
    have inserted := desk.chart.insertDataSet_eq index.toInt.toNat contents
    by_cases empty : contents.count = 0
    · rw [if_pos (contents.empty_iff.mp empty)]
      rw [if_pos empty] at inserted
      exact inserted
    · rw [if_neg (mt contents.empty_iff.mpr empty)]
      rw [if_neg empty] at inserted
      exact ⟨_, _, inserted⟩

theorem setDataSet_guarded (contents : Contents) (place : Nat) :
    (Chart.setDataSet place contents).Guarded desk.chart
      (if place < desk.chart.data.length then
        if contents = .stored #[] ∨ contents = .virtual 0 then some .emptyDataSet else none
      else some (.noSuchDataSet (min place Chart.highestIndex : Nat) desk.chart.data.length)) := by
  have replaced := desk.chart.setDataSet_eq place contents
  simp only [contents.empty_iff] at replaced
  by_cases present : place < desk.chart.data.length
  · rw [if_pos present] at replaced ⊢
    by_cases empty : contents = .stored #[] ∨ contents = .virtual 0
    · rw [if_pos empty] at replaced ⊢
      exact replaced
    · rw [if_neg empty] at replaced ⊢
      exact ⟨_, _, replaced⟩
  · rw [if_neg present] at replaced ⊢
    exact replaced

theorem selected_guarded {β : Type} (axis : Int32) {find : AxisSelector → Attempt (Desk H) β}
    {answer : β → Attempt (Desk H) (Reply H.Tooltip)} {fault : AxisSelector → Option Refusal}
    (finds : ∀ selector, (find selector).Guarded desk (fault selector)) (answers : ∀ b d, (answer b).Guarded d none) :
    Attempt.Guarded (do answer (← find (← Chart.rawAxis axis))) desk
      (if axis.toInt = 0 then fault .both else if axis.toInt = 1 then fault .primary
        else if axis.toInt = 2 then fault .secondary else some (.noSuchAxis axis.toInt)) := by
  have found := fun selector => (finds selector).andThen answers
  unfold Chart.rawAxis AxisSelector.ofNumber
  split
  · exact found .both
  · split
    · exact found .primary
    · split
      · exact found .secondary
      · rfl

-- To whatever wants a single axis, both axes at once are one unknown number among others.
theorem single_guarded {β : Type} (axis : Int32) {find : AxisSelector → Attempt (Desk H) β}
    {answer : β → Attempt (Desk H) (Reply H.Tooltip)} (both : (find .both).Guarded desk (some (.noSuchAxis 0)))
    (primary : (find .primary).Guarded desk none) (secondary : (find .secondary).Guarded desk none)
    (answers : ∀ b d, (answer b).Guarded d none) :
    Attempt.Guarded (do answer (← find (← Chart.rawAxis axis))) desk
      (if axis.toInt ∈ [1, 2] then none else some (.noSuchAxis axis.toInt)) := by
  have found := desk.selected_guarded axis
    (fun selector => show (find selector).Guarded desk (if selector = .both then some (.noSuchAxis 0) else none) by
      cases selector with
      | both => exact both
      | primary => exact primary
      | secondary => exact secondary) answers
  have same : (if axis.toInt ∈ [1, 2] then none else some (Refusal.noSuchAxis axis.toInt)) =
      if axis.toInt = 0 then some (.noSuchAxis 0) else if axis.toInt = 1 then none
        else if axis.toInt = 2 then none else some (.noSuchAxis axis.toInt) := by
    by_cases zero : axis.toInt = 0 <;> by_cases one : axis.toInt = 1 <;> simp_all
  rw [same]
  exact found

theorem setExponent_guarded (axis exponent : Int32) :
    (serve (.setExponent axis exponent)).Guarded desk
      (if axis.toInt ∈ [0, 1, 2] then exponentFault (.setExponent axis exponent : Request H.Tooltip)
        else some (.noSuchAxis axis.toInt)) := by
  have checked : ∀ selector, (handle (Chart.setExponent selector exponent.toInt)).Guarded desk
      (exponentFault (.setExponent axis exponent : Request H.Tooltip)) :=
    fun selector => handle_guarded (.of_if (desk.chart.setExponent_eq selector exponent.toInt))
  have found := desk.selected_guarded axis checked fun _ d => ⟨Reply.done, d, rfl⟩
  generalize exponentFault (.setExponent axis exponent : Request H.Tooltip) = fault at found ⊢
  have same : (if axis.toInt ∈ [0, 1, 2] then fault else some (.noSuchAxis axis.toInt)) =
      if axis.toInt = 0 then fault else if axis.toInt = 1 then fault else if axis.toInt = 2 then fault
        else some (.noSuchAxis axis.toInt) := by
    by_cases zero : axis.toInt = 0 <;> by_cases one : axis.toInt = 1 <;> simp_all
  rw [same]
  exact found

theorem serve_guarded (request : Request H.Tooltip) :
    (serve request).Guarded desk (request.faults desk.chart.data.length).head? := by
  have done : ∀ d : Desk H, Attempt.Guarded (pure (.done : Reply H.Tooltip)) d none := fun d => ⟨_, d, rfl⟩
  cases request with
  | getDataSetCount | deleteAllDataSets | getTooltip | setTooltip => exact ⟨_, _, rfl⟩
  | insertDataSet index contents =>
    rw [head_faults_insert]
    exact desk.insertDataSet_guarded index contents
  | deleteDataSet index =>
    rw [head_faults_index rfl rfl rfl rfl]
    exact desk.indexed_guarded index (fun place => handle_guarded (.of_if (desk.chart.deleteDataSet_eq place)))
      fun _ => done
  | getDataSet index | getDataSetColor index | getDataSetLegend index =>
    rw [head_faults_index rfl rfl rfl rfl]
    exact desk.indexed_guarded index desk.dataSet_guarded fun _ _ => ⟨_, _, rfl⟩
  | setDataSet index contents =>
    rw [head_faults_index rfl rfl rfl rfl]
    exact desk.indexed_guarded index (fun place => handle_guarded (desk.setDataSet_guarded contents place)) fun _ => done
  | setDataSetColor index color =>
    rw [head_faults_index rfl rfl rfl rfl]
    exact desk.indexed_guarded index (fun place => handle_guarded (.of_if (desk.chart.setDataSetColor_eq place color)))
      fun _ => done
  | setDataSetLegend index legend =>
    rw [head_faults_index rfl rfl rfl rfl]
    exact desk.indexed_guarded index
      (fun place => handle_guarded (.of_if (desk.chart.setDataSetLegend_eq place legend))) fun _ => done
  | getExponent axis | getOffset axis | getAxisName axis =>
    rw [head_faults_axis rfl rfl rfl]
    exact desk.single_guarded axis rfl ⟨_, _, rfl⟩ ⟨_, _, rfl⟩ fun _ _ => ⟨_, _, rfl⟩
  | setOffset axis offset | setAxisName axis name =>
    rw [head_faults_axis rfl rfl rfl]
    exact desk.single_guarded axis rfl ⟨_, _, rfl⟩ ⟨_, _, rfl⟩ fun _ => done
  | setExponent axis exponent =>
    rw [head_faults_axis rfl rfl rfl]
    exact desk.setExponent_guarded axis exponent

end Desk

namespace Chart

-- A message is refused if and only if something is wrong with it, and for the first thing that is wrong; any other one
-- is answered. A refusal leaves all of the chart as it was, with the objects lent to it, and the buffer that came with
-- the message: a supplier or a tooltip that keeps a record of what it is asked or told has nothing new in it. Nothing
-- is assumed of the chart.
theorem dispatch_refused_iff (request : Request H.Tooltip) (c : Chart H) (buffer : Option (Array Int32)) :
    let faults := request.faults c.data.length
    let after := c.perform (.dispatch request)
    let desk : Desk H := ⟨c, buffer⟩
    ((∃ refusal, after.1 = .refused refusal) ↔ faults ≠ []) ∧
      ((∃ reply, after.1 = .reply reply) ↔ faults = []) ∧
      (∀ refusal, faults.head? = some refusal ↔ after = (.refused refusal, c)) ∧
      ∀ refusal, faults.head? = some refusal ↔ Desk.serve request desk = (.error refusal, desk) := by
  intro faults after desk
  have guarded : (Desk.serve request).Guarded desk faults.head? := desk.serve_guarded request
  have own : (Desk.serve request).Guarded ⟨c, request.buffer⟩ faults.head? := Desk.serve_guarded _ request
  have settled : after = settle .reply (c.dispatch request) := rfl
  have outcome : (faults = [] ∧ ∃ reply d, after = (.reply reply, d)) ∨
      ∃ refusal, faults.head? = some refusal ∧ after = (.refused refusal, c) := by
    rw [settled, dispatch]
    cases verdict : faults.head? with
    | none =>
      rw [verdict] at own
      obtain ⟨reply, d, served⟩ := own
      rw [served]
      exact .inl ⟨List.head?_eq_none_iff.mp verdict, reply, d.chart, rfl⟩
    | some refusal =>
      rw [(own.refused_iff refusal).mp verdict]
      exact .inr ⟨refusal, rfl, rfl⟩
  refine ⟨?_, ?_, ?_, guarded.refused_iff⟩
  all_goals rcases outcome with ⟨fine, reply, d, answered⟩ | ⟨refusal, fault, refused⟩
  · simp [answered, fine]
  · simp [refused, List.ne_nil_of_mem (List.mem_of_mem_head? fault)]
  · simp [answered, fine]
  · simp [refused, List.ne_nil_of_mem (List.mem_of_mem_head? fault)]
  · simp [answered, fine]
  · simp [refused, fault]

example : (Request.setDataSet 2 (.virtual 0) : Request Unit).faults 2 = [.noSuchDataSet 2 2, .emptyDataSet] := by
  decide

example : (Request.setExponent 3 10 : Request Unit).faults 0 = [.noSuchAxis 3, .exponentOutOfRange 10] := by
  decide

end Chart

end Charting
