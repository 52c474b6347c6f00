import Charting.Chart.Operation

namespace Charting

variable {H : Host} {β γ : Type}

namespace Attempt

variable {σ : Type}

theorem bind_eq (x : Attempt σ β) (f : β → Attempt σ γ) (s : σ) :
    (x >>= f) s = match x s with
      | (.ok b, d) => f b d
      | (.error refusal, d) => (.error refusal, d) := by
  change ExceptT.bindCont f (x s).1 (x s).2 = _
  obtain ⟨answer, d⟩ := x s
  cases answer <;> rfl

-- Refused for a fault with nothing done, or, without one, carried out to the end.
def Guarded (x : Attempt σ β) (s : σ) : Option Refusal → Prop
  | some refusal => x s = (.error refusal, s)
  | none => ∃ b d, x s = (.ok b, d)

-- What comes after an attempt that is carried out must not be refused any more.
theorem Guarded.andThen {x : Attempt σ β} {s : σ} {fault : Option Refusal} {f : β → Attempt σ γ}
    (guarded : x.Guarded s fault) (last : ∀ b d, (f b).Guarded d none) : (x >>= f).Guarded s fault := by
  cases fault with
  | some refusal =>
    change x s = (.error refusal, s) at guarded
    change (x >>= f) s = _
    rw [bind_eq, guarded]
  | none =>
    obtain ⟨b, d, done⟩ := guarded
    obtain ⟨c, e, ended⟩ := last b d
    refine ⟨c, e, ?_⟩
    rw [bind_eq, done]
    exact ended

theorem Guarded.refused_iff {x : Attempt σ β} {s : σ} {fault : Option Refusal} (guarded : x.Guarded s fault)
    (refusal : Refusal) : fault = some refusal ↔ x s = (.error refusal, s) := by
  cases fault with
  | some other =>
    change x s = (.error other, s) at guarded
    rw [guarded]
    constructor
    · rintro ⟨⟩
      rfl
    · rintro ⟨⟩
      rfl
  | none =>
    obtain ⟨b, d, done⟩ := guarded
    rw [done]
    exact ⟨nofun, nofun⟩

theorem Guarded.of_if {x : Attempt σ β} {s d : σ} {b : β} {refusal : Refusal} {valid : Prop} [Decidable valid]
    (same : x s = if valid then (.ok b, d) else (.error refusal, s)) :
    x.Guarded s (if valid then none else some refusal) := by
  by_cases checked : valid
  · rw [if_pos checked] at same ⊢
    exact ⟨b, d, same⟩
  · rw [if_neg checked] at same ⊢
    exact same

end Attempt

namespace Desk

theorem handle_guarded {x : Attempt (Chart H) β} {desk : Desk H} {fault : Option Refusal}
    (guarded : x.Guarded desk.chart fault) : (handle x).Guarded desk fault := by
  cases fault with
  | some refusal =>
    change x desk.chart = (.error refusal, desk.chart) at guarded
    change ((x desk.chart).1, { desk with chart := (x desk.chart).2 }) = _
    rw [guarded]
  | none =>
    obtain ⟨b, c, done⟩ := guarded
    refine ⟨b, { desk with chart := c }, ?_⟩
    change ((x desk.chart).1, { desk with chart := (x desk.chart).2 }) = _
    rw [done]

end Desk

namespace Chart

variable (c : Chart H)

theorem insertDataSet_eq (index : Nat) (contents : Contents) :
    insertDataSet index contents c =
      if contents.count = 0 then (.error .emptyDataSet, c)
      else (.ok (min index c.data.length),
        { c with data := c.data.insertIdx (min index c.data.length) (.ofContents contents) }.changed) := by
  unfold insertDataSet checkContents
  split <;> rfl

theorem deleteDataSet_eq (index : Nat) :
    deleteDataSet index c =
      if index < c.data.length then (.ok (), { c with data := c.data.eraseIdx index }.changed)
      else (.error (.noSuchDataSet (min index highestIndex : Nat) c.data.length), c) := by
  change (liftM (c.checkIndex index) >>= _ : Attempt (Chart H) Unit) c = _
  unfold checkIndex
  split <;> rfl

theorem setDataSet_eq (index : Nat) (contents : Contents) :
    setDataSet index contents c =
      if index < c.data.length then
        if contents.count = 0 then (.error .emptyDataSet, c)
        else (.ok (), { c with data := c.data.modify index (DataSet.replace contents) }.changed)
      else (.error (.noSuchDataSet (min index highestIndex : Nat) c.data.length), c) := by
  change (liftM (c.checkIndex index) >>= _ : Attempt (Chart H) Unit) c = _
  unfold checkIndex checkContents
  split
  · split <;> rfl
  · rfl

theorem setDataSetColor_eq (index : Nat) (color : Option Color) :
    setDataSetColor index color c =
      if index < c.data.length then (.ok (), { c with data := c.data.modify index ({ · with color }) }.invalidate)
      else (.error (.noSuchDataSet (min index highestIndex : Nat) c.data.length), c) := by
  change (liftM (c.checkIndex index) >>= _ : Attempt (Chart H) Unit) c = _
  unfold checkIndex
  split <;> rfl

theorem setDataSetLegend_eq (index : Nat) (legend : Option String) :
    setDataSetLegend index legend c =
      if index < c.data.length then (.ok (), { c with data := c.data.modify index ({ · with legend }) }.changed)
      else (.error (.noSuchDataSet (min index highestIndex : Nat) c.data.length), c) := by
  change (liftM (c.checkIndex index) >>= _ : Attempt (Chart H) Unit) c = _
  unfold checkIndex
  split <;> rfl

theorem setExponent_eq (selector : AxisSelector) (exponent : Int) :
    setExponent selector exponent c =
      if Axis.lowestExponent ≤ exponent ∧ exponent ≤ Axis.highestExponent then
        (.ok (), { c with
          primary := if selector = AxisSelector.secondary then c.primary else { c.primary with exponent }
          secondary := if selector = AxisSelector.primary then c.secondary else { c.secondary with exponent } }.changed)
      else (.error (.exponentOutOfRange exponent), c) := by
  unfold setExponent Axis.checkExponent
  split
  · cases selector <;> rfl
  · rfl

def adjusted (selector : AxisSelector) (f : Axis → Axis) : Except Refusal Unit × Chart H :=
  match selector with
  | .primary => (.ok (), { c with primary := f c.primary }.changed)
  | .secondary => (.ok (), { c with secondary := f c.secondary }.changed)
  | .both => (.error (.noSuchAxis 0), c)

theorem setOffset_eq (selector : AxisSelector) (offset : Int32) :
    setOffset selector offset c = c.adjusted selector ({ · with offset }) := by
  cases selector <;> rfl

theorem setAxisName_eq (selector : AxisSelector) (name : Option String) :
    setAxisName selector name c = c.adjusted selector ({ · with name }) := by
  cases selector <;> rfl

theorem settle_chart (outcome : β → Outcome H) (result : Except Refusal β × Chart H) :
    (settle outcome result).2 = result.2 := by
  obtain ⟨answer, c⟩ := result
  cases answer <;> rfl

theorem step_insertDataSet (index : Nat) (contents : Contents) :
    c.step (.insertDataSet index contents) =
      if contents.count = 0 then c
      else { c with data := c.data.insertIdx (min index c.data.length) (.ofContents contents) }.changed := by
  change (settle .place (insertDataSet index contents c)).2 = _
  rw [settle_chart, insertDataSet_eq, apply_ite Prod.snd]

theorem step_deleteDataSet (index : Nat) :
    c.step (.deleteDataSet index) =
      if index < c.data.length then { c with data := c.data.eraseIdx index }.changed else c := by
  change (settleDone (deleteDataSet index c)).2 = _
  rw [settleDone, settle_chart, deleteDataSet_eq, apply_ite Prod.snd]

theorem step_setDataSet (index : Nat) (contents : Contents) :
    c.step (.setDataSet index contents) =
      if index < c.data.length then
        if contents.count = 0 then c else { c with data := c.data.modify index (DataSet.replace contents) }.changed
      else c := by
  change (settleDone (setDataSet index contents c)).2 = _
  rw [settleDone, settle_chart, setDataSet_eq, apply_ite Prod.snd, apply_ite Prod.snd]

theorem step_setDataSetColor (index : Nat) (color : Option Color) :
    c.step (.setDataSetColor index color) =
      if index < c.data.length then { c with data := c.data.modify index ({ · with color }) }.invalidate else c := by
  change (settleDone (setDataSetColor index color c)).2 = _
  rw [settleDone, settle_chart, setDataSetColor_eq, apply_ite Prod.snd]

theorem step_setDataSetLegend (index : Nat) (legend : Option String) :
    c.step (.setDataSetLegend index legend) =
      if index < c.data.length then { c with data := c.data.modify index ({ · with legend }) }.changed else c := by
  change (settleDone (setDataSetLegend index legend c)).2 = _
  rw [settleDone, settle_chart, setDataSetLegend_eq, apply_ite Prod.snd]

theorem step_setExponent (selector : AxisSelector) (exponent : Int) :
    c.step (.setExponent selector exponent) =
      if Axis.lowestExponent ≤ exponent ∧ exponent ≤ Axis.highestExponent then
        { c with
          primary := if selector = AxisSelector.secondary then c.primary else { c.primary with exponent }
          secondary := if selector = AxisSelector.primary then c.secondary else { c.secondary with exponent } }.changed
      else c := by
  change (settleDone (setExponent selector exponent c)).2 = _
  rw [settleDone, settle_chart, setExponent_eq, apply_ite Prod.snd]

theorem step_setOffset (selector : AxisSelector) (offset : Int32) :
    c.step (.setOffset selector offset) = (c.adjusted selector ({ · with offset })).2 := by
  change (settleDone (setOffset selector offset c)).2 = _
  rw [settleDone, settle_chart, setOffset_eq]

theorem step_setAxisName (selector : AxisSelector) (name : Option String) :
    c.step (.setAxisName selector name) = (c.adjusted selector ({ · with name })).2 := by
  change (settleDone (setAxisName selector name c)).2 = _
  rw [settleDone, settle_chart, setAxisName_eq]

end Chart

end Charting
