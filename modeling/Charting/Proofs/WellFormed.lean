import Charting.Proofs.HitBounds
import Charting.Proofs.Transition

namespace Charting

variable {H : Host}

namespace Chart

-- What holds of a chart at any time, even while it looks anew at what is under the pointer.
structure Sound (c : Chart H) : Prop where
  data : ∀ d ∈ c.data, d.Sound
  axes : c.primary.InRange ∧ c.secondary.InRange

-- What holds of it between two operations. A hot item that renderers look up is there to be looked up.
structure WellFormed (c : Chart H) : Prop extends Sound c where
  cold : c.enabled = false ∨ c.pointer = none → c.hot = none
  within : ∀ item, c.hot = some item → item.Within c.style.kind c.data

theorem withConfig_wellFormed (service : H.Service) (style : ChartStyle) (config : Config H.Length) :
    (withConfig service style config).WellFormed where
  data _ present := nomatch present
  axes := ⟨Axis.default_inRange, Axis.default_inRange⟩
  cold _ := rfl
  within _ hot := nomatch hot

theorem underPointer_within {c : Chart H} (sound : c.Sound) {item : HotItem} (found : c.underPointer = some item) :
    item.Within c.style.kind c.data := by
  unfold underPointer at found
  split at found
  · obtain ⟨p, _, hit⟩ := Option.bind_eq_some_iff.mp found
    exact hitTest_within sound.data hit
  · cases found

theorem TurnedTo.wellFormed {hot : Option HotItem} {c d : Chart H} (turned : c.TurnedTo hot d) (sound : c.Sound)
    (cold : c.enabled = false ∨ c.pointer = none → hot = none)
    (within : ∀ item, hot = some item → item.Within c.style.kind c.data) : d.WellFormed := by
  obtain ⟨_, _, _, _, _, rfl⟩ := turned.frame
  exact ⟨⟨sound.data, sound.axes⟩, cold, within⟩

theorem Sound.changed {c : Chart H} (sound : c.Sound) : c.changed.WellFormed :=
  c.changed_turned.1.wellFormed sound underPointer_cold fun _ found => underPointer_within sound found

theorem WellFormed.told {c d : Chart H} (wellFormed : c.WellFormed) (told : c.TooltipTold d) : d.WellFormed :=
  told.turned.wellFormed wellFormed.toSound wellFormed.cold wellFormed.within

theorem WellFormed.touched {c d : Chart H} (wellFormed : c.WellFormed) (touched : c.ScreenTouched d) :
    d.WellFormed := by
  obtain ⟨_, _, _, _, _, _, rfl⟩ := touched.frame
  exact ⟨⟨wellFormed.data, wellFormed.axes⟩, wellFormed.cold, wellFormed.within⟩

theorem Revision.sound {c d : Chart H} (revised : c.Revision d) (sound : c.Sound) : d.Sound := by
  cases revised with
  | data data keeps => exact ⟨keeps sound.data, sound.axes⟩
  | axes primary secondary keeps => exact ⟨sound.data, keeps sound.axes⟩
  | style | config | title | enabled | size => exact ⟨sound.data, sound.axes⟩

theorem within_recolor {kind : Kind} {data : List DataSet} {item : HotItem} (within : item.Within kind data)
    (index : Nat) (color : Option Color) : item.Within kind (data.modify index ({ · with color })) := by
  obtain ⟨d, found, bounds⟩ := within
  rw [HotItem.Within, List.getElem?_modify, found]
  refine ⟨_, rfl, ?_⟩
  split <;> exact bounds

theorem recolor_wellFormed {c : Chart H} (wellFormed : c.WellFormed) (index : Nat) (color : Option Color) :
    { c with data := c.data.modify index ({ · with color }) }.WellFormed where
  data := DataSet.sound_modify index (fun _ sound => ⟨sound.filled, sound.held⟩) wellFormed.data
  axes := wellFormed.axes
  cold := wellFormed.cold
  within item hot := within_recolor (wellFormed.within item hot) index color

theorem pointerMove_wellFormed {c : Chart H} (wellFormed : c.WellFormed) (p : Point H.Length) :
    (c.pointerMove p).WellFormed := by
  have sound : { c with pointer := some p }.Sound := ⟨wellFormed.data, wellFormed.axes⟩
  refine (c.pointerMove_turned p).wellFormed sound ?_ ?_
  · intro away
    have disabled : c.enabled = false := away.resolve_right nofun
    rw [if_neg (by simp [disabled])]
    exact wellFormed.cold (.inl disabled)
  · intro item found
    split at found
    · exact hitTest_within wellFormed.data found
    · exact wellFormed.within item found

theorem pointerLeave_wellFormed {c : Chart H} (wellFormed : c.WellFormed) : c.pointerLeave.WellFormed := by
  have sound : { c with pointer := none }.Sound := ⟨wellFormed.data, wellFormed.axes⟩
  -- A disabled chart has no hot item that could stay.
  have none : (if c.enabled then none else c.hot) = none := by
    split
    · rfl
    · rename_i disabled
      exact wellFormed.cold (.inl (by simpa using disabled))
  refine c.pointerLeave_turned.wellFormed sound (fun _ => none) ?_
  intro item found
  rw [none] at found
  cases found

theorem Transition.wellFormed {c d : Chart H} {op : Operation H} (transition : c.Transition op d)
    (wellFormed : c.WellFormed) : d.WellFormed := by
  cases transition with
  | consult _ consulted => exact wellFormed.told consulted.told
  | revise _ revised => exact (revised.sound wellFormed.toSound).changed
  | recolor _ index color => exact (recolor_wellFormed wellFormed index color).touched (invalidateRect_touched _ _)
  | setTooltip _ tooltip => exact wellFormed.told (setTooltip_told tooltip c)
  | setSupplier | setMeasurer => exact Sound.changed ⟨wellFormed.data, wellFormed.axes⟩
  | setRedraw redraw =>
    have set : { c with redraw }.WellFormed := ⟨⟨wellFormed.data, wellFormed.axes⟩, wellFormed.cold, wellFormed.within⟩
    exact set.touched (invalidateRect_touched _ _)
  | invalidateRect rect => exact wellFormed.touched (invalidateRect_touched rect c)
  | displayChanged => exact wellFormed.touched c.displayChanged_touched
  | pointerMove p => exact pointerMove_wellFormed wellFormed p
  | pointerLeave => exact pointerLeave_wellFormed wellFormed
  | onTimer now => exact wellFormed.touched (onTimer_touched now c)
  | paint now => exact wellFormed.touched (paint_touched now c)

theorem WellFormed.run {c : Chart H} (wellFormed : c.WellFormed) (ops : List (Operation H)) : (c.run ops).WellFormed :=
  run_induction wellFormed fun _ _ _ _ transition => transition.wellFormed

-- Whatever is done to a chart, with whatever objects lent to it, it is well-formed. Nothing is assumed of the numbers
-- it measures in, of what a supplier writes into its buffer, or of what a measurer answers.
theorem run_wellFormed (service : H.Service) (style : ChartStyle) (config : Config H.Length)
    (ops : List (Operation H)) : ((withConfig service style config).run ops).WellFormed :=
  (withConfig_wellFormed service style config).run ops

end Chart

end Charting
