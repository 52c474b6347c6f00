import Charting.Proofs.Caption
import Charting.Proofs.TooltipLog
import Charting.Proofs.Transition

namespace Charting

open TooltipCall

namespace TooltipSlot

variable {α T : Type}

theorem setBubble_there {slot : TooltipSlot α T} (there : slot ≠ .empty) (size : Size α) :
    slot.setBubble size ≠ .empty := by
  cases slot <;> simp_all [setBubble]

variable [Bubble α T]

def tell (call : TooltipCall α) : TooltipSlot α T → TooltipSlot α T
  | .empty => .empty
  | .tracking t => .tracking (call.tell t)
  | .external t => .external (call.tell t)

theorem setText_eq (text : String) (slot : TooltipSlot α T) : slot.setText text = slot.tell (.setText text) := by
  cases slot <;> rfl

theorem activate_eq (active : Bool) (slot : TooltipSlot α T) : slot.activate active = slot.tell (.activate active) := by
  cases slot <;> rfl

variable [Scalar α]

def size : TooltipSlot α T → Size α
  | .empty => Size.zero
  | .tracking t => t.bubble
  | .external t => Bubble.size t

theorem follow_eq (p : Point α) (slot : TooltipSlot α T) :
    slot.follow p = slot.tell (.moveTo (above p slot.size)) := by
  cases slot <;> rfl

-- A slot with the tooltip lent last, which was told some calls since; without one lent, a tooltip of the chart's own
-- that was told so since it was made, or none that could be told anything.
def Holds (lent : Option T) (calls : List (TooltipCall α)) : TooltipSlot α T → Prop
  | .empty => lent = none ∧ calls = []
  | .tracking t => lent = none ∧ ∃ bubble, t = { told calls TrackingTooltip.hidden with bubble }
  | .external t => ∃ given, lent = some given ∧ t = told calls given

variable {lent : Option T} {calls : List (TooltipCall α)} {slot : TooltipSlot α T}

theorem Holds.external (holds : slot.Holds lent calls) : slot.external? = lent.map (told calls) := by
  cases slot with
  | empty | tracking => rw [holds.1]; rfl
  | external t =>
    obtain ⟨given, rfl, rfl⟩ := holds
    rfl

theorem Holds.tell (holds : slot.Holds lent calls) (there : slot ≠ .empty) (call : TooltipCall α) :
    (slot.tell call).Holds lent (calls ++ [call]) := by
  cases slot with
  | empty => exact absurd rfl there
  | tracking t =>
    obtain ⟨none, bubble, rfl⟩ := holds
    refine ⟨none, bubble, ?_⟩
    rw [told_concat]
    cases call <;> rfl
  | external t =>
    obtain ⟨given, lent, rfl⟩ := holds
    exact ⟨given, lent, (told_concat calls call given).symm⟩

theorem Holds.setBubble (holds : slot.Holds lent calls) (size : Size α) : (slot.setBubble size).Holds lent calls := by
  cases slot with
  | empty | external => exact holds
  | tracking t =>
    obtain ⟨none, bubble, rfl⟩ := holds
    exact ⟨none, size, rfl⟩

-- The tooltip in the slot was treated politely, and `shown` says whether it is shown.
structure Attended (lent : Option T) (calls : List (TooltipCall α)) (slot : TooltipSlot α T) (shown : Bool) : Prop where
  holds : slot.Holds lent calls
  polite : Polite calls
  shown : shown = true ↔ lastActivation calls = some true

variable {shown : Bool}

theorem Attended.there (attended : slot.Attended lent calls true) : slot ≠ .empty := by
  rintro rfl
  have told := attended.shown.mp rfl
  rw [attended.holds.2] at told
  cases told

theorem Attended.show (attended : slot.Attended lent calls shown) (there : slot ≠ .empty) (text : String) :
    ∃ calls, (if shown then slot.setText text else (slot.setText text).activate true).Attended lent calls true ∧
      lastText calls = some text := by
  have texted : slot.tell (.setText text) ≠ .empty := by cases slot <;> simp_all [tell]
  have holds := attended.holds.tell there (.setText text)
  rw [activate_eq, setText_eq]
  cases shown with
  | true =>
    have before := attended.shown.mp rfl
    refine ⟨_, ⟨holds, attended.polite.setText text, ?_⟩, ?_⟩
    · simpa [lastActivation_concat, active?] using before
    · simp [lastText_concat, text?]
  | false =>
    have before := mt attended.shown.mpr Bool.false_ne_true
    refine ⟨_, ⟨holds.tell texted (.activate true), attended.polite.announce before text, ?_⟩, ?_⟩
    · exact iff_of_true rfl (by rw [lastActivation_concat]; rfl)
    · rw [lastText_concat, lastText_concat]
      rfl

theorem Attended.hide (attended : slot.Attended lent calls shown) :
    ∃ calls, (if shown then slot.activate false else slot).Attended lent calls false := by
  rw [activate_eq]
  cases shown with
  | true =>
    have before := attended.shown.mp rfl
    refine ⟨_, attended.holds.tell attended.there (.activate false), attended.polite.hide before, ?_⟩
    simp [lastActivation_concat, active?]
  | false => exact ⟨calls, attended⟩

theorem Attended.move (attended : slot.Attended lent calls true) (p : Point α) :
    ∃ moved, (slot.follow p).Attended lent moved true ∧ lastText moved = lastText calls := by
  have before := attended.shown.mp rfl
  rw [follow_eq]
  refine ⟨_, ⟨attended.holds.tell attended.there _, attended.polite.move before _, ?_⟩, ?_⟩
  · simpa [lastActivation_concat, active?] using before
  · simp [lastText_concat, text?]

theorem Attended.setBubble (attended : slot.Attended lent calls shown) (size : Size α) :
    (slot.setBubble size).Attended lent calls shown :=
  ⟨attended.holds.setBubble size, attended.polite, attended.shown⟩

end TooltipSlot

variable {H : Host}

def lastTooltip (ops : List (Operation H)) : Option H.Tooltip :=
  ops.foldl (fun before op => op.tooltip before) none

namespace Chart

def Attended (lent : Option H.Tooltip) (c : Chart H) : Prop :=
  ∃ calls, c.tooltip.Attended lent calls c.tooltipShown

variable {lent : Option H.Tooltip} {c d : Chart H} {op : Operation H}

def lend (next : Option H.Tooltip) (c : Chart H) : Chart H :=
  { c.hideTooltip with tooltip := match next with | some t => .external t | none => ownTooltip c.style }

theorem attended_new (next : Option H.Tooltip) (style : ChartStyle) :
    TooltipSlot.Attended next [] (match next with | some t => .external t | none => ownTooltip style) false := by
  refine ⟨?_, polite_nil, by simp [lastActivation, activations]⟩
  cases next with
  | some t => exact ⟨t, rfl, rfl⟩
  | none =>
    dsimp only [ownTooltip]
    split
    · exact ⟨rfl, _, rfl⟩
    · exact ⟨rfl, rfl⟩

theorem Attended.touched (attended : c.Attended lent) (touched : c.ScreenTouched d) : d.Attended lent := by
  obtain ⟨_, _, _, _, _, _, rfl⟩ := touched.frame
  exact attended

section

variable {calls : List (TooltipCall H.Length)}

theorem hideTooltip_attended (attended : c.tooltip.Attended lent calls c.tooltipShown) :
    ∃ calls, c.hideTooltip.tooltip.Attended lent calls false :=
  attended.hide

theorem moveTooltip_attended (p : Point H.Length) (shown : c.tooltipShown = true)
    (attended : c.tooltip.Attended lent calls c.tooltipShown) :
    ∃ moved, (c.moveTooltip p).tooltip.Attended lent moved c.tooltipShown ∧ lastText moved = lastText calls := by
  rw [shown] at attended ⊢
  exact attended.move p

theorem showTooltip_attended (attended : c.tooltip.Attended lent calls c.tooltipShown) (there : c.tooltip ≠ .empty)
    (text : String) (bubble : Size H.Length) :
    ∃ calls, (c.showTooltip text bubble).tooltip.Attended lent calls (c.showTooltip text bubble).tooltipShown ∧
      lastText calls = some text := by
  obtain ⟨shown, attended, last⟩ := (attended.setBubble bubble).show (TooltipSlot.setBubble_there there bubble) text
  unfold showTooltip
  dsimp only
  split
  · rename_i p _
    obtain ⟨moved, attended, same⟩ := attended.move p
    exact ⟨moved, attended, same.trans last⟩
  · exact ⟨shown, attended, last⟩

end

theorem updateTooltip_attended (attended : c.Attended lent) : c.updateTooltip.Attended lent := by
  rcases c.updateTooltip_cases with ⟨_, same⟩ | ⟨d, consulted, there, told⟩
  · rw [same]
    exact attended
  · obtain ⟨⟨measurer, supplier, rfl⟩, _⟩ := consulted
    obtain ⟨calls, attended⟩ := attended
    rcases told with ⟨_, same⟩ | ⟨text, bubble, _, same⟩
    · rw [same]
      exact hideTooltip_attended attended
    · have shown := showTooltip_attended (c := { c with measurer, supplier }) attended there text bubble
      obtain ⟨calls, attended, _⟩ := shown
      rw [same]
      exact ⟨calls, attended⟩

theorem updated_attended (attended : c.Attended lent) (hot : Option HotItem) (rect : Rect H.Length) :
    ({ c with hot }.updateTooltip.invalidateRect rect).Attended lent :=
  (updateTooltip_attended (c := { c with hot }) attended).touched (invalidateRect_touched rect _)

theorem changed_attended (attended : c.Attended lent) : c.changed.Attended lent := by
  obtain ⟨d, consulted, found⟩ := c.findHot_eq
  have updated := updated_attended (attended.touched consulted.touched) c.underPointer c.findHot.viewRect
  rw [← found] at updated
  exact updated

theorem Revision.attended (revised : c.Revision d) (attended : c.Attended lent) : d.Attended lent := by
  cases revised with
  | data | axes | config | title | enabled | size => exact attended
  | style style tooltip tooltipShown restyled =>
    obtain ⟨calls, attended⟩ := attended
    generalize c.tooltip = slot, c.tooltipShown = shown at attended restyled
    cases restyled with
    | kept => exact ⟨calls, attended⟩
    | made =>
      obtain ⟨⟨none, unbidden⟩, polite, shown⟩ := attended
      exact ⟨calls, ⟨none, Size.zero, by rw [unbidden]; rfl⟩, polite, shown⟩
    | gone t =>
      exact ⟨[], ⟨attended.holds.1, rfl⟩, polite_nil, by simp [lastActivation, activations]⟩

theorem setTooltip_attended (tooltip : Option H.Tooltip) (c : Chart H) : (c.setTooltip tooltip).2.Attended tooltip :=
  updateTooltip_attended (c := c.lend tooltip) ⟨[], attended_new tooltip c.style⟩

theorem pointerMove_attended (p : Point H.Length) (attended : c.Attended lent) : (c.pointerMove p).Attended lent := by
  have followed : ∀ d : Chart H, d.Attended lent → (if d.tooltipShown then d.moveTooltip p else d).Attended lent := by
    rintro d ⟨calls, attended⟩
    split
    · rename_i shown
      obtain ⟨moved, attended, _⟩ := moveTooltip_attended p shown attended
      exact ⟨moved, attended⟩
    · exact ⟨calls, attended⟩
  unfold pointerMove
  dsimp only
  split
  · have asked := Attended.touched (c := { c with pointer := some p }) attended (hitTest_consulted p _).touched
    refine followed _ ?_
    split
    · exact asked
    · exact updated_attended asked _ _
  · exact attended

theorem pointerLeave_attended (attended : c.Attended lent) : c.pointerLeave.Attended lent := by
  unfold pointerLeave
  dsimp only
  split
  · exact updated_attended (c := { c with pointer := none }) attended none _
  · exact attended

theorem Transition.attended (transition : c.Transition op d) (attended : c.Attended lent) :
    d.Attended (op.tooltip lent) := by
  cases transition with
  | consult still consulted => rw [still.tooltip]; exact attended.touched consulted.touched
  | revise still revised => rw [still.tooltip]; exact changed_attended (revised.attended attended)
  | recolor still index color =>
    have recolored : { c with data := c.data.modify index ({ · with color }) }.Attended lent := attended
    rw [still.tooltip]
    exact recolored.touched (invalidateRect_touched _ _)
  | setTooltip _ tooltip lends => rw [lends]; exact setTooltip_attended tooltip c
  | setSupplier | setMeasurer => exact changed_attended attended
  | setRedraw redraw => exact Attended.touched (c := { c with redraw }) attended (invalidateRect_touched _ _)
  | invalidateRect rect => exact attended.touched (invalidateRect_touched rect c)
  | displayChanged => exact attended.touched c.displayChanged_touched
  | pointerMove p => exact pointerMove_attended p attended
  | pointerLeave => exact pointerLeave_attended attended
  | onTimer now => exact attended.touched (onTimer_touched now c)
  | paint now => exact attended.touched (paint_touched now c)

theorem withConfig_attended (service : H.Service) (style : ChartStyle) (config : Config H.Length) :
    (withConfig service style config).Attended none :=
  ⟨[], attended_new none style⟩

theorem lastTooltip_concat (ops : List (Operation H)) (op : Operation H) :
    lastTooltip (ops ++ [op]) = op.tooltip (lastTooltip ops) := by
  simp [lastTooltip]

theorem run_attended (service : H.Service) (style : ChartStyle) (config : Config H.Length)
    (ops : List (Operation H)) : ((withConfig service style config).run ops).Attended (lastTooltip ops) := by
  refine run_history (motive := fun past c => c.Attended (lastTooltip past))
    (withConfig_attended service style config) ?_ ops
  intro past op attended
  rw [lastTooltip_concat]
  exact (step_transition op _).attended attended

theorem watched_external {lent : Option H.watched.Tooltip} {slot : TooltipSlot H.watched.Length H.watched.Tooltip}
    {calls : List (TooltipCall H.watched.Length)} (holds : slot.Holds lent calls) :
    slot.external? = lent.map (Watched.after (α := H.Length) (T := H.Tooltip) calls) := by
  rw [holds.external]
  exact congrArg (lent.map ·) (funext (Watched.told_eq (α := H.Length) (T := H.Tooltip) calls))

theorem external_attended {lent : Option H.watched.Tooltip} {c : Chart H.watched} (attended : c.Attended lent) :
    ∃ calls : List (TooltipCall H.Length), c.tooltip.external? = lent.map (Watched.after calls) ∧ Polite calls := by
  obtain ⟨calls, attended⟩ := attended
  exact ⟨calls, watched_external attended.holds, attended.polite⟩

-- A tooltip lent to a chart hears what the chart has to say to it and nothing else: from when it is lent to when it is
-- given back it is treated politely, and given back hidden. What is given back is the very tooltip lent last, after
-- what it was told; nothing is given back if none was lent. A style never takes it away. Nothing is assumed of what a
-- supplier writes into its buffer, or of what a measurer answers.
theorem run_polite (service : H.Service) (style : ChartStyle) (config : Config H.Length)
    (ops : List (Operation H.watched)) :
    let c := (withConfig (H := H.watched) service style config).run ops
    (∃ calls : List (TooltipCall H.Length),
        c.tooltip.external? = (lastTooltip ops).map (Watched.after calls) ∧ Polite calls) ∧
      (∀ next, ∃ calls : List (TooltipCall H.Length), Polite calls ∧ lastActivation calls ≠ some true ∧
        (c.perform (.setTooltip next)).1 = .tooltip ((lastTooltip ops).map (Watched.after calls)) ∧
        (c.perform (.dispatch (.setTooltip next))).1 =
          .reply (.tooltip ((lastTooltip ops).map (Watched.after calls)))) ∧
      ∀ style, ∃ calls : List (TooltipCall H.Length),
        (c.setStyle style).tooltip.external? = (lastTooltip ops).map (Watched.after calls) ∧ Polite calls := by
  intro c
  have attended : c.Attended (lastTooltip ops) := run_attended (H := H.watched) service style config ops
  refine ⟨external_attended attended, ?_, ?_⟩
  · intro next
    obtain ⟨calls, attended⟩ := attended
    obtain ⟨calls, hidden⟩ := hideTooltip_attended attended
    have previous := watched_external hidden.holds
    refine ⟨calls, hidden.polite, mt hidden.shown.mpr Bool.false_ne_true, ?_, ?_⟩
    · exact congrArg Outcome.tooltip previous
    · exact congrArg (fun previous => Outcome.reply (.tooltip previous)) previous
  · intro style
    exact external_attended ((step_transition (.setStyle style) c).attended attended)

end Chart

end Charting
