import Charting.Proofs.HotItem
import Charting.Proofs.TooltipProtocol

namespace Charting

open TooltipCall

namespace TooltipSlot

variable {α T : Type} {calls moved : List (TooltipCall α)} {slot : TooltipSlot α T}

-- A tooltip as it has to be for a caption: hidden if there is none, else shown with the text. The chart sees to the
-- size of its own bubble.
def Captioned (calls : List (TooltipCall α)) (slot : TooltipSlot α T) (shown : Bool) : Option (String × Size α) → Prop
  | none => shown = false
  | some (text, bubble) => shown = true ∧ lastText calls = some text ∧ ∀ t, slot = .tracking t → t.bubble = bubble

theorem Captioned.shown {shown : Bool} {caption : Option (String × Size α)}
    (captioned : slot.Captioned calls shown caption) (active : shown = true) :
    ∃ text bubble, caption = some (text, bubble) ∧ lastText calls = some text ∧
      ∀ t, slot = .tracking t → t.bubble = bubble := by
  cases caption with
  | none => cases active.symm.trans captioned
  | some caption => exact ⟨caption.1, caption.2, rfl, captioned.2⟩

variable [Scalar α] [Bubble α T] {p : Point α} {t : TrackingTooltip α}

theorem follow_tracking (followed : slot.follow p = .tracking t) :
    t.position = above p t.bubble ∧ ∃ before, slot = .tracking before ∧ t.bubble = before.bubble := by
  cases slot with
  | empty | external => cases followed
  | tracking before =>
    cases followed
    exact ⟨rfl, before, rfl, rfl⟩

theorem Holds.active {lent : Option T} (holds : (tracking t : TooltipSlot α T).Holds lent calls) :
    t.active = true ↔ lastActivation calls = some true := by
  obtain ⟨_, _, rfl⟩ := holds
  change (told calls TrackingTooltip.hidden).active = true ↔ _
  rw [told_active]
  cases lastActivation calls <;> simp [TrackingTooltip.hidden]

theorem Holds.text {lent : Option T} (holds : (tracking t : TooltipSlot α T).Holds lent calls) :
    t.text = (lastText calls).getD "" := by
  obtain ⟨_, _, rfl⟩ := holds
  exact told_text calls _

theorem Captioned.follow {caption : Option (String × Size α)} (captioned : slot.Captioned calls true caption)
    (same : lastText moved = lastText calls) : (slot.follow p).Captioned moved true caption := by
  cases caption with
  | none => exact captioned
  | some caption =>
    obtain ⟨_, text, bubble⟩ := captioned
    refine ⟨rfl, same.trans text, ?_⟩
    intro t followed
    obtain ⟨_, before, own, size⟩ := follow_tracking followed
    exact size.trans (bubble before own)

end TooltipSlot

variable {H : Host}

theorem View.tooltipText_uncolored {α : Type} (v : View α) (kind : Kind) (hot : HotItem) :
    { v with data := v.data.map DataSet.uncolored }.tooltipText kind hot = v.tooltipText kind hot := by
  unfold tooltipText
  cases kind <;> rfl

namespace Chart

variable {lent : Option H.Tooltip} {c d : Chart H} {answers : Answers H} {op : Operation H} {hot : Option HotItem}

theorem showTooltip_tracking {text : String} {bubble : Size H.Length} {t : TrackingTooltip H.Length}
    (own : (c.showTooltip text bubble).tooltip = .tracking t) :
    t.bubble = bubble ∧ ∀ p, c.pointer = some p → t.position = TooltipSlot.above p t.bubble := by
  have measured : ∀ t, (if c.tooltipShown then (c.tooltip.setBubble bubble).setText text
      else ((c.tooltip.setBubble bubble).setText text).activate true) = .tracking t → t.bubble = bubble := by
    intro t own
    cases tooltip : c.tooltip with
    | empty | external => split at own <;> rw [tooltip] at own <;> cases own
    | tracking before => split at own <;> rw [tooltip] at own <;> cases own <;> rfl
  unfold showTooltip at own
  dsimp only at own
  cases pointer : c.pointer with
  | none =>
    rw [pointer] at own
    exact ⟨measured t own, nofun⟩
  | some p =>
    rw [pointer] at own
    obtain ⟨position, before, shown, size⟩ := TooltipSlot.follow_tracking own
    refine ⟨size.trans (measured before shown), ?_⟩
    rintro _ ⟨⟩
    exact position

theorem showTooltip_shown (text : String) (bubble : Size H.Length) (c : Chart H) :
    (c.showTooltip text bubble).tooltipShown = true := by
  unfold showTooltip
  dsimp only
  split <;> rfl

def Informed (lent : Option H.Tooltip) (c : Chart H) : Prop :=
  ∃ calls, c.tooltip.Attended lent calls c.tooltipShown ∧
    (c.tooltip ≠ .empty → c.tooltip.Captioned calls c.tooltipShown c.caption)

def Placed (c : Chart H) : Prop :=
  c.tooltipShown = true → ∀ t, c.tooltip = .tracking t →
    ∃ p, c.pointer = some p ∧ t.position = TooltipSlot.above p t.bubble

structure Telling (lent : Option H.Tooltip) (c : Chart H) : Prop where
  informed : c.Informed lent
  placed : c.Placed

theorem Informed.attended (informed : c.Informed lent) : c.Attended lent := by
  obtain ⟨calls, attended, _⟩ := informed
  exact ⟨calls, attended⟩

theorem Informed.same (informed : c.Informed lent) (tooltip : d.tooltip = c.tooltip)
    (shown : d.tooltipShown = c.tooltipShown) (caption : d.caption = c.caption) : d.Informed lent := by
  unfold Informed
  rw [tooltip, shown, caption]
  exact informed

theorem Informed.touched (informed : c.Informed lent) (heard : c.Hears answers) (touched : c.ScreenTouched d) :
    d.Informed lent := by
  have hears := touched.hears answers heard
  obtain ⟨_, _, _, _, _, _, rfl⟩ := touched.frame
  exact informed.same rfl rfl (caption_determined hears heard rfl rfl)

theorem Telling.touched (telling : c.Telling lent) (heard : c.Hears answers) (touched : c.ScreenTouched d) :
    d.Telling lent := by
  refine ⟨telling.informed.touched heard touched, ?_⟩
  obtain ⟨_, _, _, _, _, _, rfl⟩ := touched.frame
  exact telling.placed

theorem Informed.cold (informed : c.Informed lent) (cold : c.hot = none) (pointer : Option (Point H.Length)) :
    { c with pointer }.Telling lent := by
  have silent : ∀ pointer, { c with pointer }.caption = none := by
    intro pointer
    unfold caption
    rw [cold]
    rfl
  refine ⟨informed.same rfl rfl ((silent pointer).trans (silent c.pointer).symm), ?_⟩
  intro shown t own
  obtain ⟨_, _, captioned⟩ := informed
  have there : c.tooltip ≠ .empty := by
    rw [own]
    nofun
  have hidden := captioned there
  rw [silent c.pointer] at hidden
  cases shown.symm.trans hidden

theorem updateTooltip_telling (heard : c.Hears answers) (attended : c.Attended lent)
    (pointed : c.hot ≠ none → c.pointer ≠ none) : c.updateTooltip.Telling lent := by
  have told := c.updateTooltip_told
  have same : c.updateTooltip.caption = c.caption := by
    have hears := told.hears answers heard
    obtain ⟨_, _, _, _, frame⟩ := told.frame
    exact caption_determined hears heard (by rw [frame]; rfl) (by rw [frame])
  rcases c.updateTooltip_cases with ⟨empty, kept⟩ | ⟨d, consulted, there, said⟩
  · rw [kept]
    obtain ⟨calls, attended⟩ := attended
    refine ⟨⟨calls, attended, absurd empty⟩, ?_⟩
    intro _ t own
    cases empty.symm.trans own
  · obtain ⟨⟨measurer, supplier, rfl⟩, _⟩ := consulted
    obtain ⟨calls, attended⟩ := attended
    rcases said with ⟨silent, hidden⟩ | ⟨text, bubble, caption, shown⟩
    · rw [silent] at same
      rw [hidden] at same ⊢
      obtain ⟨calls, attended⟩ := hideTooltip_attended attended
      refine ⟨⟨calls, attended, ?_⟩, nofun⟩
      rw [same]
      exact fun _ => rfl
    · rw [caption] at same
      rw [shown] at same ⊢
      obtain ⟨calls, attended, last⟩ :=
        showTooltip_attended (c := { c with measurer, supplier }) attended there text bubble
      refine ⟨⟨calls, attended, ?_⟩, ?_⟩
      · rw [same]
        exact fun _ => ⟨showTooltip_shown _ _ _, last, fun t own => (showTooltip_tracking own).1⟩
      · intro _ t own
        have lit : c.hot ≠ none := by
          intro cold
          rw [Chart.caption, cold] at caption
          cases caption
        obtain ⟨p, pointer⟩ := Option.ne_none_iff_exists'.mp (pointed lit)
        have stays : ({ c with measurer, supplier }.showTooltip text bubble).pointer = some p :=
          (showTooltip_told text bubble _).turned.pointer.trans pointer
        exact ⟨p, stays, (showTooltip_tracking own).2 p pointer⟩

theorem updated_telling (heard : c.Hears answers) (attended : c.Attended lent) (pointed : hot ≠ none → c.pointer ≠ none)
    (rect : Rect H.Length) : ({ c with hot }.updateTooltip.invalidateRect rect).Telling lent := by
  have hears : { c with hot }.Hears answers := ⟨heard.text, heard.values⟩
  have telling := updateTooltip_telling (c := { c with hot }) hears attended pointed
  exact telling.touched ((updateTooltip_told _).hears answers hears) (invalidateRect_touched rect _)

theorem underPointer_over (found : c.underPointer ≠ none) : c.pointer ≠ none :=
  fun away => found (underPointer_cold (.inr away))

theorem changed_telling (heard : ∃ answers, c.Hears answers) (attended : c.Attended lent) : c.changed.Telling lent := by
  obtain ⟨answers, heard⟩ := heard
  obtain ⟨d, consulted, found⟩ := c.findHot_eq
  have pointed : c.underPointer ≠ none → d.pointer ≠ none := by
    rw [consulted.touched.pointer]
    exact underPointer_over
  have updated := updated_telling (consulted.hears answers heard) (attended.touched consulted.touched) pointed
    c.findHot.viewRect
  rw [← found] at updated
  exact updated

theorem setTooltip_telling (current : c.Current) (tooltip : Option H.Tooltip) :
    (c.setTooltip tooltip).2.Telling tooltip := by
  obtain ⟨answers, heard⟩ := current.heard
  have hears : (c.lend tooltip).Hears answers := ⟨heard.text, heard.values⟩
  refine updateTooltip_telling (c := c.lend tooltip) hears ⟨[], attended_new tooltip c.style⟩ ?_
  intro lit
  exact underPointer_over (current.hot ▸ lit)

theorem followed_telling {p : Point H.Length} (informed : c.Informed lent) (heard : c.Hears answers)
    (pointer : c.pointer = some p) : (if c.tooltipShown then c.moveTooltip p else c).Telling lent := by
  obtain ⟨calls, attended, captioned⟩ := informed
  split
  · rename_i shown
    have hears := (moveTooltip_told p c).hears answers heard
    have same : (c.moveTooltip p).caption = c.caption := caption_determined hears heard rfl rfl
    obtain ⟨moved, follows, last⟩ := moveTooltip_attended p shown attended
    refine ⟨⟨moved, follows, ?_⟩, ?_⟩
    · intro _
      have before := captioned (shown ▸ attended).there
      change (c.tooltip.follow p).Captioned moved c.tooltipShown (c.moveTooltip p).caption
      rw [shown] at before ⊢
      rw [same]
      exact before.follow last
    · intro _ t own
      exact ⟨p, pointer, (TooltipSlot.follow_tracking own).1⟩
  · rename_i hidden
    exact ⟨⟨calls, attended, captioned⟩, fun shown => absurd shown hidden⟩

theorem noticed_informed (consulted : c.Consulted d) (heard : c.Hears answers) (informed : c.Informed lent)
    (there : c.pointer ≠ none) :
    (if hot = d.hot then d else { d with hot }.updateTooltip.invalidate).Informed lent := by
  have asked := informed.touched heard consulted.touched
  split
  · exact asked
  · refine (updated_telling (consulted.hears answers heard) asked.attended ?_ _).informed
    intro _
    rw [consulted.touched.pointer]
    exact there

theorem pointerMove_telling (current : c.Current) (informed : c.Informed lent) (p : Point H.Length) :
    (c.pointerMove p).Telling lent := by
  obtain ⟨answers, heard⟩ := current.heard
  have moved : { c with pointer := some p }.Hears answers := ⟨heard.text, heard.values⟩
  have same : { c with pointer := some p }.Informed lent :=
    informed.same rfl rfl (caption_determined moved heard rfl rfl)
  unfold pointerMove
  dsimp only
  split
  · have asked := hitTest_consulted p { c with pointer := some p }
    have turned := noticed_turned asked (c.hitTest p).1
    exact followed_telling (noticed_informed asked moved same nofun) (turned.hears answers moved) turned.pointer
  · rename_i disabled
    exact informed.cold (current.cold disabled) (some p)

theorem pointerLeave_telling (current : c.Current) (informed : c.Informed lent) : c.pointerLeave.Telling lent := by
  obtain ⟨answers, heard⟩ := current.heard
  unfold pointerLeave
  dsimp only
  split
  · exact updated_telling (c := { c with pointer := none }) ⟨heard.text, heard.values⟩ informed.attended
      (absurd rfl) _
  · rename_i unlit
    refine informed.cold ?_ none
    by_cases enabled : c.enabled = true
    · simpa [enabled] using unlit
    · exact current.cold enabled

theorem caption_uncolored (c : Chart H) : { c with data := c.data.map DataSet.uncolored }.caption = c.caption := by
  unfold caption
  simp only [tooltipContent_eq, view_uncolored, View.tooltipText_uncolored]
  rfl

theorem caption_recolor (index : Nat) (color : Option Color) (c : Chart H) :
    { c with data := c.data.modify index ({ · with color }) }.caption = c.caption := by
  have recolored := caption_uncolored { c with data := c.data.modify index ({ · with color }) }
  dsimp only at recolored
  rw [uncolored_recolor] at recolored
  exact recolored.symm.trans c.caption_uncolored

theorem Transition.telling (transition : c.Transition op d) (stateless : op.LendsStateless) (current : c.Current)
    (telling : c.Telling lent) : d.Telling (op.tooltip lent) := by
  obtain ⟨answers, heard⟩ := current.heard
  have attended := telling.informed.attended
  cases transition with
  | consult still consulted => rw [still.tooltip]; exact telling.touched heard consulted.touched
  | revise still revised =>
    rw [still.tooltip]
    exact changed_telling (revised.heard current.heard) (revised.attended attended)
  | recolor still index color =>
    have recolored : { c with data := c.data.modify index ({ · with color }) }.Telling lent :=
      ⟨telling.informed.same rfl rfl (caption_recolor index color c), telling.placed⟩
    rw [still.tooltip]
    exact recolored.touched ⟨heard.text, heard.values⟩ (invalidateRect_touched _ _)
  | setTooltip _ tooltip lends => rw [lends]; exact setTooltip_telling current tooltip
  | setSupplier supplier => exact changed_telling (setSupplier_heard current.heard stateless) attended
  | setMeasurer measurer => exact changed_telling (setMeasurer_heard current.heard stateless) attended
  | setRedraw redraw =>
    have hears : { c with redraw }.Hears answers := ⟨heard.text, heard.values⟩
    have set : { c with redraw }.Telling lent :=
      ⟨telling.informed.same rfl rfl (caption_determined hears heard rfl rfl), telling.placed⟩
    exact set.touched hears (invalidateRect_touched _ _)
  | invalidateRect rect => exact telling.touched heard (invalidateRect_touched rect c)
  | displayChanged => exact telling.touched heard c.displayChanged_touched
  | pointerMove p => exact pointerMove_telling current telling.informed p
  | pointerLeave => exact pointerLeave_telling current telling.informed
  | onTimer now => exact telling.touched heard (onTimer_touched now c)
  | paint now => exact telling.touched heard (paint_touched now c)

theorem withConfig_telling (service : H.Service) (style : ChartStyle) (config : Config H.Length) :
    (withConfig service style config).Telling none where
  informed := ⟨[], attended_new none style, fun _ => rfl⟩
  placed := nofun

theorem run_telling (service : H.Service) (style : ChartStyle) (config : Config H.Length) (ops : List (Operation H))
    (stateless : ∀ op ∈ ops, op.LendsStateless) :
    ((withConfig service style config).run ops).Current ∧
      ((withConfig service style config).run ops).Telling (lastTooltip ops) := by
  refine run_history (c := withConfig service style config)
    (motive := fun past c => (∀ op ∈ past, op.LendsStateless) → c.Current ∧ c.Telling (lastTooltip past))
    (fun _ => ⟨withConfig_current service style config, withConfig_telling service style config⟩) ?_ ops stateless
  intro past op before stateless
  obtain ⟨current, telling⟩ := before fun op member => stateless op (List.mem_append_left _ member)
  have transition := step_transition op ((withConfig service style config).run past)
  have lends := stateless op (by simp)
  rw [lastTooltip_concat]
  exact ⟨transition.current lends current, transition.telling lends current telling⟩

theorem caption_found (heard : c.Hears answers) {text : String} {bubble : Size H.Length}
    (caption : c.caption = some (text, bubble)) :
    ∃ item, c.hot = some item ∧ c.view.1.tooltipText c.style.kind item = some text ∧
      bubble = bubbleSize (TextMeasurer.measure text c.config.textStyle c.measurer).1 := by
  obtain ⟨item, hot, content⟩ := Option.bind_eq_some_iff.mp caption
  rw [tooltipContent_eq] at content
  obtain ⟨spoken, found, same⟩ := Option.map_eq_some_iff.mp content
  obtain ⟨rfl, rfl⟩ := Prod.mk.inj same
  have measured := (TextMeasurer.measure_determined spoken c.config.textStyle).result heard.text
    (c.view_consulted.hears _ heard).text
  exact ⟨item, hot, found, by rw [measured]⟩

theorem Informed.shown_iff {calls : List (TooltipCall H.Length)}
    (attended : c.tooltip.Attended lent calls c.tooltipShown)
    (captioned : c.tooltip ≠ .empty → c.tooltip.Captioned calls c.tooltipShown c.caption) :
    c.tooltipShown = true ↔ c.tooltip ≠ .empty ∧ ∃ item i, c.hot = some item ∧ item.index = some i := by
  rw [← caption_isSome]
  constructor
  · intro shown
    have there := (shown ▸ attended).there
    obtain ⟨_, _, caption, _⟩ := (captioned there).shown shown
    refine ⟨there, ?_⟩
    rw [caption]
    rfl
  · rintro ⟨there, content⟩
    have captioned := captioned there
    obtain ⟨caption, found⟩ := Option.isSome_iff_exists.mp content
    rw [found] at captioned
    exact captioned.1

-- The tooltip always shows the value under the pointer as it is now, if the objects lent to the chart answer each
-- question in one way only. It is shown if and only if there is one, the chart's own or a lent one, and the pointer is
-- over a value, which it never is in a disabled chart or while it is away. Then its text is that of the value under the
-- pointer, in what the chart shows now; the chart's own bubble has room for it, and stands above the pointer.
theorem run_tooltip (service : H.Service) (style : ChartStyle) (config : Config H.Length)
    (ops : List (Operation H.watched)) (stateless : ∀ op ∈ ops, op.LendsStateless) :
    let c := (withConfig (H := H.watched) service style config).run ops
    ∃ calls : List (TooltipCall H.Length),
      c.tooltip.external? = (lastTooltip ops).map (Watched.after calls) ∧
      (lastActivation calls = some true ↔
        c.tooltip ≠ .empty ∧ ∃ item i, c.hot = some item ∧ item.index = some i) ∧
      (∀ t, c.tooltip = .tracking t → (t.active = true ↔ lastActivation calls = some true)) ∧
      (c.enabled = false ∨ lastPointer ops = none → lastActivation calls ≠ some true) ∧
      (lastActivation calls = some true → ∃ item text, c.hot = some item ∧
        c.view.1.tooltipText c.style.kind item = some text ∧ lastText calls = some text ∧
        ∀ t, c.tooltip = .tracking t → t.text = text ∧
          (let metrics := (TextMeasurer.measure text c.config.textStyle c.measurer).1
          t.bubble = ⟨metrics.advance + 2 * 4, metrics.lineHeight + 2 * 4⟩) ∧
          ∃ p, lastPointer ops = some p ∧ t.position = ⟨p.x - t.bubble.width / 2, p.y - t.bubble.height - 5⟩) := by
  intro c
  obtain ⟨current, telling⟩ := run_telling (H := H.watched) service style config ops stateless
  obtain ⟨answers, heard⟩ := current.heard
  obtain ⟨calls, attended, captioned⟩ := telling.informed
  have pointer : c.pointer = lastPointer ops := run_pointer ops _
  have shown := attended.shown.symm.trans (Informed.shown_iff attended captioned)
  refine ⟨calls, watched_external attended.holds, shown, ?_, ?_, ?_⟩
  · intro t own
    have holds := attended.holds
    rw [own] at holds
    exact holds.active
  · intro away told
    obtain ⟨_, item, _, hot, _⟩ := shown.mp told
    rw [← pointer] at away
    cases (current.hot.trans (underPointer_cold away)).symm.trans hot
  · intro told
    have active := attended.shown.mpr told
    obtain ⟨text, bubble, caption, last, measured⟩ := (captioned (shown.mp told).1).shown active
    obtain ⟨item, hot, found, size⟩ := caption_found heard caption
    refine ⟨item, text, hot, found, last, ?_⟩
    intro t own
    have holds := attended.holds
    rw [own] at holds
    obtain ⟨p, there, position⟩ := telling.placed active t own
    refine ⟨?_, (measured t own).trans size, p, pointer.symm.trans there, position⟩
    rw [holds.text, last]
    rfl

end Chart

namespace Demo

def overColumn : List (Operation rational.watched) :=
  [.insertDataSet 0 (.stored #[12, 19]), .resize (Size.mk (α := Rat) 480 320),
    .pointerMove (Point.mk (α := Rat) 120 250)]

def pointed : Chart rational.watched :=
  (Chart.withConfig () columns .standard).run overColumn

theorem overColumn_stateless : ∀ op ∈ overColumn, op.LendsStateless := by
  simp only [overColumn, List.forall_mem_cons]
  exact ⟨trivial, trivial, trivial, List.forall_mem_nil _⟩

theorem pointed_hot : pointed.hot = some ⟨0, some 0⟩ := by
  decide +kernel

theorem pointed_own : ∃ t, pointed.tooltip = .tracking t := by
  have own : pointed.tooltip.source = some .tracking := by decide +kernel
  cases tooltip : pointed.tooltip with
  | tracking t => exact ⟨t, rfl⟩
  | empty | external => rw [tooltip] at own; cases own

theorem pointed_text : pointed.view.1.tooltipText pointed.style.kind ⟨0, some 0⟩ = some "12" := by
  decide +kernel

theorem pointed_tooltip :
    (∀ op ∈ overColumn, op.LendsStateless) ∧
      ∃ t : TrackingTooltip Rat, pointed.tooltip = .tracking t ∧ t.active = true ∧ t.text = "12" ∧
        t.bubble = ⟨112 / 5, 20⟩ ∧ t.position = ⟨544 / 5, 225⟩ := by
  obtain ⟨t, own⟩ := pointed_own
  obtain ⟨calls, _, shown, active, _, content⟩ :=
    Chart.run_tooltip (H := rational) () columns .standard overColumn overColumn_stateless
  have there : pointed.tooltip ≠ .empty := by
    rw [own]
    nofun
  have told := shown.mpr ⟨there, _, 0, pointed_hot, rfl⟩
  obtain ⟨item, text, hot, found, _, tracking⟩ := content told
  obtain ⟨said, bubble, p, pointer, position⟩ := tracking t own
  obtain rfl : ⟨0, some 0⟩ = item := Option.some.inj (pointed_hot.symm.trans hot)
  obtain rfl : "12" = text := Option.some.inj (pointed_text.symm.trans found)
  obtain rfl : Point.mk 120 250 = p := Option.some.inj pointer
  have room : t.bubble = ⟨112 / 5, 20⟩ :=
    bubble.trans (congr (congrArg Size.mk (by decide +kernel)) (by decide +kernel))
  rw [room] at position
  have above : t.position = ⟨544 / 5, 225⟩ :=
    position.trans (congr (congrArg Point.mk (by decide +kernel)) (by decide +kernel))
  exact ⟨overColumn_stateless, t, own, (active t own).mpr told, said, room, above⟩

end Demo

end Charting
