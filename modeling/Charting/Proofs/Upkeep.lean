import Charting.Chart.Appearance
import Charting.Chart.Paint
import Charting.Chart.Pointer
import Charting.Proofs.Consulting

namespace Charting

namespace Chart

variable {H : Host}

-- A chart whose tooltip was told something, and the objects lent to it perhaps asked for that.
structure TooltipTold (c d : Chart H) : Prop where
  frame : ∃ measurer supplier tooltip tooltipShown, d = { c with measurer, supplier, tooltip, tooltipShown }
  hears : ∀ answers, c.Hears answers → d.Hears answers

theorem TooltipTold.refl (c : Chart H) : c.TooltipTold c :=
  ⟨⟨_, _, _, _, rfl⟩, fun _ heard => heard⟩

theorem Consulted.told {c d : Chart H} (consulted : c.Consulted d) : c.TooltipTold d := by
  obtain ⟨⟨_, _, rfl⟩, hears⟩ := consulted
  exact ⟨⟨_, _, _, _, rfl⟩, hears⟩

theorem TooltipTold.trans {c d e : Chart H} (first : c.TooltipTold d) (second : d.TooltipTold e) :
    c.TooltipTold e := by
  obtain ⟨⟨_, _, _, _, rfl⟩, left⟩ := first
  obtain ⟨⟨_, _, _, _, rfl⟩, right⟩ := second
  exact ⟨⟨_, _, _, _, rfl⟩, fun answers heard => right answers (left answers heard)⟩

theorem told_of_slot (c : Chart H) (tooltip : TooltipSlot H.Length H.Tooltip) (tooltipShown : Bool) :
    c.TooltipTold { c with tooltip, tooltipShown } :=
  ⟨⟨_, _, _, _, rfl⟩, fun _ heard => ⟨heard.text, heard.values⟩⟩

theorem moveTooltip_told (p : Point H.Length) (c : Chart H) : c.TooltipTold (c.moveTooltip p) :=
  c.told_of_slot (c.tooltip.follow p) c.tooltipShown

theorem hideTooltip_told (c : Chart H) : c.TooltipTold c.hideTooltip :=
  c.told_of_slot _ false

theorem showTooltip_told (text : String) (bubble : Size H.Length) (c : Chart H) :
    c.TooltipTold (c.showTooltip text bubble) := by
  unfold showTooltip
  dsimp only
  split
  · exact (c.told_of_slot _ true).trans (moveTooltip_told _ _)
  · exact c.told_of_slot _ true

theorem updateTooltip_told (c : Chart H) : c.TooltipTold c.updateTooltip := by
  unfold updateTooltip
  split
  · exact .refl c
  · cases c.hot with
    | none => exact c.hideTooltip_told
    | some hot =>
      have consulted := (tooltipContent_consulted hot c).told
      dsimp only
      split
      · split
        · exact consulted.trans (hideTooltip_told _)
        · exact consulted.trans (showTooltip_told _ _ _)
      · exact consulted.trans (hideTooltip_told _)

theorem setTooltip_told (tooltip : Option H.Tooltip) (c : Chart H) : c.TooltipTold (c.setTooltip tooltip).2 :=
  (c.hideTooltip_told.trans (told_of_slot _ _ _)).trans (updateTooltip_told _)

theorem invalidateRect_eq (rect : Rect H.Length) (c : Chart H) :
    c.invalidateRect rect =
      { c with dirty := if c.redraw then some (c.dirty.elim rect (·.union rect)) else c.dirty } := by
  unfold invalidateRect
  split <;> rfl

theorem invalidateRect_dirty (rect : Rect H.Length) (c : Chart H) (redraw : c.redraw = true) :
    (c.invalidateRect rect).dirty ≠ none := by
  simp [invalidateRect_eq, redraw]

-- A chart that marked, painted or gave back its view, and asked for what it painted. What it shows stays, and so does
-- what it reacts to.
structure ScreenTouched (c d : Chart H) : Prop where
  frame : ∃ measurer supplier service surface dirty deadline,
    d = { c with measurer, supplier, service, surface, dirty, deadline }
  hears : ∀ answers, c.Hears answers → d.Hears answers

theorem ScreenTouched.refl (c : Chart H) : c.ScreenTouched c :=
  ⟨⟨_, _, _, _, _, _, rfl⟩, fun _ heard => heard⟩

theorem ScreenTouched.trans {c d e : Chart H} (first : c.ScreenTouched d) (second : d.ScreenTouched e) :
    c.ScreenTouched e := by
  obtain ⟨⟨_, _, _, _, _, _, rfl⟩, left⟩ := first
  obtain ⟨⟨_, _, _, _, _, _, rfl⟩, right⟩ := second
  exact ⟨⟨_, _, _, _, _, _, rfl⟩, fun answers heard => right answers (left answers heard)⟩

theorem ScreenTouched.model {c d : Chart H} (touched : c.ScreenTouched d) : d.model = c.model := by
  obtain ⟨_, _, _, _, _, _, rfl⟩ := touched.frame
  rfl

theorem Consulted.touched {c d : Chart H} (consulted : c.Consulted d) : c.ScreenTouched d := by
  obtain ⟨⟨_, _, rfl⟩, hears⟩ := consulted
  exact ⟨⟨_, _, _, _, _, _, rfl⟩, hears⟩

theorem touched_of_screen (c : Chart H) (service : H.Service) (surface : Option H.Surface)
    (dirty : Option (Rect H.Length)) (deadline : Option Nat) :
    c.ScreenTouched { c with service, surface, dirty, deadline } :=
  ⟨⟨_, _, _, _, _, _, rfl⟩, fun _ heard => ⟨heard.text, heard.values⟩⟩

theorem invalidateRect_touched (rect : Rect H.Length) (c : Chart H) : c.ScreenTouched (c.invalidateRect rect) := by
  rw [invalidateRect_eq]
  exact c.touched_of_screen _ _ _ _

theorem displayChanged_touched (c : Chart H) : c.ScreenTouched c.displayChanged :=
  (c.touched_of_screen _ none _ none).trans (invalidateRect_touched _ _)

theorem onTimer_touched (now : Nat) (c : Chart H) : c.ScreenTouched (c.onTimer now).2 := by
  unfold onTimer
  split
  · split
    · exact c.touched_of_screen _ none _ none
    · exact .refl c
  · exact .refl c

theorem paintOn_touched (now : Nat) (surface : H.Surface) (c : Chart H) : c.ScreenTouched (c.paintOn now surface) := by
  unfold paintOn
  dsimp only
  split <;> exact c.picture_consulted.touched.trans (touched_of_screen _ _ _ _ _)

theorem paint_touched (now : Nat) (c : Chart H) : c.ScreenTouched (c.paint now) := by
  unfold paint
  split
  · split
    · exact paintOn_touched now _ c
    · split
      · exact (c.touched_of_screen _ _ _ _).trans (paintOn_touched now _ _)
      · exact c.touched_of_screen _ _ _ _
  · exact c.touched_of_screen _ _ none _

def underPointer (c : Chart H) : Option HotItem :=
  if c.enabled then c.pointer.bind (fun p => (c.hitTest p).1) else none

theorem underPointer_cold {c : Chart H} (away : c.enabled = false ∨ c.pointer = none) : c.underPointer = none := by
  unfold underPointer
  rcases away with disabled | left
  · simp [disabled]
  · simp [left]

-- A chart with a hot item that it did not have before perhaps, and the tooltip told about it. If the hot item is
-- indeed another one, the view is dirty, unless it may not be painted: then nothing is marked.
structure TurnedTo (hot : Option HotItem) (c d : Chart H) : Prop where
  frame : ∃ measurer supplier tooltip tooltipShown dirty,
    d = { c with measurer, supplier, tooltip, tooltipShown, dirty, hot }
  hears : ∀ answers, c.Hears answers → d.Hears answers
  clean : c.redraw = true → d.dirty = none → c.dirty = none ∧ hot = c.hot
  quiet : c.redraw = false → d.dirty = c.dirty

theorem TurnedTo.model {hot : Option HotItem} {c d : Chart H} (turned : c.TurnedTo hot d) : d.model = c.model := by
  obtain ⟨_, _, _, _, _, rfl⟩ := turned.frame
  rfl

theorem TooltipTold.turned {c d : Chart H} (told : c.TooltipTold d) : c.TurnedTo c.hot d := by
  obtain ⟨⟨_, _, _, _, rfl⟩, hears⟩ := told
  exact ⟨⟨_, _, _, _, _, rfl⟩, hears, fun _ clean => ⟨clean, rfl⟩, fun _ => rfl⟩

theorem TurnedTo.told {hot : Option HotItem} {c d e : Chart H} (turned : c.TurnedTo hot d) (told : d.TooltipTold e) :
    c.TurnedTo hot e := by
  obtain ⟨⟨_, _, _, _, _, rfl⟩, left, clean, quiet⟩ := turned
  obtain ⟨⟨_, _, _, _, rfl⟩, right⟩ := told
  exact ⟨⟨_, _, _, _, _, rfl⟩, fun answers heard => right answers (left answers heard), clean, quiet⟩

-- Asking, taking over another hot item, telling the tooltip and marking the view: the order of every update.
theorem updated_turned {c d : Chart H} (consulted : c.Consulted d) (hot : Option HotItem) (rect : Rect H.Length) :
    c.TurnedTo hot ({ d with hot }.updateTooltip.invalidateRect rect) ∧
      (c.redraw = true → ({ d with hot }.updateTooltip.invalidateRect rect).dirty ≠ none) := by
  obtain ⟨⟨measurer, supplier, rfl⟩, asked⟩ := consulted
  have told := updateTooltip_told { c with measurer, supplier, hot }
  obtain ⟨frame, heard⟩ := told
  have dirty := invalidateRect_dirty rect ({ c with measurer, supplier, hot } : Chart H).updateTooltip
  rw [invalidateRect_eq] at dirty ⊢
  obtain ⟨_, _, _, _, frame⟩ := frame
  have hears : ∀ answers, c.Hears answers →
      ({ c with measurer, supplier, hot } : Chart H).updateTooltip.Hears answers :=
    fun answers before => heard answers ⟨(asked answers before).text, (asked answers before).values⟩
  rw [frame] at hears dirty ⊢
  refine ⟨⟨⟨_, _, _, _, _, rfl⟩, ?_, ?_, ?_⟩, dirty⟩
  · intro answers before
    exact ⟨(hears answers before).text, (hears answers before).values⟩
  · intro redraw clean
    exact absurd clean (dirty redraw)
  · intro forbidden
    simp only [forbidden, Bool.false_eq_true, ↓reduceIte]

theorem invalidateRect_turned (rect : Rect H.Length) (c : Chart H) : c.TurnedTo c.hot (c.invalidateRect rect) := by
  have dirty := invalidateRect_dirty rect c
  rw [invalidateRect_eq] at dirty ⊢
  refine ⟨⟨_, _, _, _, _, rfl⟩, fun _ heard => ⟨heard.text, heard.values⟩, ?_, ?_⟩
  · intro redraw clean
    exact absurd clean (dirty redraw)
  · intro forbidden
    simp only [forbidden, Bool.false_eq_true, ↓reduceIte]

theorem findHot_eq (c : Chart H) :
    ∃ d, c.Consulted d ∧ c.findHot = { d with hot := c.underPointer }.updateTooltip := by
  cases pointer : c.pointer with
  | none =>
    refine ⟨c, .refl c, ?_⟩
    simp [findHot, underPointer, pointer]
  | some p =>
    by_cases enabled : c.enabled = true
    · refine ⟨(c.hitTest p).2, hitTest_consulted p c, ?_⟩
      simp [findHot, underPointer, pointer, enabled]
    · refine ⟨c, .refl c, ?_⟩
      simp [findHot, underPointer, pointer, enabled]

theorem changed_turned (c : Chart H) :
    c.TurnedTo c.underPointer c.changed ∧ (c.redraw = true → c.changed.dirty ≠ none) := by
  obtain ⟨d, consulted, found⟩ := c.findHot_eq
  have updated := updated_turned consulted c.underPointer c.findHot.viewRect
  rw [← found] at updated
  exact updated

theorem noticed_turned {c d : Chart H} (consulted : c.Consulted d) (hot : Option HotItem) :
    c.TurnedTo hot (if hot = d.hot then d else { d with hot }.updateTooltip.invalidate) := by
  split
  · rename_i same
    have turned := consulted.told.turned
    obtain ⟨⟨_, _, rfl⟩, _⟩ := consulted
    rw [same]
    exact turned
  · exact (updated_turned consulted hot _).1

theorem pointerMove_turned (p : Point H.Length) (c : Chart H) :
    { c with pointer := some p }.TurnedTo (if c.enabled then (c.hitTest p).1 else c.hot) (c.pointerMove p) := by
  have followed : ∀ d : Chart H, d.TooltipTold (if d.tooltipShown then d.moveTooltip p else d) := by
    intro d
    split
    · exact moveTooltip_told p d
    · exact .refl d
  unfold pointerMove
  dsimp only
  split
  · have consulted := hitTest_consulted p { c with pointer := some p }
    have turned := (noticed_turned consulted (c.hitTest p).1).told (followed _)
    exact turned
  · exact (TooltipTold.refl { c with pointer := some p }).turned

theorem pointerLeave_turned (c : Chart H) :
    { c with pointer := none }.TurnedTo (if c.enabled then none else c.hot) c.pointerLeave := by
  have stays := (TooltipTold.refl { c with pointer := none }).turned
  unfold pointerLeave
  dsimp only
  by_cases lit : (c.enabled && c.hot.isSome) = true
  · have enabled : c.enabled = true := by simp_all
    rw [if_pos lit, if_pos enabled]
    exact (updated_turned (.refl { c with pointer := none }) none _).1
  · have same : (if c.enabled then none else c.hot) = c.hot := by
      cases hot : c.hot <;> simp_all
    rw [if_neg lit, same]
    exact stays

end Chart

end Charting
