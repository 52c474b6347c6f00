import Charting.Proofs.Consulting

namespace Charting

namespace Numeral

theorem ofNat_ne_nil (n : Nat) : ofNat n ≠ [] := by
  unfold ofNat
  split <;> simp

theorem ofInt_ne_nil (n : Int) : ofInt n ≠ [] := by
  unfold ofInt
  split
  · exact List.cons_ne_nil _ _
  · exact ofNat_ne_nil n.natAbs

end Numeral

theorem Axis.digits_ne_nil (axis : Axis) (separator : Char) (value : Int) : axis.digits separator value ≠ [] := by
  unfold digits
  split
  · simp [Numeral.ofInt_ne_nil]
  · simp

theorem Axis.format_ne_empty (axis : Axis) (separator : Char) (raw : Int) : axis.format separator raw ≠ "" := by
  intro empty
  have digits := congrArg String.toList empty
  rw [format, String.toList_ofList] at digits
  exact axis.digits_ne_nil separator _ digits

namespace View

variable {α : Type}

theorem tooltipText_ne_empty {v : View α} {kind : Kind} {hot : HotItem} {text : String}
    (found : v.tooltipText kind hot = some text) : text ≠ "" := by
  obtain ⟨i, _, rfl⟩ := Option.map_eq_some_iff.mp found
  cases kind with
  | scatter => simp [Scatter.tooltipText, View.format, Axis.format_ne_empty]
  | pie | line | area | column | bar => exact Axis.format_ne_empty _ _ _

end View

namespace Chart

variable {H : Host}

def caption (c : Chart H) : Option (String × Size H.Length) :=
  c.hot.bind fun hot => (c.tooltipContent hot).1

theorem tooltipContent_eq (hot : HotItem) (c : Chart H) :
    (c.tooltipContent hot).1 = (c.view.1.tooltipText c.style.kind hot).map fun text =>
      (text, bubbleSize (TextMeasurer.measure text c.config.textStyle c.view.2.measurer).1) := by
  have kept : c.view.2.style = c.style := rfl
  unfold tooltipContent
  dsimp only
  rw [kept]
  split
  · rename_i silent
    rw [silent]
    rfl
  · rename_i text spoken
    rw [spoken]
    rfl

variable {answers : Answers H} {c d : Chart H}

theorem caption_determined (left : c.Hears answers) (right : d.Hears answers) (same : c.model = d.model)
    (hot : c.hot = d.hot) : c.caption = d.caption := by
  have view : c.view.1 = d.view.1 := by rw [view_determined left right same, hot]; rfl
  have style : c.style = d.style := congrArg Model.style same
  have config : c.config = d.config := congrArg Model.config same
  have measured := fun text => (TextMeasurer.measure_determined text d.config.textStyle).result
    (c.view_consulted.hears _ left).text (d.view_consulted.hears _ right).text
  unfold caption
  simp only [tooltipContent_eq, hot, view, style, config, measured]

theorem caption_ne_empty {text : String} {bubble : Size H.Length} (caption : c.caption = some (text, bubble)) :
    text ≠ "" := by
  obtain ⟨hot, _, content⟩ := Option.bind_eq_some_iff.mp caption
  rw [tooltipContent_eq] at content
  obtain ⟨spoken, found, same⟩ := Option.map_eq_some_iff.mp content
  cases same
  exact View.tooltipText_ne_empty found

theorem caption_isSome (c : Chart H) : c.caption.isSome = true ↔ ∃ item i, c.hot = some item ∧ item.index = some i := by
  unfold caption
  cases c.hot with
  | none => simp
  | some hot => cases index : hot.index <;> simp [tooltipContent_eq, View.tooltipText, index]

theorem updateTooltip_cases (c : Chart H) :
    (c.tooltip = .empty ∧ c.updateTooltip = c) ∨
      ∃ d, c.Consulted d ∧ c.tooltip ≠ .empty ∧
        ((c.caption = none ∧ c.updateTooltip = d.hideTooltip) ∨
          ∃ text bubble, c.caption = some (text, bubble) ∧ c.updateTooltip = d.showTooltip text bubble) := by
  unfold updateTooltip
  split
  · rename_i empty
    exact .inl ⟨empty, rfl⟩
  · rename_i there
    right
    cases hot : c.hot with
    | none => exact ⟨c, .refl c, there, .inl ⟨by simp [caption, hot], rfl⟩⟩
    | some item =>
      have same : c.caption = (c.tooltipContent item).1 := by simp [caption, hot]
      refine ⟨(c.tooltipContent item).2, tooltipContent_consulted item c, there, ?_⟩
      dsimp only
      cases content : c.caption with
      | none => exact .inl ⟨rfl, by rw [← same, content]⟩
      | some spoken =>
        have filled : spoken.1.isEmpty = false := by simp [caption_ne_empty content]
        exact .inr ⟨spoken.1, spoken.2, rfl, by rw [← same, content]; simp [filled]⟩

end Chart

end Charting
