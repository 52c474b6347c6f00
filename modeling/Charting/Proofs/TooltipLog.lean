import Charting.Chart

namespace Charting

inductive TooltipCall (α : Type) where
  | setText (text : String)
  | activate (active : Bool)
  | moveTo (position : Point α)

namespace TooltipCall

variable {α T : Type} [Bubble α T]

def tell (t : T) : TooltipCall α → T
  | .setText text => Bubble.setText α text t
  | .activate active => Bubble.activate α active t
  | .moveTo position => Bubble.moveTo position t

def told (calls : List (TooltipCall α)) (t : T) : T :=
  calls.foldl tell t

theorem told_concat (calls : List (TooltipCall α)) (call : TooltipCall α) (t : T) :
    told (calls ++ [call]) t = tell (told calls t) call := by
  simp [told]

def text? : TooltipCall α → Option String
  | .setText text => some text
  | _ => none

def active? : TooltipCall α → Option Bool
  | .activate active => some active
  | _ => none

def lastText (calls : List (TooltipCall α)) : Option String :=
  (calls.filterMap text?).getLast?

def activations (calls : List (TooltipCall α)) : List Bool :=
  calls.filterMap active?

def lastActivation (calls : List (TooltipCall α)) : Option Bool :=
  (activations calls).getLast?

theorem lastText_concat (calls : List (TooltipCall α)) (call : TooltipCall α) :
    lastText (calls ++ [call]) = call.text?.or (lastText calls) := by
  unfold lastText
  cases text : call.text? <;> simp [text]

theorem activations_concat (calls : List (TooltipCall α)) (call : TooltipCall α) :
    activations (calls ++ [call]) = activations calls ++ call.active?.toList := by
  unfold activations
  cases active : call.active? <;> simp [active]

theorem lastActivation_concat (calls : List (TooltipCall α)) (call : TooltipCall α) :
    lastActivation (calls ++ [call]) = call.active?.or (lastActivation calls) := by
  unfold lastActivation
  rw [activations_concat]
  cases call.active? <;> simp

theorem told_active (calls : List (TooltipCall α)) (t : TrackingTooltip α) :
    (told calls t).active = (lastActivation calls).getD t.active := by
  induction calls generalizing t with
  | nil => rfl
  | cons call rest ih =>
    have last : lastActivation (call :: rest) = (lastActivation rest).or call.active? := by
      unfold lastActivation activations
      cases active : call.active? <;> simp [active, List.getLast?_cons]
    change (told rest (tell t call)).active = _
    rw [ih, last]
    cases lastActivation rest <;> cases call <;> rfl

theorem told_text (calls : List (TooltipCall α)) (t : TrackingTooltip α) :
    (told calls t).text = (lastText calls).getD t.text := by
  induction calls generalizing t with
  | nil => rfl
  | cons call rest ih =>
    have last : lastText (call :: rest) = (lastText rest).or call.text? := by
      unfold lastText
      cases text : call.text? <;> simp [text, List.getLast?_cons]
    change (told rest (tell t call)).text = _
    rw [ih, last]
    cases lastText rest <;> cases call <;> rfl

end TooltipCall

-- A tooltip with a record of what it was told. The calls go on to the tooltip, whatever it is.
structure Watched (α T : Type) where
  inner : T
  calls : List (TooltipCall α) := []

namespace Watched

variable {α T : Type} [Bubble α T]

def note (call : TooltipCall α) (t : Watched α T) : Watched α T where
  inner := call.tell t.inner
  calls := t.calls ++ [call]

instance : Bubble α (Watched α T) where
  setText text := note (.setText text)
  activate active := note (.activate active)
  moveTo position := note (.moveTo position)
  size t := Bubble.size t.inner

def after (calls : List (TooltipCall α)) (t : Watched α T) : Watched α T where
  inner := TooltipCall.told calls t.inner
  calls := t.calls ++ calls

theorem told_eq (calls : List (TooltipCall α)) (t : Watched α T) : TooltipCall.told calls t = t.after calls := by
  induction calls generalizing t with
  | nil => simp [TooltipCall.told, after]
  | cons call rest ih =>
    have first : TooltipCall.tell t call = t.note call := by cases call <;> rfl
    change TooltipCall.told rest (TooltipCall.tell t call) = _
    rw [first, ih]
    simp [after, note, TooltipCall.told]

end Watched

def Host.watched (H : Host) : Host :=
  { H with Tooltip := Watched H.Length H.Tooltip, bubble := inferInstance }

namespace TooltipCall

variable {α : Type} {calls : List (TooltipCall α)}

-- How a chart behaves towards a tooltip.
structure Polite (calls : List (TooltipCall α)) : Prop where
  -- It is shown and hidden by turns, and shown first.
  inTurn : ∀ i active, (activations calls)[i]? = some active → active = decide (i % 2 = 0)
  movedShown : ∀ before position after, calls = before ++ .moveTo position :: after → lastActivation before = some true
  -- It is shown only right after it was given a text.
  announced : ∀ before after, calls = before ++ .activate true :: after →
    ∃ earlier text, before = earlier ++ [.setText text]

theorem polite_nil : Polite ([] : List (TooltipCall α)) where
  inTurn _ _ found := nomatch found
  movedShown _ _ _ split := by simp at split
  announced _ _ split := by simp at split

theorem concat_split {call other : TooltipCall α} {before after : List (TooltipCall α)}
    (split : calls ++ [call] = before ++ other :: after) :
    (calls = before ∧ call = other) ∨ ∃ rest, calls = before ++ other :: rest := by
  rcases List.eq_nil_or_concat after with rfl | ⟨rest, last, rfl⟩
  · obtain ⟨same, last⟩ := List.append_inj' split rfl
    exact .inl ⟨same, List.singleton_inj.mp last⟩
  · have longer : calls ++ [call] = (before ++ other :: rest) ++ [last] := by simpa using split
    exact .inr ⟨rest, (List.append_inj' longer rfl).1⟩

theorem Polite.shown_iff (polite : Polite calls) :
    lastActivation calls = some true ↔ (activations calls).length % 2 = 1 := by
  unfold lastActivation
  rw [List.getLast?_eq_getElem?]
  cases last : (activations calls)[(activations calls).length - 1]? with
  | none =>
    have short := List.getElem?_eq_none_iff.mp last
    simp only [reduceCtorEq, false_iff]
    omega
  | some active =>
    have bound := (List.getElem?_eq_some_iff.mp last).1
    rw [polite.inTurn _ _ last, Option.some_inj, decide_eq_true_iff]
    omega

theorem Polite.concat (polite : Polite calls) (call : TooltipCall α)
    (turn : ∀ active, call.active? = some active → (active = false ↔ lastActivation calls = some true))
    (moved : ∀ position, call = .moveTo position → lastActivation calls = some true)
    (announced : call = .activate true → ∃ earlier text, calls = earlier ++ [.setText text]) :
    Polite (calls ++ [call]) where
  inTurn i active found := by
    rw [activations_concat] at found
    rcases Nat.lt_or_ge i (activations calls).length with inside | outside
    · rw [List.getElem?_append_left inside] at found
      exact polite.inTurn i active found
    · rw [List.getElem?_append_right outside] at found
      cases last : call.active? with
      | none => simp [last] at found
      | some told =>
        rw [last, Option.toList_some, List.getElem?_singleton] at found
        split at found
        · rename_i place
          have same : told = active := Option.some.inj found
          subst same
          have shown := (turn told last).trans polite.shown_iff
          have here : i = (activations calls).length := Nat.le_antisymm (Nat.sub_eq_zero_iff_le.mp place) outside
          cases told with
          | false =>
            have odd := shown.mp rfl
            exact (decide_eq_false (by omega)).symm
          | true =>
            have even := mt shown.mpr (nofun : ¬true = false)
            exact (decide_eq_true (by omega)).symm
        · cases found
  movedShown before position after split := by
    rcases concat_split split with ⟨rfl, last⟩ | ⟨rest, old⟩
    · exact moved position last
    · exact polite.movedShown before position rest old
  announced before after split := by
    rcases concat_split split with ⟨rfl, last⟩ | ⟨rest, old⟩
    · exact announced last
    · exact polite.announced before rest old

theorem Polite.setText (polite : Polite calls) (text : String) : Polite (calls ++ [.setText text]) :=
  polite.concat _ nofun nofun nofun

theorem Polite.move (polite : Polite calls) (shown : lastActivation calls = some true) (position : Point α) :
    Polite (calls ++ [.moveTo position]) :=
  polite.concat _ nofun (fun _ _ => shown) nofun

theorem Polite.hide (polite : Polite calls) (shown : lastActivation calls = some true) :
    Polite (calls ++ [.activate false]) :=
  polite.concat _ (fun _ told => by cases told; simp [shown]) nofun nofun

theorem Polite.announce (polite : Polite calls) (hidden : lastActivation calls ≠ some true) (text : String) :
    Polite (calls ++ [.setText text] ++ [.activate true]) := by
  refine (polite.setText text).concat _ ?_ nofun fun _ => ⟨calls, text, rfl⟩
  intro active told
  cases told
  simpa [lastActivation_concat, text?, active?] using hidden

end TooltipCall

end Charting
