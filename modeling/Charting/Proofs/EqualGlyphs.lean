import Charting.Proofs.Snapping
import Charting.Proofs.Stateless
import Mathlib.Data.Rat.Floor
import Mathlib.Tactic.Linarith
import Mathlib.Tactic.NormNum

namespace Charting

namespace TextMeasurer

def beginning (text : String) (count : Nat) : String :=
  String.ofList (text.toList.take count)

theorem beginning_length {text : String} {count : Nat} (within : count ≤ text.length) :
    (beginning text count).length = count := by
  rw [beginning, String.length_ofList, List.length_take]
  exact min_eq_left within

theorem beginning_push {text : String} {count : Nat} {c : Char} {rest : List Char}
    (left : text.toList.drop count = c :: rest) : (beginning text count).push c = beginning text (count + 1) := by
  apply String.toList_injective
  have next : text.toList[count]? = some c := by rw [← List.head?_drop, left]; rfl
  rw [String.toList_push, beginning, beginning, String.toList_ofList, String.toList_ofList, List.take_add_one, next]
  rfl

variable {α : Type} [Scalar α] {answers : (q : TextQuestion α) → q.Answer} {style : TextStyle α} {x : α}

def reach (answers : (q : TextQuestion α) → q.Answer) (style : TextStyle α) (text : String) : Nat → α
  | 0 => 0
  | count + 1 => TextMetrics.advance (answers (.measure (beginning text (count + 1)) style))

def Over (ends : Nat → α) (x : α) (place : Nat) : Prop :=
  ends place ≤ x ∧ x < ends (place + 1)

-- What is under an offset from a place on: the first character that it lies on, or none of them.
inductive FirstOver (ends : Nat → α) (x : α) (count : Nat) : Nat → TextHit → Prop
  | here {place : Nat} : place < count → Over ends x place → FirstOver ends x count place ⟨place, true⟩
  | later {place : Nat} {found : TextHit} : place < count → ¬Over ends x place →
      FirstOver ends x count (place + 1) found → FirstOver ends x count place found
  | past : FirstOver ends x count count ⟨count, false⟩

variable {M : Type} [TextMeasurer α M] {m : M}

theorem prefixHitFrom_cons (seen : String) (index : Nat) (width : α) (c : Char) (rest : List Char) (m : M) :
    (prefixHitFrom measure style x seen index width (c :: rest) m).1 =
      if width ≤ x ∧ x < (measure (seen.push c) style m).1.advance then ⟨index, true⟩
      else (prefixHitFrom measure style x (seen.push c) (index + 1) (measure (seen.push c) style m).1.advance rest
        (measure (seen.push c) style m).2).1 := by
  let asked := measure (seen.push c) style m
  change ((if width ≤ x ∧ x < asked.1.advance then pure ⟨index, true⟩
    else prefixHitFrom measure style x (seen.push c) (index + 1) asked.1.advance rest : StateM M TextHit) asked.2).1 = _
  split
  · rfl
  · rfl

-- The characters that are left are searched as the text is from their place on: the induction is on them, and the
-- measurer answers by the same table after each question.
theorem prefixHitFrom_first {text : String} {place : Nat} {rest : List Char} (follows : Follows (ask α M) answers m)
    (within : place ≤ text.length) (left : text.toList.drop place = rest) :
    FirstOver (reach answers style text) x text.length place
      (prefixHitFrom measure style x (beginning text place) place (reach answers style text place) rest m).1 := by
  induction rest generalizing place m with
  | nil =>
    have done : place = text.length := le_antisymm within (List.drop_eq_nil_iff.mp left)
    subst done
    exact .past
  | cons c rest ih =>
    have more : place < text.length := by
      by_contra done
      rw [List.drop_eq_nil_of_le (Nat.not_lt.mp done)] at left
      cases left
    have remaining : text.toList.drop (place + 1) = rest := by
      rw [← List.tail_drop, left]
      rfl
    have measured : (measure (beginning text (place + 1)) style m).1.advance = reach answers style text (place + 1) :=
      congrArg TextMetrics.advance (follows.answer (.measure (beginning text (place + 1)) style))
    rw [prefixHitFrom_cons, beginning_push left, measured]
    split
    · next on => exact .here more on
    · next off => exact .later more off (ih (follows.after (.measure _ style)) more remaining)

theorem prefixHit_first (follows : Follows (ask α M) answers m) (text : String) :
    FirstOver (reach answers style text) x text.length 0 (prefixHit measure text style x m).1 :=
  prefixHitFrom_first follows (Nat.zero_le _) rfl

end TextMeasurer

namespace Heuristic

open TextMeasurer

variable {style : TextStyle Rat} {x : Rat}

theorem glyphWidth_exact (style : TextStyle Rat) : glyphWidth style = 3 / 5 * style.size := by
  change ((6 : Int) : Rat) / ((10 : Int) : Rat) * style.size = _
  norm_num

theorem reach_exact {text : String} {count : Nat} (within : count ≤ text.length) :
    reach answers style text count = glyphWidth style * count := by
  cases count with
  | zero =>
    rw [Nat.cast_zero, mul_zero]
    rfl
  | succ count =>
    change glyphWidth style * ((beginning text (count + 1)).length : Int) = _
    rw [beginning_length within, Int.cast_natCast]

-- What is under an offset where the characters are equally wide: the one at a place, if there are so many.
def hitAt (text : String) (place : Nat) : TextHit :=
  if place < text.length then ⟨place, true⟩ else ⟨text.length, false⟩

theorem hit_exact (text : String) (wide : 0 < glyphWidth style) (right : 0 ≤ x) :
    hit text style x = hitAt text ⌊x / glyphWidth style⌋₊ := by
  have place : Scalar.toNat (Scalar.floor (x / glyphWidth style)) = ⌊x / glyphWidth style⌋₊ := by
    change (Exact.truncate ((x / glyphWidth style).floor : Int)).toNat = _
    rw [Exact.truncate_intCast]
    rfl
  have searched : ¬(x < 0 ∨ glyphWidth style ≤ 0) := by
    rintro (before | narrow)
    · exact not_lt.mpr right before
    · exact not_lt.mpr narrow wide
  change (if x < 0 ∨ glyphWidth style ≤ 0 then _ else _) = _
  rw [if_neg searched]
  rw [place, hitAt]
  split
  · next inside => simp [min_eq_left inside.le, inside]
  · next outside => simp [min_eq_right (not_lt.mp outside)]

-- A search over equally wide characters stops at the place that the division gives: it goes on as long as the
-- characters before end left of the offset.
theorem hitAt_of_firstOver {text : String} {place : Nat} {found : TextHit} (wide : 0 < glyphWidth style)
    (right : 0 ≤ x) (first : FirstOver (reach answers style text) x text.length place found)
    (before : glyphWidth style * place ≤ x) :
    found = hitAt text ⌊x / glyphWidth style⌋₊ := by
  induction first with
  | @here place more on =>
    have after : x < glyphWidth style * (place + 1 : Nat) := by
      rw [← reach_exact more]
      exact on.2
    have under : ⌊x / glyphWidth style⌋₊ = place := by
      rw [Nat.floor_eq_iff (div_nonneg right wide.le), le_div_iff₀' wide, div_lt_iff₀' wide, ← Nat.cast_succ]
      exact ⟨before, after⟩
    rw [under, hitAt, if_pos more]
  | @later place found more off _ ih =>
    apply ih
    by_contra after
    apply off
    rw [Over, reach_exact more.le, reach_exact (Nat.succ_le_of_lt more)]
    exact ⟨before, not_le.mp after⟩
  | past =>
    have outside : text.length ≤ ⌊x / glyphWidth style⌋₊ := by
      apply Nat.le_floor
      rwa [le_div_iff₀' wide]
    rw [hitAt, if_neg (not_lt.mpr outside)]

theorem prefixHit_exact {M : Type} [TextMeasurer Rat M] {m : M} (follows : Follows (ask Rat M) answers m)
    (text : String) (wide : 0 < glyphWidth style) (right : 0 ≤ x) :
    (prefixHit measure text style x m).1 = hitAt text ⌊x / glyphWidth style⌋₊ := by
  apply hitAt_of_firstOver wide right (prefixHit_first follows text)
  rwa [Nat.cast_zero, mul_zero]

theorem hits_agree (text : String) {style : TextStyle Rat} (sized : 0 < style.size) {x : Rat} (right : 0 ≤ x)
    (m : Heuristic) :
    (TextMeasurer.hit text style x m).1 = (prefixHit measure text style x m).1 ∧
      (TextMeasurer.hit text style x m).1 =
        if ⌊x / (3 / 5 * style.size)⌋₊ < text.length then ⟨⌊x / (3 / 5 * style.size)⌋₊, true⟩
        else ⟨text.length, false⟩ := by
  have wide : 0 < glyphWidth style := by
    rw [glyphWidth_exact]
    linarith
  have divided := hit_exact text wide right
  have searched := prefixHit_exact m.follows text wide right
  refine ⟨divided.trans searched.symm, ?_⟩
  rw [← glyphWidth_exact]
  exact divided

end Heuristic

namespace Demo

open TextMeasurer

def smallPrint : TextStyle Rat :=
  { size := 10 }

theorem hits_agree_boundary :
    0 < smallPrint.size ∧ (0 : Rat) ≤ 12 ∧
      (TextMeasurer.hit "aé€" smallPrint (12 : Rat) ({} : Heuristic)).1 = ⟨2, true⟩ ∧
      (prefixHit measure "aé€" smallPrint (12 : Rat) ({} : Heuristic)).1 = ⟨2, true⟩ := by
  have sized : 0 < smallPrint.size := by decide
  have place : ⌊(12 : Rat) / (3 / 5 * smallPrint.size)⌋₊ = 2 := by
    change ⌊(12 : Rat) / (3 / 5 * (10 : Int))⌋₊ = 2
    norm_num
  obtain ⟨same, placed⟩ := Heuristic.hits_agree "aé€" sized (x := 12) (by decide) {}
  rw [place] at placed
  exact ⟨sized, by decide, placed, same.symm.trans placed⟩

end Demo

end Charting
