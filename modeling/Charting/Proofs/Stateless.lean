import Charting.Proofs.Buffers
import Charting.Text.Heuristic
import Charting.Text.MeasureCache

namespace Charting

section Asking

variable {Q S : Type} {A : Q → Type}

-- An object in the state `s` answers as a table says, now and after any further questions. It may well change with each
-- of them, as a cache does, but nobody can tell. The set holds the states that it can get into.
def Follows (ask : (q : Q) → StateM S (A q)) (answers : (q : Q) → A q) (s : S) : Prop :=
  ∃ states : S → Prop, states s ∧ ∀ t, states t → ∀ q, (ask q t).1 = answers q ∧ states (ask q t).2

def Stateless (ask : (q : Q) → StateM S (A q)) (s : S) : Prop :=
  ∃ answers, Follows ask answers s

variable {ask : (q : Q) → StateM S (A q)} {answers : (q : Q) → A q} {s : S} {β γ : Type}

theorem Follows.answer (follows : Follows ask answers s) (q : Q) : (ask q s).1 = answers q := by
  obtain ⟨states, present, closed⟩ := follows
  exact (closed s present q).1

theorem Follows.after (follows : Follows ask answers s) (q : Q) : Follows ask answers (ask q s).2 := by
  obtain ⟨states, present, closed⟩ := follows
  exact ⟨states, (closed s present q).2, closed⟩

theorem Follows.unchanged (same : ∀ q, (ask q s).2 = s) : Follows ask (fun q => (ask q s).1) s := by
  refine ⟨(· = s), rfl, ?_⟩
  intro t equal q
  subst t
  exact ⟨rfl, same q⟩

-- A computation that learns nothing of an object but its answers: objects that follow one table are alike to it,
-- and they still follow the table afterwards.
def Determined (ask : (q : Q) → StateM S (A q)) (x : StateM S β) : Prop :=
  ∀ answers s t, Follows ask answers s → Follows ask answers t →
    (x s).1 = (x t).1 ∧ Follows ask answers (x s).2

theorem Determined.result {x : StateM S β} {t : S} (determined : Determined ask x)
    (left : Follows ask answers s) (right : Follows ask answers t) : (x s).1 = (x t).1 :=
  (determined answers s t left right).1

theorem Determined.after {x : StateM S β} (determined : Determined ask x) (follows : Follows ask answers s) :
    Follows ask answers (x s).2 :=
  (determined answers s s follows follows).2

theorem Determined.pure (b : β) : Determined ask (Pure.pure b) :=
  fun _ _ _ follows _ => ⟨rfl, follows⟩

theorem Determined.bind {x : StateM S β} {f : β → StateM S γ} (first : Determined ask x)
    (rest : ∀ b, Determined ask (f b)) : Determined ask (x >>= f) := by
  intro answers s t left right
  have same := first.result left right
  have next := rest (x s).1 answers (x s).2 (x t).2 (first.after left) (first.after right)
  change (f (x s).1 (x s).2).1 = (f (x t).1 (x t).2).1 ∧ Follows ask answers (f (x s).1 (x s).2).2
  rw [← same]
  exact next

theorem Determined.map {x : StateM S β} (first : Determined ask x) (f : β → γ) :
    Determined ask (do return f (← x)) :=
  first.bind fun b => .pure (f b)

theorem Determined.asking (ask : (q : Q) → StateM S (A q)) (q : Q) : Determined ask (ask q) :=
  fun _ _ _ left right => ⟨(left.answer q).trans (right.answer q).symm, left.after q⟩

theorem Determined.mapM {f : γ → StateM S β} (each : ∀ c, Determined ask (f c)) (cs : List γ) :
    Determined ask (cs.mapM f) := by
  induction cs with
  | nil => rw [List.mapM_nil]; exact .pure []
  | cons c rest ih =>
    rw [List.mapM_cons]
    exact (each c).bind fun b => ih.bind fun bs => .pure (b :: bs)

end Asking

inductive TextQuestion (α : Type) where
  | measure (text : String) (style : TextStyle α)
  | hit (text : String) (style : TextStyle α) (x : α)

def TextQuestion.Answer {α : Type} : TextQuestion α → Type
  | .measure _ _ => TextMetrics α
  | .hit _ _ _ => TextHit

namespace TextMeasurer

def ask (α M : Type) [TextMeasurer α M] : (q : TextQuestion α) → StateM M q.Answer
  | .measure text style => TextMeasurer.measure text style
  | .hit text style x => TextMeasurer.hit text style x

variable {α M : Type} [TextMeasurer α M]

theorem measure_determined (text : String) (style : TextStyle α) :
    Determined (ask α M) (TextMeasurer.measure text style) :=
  .asking (ask α M) (.measure text style)

theorem hit_determined (text : String) (style : TextStyle α) (x : α) :
    Determined (ask α M) (TextMeasurer.hit text style x) :=
  .asking (ask α M) (.hit text style x)

end TextMeasurer

namespace Heuristic

variable {α : Type} [Scalar α]

def answers : (q : TextQuestion α) → q.Answer
  | .measure text style => metrics text style
  | .hit text style x => hit text style x

theorem follows (m : Heuristic) : Follows (TextMeasurer.ask α Heuristic) answers m := by
  refine ⟨fun _ => True, trivial, ?_⟩
  intro m _ q
  cases q <;> exact ⟨rfl, trivial⟩

theorem stateless (m : Heuristic) : Stateless (TextMeasurer.ask α Heuristic) m :=
  ⟨answers, m.follows⟩

end Heuristic

namespace MeasureCache

variable {α M : Type} [TextMeasurer α M] {answers : (q : TextQuestion α) → q.Answer}

structure Agrees (answers : (q : TextQuestion α) → q.Answer) (c : MeasureCache α M) : Prop where
  inner : Follows (TextMeasurer.ask α M) answers c.inner
  remembered : ∀ entry ∈ c.entries, entry.2 = answers (.measure entry.1.text entry.1.style)

theorem agrees_wrap {inner : M} (follows : Follows (TextMeasurer.ask α M) answers inner) (capacity : Nat) :
    (wrap inner capacity : MeasureCache α M).Agrees answers :=
  ⟨follows, by simp [wrap]⟩

theorem Agrees.store {c : MeasureCache α M} (agrees : c.Agrees answers) (key : MeasureKey α) :
    (c.store key (answers (.measure key.text key.style))).Agrees answers := by
  refine ⟨agrees.inner, ?_⟩
  intro entry present
  rcases List.mem_cons.mp present with rfl | old
  · rfl
  · split at old
    · cases old
    · exact agrees.remembered entry old

variable [Scalar α]

theorem Agrees.found {c : MeasureCache α M} (agrees : c.Agrees answers) {key : MeasureKey α}
    {metrics : TextMetrics α} (found : c.find? key = some metrics) :
    metrics = answers (.measure key.text key.style) := by
  obtain ⟨entry, first, rfl⟩ := Option.map_eq_some_iff.mp found
  have same : entry.1 = key := by simpa using List.find?_some first
  rw [agrees.remembered entry (List.mem_of_find?_eq_some first), same]

theorem Agrees.ask {c : MeasureCache α M} (agrees : c.Agrees answers) (q : TextQuestion α) :
    (TextMeasurer.ask α (MeasureCache α M) q c).1 = answers q ∧
      (TextMeasurer.ask α (MeasureCache α M) q c).2.Agrees answers := by
  cases q with
  | measure text style =>
    have asked := agrees.inner.answer (.measure text style)
    have after := agrees.inner.after (.measure text style)
    change (MeasureCache.measure text style c).1 = _ ∧ (MeasureCache.measure text style c).2.Agrees answers
    unfold MeasureCache.measure
    split
    · rename_i metrics found
      exact ⟨agrees.found found, agrees⟩
    · rename_i absent
      have inner : Agrees answers { c with inner := (TextMeasurer.measure text style c.inner).2 } :=
        ⟨after, agrees.remembered⟩
      have stored := inner.store ⟨text, style⟩
      refine ⟨asked, ?_⟩
      rw [← asked] at stored
      exact stored
  | hit text style x =>
    exact ⟨agrees.inner.answer (.hit text style x), agrees.inner.after (.hit text style x), agrees.remembered⟩

theorem Agrees.follows {c : MeasureCache α M} (agrees : c.Agrees answers) :
    Follows (TextMeasurer.ask α (MeasureCache α M)) answers c :=
  ⟨Agrees answers, agrees, fun _ agrees q => agrees.ask q⟩

end MeasureCache

structure FetchQuestion where
  size : Nat
  set : Nat
  first : Nat
  last : Nat
  buffer : Vector Int32 size

abbrev FetchQuestion.Answer (q : FetchQuestion) : Type :=
  Vector Int32 q.size × Bool

def Supplier.ask (N : Type) [Supplier N] (q : FetchQuestion) : StateM N q.Answer :=
  Supplier.fetch q.set q.first q.last q.buffer

namespace Values

variable {N : Type} [Supplier N]

abbrev Supplied (answers : Option ((q : FetchQuestion) → q.Answer)) (supplier : Option N) : Prop :=
  Option.Rel (fun table n => Follows (Supplier.ask N) table n) answers supplier

theorem fetchAll_determined {answers : Option ((q : FetchQuestion) → q.Answer)} {s t : Option N}
    (left : Supplied answers s) (right : Supplied answers t) (set count : Nat) :
    (fetchAll s set count).1 = (fetchAll t set count).1 ∧ Supplied answers (fetchAll s set count).2 := by
  cases left with
  | none => cases right; exact ⟨rfl, .none⟩
  | some left =>
    cases right with
    | some right =>
      let q : FetchQuestion := ⟨count, set, 0, count - 1, Vector.replicate count 0⟩
      have same := (left.answer q).trans (right.answer q).symm
      exact ⟨congrArg (fun answer : q.Answer => answer.1.toArray) same, .some (left.after q)⟩

theorem collectFrom_determined {answers : Option ((q : FetchQuestion) → q.Answer)} (room : Bool)
    (data : List DataSet) (set : Nat) {s t : Option N} (left : Supplied answers s) (right : Supplied answers t) :
    (collectFrom room set data s).1 = (collectFrom room set data t).1 ∧
      Supplied answers (collectFrom room set data s).2 := by
  induction data generalizing set s t with
  | nil => exact ⟨rfl, left⟩
  | cons d rest ih =>
    unfold collectFrom
    cases d.values with
    | some values =>
      have tail := ih (set + 1) left right
      exact ⟨congrArg (_ :: ·) tail.1, tail.2⟩
    | none =>
      dsimp only
      split
      · have fetched := fetchAll_determined left right set d.count
        have after := fetchAll_determined right left set d.count
        have tail := ih (set + 1) fetched.2 after.2
        exact ⟨by rw [fetched.1, tail.1], tail.2⟩
      · have tail := ih (set + 1) left right
        exact ⟨congrArg (_ :: ·) tail.1, tail.2⟩

theorem collect_determined {answers : Option ((q : FetchQuestion) → q.Answer)} (data : List DataSet)
    {s t : Option N} (left : Supplied answers s) (right : Supplied answers t) :
    (collect data s).1 = (collect data t).1 ∧ Supplied answers (collect data s).2 := by
  rw [collect_eq, collect_eq]
  exact collectFrom_determined _ data 0 left right

end Values

end Charting
