import Charting.Plot
import Charting.Proofs.PixelGrid
import Mathlib.Data.List.Induction
import Mathlib.Data.List.Sort
import Mathlib.Data.Prod.Lex
import Mathlib.Order.Bounds.Basic

namespace Charting

theorem pairwise_walk {β : Type} (key : β → Nat ×ₗ Nat) {outer : List Nat} {inner : Nat → List Nat}
    (visit : Nat → Nat → β) (keyed : ∀ a b, key (visit a b) = toLex (a, b)) (outerUp : outer.Pairwise (· < ·))
    (innerUp : ∀ a, (inner a).Pairwise (· < ·)) :
    (outer.flatMap fun a => (inner a).map (visit a)).Pairwise fun x y => key x < key y := by
  rw [List.pairwise_flatMap]
  constructor
  · intro a _
    rw [List.pairwise_map]
    apply (innerUp a).imp
    intro b later before
    rw [keyed, keyed]
    exact Prod.Lex.toLex_lt_toLex.mpr (.inr ⟨rfl, before⟩)
  · apply outerUp.imp
    intro a later before x first y second
    obtain ⟨b, _, rfl⟩ := List.mem_map.mp first
    obtain ⟨c, _, rfl⟩ := List.mem_map.mp second
    rw [keyed, keyed]
    exact Prod.Lex.toLex_lt_toLex.mpr (.inl before)

-- What a search finds that looks for an extreme key among some, if two keys are never both extreme.
theorem found_iff {κ ι : Type} {keys : Set κ} {Extreme : κ → Prop} {item : κ → ι} {found : Option ι}
    (among : ∀ k, Extreme k → k ∈ keys) (unique : ∀ k l, Extreme k → Extreme l → k = l)
    (search : (found = none ∧ keys = ∅) ∨ ∃ k, found = some (item k) ∧ Extreme k) :
    (found = none ↔ keys = ∅) ∧ ∀ x, found = some x ↔ ∃ k, x = item k ∧ Extreme k := by
  rcases search with ⟨rfl, empty⟩ | ⟨k, rfl, extreme⟩
  · refine ⟨⟨fun _ => empty, fun _ => rfl⟩, fun x => ⟨(nomatch ·), ?_⟩⟩
    rintro ⟨k, _, extreme⟩
    exact absurd (among k extreme) (empty ▸ Set.notMem_empty k)
  · refine ⟨⟨(nomatch ·), fun empty => ?_⟩, fun x => ⟨?_, ?_⟩⟩
    · exact absurd (among k extreme) (empty ▸ Set.notMem_empty k)
    · rintro ⟨⟩
      exact ⟨k, rfl, extreme⟩
    · rintro ⟨l, rfl, other⟩
      rw [unique k l extreme other]

namespace Scalar

theorem min_exact (a b : Rat) : Scalar.min a b = Min.min a b := by
  unfold Scalar.min
  by_cases less : b < a
  · rw [if_pos less]
    exact (min_eq_right less.le).symm
  · rw [if_neg less, if_pos (le_refl a)]
    exact (min_eq_left (not_lt.mp less)).symm

theorem abs_exact (a : Rat) : Scalar.abs a = |a| := by
  change (if a < ((0 : Int) : Rat) then -a else a) = |a|
  rw [Int.cast_zero]
  split
  · exact (abs_of_neg ‹_›).symm
  · exact (abs_of_nonneg (not_lt.mp ‹_›)).symm

end Scalar

namespace Vertex

section

variable {α : Type}

def along (sets : List Nat) (places : Nat → List Nat) (position : Nat → Nat → Point α) : List (Vertex α) :=
  sets.flatMap fun set => (places set).map fun i => ⟨.value set i, position set i⟩

variable [Scalar α] {slop : Size α} {p : Point α} {position : Nat → Nat → Point α}

theorem nearest_filter {keep : Nat → Nat → Bool}
    (far : ∀ set i, keep set i = false → slop.width < Scalar.abs ((position set i).x - p.x))
    (sets : List Nat) (places : Nat → List Nat) :
    nearest slop p (along sets (fun set => (places set).filter (keep set)) position) =
      nearest slop p (along sets places position) := by
  have each : ∀ set best,
      (((places set).filter (keep set)).map fun i => Vertex.mk (.value set i) (position set i)).foldl
          (Nearest.improve slop p) best =
        ((places set).map fun i => Vertex.mk (.value set i) (position set i)).foldl (Nearest.improve slop p) best := by
    intro set best
    rw [List.foldl_map, List.foldl_map, List.foldl_filter]
    congr 1
    funext best i
    cases kept : keep set i with
    | true => rfl
    | false => exact (if_pos (far set i kept)).symm
  unfold nearest along
  rw [List.foldl_flatMap, List.foldl_flatMap]
  simp only [each]

end

def Near (slop : Size Rat) (p q : Point Rat) : Prop :=
  |q.x - p.x| ≤ slop.width ∧ q.dist2 p < slop.width * slop.height

def reached (slop : Size Rat) (p : Point Rat) (places : Nat → List Nat) (position : Nat → Nat → Point Rat) :
    Set (Rat ×ₗ Nat ×ₗ Nat) :=
  {key | ∃ set, ∃ i ∈ places set,
    Near slop p (position set i) ∧ key = toLex ((position set i).dist2 p, toLex (set, i))}

-- What a search among all vertices finds: nothing if none is near enough, otherwise the least of those that are.
structure Exhaustive (slop : Size Rat) (p : Point Rat) (sets : List Nat) (places : Nat → List Nat)
    (position : Nat → Nat → Point Rat) (found : Option HotItem) : Prop where
  scanned : found = nearest slop p (along sets places position)
  none_iff : found = none ↔ reached slop p places position = ∅
  some_iff : ∀ item, found = some item ↔ ∃ dist2 set i,
    item = .value set i ∧ IsLeast (reached slop p places position) (toLex (dist2, toLex (set, i)))

section

variable (slop : Size Rat) (p : Point Rat)

theorem improve_cases (best : Nearest Rat) (y : Vertex Rat) :
    (best.improve slop p y = ⟨some y.item, y.position.dist2 p⟩ ∧ |y.position.x - p.x| ≤ slop.width ∧
        y.position.dist2 p < best.dist2) ∨
      best.improve slop p y = best ∧ (|y.position.x - p.x| ≤ slop.width → best.dist2 ≤ y.position.dist2 p) := by
  unfold Nearest.improve
  rw [Scalar.abs_exact]
  by_cases away : slop.width < |y.position.x - p.x|
  · rw [if_pos away]
    exact .inr ⟨rfl, fun reach => absurd reach (not_le.mpr away)⟩
  · rw [if_neg away]
    dsimp only
    by_cases closer : y.position.dist2 p < best.dist2
    · rw [if_pos closer]
      exact .inl ⟨rfl, not_lt.mp away, closer⟩
    · rw [if_neg closer]
      exact .inr ⟨rfl, fun _ => not_lt.mp closer⟩

-- If vertices come in the order of a rank, the search keeps the nearest one so far, and of these the first.
theorem foldl_improve {ρ : Type} [LinearOrder ρ] (rank : Vertex Rat → ρ) {vertices : List (Vertex Rat)}
    (ascending : vertices.Pairwise fun x y => rank x < rank y) :
    let best := vertices.foldl (Nearest.improve slop p) ⟨none, slop.width * slop.height⟩
    (best = ⟨none, slop.width * slop.height⟩ ∧ ∀ y ∈ vertices, ¬Near slop p y.position) ∨
      ∃ x ∈ vertices, best = ⟨some x.item, x.position.dist2 p⟩ ∧ Near slop p x.position ∧
        ∀ y ∈ vertices, Near slop p y.position →
          toLex (x.position.dist2 p, rank x) ≤ toLex (y.position.dist2 p, rank y) := by
  induction vertices using List.reverseRecOn with
  | nil => exact .inl ⟨rfl, fun _ absent => nomatch absent⟩
  | append_singleton before y ih =>
    obtain ⟨ascending, _, last⟩ := List.pairwise_append.mp ascending
    have last := fun x member => last x member y (List.mem_singleton_self y)
    rw [List.foldl_concat]
    rcases ih ascending with ⟨same, nothing⟩ | ⟨x, member, same, near, least⟩
    · rw [same]
      rcases improve_cases slop p ⟨none, slop.width * slop.height⟩ y with
        ⟨taken, reach, closer⟩ | ⟨kept, far⟩
      · refine .inr ⟨y, by simp, taken, ⟨reach, closer⟩, ?_⟩
        intro z present close
        rcases List.mem_append.mp present with earlier | only
        · exact absurd close (nothing z earlier)
        · rw [List.mem_singleton.mp only]
      · refine .inl ⟨kept, ?_⟩
        intro z present close
        rcases List.mem_append.mp present with earlier | only
        · exact nothing z earlier close
        · rw [List.mem_singleton.mp only] at close
          exact absurd close.2 (not_lt.mpr (far close.1))
    · rw [same]
      rcases improve_cases slop p ⟨some x.item, x.position.dist2 p⟩ y with
        ⟨taken, reach, closer⟩ | ⟨kept, far⟩
      · refine .inr ⟨y, by simp, taken, ⟨reach, closer.trans near.2⟩, ?_⟩
        intro z present close
        rcases List.mem_append.mp present with earlier | only
        · exact (Prod.Lex.toLex_le_toLex.mpr (.inl closer)).trans (least z earlier close)
        · rw [List.mem_singleton.mp only]
      · refine .inr ⟨x, by simp [member], kept, near, ?_⟩
        intro z present close
        rcases List.mem_append.mp present with earlier | only
        · exact least z earlier close
        · rw [List.mem_singleton.mp only] at close ⊢
          rcases (far close.1).lt_or_eq with nearer | equal
          · exact Prod.Lex.toLex_le_toLex.mpr (.inl nearer)
          · exact Prod.Lex.toLex_le_toLex.mpr (.inr ⟨equal, (last x member).le⟩)

end

def rank {α : Type} (x : Vertex α) : Nat ×ₗ Nat :=
  toLex (x.item.set, x.item.index.getD 0)

theorem along_ascending {α : Type} {sets : List Nat} {places : Nat → List Nat} (position : Nat → Nat → Point α)
    (setsUp : sets.Pairwise (· < ·)) (placesUp : ∀ set, (places set).Pairwise (· < ·)) :
    (along sets places position).Pairwise fun x y => rank x < rank y :=
  pairwise_walk rank (fun set i => Vertex.mk (.value set i) (position set i)) (fun _ _ => rfl) setsUp placesUp

variable {slop : Size Rat} {p : Point Rat} {sets : List Nat} {places : Nat → List Nat}
  {position : Nat → Nat → Point Rat}

theorem reached_iff (slop : Size Rat) (p : Point Rat) (position : Nat → Nat → Point Rat)
    (all : ∀ set, ∀ i ∈ places set, set ∈ sets) (key : Rat ×ₗ Nat ×ₗ Nat) :
    key ∈ reached slop p places position ↔ ∃ x ∈ along sets places position,
      Near slop p x.position ∧ key = toLex (x.position.dist2 p, rank x) := by
  constructor
  · rintro ⟨set, i, place, near, rfl⟩
    exact ⟨⟨.value set i, position set i⟩,
      List.mem_flatMap.mpr ⟨set, all set i place, List.mem_map.mpr ⟨i, place, rfl⟩⟩, near, rfl⟩
  · rintro ⟨x, member, near, rfl⟩
    obtain ⟨set, _, inSet⟩ := List.mem_flatMap.mp member
    obtain ⟨i, place, rfl⟩ := List.mem_map.mp inSet
    exact ⟨set, i, place, near, rfl⟩

theorem along_item {x : Vertex Rat} (member : x ∈ along sets places position) :
    x.item = .value x.item.set (x.item.index.getD 0) := by
  obtain ⟨set, _, inSet⟩ := List.mem_flatMap.mp member
  obtain ⟨i, _, rfl⟩ := List.mem_map.mp inSet
  rfl

theorem nearest_exhaustive (setsUp : sets.Pairwise (· < ·)) (placesUp : ∀ set, (places set).Pairwise (· < ·))
    (all : ∀ set, ∀ i ∈ places set, set ∈ sets) :
    Exhaustive slop p sets places position (nearest slop p (along sets places position)) := by
  have keys := reached_iff slop p position all
  let item (key : Rat ×ₗ Nat ×ₗ Nat) : HotItem := .value (ofLex (ofLex key).2).1 (ofLex (ofLex key).2).2
  have search : (nearest slop p (along sets places position) = none ∧ reached slop p places position = ∅) ∨
      ∃ key, nearest slop p (along sets places position) = some (item key) ∧
        IsLeast (reached slop p places position) key := by
    unfold nearest
    rcases foldl_improve slop p rank (along_ascending position setsUp placesUp) with
      ⟨same, nothing⟩ | ⟨x, member, same, near, least⟩
    · refine .inl ⟨congrArg Nearest.item same, Set.eq_empty_iff_forall_notMem.mpr ?_⟩
      intro key within
      obtain ⟨x, member, near, _⟩ := (keys key).mp within
      exact nothing x member near
    · refine .inr ⟨toLex (x.position.dist2 p, rank x), ?_, (keys _).mpr ⟨x, member, near, rfl⟩, ?_⟩
      · rw [same]
        exact congrArg some (along_item member)
      · intro key within
        obtain ⟨y, present, close, rfl⟩ := (keys key).mp within
        exact least y present close
  obtain ⟨none_iff, some_iff⟩ := found_iff (fun _ least => least.1) (fun _ _ first second => first.unique second) search
  refine ⟨rfl, none_iff, fun x => (some_iff x).trans ⟨?_, ?_⟩⟩
  · rintro ⟨key, same, least⟩
    exact ⟨(ofLex key).1, _, _, same, least⟩
  · rintro ⟨dist2, set, i, same, least⟩
    exact ⟨toLex (dist2, toLex (set, i)), same, least⟩

end Vertex

namespace Grid

variable {α : Type} [Scalar α]

def windowStart (g : Grid α) (slop : Size α) (p : Point α) : α :=
  Scalar.min (g.unmapPrimary ⟨p.x - slop.width, p.y⟩) (g.unmapPrimary ⟨p.x + slop.width, p.y⟩)

def windowStop (g : Grid α) (slop : Size α) (p : Point α) : α :=
  Scalar.max (g.unmapPrimary ⟨p.x - slop.width, p.y⟩) (g.unmapPrimary ⟨p.x + slop.width, p.y⟩)

end Grid

theorem GridAxis.unmap_window {a : GridAxis Rat} (twoWay : a.TwoWay) (rightwards : StrictMono a.map)
    {x width value : Rat} (near : |a.map value - x| ≤ width) :
    Scalar.min (a.unmap (x - width)) (a.unmap (x + width)) ≤ value ∧
      value ≤ Scalar.max (a.unmap (x - width)) (a.unmap (x + width)) := by
  obtain ⟨left, right⟩ := abs_le.mp near
  rw [Scalar.min_exact, Scalar.max_exact]
  constructor
  · refine (min_le_left _ _).trans (rightwards.le_iff_le.mp ?_)
    rw [twoWay.map_unmap]
    linarith
  · refine le_trans (rightwards.le_iff_le.mp ?_) (le_max_right _ _)
    rw [twoWay.map_unmap]
    linarith

namespace Values

variable {v : Values} {set i : Nat}

theorem sets_ascending (v : Values) : v.sets.Pairwise (· < ·) :=
  List.pairwise_lt_range

theorem pairs_ascending (v : Values) (set : Nat) : (v.pairs set).Pairwise (· < ·) := by
  unfold pairs
  rw [List.pairwise_map]
  apply List.pairwise_lt_range.imp
  intro k later before
  omega

end Values

namespace Line

theorem placeFrom_le {x : Rat} {i : Nat} : placeFrom x ≤ i ↔ x ≤ i := by
  have exact : placeFrom x = (Max.max ⌈x⌉ 0).toNat := by
    have ceil : x.ceil = ⌈x⌉ := by
      rw [Rat.ceil_eq_neg_floor_neg]
      rfl
    change (Exact.truncate (Scalar.max ((x.ceil : Int) : Rat) ((0 : Int) : Rat))).toNat = _
    rw [Scalar.max_exact, ← Int.cast_max, Exact.truncate_intCast, ceil]
  rw [exact, Int.toNat_le, max_le_iff, Int.ceil_le]
  constructor
  · exact fun bounds => bounds.1
  · exact fun below => ⟨below, Int.natCast_nonneg i⟩

theorem lt_placeFrom {x : Rat} {i : Nat} : i < placeFrom (Scalar.floor x + 1) ↔ (i : Rat) ≤ x := by
  have next : Scalar.floor x + 1 = ((⌊x⌋ + 1 : Int) : Rat) := (Int.cast_add ⌊x⌋ 1).symm
  have whole : ((i : Int) : Rat) = i := Int.cast_natCast i
  rw [← not_le, placeFrom_le, next, ← whole, Int.cast_le, not_le, Int.lt_add_one_iff, Int.le_floor]

section

variable {α : Type} [Scalar α]

-- The places that are searched near a point: from the first one on, up to before the second one.
def window (g : Grid α) (slop : Size α) (p : Point α) : Nat × Nat :=
  (placeFrom (g.windowStart slop p), placeFrom (Scalar.floor (g.windowStop slop p) + 1))

variable (v : View α) (g : Grid α) (stacked : Bool)

theorem verticesWithin_eq (lo hi : Nat) :
    verticesWithin v g stacked lo hi = Vertex.along v.values.sets
      (fun set => (places v set).filter fun i => decide (lo ≤ i) && decide (i < hi)) (vertexPoint v g stacked) := by
  have window : ∀ set, List.range' lo (min hi (v.values.count set) - lo) =
      (places v set).filter fun i => decide (lo ≤ i) && decide (i < hi) := by
    intro set
    refine List.Pairwise.eq_of_mem_iff (List.pairwise_lt_range' 1) (List.pairwise_lt_range.filter _) ?_
    intro i
    simp only [places, List.mem_range'_1, List.mem_filter, List.mem_range, Bool.and_eq_true, decide_eq_true_eq]
    omega
  unfold verticesWithin Vertex.along
  simp only [window]

theorem verticesWithin_bounded {bound : Nat} (enough : ∀ set, v.values.count set ≤ bound) (lo hi : Nat) :
    verticesWithin v g stacked (min lo bound) (min hi bound) = verticesWithin v g stacked lo hi := by
  rw [verticesWithin_eq, verticesWithin_eq]
  congr 1
  funext set
  refine List.filter_congr fun i place => ?_
  have below := (List.mem_range.mp place).trans_le (enough set)
  simp only [← Bool.decide_and, decide_eq_decide]
  omega

end

end Line

section

variable {v : View Rat} {kind : Kind} {slop : Size Rat} {p : Point Rat}

theorem Grid.arrange_window (upright : kind.isSwapped = false) (extents : LabelExtents Rat) {value other : Rat} :
    let g := arrange v kind extents
    |(g.point value other).x - p.x| ≤ slop.width → g.windowStart slop p ≤ value ∧ value ≤ g.windowStop slop p := by
  intro g near
  obtain ⟨twoWay, rightwards, _⟩ := arrange_horizontal_two_way v kind extents
  have swapped : g.swapped = false := upright
  unfold point at near
  unfold windowStart windowStop unmapPrimary
  rw [swapped] at near ⊢
  exact GridAxis.unmap_window twoWay rightwards near

theorem Line.hitTest_exhaustive (upright : kind.isSwapped = false) (extents : LabelExtents Rat) (stacked : Bool) :
    let g := Grid.arrange v kind extents
    Vertex.Exhaustive v.config.slop p v.values.sets (places v) (vertexPoint v g stacked)
      (hitTest v g stacked p) := by
  intro g
  have far : ∀ set i, (decide ((window g v.config.slop p).1 ≤ i) && decide (i < (window g v.config.slop p).2)) = false →
      v.config.slop.width < Scalar.abs ((vertexPoint v g stacked set i).x - p.x) := by
    intro set i out
    rw [Scalar.abs_exact]
    by_contra near
    obtain ⟨low, high⟩ := Grid.arrange_window upright extents (not_lt.mp near)
    have first : (window g v.config.slop p).1 ≤ i := placeFrom_le.mpr low
    have last : i < (window g v.config.slop p).2 := lt_placeFrom.mpr high
    rw [decide_eq_true first, decide_eq_true last] at out
    cases out
  have plain : hitTest v g stacked p =
      Vertex.nearest v.config.slop p (Vertex.along v.values.sets (places v) (vertexPoint v g stacked)) := by
    rw [← Vertex.nearest_filter far, ← verticesWithin_eq]
    rfl
  rw [plain]
  exact Vertex.nearest_exhaustive v.values.sets_ascending (fun _ => List.pairwise_lt_range)
    fun set i place => Values.mem_sets (List.mem_range.mp place)

theorem Scatter.hitTest_exhaustive (extents : LabelExtents Rat) :
    let g := Grid.arrange v .scatter extents
    Vertex.Exhaustive v.config.slop p v.values.sets v.values.pairs (pairPoint v g) (hitTest v g p) := by
  intro g
  let keep (set i : Nat) : Bool :=
    decide (g.windowStart v.config.slop p ≤ (v.values.value set i : Rat)) &&
      decide ((v.values.value set i : Rat) ≤ g.windowStop v.config.slop p)
  have far : ∀ set i, keep set i = false →
      v.config.slop.width < Scalar.abs ((pairPoint v g set i).x - p.x) := by
    intro set i out
    rw [Scalar.abs_exact]
    by_contra near
    obtain ⟨first, last⟩ := Grid.arrange_window rfl extents (not_lt.mp near)
    have kept : keep set i = true := by
      unfold keep
      rw [Bool.and_eq_true]
      exact ⟨decide_eq_true first, decide_eq_true last⟩
    rw [kept] at out
    cases out
  have plain : hitTest v g p =
      Vertex.nearest v.config.slop p (Vertex.along v.values.sets v.values.pairs (pairPoint v g)) :=
    Vertex.nearest_filter far v.values.sets v.values.pairs
  rw [plain]
  exact Vertex.nearest_exhaustive v.values.sets_ascending v.values.pairs_ascending
    fun _ _ => Values.mem_sets_of_pair

end

variable {M : Type} [Circular Rat] [TextMeasurer Rat M]

-- The vertex under the pointer is the one that a search among all vertices finds, and this is the nearest of those that
-- are near enough; of equally near ones the first. Data sets have a vertex for each value, or for each complete pair.
-- The window of places may as well be found with whole parts up to a bound that no data set is longer than.
theorem View.hitBody_nearest (v : View Rat) (kind : Kind) (p : Point Rat) (m : M) :
    let g := (Grid.layOut v kind m).1
    let found := (v.hitBody kind p m).1
    match kind with
    | .scatter => Vertex.Exhaustive v.config.slop p v.values.sets v.values.pairs (Scatter.pairPoint v g) found
    | .line stacked | .area stacked =>
      Vertex.Exhaustive v.config.slop p v.values.sets (Line.places v) (Line.vertexPoint v g stacked) found ∧
        ∀ bound, (∀ set, v.values.count set ≤ bound) →
          let (lo, hi) := Line.window g v.config.slop p
          found = Vertex.nearest v.config.slop p (Line.verticesWithin v g stacked (min lo bound) (min hi bound))
    | _ => True := by
  intro g found
  cases kind with
  | pie | column | bar => trivial
  | scatter => exact Scatter.hitTest_exhaustive _
  | line stacked | area stacked =>
    refine ⟨Line.hitTest_exhaustive rfl _ stacked, ?_⟩
    intro bound enough
    dsimp only
    rw [Line.verticesWithin_bounded v g stacked enough]
    rfl

end Charting
