import Charting.Proofs.NearestVertex
import Charting.Proofs.TightRounding
import Mathlib.Order.Interval.Set.Basic

namespace Charting

namespace Picture

variable {α : Type}

def filledRects (picture : Picture α) : List (Rect α) :=
  picture.filterMap fun
    | .fillRect rect _ => some rect
    | _ => none

def strokedPaths (picture : Picture α) : List (Path α) :=
  picture.filterMap fun
    | .strokePath path _ _ => some path
    | _ => none

theorem filledRects_append (first second : Picture α) :
    (first ++ second).filledRects = first.filledRects ++ second.filledRects :=
  List.filterMap_append

theorem strokedPaths_append (first second : Picture α) :
    (first ++ second).strokedPaths = first.strokedPaths ++ second.strokedPaths :=
  List.filterMap_append

end Picture

theorem Grid.filledRects_paint {α : Type} [Scalar α] (g : Grid α) (v : View α) : (g.paint v).filledRects = [] := by
  simp [paint, Picture.filledRects, verticalLine, horizontalLine]

theorem Grid.strokedPaths_paint {α : Type} [Scalar α] (g : Grid α) (v : View α) : (g.paint v).strokedPaths = [] := by
  simp [paint, Picture.strokedPaths, verticalLine, horizontalLine]

namespace Column

section

variable {α : Type} [Scalar α]

-- The values that have a box, in the order of painting: place after place, and data set after data set at each.
def places (values : Values) : List (Nat × Nat) :=
  (List.range values.maxCount).flatMap fun index => (setsAt values index).map fun set => (index, set)

theorem mem_places {values : Values} {index set : Nat} :
    (index, set) ∈ places values ↔ index < values.count set := by
  constructor
  · intro member
    obtain ⟨_, _, there⟩ := List.mem_flatMap.mp member
    obtain ⟨_, present, same⟩ := List.mem_map.mp there
    cases same
    exact of_decide_eq_true (List.mem_filter.mp present).2
  · intro below
    have within := below.trans_le (values.count_le_maxCount set)
    have present : set ∈ setsAt values index :=
      List.mem_filter.mpr ⟨Values.mem_sets below, decide_eq_true below⟩
    exact List.mem_flatMap.mpr ⟨index, List.mem_range.mpr within, List.mem_map.mpr ⟨set, present, rfl⟩⟩

theorem places_ascending (values : Values) : (places values).Pairwise fun a b => toLex a < toLex b :=
  pairwise_walk toLex (fun index set => (index, set)) (fun _ _ => rfl) List.pairwise_lt_range
    fun _ => values.sets_ascending.filter _

theorem boxes_eq (v : View α) (g : Grid α) (stacked : Bool) :
    boxes v g stacked = (places v.values).map fun (index, set) => box v g stacked set index := by
  unfold boxes places
  rw [List.map_flatMap]
  simp only [List.map_map]
  rfl

-- What painting fills and strokes, when each box is filled and then bordered, and nothing else is.
structure Layered (v : View α) (g : Grid α) (stacked : Bool) (picture : Picture α) : Prop where
  ascending : (places v.values).Pairwise fun a b => toLex a < toLex b
  every : ∀ index set, (index, set) ∈ places v.values ↔ index < v.values.count set
  filled : picture.filledRects = (places v.values).map fun (index, set) => (box v g stacked set index).rect
  stroked : picture.strokedPaths =
    (places v.values).map fun (index, set) => Path.polyline (box v g stacked set index).border

def under (v : View α) (g : Grid α) (stacked : Bool) (p : Point α) : Set (Nat ×ₗ Nat) :=
  {key | ∃ index set, index < v.values.count set ∧ (box v g stacked set index).rect.contains p = true ∧
    key = toLex (index, set)}

structure Topmost (v : View α) (g : Grid α) (stacked : Bool) (p : Point α) (found : Option HotItem) : Prop where
  none_iff : found = none ↔ under v g stacked p = ∅
  some_iff : ∀ item, found = some item ↔ ∃ set index,
    item = .value set index ∧ IsGreatest (under v g stacked p) (toLex (index, set))

theorem filledRects_boxes (v : View α) (boxes : List (ColumnBox α)) :
    Picture.filledRects (boxes.flatMap (paintBox v)) = boxes.map ColumnBox.rect := by
  induction boxes with
  | nil => rfl
  | cons b rest ih =>
    rw [List.flatMap_cons, Picture.filledRects_append, ih]
    rfl

theorem strokedPaths_boxes (v : View α) (boxes : List (ColumnBox α)) :
    Picture.strokedPaths (boxes.flatMap (paintBox v)) = boxes.map fun b => Path.polyline b.border := by
  induction boxes with
  | nil => rfl
  | cons b rest ih =>
    rw [List.flatMap_cons, Picture.strokedPaths_append, ih]
    rfl

theorem paint_layered (v : View α) (g : Grid α) (stacked : Bool) : Layered v g stacked (paint v g stacked) where
  ascending := places_ascending v.values
  every := fun _ _ => mem_places
  filled := by
    rw [paint, Picture.filledRects_append, g.filledRects_paint, List.nil_append, filledRects_boxes, boxes_eq,
      List.map_map]
    rfl
  stroked := by
    rw [paint, Picture.strokedPaths_append, g.strokedPaths_paint, List.nil_append, strokedPaths_boxes, boxes_eq,
      List.map_map]
    rfl

theorem hitTest_eq (v : View α) (g : Grid α) (stacked : Bool) (p : Point α) :
    hitTest v g stacked p =
      ((places v.values).reverse.find? fun (index, set) => (box v g stacked set index).rect.contains p).map
        fun (index, set) => .value set index := by
  unfold hitTest
  rw [boxes_eq, ← List.map_reverse, List.find?_map, Option.map_map]
  rfl

theorem hitTest_topmost (v : View α) (g : Grid α) (stacked : Bool) (p : Point α) :
    Topmost v g stacked p (hitTest v g stacked p) := by
  have descending : (places v.values).reverse.Pairwise fun a b => toLex b ≤ toLex a :=
    List.pairwise_reverse.mpr ((places_ascending v.values).imp fun before => before.le)
  let item (key : Nat ×ₗ Nat) : HotItem := .value (ofLex key).2 (ofLex key).1
  have search : (hitTest v g stacked p = none ∧ under v g stacked p = ∅) ∨
      ∃ key, hitTest v g stacked p = some (item key) ∧ IsGreatest (under v g stacked p) key := by
    rw [hitTest_eq]
    cases found : (places v.values).reverse.find?
        fun (index, set) => (box v g stacked set index).rect.contains p with
    | none =>
      refine .inl ⟨rfl, Set.eq_empty_iff_forall_notMem.mpr ?_⟩
      rintro key ⟨index, set, below, hit, rfl⟩
      exact List.find?_eq_none.mp found (index, set) (List.mem_reverse.mpr (mem_places.mpr below)) hit
    | some place =>
      obtain ⟨index, set⟩ := place
      have present := mem_places.mp (List.mem_reverse.mp (List.mem_of_find?_eq_some found))
      have hit : (box v g stacked set index).rect.contains p = true := by simpa using List.find?_some found
      refine .inr ⟨toLex (index, set), rfl, ⟨index, set, present, hit, rfl⟩, ?_⟩
      rintro key ⟨index', set', below, hit, rfl⟩
      exact find?_first (r := fun a b => toLex b ≤ toLex a) (fun _ => le_refl _) descending found (index', set')
        (List.mem_reverse.mpr (mem_places.mpr below)) hit
  obtain ⟨none_iff, some_iff⟩ :=
    found_iff (fun _ greatest => greatest.1) (fun _ _ first second => first.unique second) search
  refine ⟨none_iff, fun x => (some_iff x).trans ⟨?_, ?_⟩⟩
  · rintro ⟨key, same, greatest⟩
    exact ⟨_, _, same, greatest⟩
  · rintro ⟨set, index, same, greatest⟩
    exact ⟨toLex (index, set), same, greatest⟩

end

end Column

namespace Grid

section

variable {α : Type} [Scalar α]

def primaryPixel (g : Grid α) (p : Point α) : α :=
  if g.swapped then p.y else p.x

theorem unmapPrimary_eq (g : Grid α) (p : Point α) : g.unmapPrimary p = g.primary.unmap (g.primaryPixel p) := by
  unfold unmapPrimary primary primaryPixel
  split <;> rfl

def secondaryPixel (g : Grid α) (p : Point α) : α :=
  if g.swapped then p.x else p.y

theorem contains_spanning {g : Grid α} {near far foot head : α} {p : Point α} :
    (Rect.spanning (g.point near foot) (g.point far head)).contains p = true ↔
      (Scalar.min (g.primary.map near) (g.primary.map far) ≤ g.primaryPixel p ∧
          g.primaryPixel p < Scalar.max (g.primary.map near) (g.primary.map far)) ∧
        Scalar.min (g.secondary.map foot) (g.secondary.map head) ≤ g.secondaryPixel p ∧
          g.secondaryPixel p < Scalar.max (g.secondary.map foot) (g.secondary.map head) := by
  rw [Rect.contains_iff]
  unfold point primary secondary primaryPixel secondaryPixel
  cases g.swapped with
  | true => exact and_comm
  | false => exact Iff.rfl

end

theorem arrange_primary_two_way (v : View Rat) (kind : Kind) (extents : LabelExtents Rat) :
    let g := arrange v kind extents
    g.primary.TwoWay ∧ StrictMono g.primary.map := by
  intro g
  obtain ⟨twoWayH, rightwards, _⟩ := arrange_horizontal_two_way v kind extents
  obtain ⟨twoWayV, direction, _⟩ := arrange_vertical_two_way v kind extents
  have swapped : g.swapped = kind.isSwapped := rfl
  unfold primary
  rw [swapped]
  cases turned : kind.isSwapped with
  | true =>
    rw [turned] at direction
    exact ⟨twoWayV, direction⟩
  | false => exact ⟨twoWayH, rightwards⟩

def pixelsBetween (g : Grid Rat) (foot head : Rat) : Set Rat :=
  Set.Ico (min (g.secondary.map foot) (g.secondary.map head)) (max (g.secondary.map foot) (g.secondary.map head))

theorem arrange_contains {v : View Rat} {kind : Kind} {extents : LabelExtents Rat} {near far foot head : Rat}
    {p : Point Rat} (ordered : near ≤ far) :
    let g := arrange v kind extents
    (Rect.spanning (g.point near foot) (g.point far head)).contains p = true ↔
      g.unmapPrimary p ∈ Set.Ico near far ∧ g.secondaryPixel p ∈ g.pixelsBetween foot head := by
  intro g
  obtain ⟨twoWay, growing⟩ := arrange_primary_two_way v kind extents
  have along : g.primaryPixel p = g.primary.map (g.unmapPrimary p) := by
    rw [unmapPrimary_eq, twoWay.map_unmap]
  rw [contains_spanning, Scalar.min_exact, Scalar.max_exact, min_eq_left (growing.monotone ordered),
    max_eq_right (growing.monotone ordered), along, growing.le_iff_le, growing.lt_iff_lt, Scalar.min_exact,
    Scalar.max_exact]
  exact Iff.rfl

end Grid

namespace Column

section

variable {values : Values} {set index set' index' : Nat}

def boxWidth (values : Values) : Rat :=
  7 / 10 / values.length

-- The part of the axis of places that a box has to itself.
def room (values : Values) (set index : Nat) : Set Rat :=
  Set.Ico (sides values false set index).1 (sides values false set index).2

theorem groupPadding_exact : (groupPadding : Rat) = 3 / 20 := by
  change ((15 : Int) : Rat) / ((100 : Int) : Rat) = 3 / 20
  norm_num

theorem groupWidth_exact : (groupWidth : Rat) = 7 / 10 := by
  change ((1 : Int) : Rat) - ((2 : Int) : Rat) * groupPadding = 7 / 10
  rw [groupPadding_exact]
  norm_num

theorem sides_exact (values : Values) (set index : Nat) : sides values false set index =
    (index + 3 / 20 + set * boxWidth values, index + 3 / 20 + (set + 1) * boxWidth values) := by
  change ((index : Rat) + groupPadding + set * (groupWidth / values.length),
    (index : Rat) + groupPadding + ((set + 1 : Nat) : Rat) * (groupWidth / values.length)) = _
  rw [groupPadding_exact, groupWidth_exact, Nat.cast_succ]
  rfl

theorem sides_width (values : Values) (set index : Nat) :
    (sides values false set index : Rat × Rat).2 - (sides values false set index).1 = boxWidth values := by
  rw [sides_exact]
  ring

theorem boxWidth_pos (present : set ∈ values.sets) : 0 < boxWidth values := by
  have some : 0 < values.length := Nat.zero_lt_of_lt (List.mem_range.mp present)
  exact div_pos (by norm_num) (Nat.cast_pos.mpr some)

theorem sides_inside (present : set ∈ values.sets) (index : Nat) :
    (index : Rat) < (sides values false set index).1 ∧
      (sides values false set index : Rat × Rat).1 < (sides values false set index).2 ∧
        (sides values false set index).2 < (index + 1 : Rat) := by
  have positive := boxWidth_pos present
  have some : (0 : Rat) < values.length := Nat.cast_pos.mpr (Nat.zero_lt_of_lt (List.mem_range.mp present))
  have last : ((set + 1 : Nat) : Rat) ≤ values.length := Nat.cast_le.mpr (List.mem_range.mp present)
  have within : ((set + 1 : Nat) : Rat) * boxWidth values ≤ 7 / 10 := by
    calc ((set + 1 : Nat) : Rat) * boxWidth values
      _ ≤ values.length * boxWidth values := mul_le_mul_of_nonneg_right last positive.le
      _ = 7 / 10 := by
        unfold boxWidth
        field_simp
  have before : 0 ≤ (set : Rat) * boxWidth values := mul_nonneg (Nat.cast_nonneg set) positive.le
  rw [Nat.cast_succ] at within
  rw [sides_exact]
  dsimp only
  refine ⟨by linarith, by linarith, by linarith⟩

theorem sides_before (present : set ∈ values.sets) (present' : set' ∈ values.sets)
    (before : toLex (index, set) < toLex (index', set')) :
    (sides values false set index : Rat × Rat).2 ≤ (sides values false set' index').1 := by
  rcases Prod.Lex.toLex_lt_toLex.mp before with earlier | ⟨same, left⟩
  · have next : ((index + 1 : Nat) : Rat) ≤ index' := Nat.cast_le.mpr earlier
    rw [Nat.cast_succ] at next
    exact ((sides_inside present index).2.2.trans_le next).le.trans (sides_inside present' index').1.le
  · dsimp only at same left
    subst same
    have next : ((set + 1 : Nat) : Rat) ≤ set' := Nat.cast_le.mpr left
    rw [Nat.cast_succ] at next
    rw [sides_exact, sides_exact]
    linarith [mul_le_mul_of_nonneg_right next (boxWidth_pos present).le]

theorem room_disjoint (present : set ∈ values.sets) (present' : set' ∈ values.sets)
    (before : toLex (index, set) < toLex (index', set')) :
    Disjoint (room values set index) (room values set' index') := by
  refine Set.disjoint_left.mpr ?_
  rintro x ⟨_, ended⟩ ⟨begun, _⟩
  exact absurd (sides_before present present' before) (not_le.mpr (begun.trans_lt ended))

end

-- Boxes side by side: all as wide, each inside its place, with no point over two of them.
structure SideBySide (v : View Rat) (g : Grid Rat) : Prop where
  width : ∀ set index, (sides v.values false set index : Rat × Rat).2 - (sides v.values false set index).1 =
    boxWidth v.values
  inside : ∀ set index, index < v.values.count set →
    (index : Rat) < (sides v.values false set index).1 ∧
      (sides v.values false set index : Rat × Rat).1 < (sides v.values false set index).2 ∧
        (sides v.values false set index).2 < (index + 1 : Rat)
  disjoint : ∀ set index set' index', index < v.values.count set → index' < v.values.count set' →
    (set, index) ≠ (set', index') → Disjoint (room v.values set index) (room v.values set' index')
  spanned : ∀ set index p, index < v.values.count set → ((box v g false set index).rect.contains p = true ↔
    g.unmapPrimary p ∈ room v.values set index ∧ g.secondaryPixel p ∈ g.pixelsBetween 0 (v.values.value set index))
  alone : ∀ p, (under v g false p).Subsingleton

theorem arrange_sideBySide (v : View Rat) (kind : Kind) (extents : LabelExtents Rat) :
    SideBySide v (Grid.arrange v kind extents) := by
  let g := Grid.arrange v kind extents
  have spanned : ∀ set index p, index < v.values.count set → ((box v g false set index).rect.contains p = true ↔
      g.unmapPrimary p ∈ room v.values set index ∧
        g.secondaryPixel p ∈ g.pixelsBetween 0 (v.values.value set index)) :=
    fun set index p below => Grid.arrange_contains (sides_inside (Values.mem_sets below) index).2.1.le
  have disjoint : ∀ set index set' index', index < v.values.count set → index' < v.values.count set' →
      (set, index) ≠ (set', index') → Disjoint (room v.values set index) (room v.values set' index') := by
    intro set index set' index' below below' different
    rcases lt_trichotomy (toLex (index, set)) (toLex (index', set')) with before | same | after
    · exact room_disjoint (Values.mem_sets below) (Values.mem_sets below') before
    · cases toLex_inj.mp same
      exact absurd rfl different
    · exact (room_disjoint (Values.mem_sets below') (Values.mem_sets below) after).symm
  have alone : ∀ p, (under v g false p).Subsingleton := by
    rintro p _ ⟨index, set, below, first, rfl⟩ _ ⟨index', set', below', second, rfl⟩
    by_contra different
    have apart := disjoint set index set' index' below below' fun same => different (by cases same; rfl)
    exact Set.disjoint_left.mp apart ((spanned set index p below).mp first).1
      ((spanned set' index' p below').mp second).1
  exact
    { width := sides_width v.values
      inside := fun _ index below => sides_inside (Values.mem_sets below) index
      disjoint, spanned, alone }

end Column

-- Painting fills and borders one box for each value, place after place and data set after data set, and over a point
-- the search finds the box that is painted last. In exact arithmetic, boxes side by side are equally wide, lie within
-- their places and do not overlap, so that there is never more than one over a point.
theorem View.paintBody_layers :
    (∀ (α M : Type) [Scalar α] [Circular α] [TextMeasurer α M] (v : View α) (kind : Kind) (p : Point α) (m : M),
      let g := (Grid.layOut v kind m).1
      match kind with
      | .column stacked | .bar stacked =>
        Column.Layered v g stacked (v.paintBody kind m).1 ∧ Column.Topmost v g stacked p (v.hitBody kind p m).1
      | _ => True) ∧
      ∀ (M : Type) [TextMeasurer Rat M] (v : View Rat) (kind : Kind) (m : M),
        let g := (Grid.layOut v kind m).1
        match kind with
        | .column false | .bar false => Column.SideBySide v g
        | _ => True := by
  constructor
  · intro α M _ _ _ v kind p m g
    cases kind with
    | pie | scatter | line | area => trivial
    | column stacked | bar stacked =>
      exact ⟨Column.paint_layered v g stacked, Column.hitTest_topmost v g stacked p⟩
  · intro M _ v kind m g
    cases kind with
    | pie | scatter | line | area => trivial
    | column stacked | bar stacked =>
      cases stacked with
      | true => trivial
      | false => exact Column.arrange_sideBySide v _ _

end Charting
