import Mosaic.Proofs.Compositing

/-! Tiles drawn by clipping. To draw a tile, a rectangle of the canvas is filled from a point of the tile's
picture on: the rectangle is cut to the canvas and to the picture, and the point moves along with its
corner. All of this is machine arithmetic, and the point may wrap. Nevertheless each pixel gets the
colour that lies as far from the picture's corner as the pixel lies from the canvas's, wherever the
corners are. So whatever pictures and rectangles a run brings, each pixel shows the last tile that
reaches it, or the first picture. -/
namespace Mosaic

/-! ## Rectangles -/

namespace Rect

/-- The part of a rectangle that lies in another. If there is none it is the empty rectangle at the
origin. -/
def clip (rect other : Rect) : Rect :=
  let common : Rect := {
    minX := max rect.minX other.minX
    minY := max rect.minY other.minY
    maxX := min rect.maxX other.maxX
    maxY := min rect.maxY other.maxY }
  if common.isEmpty then {} else common

/-- The rectangle moved to the right and down. -/
def moved (rect : Rect) (right down : Int64) : Rect where
  minX := rect.minX + right
  minY := rect.minY + down
  maxX := rect.maxX + right
  maxY := rect.maxY + down

theorem contains_iff (rect : Rect) (x y : Int) :
    rect.contains x y = true ↔
      rect.minX.toInt ≤ x ∧ x < rect.maxX.toInt ∧ rect.minY.toInt ≤ y ∧ y < rect.maxY.toInt := by
  simp [contains, and_assoc]

theorem not_contains_of_isEmpty {rect : Rect} (empty : rect.isEmpty = true) (x y : Int) :
    ¬rect.contains x y = true := by
  rw [contains_iff]
  simp only [isEmpty, Bool.or_eq_true, decide_eq_true_eq, Int64.le_iff_toInt_le] at empty
  omega

/-- Clipping keeps exactly the pixels that lie in both rectangles. -/
theorem clip_contains_iff (rect other : Rect) (x y : Int) :
    (rect.clip other).contains x y = true ↔
      rect.contains x y = true ∧ other.contains x y = true := by
  have common : ({
      minX := max rect.minX other.minX
      minY := max rect.minY other.minY
      maxX := min rect.maxX other.maxX
      maxY := min rect.maxY other.maxY } : Rect).contains x y = true ↔
      rect.contains x y = true ∧ other.contains x y = true := by
    simp only [contains_iff, toInt_max, toInt_min]
    omega
  unfold clip
  simp only
  split
  · rename_i empty
    rw [← common]
    constructor
    · intro inside
      exact absurd inside (not_contains_of_isEmpty rfl x y)
    · intro inside
      exact absurd inside (not_contains_of_isEmpty empty x y)
  · exact common

end Rect

/-! ## Pictures -/

namespace Picture

/-- The rectangle of the plane that a picture takes up. -/
def bounds (picture : Picture) : Rect where
  minX := picture.minX
  minY := picture.minY
  maxX := picture.minX + Int64.ofNat picture.width
  maxY := picture.minY + Int64.ofNat picture.height

/-- A picture whose sides and edges are machine integers. -/
structure Framed (picture : Picture) : Prop where
  width : picture.width < 2 ^ 63
  height : picture.height < 2 ^ 63
  right : picture.minX.toInt + picture.width < 2 ^ 63
  bottom : picture.minY.toInt + picture.height < 2 ^ 63

/-- Whether a point lies in a picture when the picture's corner lies at the origin. -/
def Spans (picture : Picture) (x y : Int) : Prop :=
  0 ≤ x ∧ x < picture.width ∧ 0 ≤ y ∧ y < picture.height

theorem Spans.exists_pixel {picture : Picture} {x y : Int} (inside : picture.Spans x y) :
    ∃ column row : Nat, x = column ∧ y = row := by
  obtain ⟨across, -, down, -⟩ := inside
  exact ⟨x.toNat, y.toNat, (Int.toNat_of_nonneg across).symm, (Int.toNat_of_nonneg down).symm⟩

/-- Fills a rectangle of a canvas from a source, whose point `(fromX, fromY)` comes to lie on the corner
of the rectangle. -/
def paint (canvas : Picture) (rect : Rect) (source : Picture) (fromX fromY : Int64) : Picture :=
  let region := (rect.clip canvas.bounds).clip
    (source.bounds.moved (rect.minX - fromX) (rect.minY - fromY))
  -- The corner may have been clipped off, so the point moves along with it.
  let startX := fromX + (region.minX - rect.minX)
  let startY := fromY + (region.minY - rect.minY)
  { canvas with
    pixel := fun x y =>
      let column := canvas.minX + Int64.ofNat x
      let row := canvas.minY + Int64.ofNat y
      if region.contains column.toInt row.toInt then
        source.colorAt (startX + (column - region.minX)).toInt (startY + (row - region.minY)).toInt
      else canvas.pixel x y }

theorem colorAt_corner (picture : Picture) (x y : Nat) :
    picture.colorAt (x + picture.minX.toInt) (y + picture.minY.toInt) = picture.color x y := by
  simp [colorAt]

/-- Counting from an edge stays exact within the picture. -/
theorem toInt_from_edge {edge : Int64} {n : Nat} (small : n < 2 ^ 63)
    (fits : edge.toInt + n < 2 ^ 63) : (edge + Int64.ofNat n).toInt = n + edge.toInt := by
  have low := edge.le_toInt
  rw [Int64.toInt_add, Int64.toInt_ofNat_of_lt small, bmod_of_fits (by omega) (by omega), Int.add_comm]

/-- Seen from the canvas the source lies with its corner at the origin, even where the point of the source
wraps. -/
theorem bounds_moved (source : Picture) (rect : Rect) :
    source.bounds.moved (rect.minX - (rect.minX + source.minX))
        (rect.minY - (rect.minY + source.minY)) =
      { maxX := Int64.ofNat source.width, maxY := Int64.ofNat source.height } := by
  simp only [bounds, Rect.moved, Rect.mk.injEq]
  refine ⟨?_, ?_, ?_, ?_⟩ <;> grind

namespace Alike
variable {left right : Picture}

theorem trans {other : Picture} (first : left.Alike right) (second : right.Alike other) :
    left.Alike other where
  minX := first.minX.trans second.minX
  minY := first.minY.trans second.minY
  width := first.width.trans second.width
  height := first.height.trans second.height
  isStraight := first.isStraight.trans second.isStraight
  pixel x column y row :=
    (first.pixel x column y row).trans
      (second.pixel x (first.width ▸ column) y (first.height ▸ row))

theorem blit (alike : left.Alike right) (source : Picture) (rect : Rect) :
    (left.blit source rect).Alike (right.blit source rect) where
  minX := alike.minX
  minY := alike.minY
  width := alike.width
  height := alike.height
  isStraight := alike.isStraight
  pixel x column y row := by
    simp only [Picture.blit]
    split
    · rfl
    · exact alike.pixel x column y row

end Alike

/-- A canvas has its corner at the origin, and its sides are machine integers. -/
structure IsCanvas (canvas : Picture) : Prop where
  minX : canvas.minX = 0
  minY : canvas.minY = 0
  width : canvas.width < 2 ^ 63
  height : canvas.height < 2 ^ 63

/-- A new canvas, transparent all over. -/
def blank (width height : Nat) : Picture := { width, height, pixel := fun _ _ => {} }

section Painting
variable {canvas source : Picture} (isCanvas : canvas.IsCanvas) (framed : source.Framed)
include isCanvas framed

/-- Of the pixels of a canvas those are painted that lie in the rectangle and in the source. -/
theorem painted_iff (rect : Rect) {x y : Nat} (column : x < canvas.width) (row : y < canvas.height) :
    ((rect.clip canvas.bounds).clip
        { maxX := Int64.ofNat source.width, maxY := Int64.ofNat source.height }).contains x y = true ↔
      rect.contains x y = true ∧ x < source.width ∧ y < source.height := by
  have wide := Int64.toInt_ofNat_of_lt isCanvas.width
  have high := Int64.toInt_ofNat_of_lt isCanvas.height
  have sourceWide := Int64.toInt_ofNat_of_lt framed.width
  have sourceHigh := Int64.toInt_ofNat_of_lt framed.height
  rw [Rect.clip_contains_iff, Rect.clip_contains_iff, Rect.contains_iff canvas.bounds,
    Rect.contains_iff { maxX := Int64.ofNat source.width, maxY := Int64.ofNat source.height }]
  simp only [bounds, isCanvas.minX, isCanvas.minY, Int64.zero_add, Int64.toInt_zero, wide, high,
    sourceWide, sourceHigh]
  constructor
  · rintro ⟨⟨inside, -⟩, given⟩
    exact ⟨inside, by omega, by omega⟩
  · rintro ⟨inside, across, down⟩
    exact ⟨⟨inside, by omega⟩, by omega⟩

/-- Clipping draws what lies corner on corner, and leaves the rest alone. -/
theorem blit_alike_paint (rect : Rect) :
    (canvas.blit source rect).Alike
      (canvas.paint rect source (rect.minX + source.minX) (rect.minY + source.minY)) := by
  refine ⟨rfl, rfl, rfl, rfl, rfl, fun x column y row => ?_⟩
  change x < canvas.width at column
  change y < canvas.height at row
  have across : (Int64.ofNat x).toInt = x :=
    Int64.toInt_ofNat_of_lt (Nat.lt_trans column isCanvas.width)
  have down : (Int64.ofNat y).toInt = y :=
    Int64.toInt_ofNat_of_lt (Nat.lt_trans row isCanvas.height)
  have painted := painted_iff isCanvas framed rect column row
  simp only [blit, paint, bounds_moved, isCanvas.minX, isCanvas.minY, Int64.zero_add, across, down]
  -- What the region contains is known; where its corner lies does not matter.
  generalize (rect.clip canvas.bounds).clip
    { maxX := Int64.ofNat source.width, maxY := Int64.ofNat source.height } = region at painted ⊢
  by_cases reached : rect.contains x y = true ∧ x < source.width ∧ y < source.height
  · have right := framed.right
    have bottom := framed.bottom
    have width := framed.width
    have height := framed.height
    -- The part that was clipped off cancels, also where the sums wrap.
    have column : rect.minX + source.minX + (region.minX - rect.minX) +
        (Int64.ofNat x - region.minX) = source.minX + Int64.ofNat x := by grind
    have row : rect.minY + source.minY + (region.minY - rect.minY) +
        (Int64.ofNat y - region.minY) = source.minY + Int64.ofNat y := by grind
    rw [if_pos (painted.mpr reached), column, row, toInt_from_edge (by omega) (by omega),
      toInt_from_edge (by omega) (by omega), colorAt_corner,
      if_pos (by simpa [and_assoc] using reached)]
  · rw [if_neg (mt painted.mp reached), if_neg (by simpa [and_assoc] using reached)]

end Painting

end Picture

/-! ## Runs -/

namespace Placement

/-- Whether a tile other than the first is drawn at a point of the canvas. -/
def Reaches (placement : Placement) (x y : Int) : Prop :=
  placement.rect.contains x y = true ∧ placement.picture.Spans x y

theorem covers_iff_reaches (placement : Placement) (x y : Nat) :
    placement.covers x y = true ↔ placement.Reaches x y := by
  simp only [covers, Reaches, Picture.Spans, Bool.and_eq_true, decide_eq_true_eq]
  constructor
  · rintro ⟨⟨inside, column⟩, row⟩
    exact ⟨inside, by omega, by omega, by omega, by omega⟩
  · rintro ⟨inside, -, column, -, row⟩
    exact ⟨⟨inside, by omega⟩, by omega⟩

theorem covers_eq_false_iff (placement : Placement) (x y : Nat) :
    placement.covers x y = false ↔ ¬placement.Reaches x y := by
  rw [← covers_iff_reaches, Bool.not_eq_true]

/-- Tiles drawn in two batches. -/
theorem topmost_append (placements later : List Placement) (x y : Nat) (below : Color) :
    topmost (placements ++ later) x y below = topmost later x y (topmost placements x y below) := by
  induction placements generalizing below with
  | nil => rfl
  | cons placement rest ih => rw [List.cons_append, topmost_cons, topmost_cons, ih]

/-- Of the tiles over a pixel the last one shows. -/
theorem topmost_of_last {last : Placement} {later : List Placement} {x y : Nat}
    (covers : last.covers x y = true) (uncovered : ∀ placement ∈ later, placement.covers x y = false)
    (earlier : List Placement) (below : Color) :
    topmost (earlier ++ last :: later) x y below = last.picture.color x y := by
  rw [topmost_append, topmost_cons, if_pos covers, topmost_of_uncovered _ uncovered]

end Placement

namespace Compositor

/-- The canvas with a tile on it, drawn by clipping. The first tile fills a new canvas of its own size. -/
def clipped (canvas : Option Picture) (picture : Picture) (rect : Rect) : Picture :=
  match canvas with
  | none =>
    let canvas := Picture.blank picture.width picture.height
    canvas.paint canvas.bounds picture picture.minX picture.minY
  | some canvas => canvas.paint rect picture (rect.minX + picture.minX) (rect.minY + picture.minY)

/-- The canvas after tiles have been drawn by clipping, one after the other. -/
def clippedAll (canvas : Option Picture) (placements : List Placement) : Option Picture :=
  placements.foldl (fun canvas placement =>
    some (clipped canvas placement.picture placement.rect)) canvas

/-- The first picture fills its canvas. -/
theorem normalized_alike_clipped {picture : Picture} (framed : picture.Framed) (rect : Rect) :
    picture.normalized.Alike (clipped none picture rect) := by
  have wide := Int64.toInt_ofNat_of_lt framed.width
  have high := Int64.toInt_ofNat_of_lt framed.height
  have isCanvas : (Picture.blank picture.width picture.height).IsCanvas :=
    ⟨rfl, rfl, framed.width, framed.height⟩
  have painted := Picture.blit_alike_paint isCanvas framed
    (Picture.blank picture.width picture.height).bounds
  -- The rectangle begins at the origin, so the point is the corner of the picture.
  rw [show (Picture.blank picture.width picture.height).bounds.minX = 0 from rfl,
    show (Picture.blank picture.width picture.height).bounds.minY = 0 from rfl,
    Int64.zero_add, Int64.zero_add] at painted
  have filled : picture.normalized.Alike ((Picture.blank picture.width picture.height).blit picture
      (Picture.blank picture.width picture.height).bounds) := by
    refine ⟨rfl, rfl, rfl, rfl, rfl, fun x column y row => ?_⟩
    change x < picture.width at column
    change y < picture.height at row
    have inside : (Picture.blank picture.width picture.height).bounds.contains x y = true := by
      rw [Rect.contains_iff]
      simp only [Picture.blank, Picture.bounds, Int64.zero_add, Int64.toInt_zero, wide, high]
      omega
    simp [Picture.blit, Picture.normalized, inside, column, row]
  exact filled.trans painted

/-- Tiles that are drawn by clipping leave the canvas that they leave corner on corner. -/
theorem applyAll_alike_clipped {rest : List Placement}
    (framed : ∀ placement ∈ rest, placement.picture.Framed) {compositor : Compositor}
    {canvas other : Picture} (begun : compositor.canvas = some canvas) (isCanvas : canvas.IsCanvas)
    (alike : canvas.Alike other) :
    ∃ drawn last, (compositor.applyAll rest).canvas = some drawn ∧
      clippedAll (some other) rest = some last ∧ drawn.Alike last := by
  induction rest generalizing compositor canvas other with
  | nil => exact ⟨canvas, other, begun, rfl, alike⟩
  | cons placement more ih =>
    obtain ⟨first, others⟩ := List.forall_mem_cons.mp framed
    have next := apply_canvas compositor placement.store placement.token placement.picture
      placement.rect
    rw [begun] at next
    have otherCanvas : other.IsCanvas :=
      ⟨alike.minX ▸ isCanvas.minX, alike.minY ▸ isCanvas.minY, alike.width ▸ isCanvas.width,
        alike.height ▸ isCanvas.height⟩
    have step := (alike.blit placement.picture placement.rect).trans
      (Picture.blit_alike_paint otherCanvas first placement.rect)
    exact ih others next ⟨isCanvas.minX, isCanvas.minY, isCanvas.width, isCanvas.height⟩ step

/-- The colours of the canvas that a run leaves. -/
theorem applyAll_begin_color (compositor : Compositor) (output : String) (first : Placement)
    (rest : List Placement) :
    ∃ canvas, ((compositor.begin output).applyAll (first :: rest)).canvas = some canvas ∧
      canvas.minX = 0 ∧ canvas.minY = 0 ∧
      canvas.width = first.picture.width ∧ canvas.height = first.picture.height ∧
      ∀ x y : Nat, canvas.colorAt x y = Placement.topmost rest x y (first.picture.color x y) := by
  refine ⟨_, applyAll_begin compositor output first rest, rfl, rfl, rfl, rfl, fun x y => ?_⟩
  simp [Picture.colorAt, Picture.color]

/-- The canvas that a run leaves is the one that clipping leaves. -/
theorem applyAll_begin_alike (compositor : Compositor) (output : String) {first : Placement}
    {rest : List Placement} (framed : ∀ placement ∈ first :: rest, placement.picture.Framed) :
    ∃ drawn painted, ((compositor.begin output).applyAll (first :: rest)).canvas = some drawn ∧
      clippedAll none (first :: rest) = some painted ∧ drawn.Alike painted := by
  obtain ⟨own, others⟩ := List.forall_mem_cons.mp framed
  have opened := apply_canvas (compositor.begin output) first.store first.token first.picture
    first.rect
  exact applyAll_alike_clipped others opened ⟨rfl, rfl, own.width, own.height⟩
    (normalized_alike_clipped own first.rect)

/-- Tiles come in with pictures of any size and corner and with any rectangles, empty ones and those that
reach past the canvas or the picture included, and the saves may fail. The canvas has the size of the
first picture and its corner at the origin throughout. Each pixel shows the last of the later tiles that
reaches it, and the first picture if none does, at the same distance from the picture's corner. A later
tile changes no pixel outside its rectangle. And this is the canvas that clipping in machine arithmetic
leaves. -/
theorem canvas_shows_last_tile_that_reaches (compositor : Compositor) (output : String)
    (first : Placement) (rest : List Placement) :
    ∃ canvas, ((compositor.begin output).applyAll (first :: rest)).canvas = some canvas ∧
      canvas.minX = 0 ∧ canvas.minY = 0 ∧
      canvas.width = first.picture.width ∧ canvas.height = first.picture.height ∧
      (∀ x y, canvas.Spans x y →
        (∀ earlier last later, rest = earlier ++ last :: later → last.Reaches x y →
          (∀ other ∈ later, ¬other.Reaches x y) →
          canvas.colorAt x y = last.picture.colorAt (x + last.picture.minX.toInt)
            (y + last.picture.minY.toInt)) ∧
        ((∀ other ∈ rest, ¬other.Reaches x y) →
          canvas.colorAt x y = first.picture.colorAt (x + first.picture.minX.toInt)
            (y + first.picture.minY.toInt))) ∧
      (∀ next, ∃ following,
        ((compositor.begin output).applyAll (first :: (rest ++ [next]))).canvas = some following ∧
        following.minX = 0 ∧ following.minY = 0 ∧
        following.width = canvas.width ∧ following.height = canvas.height ∧
        ∀ x y, canvas.Spans x y → next.rect.contains x y = false →
          following.colorAt x y = canvas.colorAt x y) ∧
      ((∀ placement ∈ first :: rest, placement.picture.Framed) →
        ∃ painted, clippedAll none (first :: rest) = some painted ∧ canvas.Alike painted) := by
  obtain ⟨canvas, drawn, left, top, wide, high, color⟩ :=
    applyAll_begin_color compositor output first rest
  refine ⟨canvas, drawn, left, top, wide, high, ?_, ?_, ?_⟩
  · intro x y inside
    obtain ⟨x, y, rfl, rfl⟩ := inside.exists_pixel
    constructor
    · rintro earlier last later rfl reaches missed
      have covers := (last.covers_iff_reaches x y).mpr reaches
      have uncovered : ∀ placement ∈ later, placement.covers x y = false := fun placement member =>
        (placement.covers_eq_false_iff x y).mpr (missed placement member)
      rw [color, Picture.colorAt_corner]
      exact Placement.topmost_of_last covers uncovered earlier _
    · intro missed
      have uncovered : ∀ placement ∈ rest, placement.covers x y = false := fun placement member =>
        (placement.covers_eq_false_iff x y).mpr (missed placement member)
      rw [color, Picture.colorAt_corner]
      exact Placement.topmost_of_uncovered _ uncovered
  · intro next
    obtain ⟨following, drawn', left', top', wide', high', color'⟩ :=
      applyAll_begin_color compositor output first (rest ++ [next])
    refine ⟨following, drawn', left', top', wide'.trans wide.symm, high'.trans high.symm, ?_⟩
    intro x y inside outside
    obtain ⟨x, y, rfl, rfl⟩ := inside.exists_pixel
    have uncovered : ∀ placement ∈ [next], placement.covers x y = false := by
      simp [Placement.covers, outside]
    rw [color', color, Placement.topmost_append, Placement.topmost_of_uncovered _ uncovered]
  · intro framed
    obtain ⟨drawn', painted, shown, clipped, alike⟩ :=
      applyAll_begin_alike compositor output framed
    obtain rfl : canvas = drawn' := Option.some.inj (drawn.symm.trans shown)
    exact ⟨painted, clipped, alike⟩

/-- The point of the second picture that lies on the corner of its rectangle wraps. -/
example : (clippedAll none [
      ⟨{ width := 2, height := 1, pixel := fun _ _ => { red := 1 } }, {}, default, ""⟩,
      ⟨{ minX := -5, width := 3, height := 1, pixel := fun x _ => { red := 10 + x.toUInt8 } },
        { minX := -9223372036854775808, maxX := 1, maxY := 1 }, default, ""⟩]).map
      (fun canvas => [(canvas.pixel 0 0).red, (canvas.pixel 1 0).red]) = some [10, 1] := by
  decide +kernel

end Compositor

end Mosaic
