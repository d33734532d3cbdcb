import Mosaic.Compositor
import Mosaic.Proofs.Stripes

/-! What a run of the compositor leaves on the canvas. Each pixel shows the last tile that was drawn
over it, or the first tile, which is copied whole. As every column of a picture belongs to one
stripe, the order in which the stripes arrive does not matter, and neither do repetitions or failed
saves. -/
namespace Mosaic

/-- A tile as it is handed to the compositor, with the files its save will find. -/
structure Placement where
  picture : Picture
  rect : Rect
  store : FileStore
  token : String

namespace Placement

/-- Whether a pixel is drawn when the tile is not the first. -/
def covers (placement : Placement) (x y : Nat) : Bool :=
  placement.rect.contains x y && x < placement.picture.width && y < placement.picture.height

/-- The colour that a pixel has after tiles were drawn over a canvas: that of the last tile which
covers it. -/
def topmost (placements : List Placement) (x y : Nat) (below : Color) : Color :=
  ((placements.reverse.find? (·.covers x y)).map (·.picture.color x y)).getD below

theorem topmost_cons (placement : Placement) (rest : List Placement) (x y : Nat) (below : Color) :
    topmost (placement :: rest) x y below =
      topmost rest x y (if placement.covers x y then placement.picture.color x y else below) := by
  simp only [topmost, List.reverse_cons, List.find?_append, List.find?_singleton]
  cases rest.reverse.find? (·.covers x y) with
  | some last => rfl
  | none => cases placement.covers x y <;> rfl

theorem topmost_of_uncovered {placements : List Placement} {x y : Nat} (below : Color)
    (uncovered : ∀ placement ∈ placements, placement.covers x y = false) :
    topmost placements x y below = below := by
  have none : placements.reverse.find? (·.covers x y) = none := by
    rw [List.find?_eq_none]
    intro placement member
    simp [uncovered placement (List.mem_reverse.mp member)]
  rw [topmost, none]
  rfl

/-- Where all tiles over a pixel show the same colour there, it does not matter which is the last.
-/
theorem topmost_of_covered {placements : List Placement} {x y : Nat} {color : Color} (below : Color)
    (covered : ∃ placement ∈ placements, placement.covers x y = true)
    (agree : ∀ placement ∈ placements, placement.covers x y = true →
      placement.picture.color x y = color) :
    topmost placements x y below = color := by
  obtain ⟨placement, member, covers⟩ := covered
  cases found : placements.reverse.find? (·.covers x y) with
  | none =>
    rw [List.find?_eq_none] at found
    exact absurd covers (found placement (List.mem_reverse.mpr member))
  | some last =>
    have among := List.mem_reverse.mp (List.mem_of_find?_eq_some found)
    have covering : last.covers x y = true := by simpa using List.find?_some found
    simpa [topmost, found] using agree last among covering

end Placement

namespace Compositor

/-- Puts tiles on the canvas one after the other, whatever becomes of the saves. -/
def applyAll (compositor : Compositor) (placements : List Placement) : Compositor :=
  placements.foldl (fun compositor placement =>
    (compositor.apply placement.store placement.token placement.picture placement.rect).1) compositor

/-- The canvas does not depend on its save. -/
theorem apply_canvas (compositor : Compositor) (store : FileStore) (token : String)
    (picture : Picture) (rect : Rect) :
    (compositor.apply store token picture rect).1.canvas =
      some (draw compositor.canvas picture rect) := by
  simp only [apply]
  split <;> rfl

/-- Tiles drawn on a canvas change its pixels and nothing else. -/
theorem applyAll_canvas (placements : List Placement) {compositor : Compositor} {canvas : Picture}
    (begun : compositor.canvas = some canvas) :
    (compositor.applyAll placements).canvas = some { canvas with
      pixel := fun x y => Placement.topmost placements x y (canvas.pixel x y) } := by
  induction placements generalizing compositor canvas with
  | nil => exact begun
  | cons placement rest ih =>
    have next := apply_canvas compositor placement.store placement.token placement.picture
      placement.rect
    rw [begun] at next
    rw [applyAll, List.foldl_cons, ← applyAll, ih next]
    simp only [Placement.topmost_cons]
    rfl

/-- The canvas of a job: the first picture in full, and over it the tiles that came later. -/
theorem applyAll_begin (compositor : Compositor) (output : String) (first : Placement)
    (rest : List Placement) :
    ((compositor.begin output).applyAll (first :: rest)).canvas = some {
      width := first.picture.width
      height := first.picture.height
      pixel := fun x y => Placement.topmost rest x y (first.picture.color x y) } := by
  have opened := apply_canvas (compositor.begin output) first.store first.token first.picture
    first.rect
  rw [applyAll, List.foldl_cons, ← applyAll, applyAll_canvas rest opened]
  rfl

end Compositor

/-! ## The stripes of one picture -/

/-- The arrival of a finished stripe, with the files that the save of the canvas will find. -/
structure Arrival (count : Nat) where
  position : Fin count
  store : FileStore
  token : String

/-- The arriving stripe on its way to the canvas. -/
def Arrival.placement {tiles : List Tile} (images : Fin tiles.length → Picture)
    (arrival : Arrival tiles.length) : Placement where
  picture := images arrival.position
  rect := (tiles.get arrival.position).rect
  store := arrival.store
  token := arrival.token

/-- The canvas of a job after stripes have arrived. -/
def composite (compositor : Compositor) (output : String) {tiles : List Tile}
    (images : Fin tiles.length → Picture) (arrivals : List (Arrival tiles.length)) : Option Picture :=
  ((compositor.begin output).applyAll (arrivals.map (Arrival.placement images))).canvas

/-- The colour of a pixel whose column belongs to `owner`: the owner's once it has arrived, and until
then that of the first arrival. -/
structure Shows {tiles : List Tile} (images : Fin tiles.length → Picture)
    (first : Arrival tiles.length) (rest : List (Arrival tiles.length))
    (owner : Fin tiles.length) (x y : Nat) (color : Color) : Prop where
  arrived : owner ∈ (first :: rest).map (·.position) → color = (images owner).color x y
  missing : owner ∉ (first :: rest).map (·.position) → color = (images first.position).color x y

/-- Two pictures of the same size in which every pixel is the same. -/
structure Picture.Alike (left right : Picture) : Prop where
  minX : left.minX = right.minX
  minY : left.minY = right.minY
  width : left.width = right.width
  height : left.height = right.height
  isStraight : left.isStraight = right.isStraight
  pixel : ∀ x < left.width, ∀ y < left.height, left.pixel x y = right.pixel x y

section Stripes
variable {width height workers : Int64} (fits : Fits width workers) (rows : 1 ≤ height.toInt)
  {images : Fin (partition width height workers).length → Picture}
  (sized : ∀ index, (images index).width = width.toInt ∧ (images index).height = height.toInt)
include fits rows sized

/-- Inside the picture a stripe covers its own columns. -/
theorem placement_covers_iff (arrival : Arrival (partition width height workers).length) {x y : Nat}
    (column : (x : Int) < width.toInt) (row : (y : Int) < height.toInt) :
    (arrival.placement images).covers x y = true ↔
      ((partition width height workers).get arrival.position).Owns x := by
  obtain ⟨wide, high⟩ := sized arrival.position
  have across : x < (images arrival.position).width := by omega
  have down : y < (images arrival.position).height := by omega
  have placed := stripe_contains_iff fits rows arrival.position x y
  rw [and_iff_left row] at placed
  rw [← placed]
  simp [Arrival.placement, Placement.covers, across, down]

/-- Each pixel shows the stripe that owns its column, once that stripe has arrived, and the first
arrival until then. -/
theorem composite_pixel (compositor : Compositor) (output : String)
    (first : Arrival (partition width height workers).length)
    (rest : List (Arrival (partition width height workers).length)) :
    ∃ canvas, composite compositor output images (first :: rest) = some canvas ∧
      canvas.minX = 0 ∧ canvas.minY = 0 ∧ canvas.isStraight = false ∧
      canvas.width = width.toInt ∧ canvas.height = height.toInt ∧
      ∀ (x y : Nat), (x : Int) < width.toInt → (y : Int) < height.toInt →
        ∀ owner, ((partition width height workers).get owner).Owns x →
          Shows images first rest owner x y (canvas.pixel x y) := by
  obtain ⟨wide, high⟩ := sized first.position
  refine ⟨_, Compositor.applyAll_begin compositor output (first.placement images)
    (rest.map (Arrival.placement images)), rfl, rfl, rfl, wide, high, ?_⟩
  intro x y column row owner owns
  have covers := fun arrival => placement_covers_iff fits rows sized arrival column row
  -- Whoever covers the pixel owns its column, and a column has one owner.
  have alone : ∀ arrival : Arrival _, (arrival.placement images).covers x y = true →
      arrival.position = owner := fun arrival covered =>
    (exists_unique_owner fits height column).unique ((covers arrival).mp covered) owns
  by_cases later : owner ∈ rest.map (·.position)
  · obtain ⟨arrival, member, rfl⟩ := List.mem_map.mp later
    refine ⟨fun _ => ?_, fun missing => absurd (List.mem_cons_of_mem _ later) missing⟩
    refine Placement.topmost_of_covered _
      ⟨_, List.mem_map_of_mem member, (covers arrival).mpr owns⟩ fun placement among covered => ?_
    obtain ⟨other, -, rfl⟩ := List.mem_map.mp among
    exact congrArg (fun index => (images index).color x y) (alone other covered)
  · have uncovered : ∀ placement ∈ rest.map (Arrival.placement images),
        placement.covers x y = false := by
      intro placement among
      obtain ⟨other, member, rfl⟩ := List.mem_map.mp among
      rw [Bool.eq_false_iff]
      exact fun covered => later (alone other covered ▸ List.mem_map_of_mem member)
    have opening := Placement.topmost_of_uncovered ((images first.position).color x y) uncovered
    refine ⟨fun arrived => ?_, fun _ => opening⟩
    rcases List.mem_cons.mp arrived with rfl | among
    · exact opening
    · exact absurd among later

/-- Two runs leave the same canvas if every pixel shows the same after both. -/
theorem composite_alike (compositor : Compositor) (output : String)
    (first first' : Arrival (partition width height workers).length)
    (rest rest' : List (Arrival (partition width height workers).length))
    (same : ∀ (x y : Nat), (x : Int) < width.toInt → (y : Int) < height.toInt →
      ∀ owner, ((partition width height workers).get owner).Owns x →
        ∀ color color', Shows images first rest owner x y color →
          Shows images first' rest' owner x y color' → color = color') :
    ∃ canvas canvas', composite compositor output images (first :: rest) = some canvas ∧
      composite compositor output images (first' :: rest') = some canvas' ∧ canvas.Alike canvas' := by
  obtain ⟨canvas, drawn, left, top, flag, wide, high, pixel⟩ :=
    composite_pixel fits rows sized compositor output first rest
  obtain ⟨canvas', drawn', left', top', flag', wide', high', pixel'⟩ :=
    composite_pixel fits rows sized compositor output first' rest'
  refine ⟨canvas, canvas', drawn, drawn', left.trans left'.symm, top.trans top'.symm, by omega,
    by omega, flag.trans flag'.symm, fun x column y row => ?_⟩
  obtain ⟨owner, owns, -⟩ := exists_unique_owner fits height (show (x : Int) < _ by omega)
  exact same x y (by omega) (by omega) owner owns _ _ (pixel x y (by omega) (by omega) owner owns)
    (pixel' x y (by omega) (by omega) owner owns)

/-- Once every stripe that meets the picture has arrived, the canvas is settled. -/
theorem composite_of_complete (compositor : Compositor) (output : String)
    (arrivals arrivals' : List (Arrival (partition width height workers).length))
    (complete : ∀ index, ((partition width height workers).get index).startColumn ≤ width →
      index ∈ arrivals.map (·.position) ∧ index ∈ arrivals'.map (·.position)) :
    ∃ canvas canvas', composite compositor output images arrivals = some canvas ∧
      composite compositor output images arrivals' = some canvas' ∧ canvas.Alike canvas' := by
  have arrived : ∀ {x : Nat}, (x : Int) < width.toInt → ∀ {owner},
      ((partition width height workers).get owner).Owns x →
      owner ∈ arrivals.map (·.position) ∧ owner ∈ arrivals'.map (·.position) := by
    intro x column owner owns
    refine complete owner (Int64.le_iff_toInt_le.mpr ?_)
    have := owns.1
    omega
  -- The first column has an owner, so something has arrived in both runs.
  have column : ((0 : Nat) : Int) < width.toInt := Int.lt_of_lt_of_le (by decide) fits.columns
  obtain ⟨owner, owns, -⟩ := exists_unique_owner fits height column
  obtain ⟨member, member'⟩ := arrived column owns
  obtain _ | ⟨first, rest⟩ := arrivals
  · simp at member
  obtain _ | ⟨first', rest'⟩ := arrivals'
  · simp at member'
  refine composite_alike fits rows sized compositor output first first' rest rest' ?_
  intro x y column row owner owns color color' shows shows'
  obtain ⟨here, there⟩ := arrived column owns
  rw [shows.arrived here, shows'.arrived there]

/-- Where the images agree outside their own stripes, a missing stripe shows the same whichever
stripe came first. -/
theorem composite_of_background (compositor : Compositor) (output : String)
    (background : Nat → Nat → Color)
    (blank : ∀ index (x y : Nat), (x : Int) < width.toInt → (y : Int) < height.toInt →
      ¬((partition width height workers).get index).Owns x →
      (images index).color x y = background x y)
    (arrivals arrivals' : List (Arrival (partition width height workers).length))
    (begun : arrivals ≠ [])
    (same : ∀ index, index ∈ arrivals.map (·.position) ↔ index ∈ arrivals'.map (·.position)) :
    ∃ canvas canvas', composite compositor output images arrivals = some canvas ∧
      composite compositor output images arrivals' = some canvas' ∧ canvas.Alike canvas' := by
  obtain ⟨first, rest, rfl⟩ := List.exists_cons_of_ne_nil begun
  have member : first.position ∈ arrivals'.map (·.position) := (same _).mp (by simp)
  obtain _ | ⟨first', rest'⟩ := arrivals'
  · simp at member
  refine composite_alike fits rows sized compositor output first first' rest rest' ?_
  intro x y column row owner owns color color' shows shows'
  by_cases arrived : owner ∈ (first :: rest).map (·.position)
  · rw [shows.arrived arrived, shows'.arrived ((same owner).mp arrived)]
  · have missing := fun there => arrived ((same owner).mpr there)
    rw [shows.missing arrived, shows'.missing missing]
    -- The owner is missing, so neither first arrival owns the column.
    have foreign : ∀ index, index ≠ owner → (images index).color x y = background x y := by
      intro index other
      refine blank index x y column row fun owned => other ?_
      exact (exists_unique_owner fits height column).unique owned owns
    rw [foreign first.position fun here => arrived (by simp [here]),
      foreign first'.position fun here => missing (by simp [here])]

/-- The stripes of a picture may arrive in any order and repeatedly, and the saves may fail. The
canvas has the size of the picture, and each pixel shows the one stripe that owns its column, or the
first arrival as long as that stripe is missing. So the order does not matter once every stripe that
meets the picture has arrived; and it never matters if the images agree outside their own stripes,
as they do when they are blank there. -/
theorem stripes_arrive_in_any_order (compositor : Compositor) (output : String) :
    (∀ first rest, ∃ canvas, composite compositor output images (first :: rest) = some canvas ∧
      canvas.minX = 0 ∧ canvas.minY = 0 ∧
      canvas.width = width.toInt ∧ canvas.height = height.toInt ∧
      ∀ x < canvas.width, ∀ y < canvas.height, ∃ owner,
        (∀ index, ((partition width height workers).get index).Owns x ↔ index = owner) ∧
        (owner ∈ (first :: rest).map (·.position) →
          canvas.color x y = (images owner).color x y) ∧
        (owner ∉ (first :: rest).map (·.position) →
          canvas.color x y = (images first.position).color x y)) ∧
    (∀ arrivals arrivals',
      (∀ index, ((partition width height workers).get index).startColumn ≤ width →
        index ∈ arrivals.map (·.position) ∧ index ∈ arrivals'.map (·.position)) →
      ∃ canvas canvas', composite compositor output images arrivals = some canvas ∧
        composite compositor output images arrivals' = some canvas' ∧ canvas.Alike canvas') ∧
    ∀ background : Nat → Nat → Color,
      (∀ index (x y : Nat), (x : Int) < width.toInt → (y : Int) < height.toInt →
        ¬((partition width height workers).get index).Owns x →
        (images index).color x y = background x y) →
      ∀ arrivals arrivals', arrivals ≠ [] →
        (∀ index, index ∈ arrivals.map (·.position) ↔ index ∈ arrivals'.map (·.position)) →
        ∃ canvas canvas', composite compositor output images arrivals = some canvas ∧
          composite compositor output images arrivals' = some canvas' ∧ canvas.Alike canvas' := by
  refine ⟨fun first rest => ?_, composite_of_complete fits rows sized compositor output,
    composite_of_background fits rows sized compositor output⟩
  obtain ⟨canvas, drawn, left, top, flag, wide, high, pixel⟩ :=
    composite_pixel fits rows sized compositor output first rest
  refine ⟨canvas, drawn, left, top, wide, high, fun x column y row => ?_⟩
  obtain ⟨owner, owns, alone⟩ := exists_unique_owner fits height (show (x : Int) < _ by omega)
  have shown : canvas.color x y = canvas.pixel x y := by
    rw [Picture.color, flag]
    rfl
  have shows := pixel x y (by omega) (by omega) owner owns
  rw [shown]
  exact ⟨owner, fun index => ⟨alone index, fun same => same ▸ owns⟩, shows.arrived, shows.missing⟩

end Stripes

/-- Four stripes of a picture five columns wide, the last of them beyond its right edge. Each image
is blank outside its own stripe, and its corner is not the origin. -/
def striped (index : Fin (partition 5 2 4).length) : Picture where
  minX := -7
  width := 5
  height := 2
  isStraight := true
  pixel x _ :=
    if ((partition 5 2 4).get index).Owns x then { red := index.val.toUInt8, alpha := 128 } else {}

/-- The arrival of one of the four stripes. -/
def stripedArrival (index : Fin 4) : Arrival (partition 5 2 4).length :=
  ⟨index.cast (by decide +kernel), default, ""⟩

theorem striped_arrives_in_any_order :
    Fits 5 4 ∧ (1 : Int) ≤ (2 : Int64).toInt ∧
      (∀ index, (striped index).width = (5 : Int64).toInt ∧
        (striped index).height = (2 : Int64).toInt) ∧
      (∃ canvas canvas',
        composite {} "canvas.png" striped ([2, 0, 1, 0].map stripedArrival) = some canvas ∧
        composite {} "canvas.png" striped ([0, 3, 1, 2].map stripedArrival) = some canvas' ∧
        canvas.Alike canvas') ∧
      ∃ canvas canvas',
        composite {} "canvas.png" striped ([2, 0].map stripedArrival) = some canvas ∧
        composite {} "canvas.png" striped ([0, 2, 0].map stripedArrival) = some canvas' ∧
        canvas.Alike canvas' := by
  have fits : Fits 5 4 := ⟨by decide, by decide, by decide⟩
  have sized : ∀ index, (striped index).width = (5 : Int64).toInt ∧
      (striped index).height = (2 : Int64).toInt := fun _ => ⟨rfl, rfl⟩
  obtain ⟨-, complete, background⟩ :=
    stripes_arrive_in_any_order fits (by decide) sized {} "canvas.png"
  refine ⟨fits, by decide, sized, complete _ _ (by decide +kernel), ?_⟩
  refine background (fun _ _ => {}) (fun index x y _ _ foreign => ?_) _ _ (by simp)
    (by decide +kernel)
  simp only [Picture.color, striped, if_neg foreign]
  decide

end Mosaic
