import Mosaic.Proofs.ArtifactText

/-! What renderers are told to draw is what is put on the canvas. An artifact gives the bounds of its
tile counted from one, brought into the picture, and the compositor takes a rectangle counted from
zero that may reach past it. On the pixels of the picture the two agree. -/
namespace Mosaic

namespace Artifact

/-- The part of a picture that a renderer is told to draw, as its artifact gives it. Columns and rows
are counted from one and the bounds belong to the region. -/
structure Region where
  width : Int
  height : Int
  startColumn : Int
  endColumn : Int
  startRow : Int
  endRow : Int
  deriving DecidableEq, Repr

namespace Region

/-- Reads the region off the lines of an artifact. -/
def read? (lines : List String) : Option Region := do
  let width ← number? "Width" lines
  let height ← number? "Height" lines
  let startColumn ← number? "Start_Column" lines
  let endColumn ← number? "End_Column" lines
  let startRow ← number? "Start_Row" lines
  let endRow ← number? "End_Row" lines
  return { width, height, startColumn, endColumn, startRow, endRow }

/-- Whether a pixel, counted from zero, lies in the region. -/
def Covers (region : Region) (x y : Nat) : Prop :=
  region.startColumn ≤ x + 1 ∧ x + 1 ≤ region.endColumn ∧
    region.startRow ≤ y + 1 ∧ y + 1 ≤ region.endRow

end Region

/-- The region of a tile: its bounds brought into the picture. -/
def region (job : Job) (tile : Tile) : Region where
  width := job.width.toInt
  height := job.height.toInt
  startColumn := (startBound tile.startColumn).toInt
  endColumn := (endBound tile.endColumn job.width).toInt
  startRow := (startBound tile.startRow).toInt
  endRow := (endBound tile.endRow job.height).toInt

/-- The artifact of a tile gives its region. -/
theorem read?_lines (writer : ArtifactWriter) (job : Job) (tile : Tile) :
    Region.read? ((lines writer job tile).map Line.text) = some (region job tile) := by
  have width := number?_alone "Width" rfl (by decide) job.width writer job tile rfl
  have height := number?_alone "Height" rfl (by decide) job.height writer job tile rfl
  have startColumn := number?_alone "Start_Column" rfl (by decide) (startBound tile.startColumn)
    writer job tile rfl
  have endColumn := number?_alone "End_Column" rfl (by decide) (endBound tile.endColumn job.width)
    writer job tile rfl
  have startRow := number?_alone "Start_Row" rfl (by decide) (startBound tile.startRow)
    writer job tile rfl
  have endRow := number?_alone "End_Row" rfl (by decide) (endBound tile.endRow job.height)
    writer job tile rfl
  simp only [Region.read?, width, height, startColumn, endColumn, startRow, endRow]
  rfl

theorem startBound_of_positive {bound : Int64} (positive : 1 ≤ bound.toInt) :
    startBound bound = bound := by
  have above : ¬bound ≤ 0 := by
    rw [Int64.le_iff_toInt_le, Int64.toInt_zero]
    omega
  rw [startBound, if_neg above]

/-- A last bound as written is the nearer of the bound and the size. -/
theorem endBound_of_positive {bound size : Int64} (positive : 1 ≤ bound.toInt) :
    (endBound bound size).toInt = min bound.toInt size.toInt := by
  have above : ¬bound ≤ 0 := by
    rw [Int64.le_iff_toInt_le, Int64.toInt_zero]
    omega
  simp only [endBound, above, decide_false, Bool.false_or, decide_eq_true_eq, Int64.lt_iff_toInt_lt]
  split <;> omega

end Artifact

open Artifact

section Stripes
variable {job : Job} (fits : Fits job.width job.workers) (rows : 1 ≤ job.height.toInt)
include fits rows

/-- A stripe begins inside the picture or beyond its right edge, and all that is brought in is its
last column. -/
theorem stripe_region (position : Fin (partition job.width job.height job.workers).length) :
    region job ((partition job.width job.height job.workers).get position) =
      { width := job.width.toInt
        height := job.height.toInt
        startColumn :=
          ((partition job.width job.height job.workers).get position).startColumn.toInt
        endColumn :=
          min ((partition job.width job.height job.workers).get position).endColumn.toInt
            job.width.toInt
        startRow := 1
        endRow := job.height.toInt } := by
  obtain ⟨inside, tile⟩ := partition_get fits position
  obtain ⟨start, stop⟩ := stripe_bounds fits job.height inside
  obtain ⟨positive, -, -⟩ := stride_bounds fits
  obtain ⟨left, -⟩ := stripe_range fits inside
  rw [tile]
  simp only [region]
  rw [startBound_of_positive (by omega), endBound_of_positive (by omega)]
  have first : (startBound (stripe (stride job.width job.workers) job.height
      (Int64.ofNat position)).startRow).toInt = 1 := by
    rw [startBound_of_positive (by simp [stripe])]
    simp [stripe]
  have last : (endBound (stripe (stride job.width job.workers) job.height
      (Int64.ofNat position)).endRow job.height).toInt = job.height.toInt := by
    rw [endBound_of_positive (by simpa [stripe] using rows)]
    simp [stripe]
  rw [first, last]

/-- On the picture, the region of a stripe is made of the columns that the stripe owns. -/
theorem stripe_region_covers (position : Fin (partition job.width job.height job.workers).length)
    {x y : Nat} (column : (x : Int) < job.width.toInt) (row : (y : Int) < job.height.toInt) :
    (region job ((partition job.width job.height job.workers).get position)).Covers x y ↔
      ((partition job.width job.height job.workers).get position).Owns x := by
  rw [stripe_region fits rows]
  simp only [Region.Covers, Tile.Owns]
  omega

end Stripes

/-- Each renderer is told the bounds of its stripe, brought into the picture. On the pixels of the
picture, the region that is read off its artifact is the rectangle that is put on the canvas. It is read
off the lines that are written, and off the text itself if no path breaks a line. No region reaches past
the picture, every pixel lies in the region of exactly one stripe, and stripes beyond the right edge are
told an empty region. -/
theorem drawn_region_is_composited {job : Job} (valid : job.validate = .ok ())
    (bounded : job.width.toInt + job.workers.toInt - 1 ≤ 2 ^ 63 - 1) :
    let tiles := partition job.width job.height job.workers
    ∃ regions : Fin tiles.length → Region,
      (∀ position writer file,
        Region.read? ((lines writer job { tiles.get position with outputFile := file }).map
          Line.text) = some (regions position)) ∧
      (∀ position writer file,
        NoLineFeed writer job { tiles.get position with outputFile := file } →
        Region.read? (linesOf (text writer job { tiles.get position with outputFile := file })) =
          some (regions position)) ∧
      (∀ position (x y : Nat), (x : Int) < job.width.toInt → (y : Int) < job.height.toInt →
        ((tiles.get position).rect.contains x y = true ↔ (regions position).Covers x y)) ∧
      (∀ position, (regions position).width = job.width.toInt ∧
        (regions position).height = job.height.toInt ∧
        (regions position).endColumn ≤ (regions position).width ∧
        (regions position).endRow ≤ (regions position).height) ∧
      (∀ x y : Nat, (x : Int) < job.width.toInt → (y : Int) < job.height.toInt →
        ∃! position, (regions position).Covers x y) ∧
      ∀ position, job.width < (tiles.get position).startColumn →
        ∀ x y, ¬(regions position).Covers x y := by
  intro tiles
  obtain ⟨columns, rows, hands⟩ := Job.size_of_validate valid
  have fits : Fits job.width job.workers := ⟨columns, hands, bounded⟩
  refine ⟨fun position => region job (tiles.get position), fun position writer file => ?_,
    fun position writer file free => ?_, fun position x y column row => ?_, fun position => ?_,
    fun x y column row => ?_, fun position outside x y covered => ?_⟩
  · exact read?_lines ..
  · rw [linesOf_text (Job.renderable_of_validate valid).1 free]
    exact read?_lines ..
  · rw [stripe_region_covers fits rows position column row, stripe_contains_iff fits rows,
      and_iff_left row]
  · have shape := stripe_region fits rows position
    simp only [tiles, shape]
    exact ⟨trivial, trivial, min_le_right _ _, le_refl _⟩
  · simp only [tiles, stripe_region_covers fits rows _ column row]
    exact exists_unique_owner fits job.height column
  · have shape := stripe_region fits rows position
    obtain ⟨left, right, -, -⟩ := covered
    simp only [tiles, shape] at left right
    rw [Int64.lt_iff_toInt_lt] at outside
    simp only [tiles] at outside
    omega

/-- A job with four stripes, of which the last lies beyond the right edge of the picture. -/
def overshooting : Job :=
  { scene := "scene.pov", output := "canvas.png", width := 5, height := 2, workers := 4 }

theorem overshooting_region_is_composited :
    overshooting.validate = .ok () ∧
      overshooting.width.toInt + overshooting.workers.toInt - 1 ≤ 2 ^ 63 - 1 ∧
      ∃ regions : Fin (partition 5 2 4).length → Region,
        (∀ position writer file,
          Region.read? ((lines writer overshooting
            { (partition 5 2 4).get position with outputFile := file }).map Line.text) =
              some (regions position)) ∧
        (∀ position, Region.read? (linesOf (text {} overshooting
          { (partition 5 2 4).get position with outputFile := "stripe.png" })) =
            some (regions position)) ∧
        (∀ x y : Nat, (x : Int) < 5 → (y : Int) < 2 → ∃! position, (regions position).Covers x y) ∧
        ∀ position, 5 < ((partition 5 2 4).get position).startColumn →
          ∀ x y, ¬(regions position).Covers x y := by
  have valid : overshooting.validate = .ok () := by decide +kernel
  have bounded : overshooting.width.toInt + overshooting.workers.toInt - 1 ≤ 2 ^ 63 - 1 := by decide
  have plain : ∀ path ∈ ["scene.pov", "stripe.png", ""], '\n' ∉ path.toList := by decide
  obtain ⟨regions, written, told, -, -, once, beyond⟩ := drawn_region_is_composited valid bounded
  exact ⟨valid, bounded, regions, written, fun position => told position {} "stripe.png" plain, once,
    beyond⟩

end Mosaic
