import Mathlib.Algebra.Order.Ring.Int
import Mosaic.Tile

/-! The stripes of a picture in exact arithmetic. As long as width and number of workers together
fit a machine integer, the bounds of the stripes are what they are over the integers, and every
column of the picture lies in exactly one of them. -/
namespace Mosaic

/-- A picture that can be cut without overflow: it has columns, there are workers, and both together
fit a machine integer. -/
structure Fits (width workers : Int64) : Prop where
  columns : 1 ≤ width.toInt
  hands : 1 ≤ workers.toInt
  bounded : width.toInt + workers.toInt - 1 ≤ 2 ^ 63 - 1

/-- The number of columns of each stripe. -/
def stride (width workers : Int64) : Int64 := (width + workers - 1) / workers

theorem bmod_of_fits {n : Int} (low : -2 ^ 63 ≤ n) (high : n < 2 ^ 63) : n.bmod (2 ^ 64) = n :=
  Int.bmod_eq_of_le (by simpa using low) (by simpa using high)

theorem toInt_min (a b : Int64) : (min a b).toInt = min a.toInt b.toInt := by
  simp only [min, Int64.le_iff_toInt_le]
  split <;> rfl

theorem toInt_max (a b : Int64) : (max a b).toInt = max a.toInt b.toInt := by
  simp only [max, Int64.le_iff_toInt_le]
  split <;> rfl

/-- The stripes of a picture, one for each worker. -/
theorem partition_eq {width workers : Int64} (columns : 1 ≤ width.toInt) (hands : 1 ≤ workers.toInt)
    (height : Int64) :
    partition width height workers = (List.range workers.toInt.toNat).map fun index =>
      stripe (stride width workers) height (Int64.ofNat index) := by
  have wide : ¬width < 1 := by
    rw [Int64.lt_iff_toInt_lt, Int64.toInt_one]
    omega
  have staffed : ¬workers < 1 := by
    rw [Int64.lt_iff_toInt_lt, Int64.toInt_one]
    omega
  simp [partition, wide, staffed, stride]

/-- The bounds of a stripe over the integers, as long as both edges of the stripe fit a machine
integer. -/
theorem stripe_bounds_of_range (stride height : Int64) (index : Nat)
    (small : (index : Int) < 2 ^ 63)
    (left : -2 ^ 63 ≤ index * stride.toInt ∧ index * stride.toInt + 1 < 2 ^ 63)
    (right : -2 ^ 63 ≤ index * stride.toInt + stride.toInt ∧
      index * stride.toInt + stride.toInt < 2 ^ 63) :
    (stripe stride height (Int64.ofNat index)).startColumn.toInt = index * stride.toInt + 1 ∧
      (stripe stride height (Int64.ofNat index)).endColumn.toInt =
        index * stride.toInt + stride.toInt := by
  have number : (Int64.ofNat index).toInt = index := Int64.toInt_ofNat_of_lt (by omega)
  have start : (Int64.ofNat index * stride + 1).toInt = index * stride.toInt + 1 := by
    rw [Int64.toInt_add, Int64.toInt_mul, number, Int.bmod_add_bmod]
    exact bmod_of_fits (by simp; omega) (by simp; omega)
  refine ⟨start, ?_⟩
  simp only [stripe]
  rw [Int64.toInt_sub, Int64.toInt_add, start, Int.bmod_sub_bmod]
  rw [bmod_of_fits (by simp; omega) (by simp; omega)]
  simp
  omega

section Cutting
variable {width workers : Int64} (fits : Fits width workers)
include fits

theorem numerator_exact : (width + workers - 1).toInt = width.toInt + workers.toInt - 1 := by
  have columns := fits.columns
  have hands := fits.hands
  have bounded := fits.bounded
  rw [Int64.toInt_sub, Int64.toInt_add, Int.bmod_sub_bmod]
  exact bmod_of_fits (by simp; omega) (by simp; omega)

theorem stride_exact :
    (stride width workers).toInt = (width.toInt + workers.toInt - 1) / workers.toInt := by
  have columns := fits.columns
  have hands := fits.hands
  have bounded := fits.bounded
  have nonneg : 0 ≤ width.toInt + workers.toInt - 1 := by omega
  rw [stride, Int64.toInt_div, numerator_exact fits, Int.tdiv_eq_ediv_of_nonneg nonneg]
  have below := Int.ediv_le_self workers.toInt nonneg
  have above : 0 ≤ (width.toInt + workers.toInt - 1) / workers.toInt :=
    Int.ediv_nonneg nonneg (by omega)
  exact bmod_of_fits (by omega) (by omega)

/-- The stripes cover the picture and reach past it by less than the number of workers. -/
theorem stride_bounds :
    1 ≤ (stride width workers).toInt ∧
      width.toInt ≤ workers.toInt * (stride width workers).toInt ∧
      workers.toInt * (stride width workers).toInt ≤ width.toInt + workers.toInt - 1 := by
  have columns := fits.columns
  have hands := fits.hands
  rw [stride_exact fits]
  have above := Int.lt_mul_ediv_self_add (x := width.toInt + workers.toInt - 1)
    (k := workers.toInt) (by omega)
  refine ⟨?_, by omega, Int.mul_ediv_self_le (by omega)⟩
  rw [Int.le_ediv_iff_mul_le (by omega)]
  omega

/-- The stripes lie between the left edge of the picture and the last one's right edge. -/
theorem stripe_range {index : Nat} (inside : (index : Int) < workers.toInt) :
    0 ≤ index * (stride width workers).toInt ∧
      index * (stride width workers).toInt + (stride width workers).toInt ≤
        workers.toInt * (stride width workers).toInt := by
  obtain ⟨positive, -, -⟩ := stride_bounds fits
  refine ⟨Int.mul_nonneg (by omega) (by omega), ?_⟩
  have next : (index + 1 : Int) * (stride width workers).toInt ≤ _ :=
    Int.mul_le_mul_of_nonneg_right (show (index + 1 : Int) ≤ workers.toInt by omega) (by omega)
  rwa [Int.add_mul, Int.one_mul] at next

/-- The bounds of a stripe over the integers. -/
theorem stripe_bounds (height : Int64) {index : Nat} (inside : (index : Int) < workers.toInt) :
    (stripe (stride width workers) height (Int64.ofNat index)).startColumn.toInt =
        index * (stride width workers).toInt + 1 ∧
      (stripe (stride width workers) height (Int64.ofNat index)).endColumn.toInt =
        index * (stride width workers).toInt + (stride width workers).toInt := by
  obtain ⟨positive, -, short⟩ := stride_bounds fits
  obtain ⟨left, right⟩ := stripe_range fits inside
  have bounded := fits.bounded
  have small := workers.toInt_lt
  exact stripe_bounds_of_range _ _ _ (by omega) ⟨by omega, by omega⟩ ⟨by omega, by omega⟩

end Cutting

/-! ## Ownership of columns -/

/-- Whether a column, counted from zero, belongs to a stripe. -/
def Tile.Owns (tile : Tile) (column : Nat) : Prop :=
  tile.startColumn.toInt ≤ column + 1 ∧ column + 1 ≤ tile.endColumn.toInt

instance (tile : Tile) (column : Nat) : Decidable (tile.Owns column) :=
  inferInstanceAs (Decidable (_ ∧ _))

/-- The corner before a first column or row. -/
theorem corner_before {first last : Int64} (positive : 1 ≤ first.toInt)
    (ordered : first.toInt ≤ last.toInt) :
    first - 1 ≤ last ∧ (first - 1).toInt = first.toInt - 1 := by
  have small := first.toInt_lt
  have exact_corner : (first - 1).toInt = first.toInt - 1 := by
    rw [Int64.toInt_sub]
    exact bmod_of_fits (by simp; omega) (by simp; omega)
  exact ⟨Int64.le_iff_toInt_le.mpr (by omega), exact_corner⟩

/-- A pixel lies in the rectangle of a tile exactly if the tile owns its column and has its row. -/
theorem rect_contains_iff {tile : Tile} (left : 1 ≤ tile.startColumn.toInt)
    (across : tile.startColumn.toInt ≤ tile.endColumn.toInt) (top : 1 ≤ tile.startRow.toInt)
    (down : tile.startRow.toInt ≤ tile.endRow.toInt) (x y : Nat) :
    tile.rect.contains x y = true ↔
      tile.Owns x ∧ tile.startRow.toInt ≤ y + 1 ∧ y + 1 ≤ tile.endRow.toInt := by
  obtain ⟨columnsOrdered, column⟩ := corner_before left across
  obtain ⟨rowsOrdered, row⟩ := corner_before top down
  simp only [Tile.rect, Rect.ofCorners, Rect.contains, min, max, if_pos columnsOrdered,
    if_pos rowsOrdered, column, row, Bool.and_eq_true, decide_eq_true_eq, Tile.Owns]
  omega

section Ownership
variable {width height workers : Int64} (fits : Fits width workers)
include fits

theorem partition_get (position : Fin (partition width height workers).length) :
    (position.val : Int) < workers.toInt ∧
      (partition width height workers).get position =
        stripe (stride width workers) height (Int64.ofNat position.val) := by
  have short := position.isLt
  simp only [partition_eq fits.columns fits.hands, List.length_map, List.length_range] at short
  refine ⟨by omega, ?_⟩
  simp [partition_eq fits.columns fits.hands]

/-- Stripes have equal width, so the owner of a column is found by division. -/
theorem owns_iff (position : Fin (partition width height workers).length) (column : Nat) :
    ((partition width height workers).get position).Owns column ↔
      column / (stride width workers).toInt = position.val := by
  obtain ⟨inside, tile⟩ := partition_get fits position
  obtain ⟨start, stop⟩ := stripe_bounds fits height inside
  obtain ⟨positive, -, -⟩ := stride_bounds fits
  rw [Int.ediv_eq_iff_of_pos (by omega), tile, Tile.Owns, start, stop]
  omega

/-- A column of the picture belongs to exactly one stripe. -/
theorem exists_unique_owner (height : Int64) {column : Nat} (inside : (column : Int) < width.toInt) :
    ∃! owner, ((partition width height workers).get owner).Owns column := by
  obtain ⟨positive, covers, -⟩ := stride_bounds fits
  have share : 0 ≤ column / (stride width workers).toInt :=
    Int.ediv_nonneg (by omega) (by omega)
  have below : column / (stride width workers).toInt < workers.toInt := by
    rw [Int.ediv_lt_iff_lt_mul (by omega)]
    omega
  refine ⟨⟨(column / (stride width workers).toInt).toNat, ?_⟩, ?_, fun other owned => ?_⟩
  · simp only [partition_eq fits.columns fits.hands, List.length_map, List.length_range]
    omega
  · exact (owns_iff fits _ column).mpr (Int.toNat_of_nonneg share).symm
  · have place := (owns_iff fits other column).mp owned
    exact Fin.ext (by simp only; omega)

/-- A pixel lies in the rectangle of a stripe exactly if the stripe owns its column and its row is
one of the picture. -/
theorem stripe_contains_iff (rows : 1 ≤ height.toInt)
    (position : Fin (partition width height workers).length) (x y : Nat) :
    ((partition width height workers).get position).rect.contains x y = true ↔
      ((partition width height workers).get position).Owns x ∧ (y : Int) < height.toInt := by
  obtain ⟨inside, tile⟩ := partition_get fits position
  obtain ⟨start, stop⟩ := stripe_bounds fits height inside
  obtain ⟨positive, -, -⟩ := stride_bounds fits
  obtain ⟨left, -⟩ := stripe_range fits inside
  rw [tile, rect_contains_iff (by omega) (by omega) (by simp [stripe]) (by simpa [stripe] using rows)]
  refine and_congr_right fun _ => ?_
  simp only [stripe, Int64.toInt_one]
  omega

end Ownership

end Mosaic
