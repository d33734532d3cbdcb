import Mathlib.Data.Rat.Floor
import Mosaic.Proofs.Stripes

/-! When the cut of a picture into stripes is exact. The bounds of the stripes are computed in machine
integers. If the width and the number of workers less one fit, the bounds are what they are over the
integers, and the stripes are the even cut; at the very end of the range two sums wrap on the way, and
the one that is then taken away brings them back. If they do not fit, the stride comes out zero or
negative, and no stripe reaches a column of the picture. -/
namespace Mosaic

/-! ## Within the range -/

/-- The values from which the stripe at a position is computed are what they are over the integers,
except for two sums from which one is taken away at once. They wrap where they come to `2 ^ 63`: the
first if the width and the workers do, and the second, the column after the last stripe, if moreover
the stripes leave nothing over. -/
structure Unwrapped (width workers : Int64) (position : Nat) : Prop where
  sum : (width + workers).toInt = width.toInt + workers.toInt ↔
    width.toInt + workers.toInt ≠ 2 ^ 63
  numerator : (width + workers - 1).toInt = width.toInt + workers.toInt - 1
  quotient : (stride width workers).toInt = (width.toInt + workers.toInt - 1) / workers.toInt
  number : (Int64.ofNat position).toInt = position
  offset : (Int64.ofNat position * stride width workers).toInt =
    position * (stride width workers).toInt
  start : (Int64.ofNat position * stride width workers + 1).toInt =
    position * (stride width workers).toInt + 1
  reach : (Int64.ofNat position * stride width workers + 1 + stride width workers).toInt =
      position * (stride width workers).toInt + 1 + (stride width workers).toInt ↔
    ¬(width.toInt + workers.toInt = 2 ^ 63 ∧ position + 1 = workers.toInt ∧
      workers.toInt ∣ 2 ^ 63 - 1)
  stop : (Int64.ofNat position * stride width workers + 1 + stride width workers - 1).toInt =
    position * (stride width workers).toInt + (stride width workers).toInt

/-- The even cut of a picture: one stripe for each worker, side by side from the first column on, each
as wide as the picture's share, rounded up. -/
structure EvenCut (width workers : Int64) (tiles : List Tile) : Prop where
  count : (tiles.length : Int) = workers.toInt
  indexed : ∀ position : Fin tiles.length, (tiles.get position).index.toInt = position
  first : tiles.head?.map (·.startColumn) = some 1
  adjacent : ∀ left right : Fin tiles.length, right.val = left.val + 1 →
    (tiles.get right).startColumn.toInt = (tiles.get left).endColumn.toInt + 1
  positive : 0 < ⌈(width.toInt : ℚ) / workers.toInt⌉
  wide : ∀ tile ∈ tiles, tile.endColumn.toInt - tile.startColumn.toInt + 1 =
    ⌈(width.toInt : ℚ) / workers.toInt⌉
  columns : ∀ tile ∈ tiles, tile.columns.toInt = ⌈(width.toInt : ℚ) / workers.toInt⌉
  rect : ∀ tile ∈ tiles, (tile.rect.maxX - tile.rect.minX).toInt =
    ⌈(width.toInt : ℚ) / workers.toInt⌉
  last : ∃ tile, tiles.getLast? = some tile ∧ width.toInt ≤ tile.endColumn.toInt ∧
    tile.endColumn.toInt - width.toInt < workers.toInt

/-- A sum that reaches at most one beyond the range wraps exactly if it reaches there. -/
theorem bmod_eq_self_iff {n : Int} (positive : 0 ≤ n) (close : n ≤ 2 ^ 63) :
    n.bmod (2 ^ 64) = n ↔ n ≠ 2 ^ 63 := by
  constructor
  · rintro kept rfl
    exact absurd kept (by decide)
  · intro other
    exact bmod_of_fits (by omega) (by omega)

section Within
variable {width workers : Int64} (fits : Fits width workers)
include fits

theorem stride_eq_ceil :
    (stride width workers).toInt = ⌈(width.toInt : ℚ) / workers.toInt⌉ := by
  obtain ⟨-, covers, short⟩ := stride_bounds fits
  have hands := fits.hands
  have positive : (0 : ℚ) < workers.toInt := by exact_mod_cast Int.lt_of_lt_of_le Int.one_pos hands
  symm
  rw [Int.ceil_eq_iff, lt_div_iff₀ positive, div_le_iff₀ positive, sub_mul, one_mul]
  constructor
  · have : (stride width workers).toInt * workers.toInt - workers.toInt < width.toInt := by
      rw [Int.mul_comm]
      omega
    exact_mod_cast this
  · rw [mul_comm]
    exact_mod_cast covers

/-- The column after a stripe comes to `2 ^ 63` only after the last one, and only if the width and the
workers do and the stripes leave nothing over. -/
theorem stripe_end_eq_iff {position : Nat} (inside : (position : Int) < workers.toInt) :
    position * (stride width workers).toInt + (stride width workers).toInt = 2 ^ 63 - 1 ↔
      width.toInt + workers.toInt = 2 ^ 63 ∧ position + 1 = workers.toInt ∧
        workers.toInt ∣ 2 ^ 63 - 1 := by
  have hands := fits.hands
  have bounded := fits.bounded
  obtain ⟨positive, covers, short⟩ := stride_bounds fits
  have quotient := stride_exact fits
  have factored : position * (stride width workers).toInt + (stride width workers).toInt =
      (position + 1 : Int) * (stride width workers).toInt := by
    rw [Int.add_mul, Int.one_mul]
  have within : (position + 1 : Int) * (stride width workers).toInt ≤
      workers.toInt * (stride width workers).toInt :=
    Int.mul_le_mul_of_nonneg_right (by omega) (by omega)
  rw [factored]
  constructor
  · intro full
    -- Nothing is left between the end of this stripe and that of the last.
    have whole : (position + 1 : Int) * (stride width workers).toInt =
        workers.toInt * (stride width workers).toInt := by omega
    have last : (position + 1 : Int) = workers.toInt :=
      Int.eq_of_mul_eq_mul_right (by omega) whole
    exact ⟨by omega, last, (stride width workers).toInt, by omega⟩
  · rintro ⟨sum, last, share, product⟩
    rw [last, quotient, show width.toInt + workers.toInt - 1 = workers.toInt * share by omega,
      Int.mul_ediv_cancel_left share (by omega), product]

theorem unwrapped_of_fits {position : Nat} (inside : (position : Int) < workers.toInt) :
    Unwrapped width workers position := by
  have columns := fits.columns
  have hands := fits.hands
  have bounded := fits.bounded
  have small := workers.toInt_lt
  obtain ⟨positive, -, short⟩ := stride_bounds fits
  obtain ⟨left, right⟩ := stripe_range fits inside
  obtain ⟨start, stop⟩ := stripe_bounds fits 0 inside
  have number : (Int64.ofNat position).toInt = position := Int64.toInt_ofNat_of_lt (by omega)
  refine ⟨?_, numerator_exact fits, stride_exact fits, number, ?_, start, ?_, stop⟩
  · rw [Int64.toInt_add, bmod_eq_self_iff (by omega) (by omega)]
  · rw [Int64.toInt_mul, number]
    exact bmod_of_fits (by omega) (by omega)
  · simp only [stripe] at start
    rw [← stripe_end_eq_iff fits inside, Int64.toInt_add, start,
      bmod_eq_self_iff (by omega) (by omega)]
    omega

/-- A stripe of the cut, with its bounds over the integers. -/
theorem partition_mem (height : Int64) {tile : Tile}
    (member : tile ∈ partition width height workers) :
    ∃ position : Nat, (position : Int) < workers.toInt ∧
      tile.startColumn.toInt = position * (stride width workers).toInt + 1 ∧
      tile.endColumn.toInt =
        position * (stride width workers).toInt + (stride width workers).toInt := by
  obtain ⟨place, rfl⟩ := List.mem_iff_get.mp member
  obtain ⟨inside, shape⟩ := partition_get fits place
  rw [shape]
  exact ⟨place, inside, stripe_bounds fits height inside⟩

/-- The number of columns and the width of the rectangle are the stride. -/
theorem partition_widths (height : Int64) {tile : Tile}
    (member : tile ∈ partition width height workers) :
    tile.endColumn.toInt - tile.startColumn.toInt + 1 = (stride width workers).toInt ∧
      tile.columns.toInt = (stride width workers).toInt ∧
      (tile.rect.maxX - tile.rect.minX).toInt = (stride width workers).toInt := by
  obtain ⟨position, inside, start, stop⟩ := partition_mem fits height member
  obtain ⟨positive, -, short⟩ := stride_bounds fits
  obtain ⟨left, right⟩ := stripe_range fits inside
  have bounded := fits.bounded
  obtain ⟨ordered, corner⟩ := corner_before (show 1 ≤ tile.startColumn.toInt by omega)
    (show tile.startColumn.toInt ≤ tile.endColumn.toInt by omega)
  refine ⟨by omega, ?_, ?_⟩
  · rw [Tile.columns, Int64.toInt_add, Int64.toInt_sub, Int.bmod_add_bmod, start, stop]
    rw [bmod_of_fits (by simp; omega) (by simp; omega), Int64.toInt_one]
    omega
  · simp only [Tile.rect, Rect.ofCorners, min, max, if_pos ordered]
    rw [Int64.toInt_sub, corner, start, stop, bmod_of_fits (by omega) (by omega)]
    omega

theorem partition_length (height : Int64) :
    ((partition width height workers).length : Int) = workers.toInt := by
  have hands := fits.hands
  rw [partition_eq fits.columns hands, List.length_map, List.length_range]
  omega

/-- The last stripe ends where all of them together end. -/
theorem partition_last (height : Int64) :
    ∃ tile, (partition width height workers).getLast? = some tile ∧
      tile.endColumn.toInt = workers.toInt * (stride width workers).toInt := by
  have hands := fits.hands
  have count := partition_length fits height
  let last : Fin (partition width height workers).length :=
    ⟨(partition width height workers).length - 1, by omega⟩
  obtain ⟨inside, tile⟩ := partition_get fits last
  refine ⟨(partition width height workers).get last, ?_, ?_⟩
  · rw [List.getLast?_eq_getElem?]
    exact List.getElem?_eq_getElem last.isLt
  · rw [tile, (stripe_bounds fits height inside).2,
      show workers.toInt = last.val + 1 by simp only [last]; omega, Int.add_mul, Int.one_mul]

theorem partition_even (height : Int64) :
    EvenCut width workers (partition width height workers) where
  count := partition_length fits height
  indexed position := by
    obtain ⟨inside, tile⟩ := partition_get fits position
    have small := workers.toInt_lt
    rw [tile]
    exact Int64.toInt_ofNat_of_lt (by omega)
  first := by
    have hands := fits.hands
    obtain ⟨more, shape⟩ : ∃ more, workers.toInt.toNat = more + 1 :=
      ⟨workers.toInt.toNat - 1, by omega⟩
    rw [partition_eq fits.columns hands, shape, List.range_succ_eq_map]
    simp [stripe]
  adjacent left right next := by
    obtain ⟨inside, tile⟩ := partition_get fits left
    obtain ⟨inside', tile'⟩ := partition_get fits right
    rw [tile, tile', (stripe_bounds fits height inside).2, (stripe_bounds fits height inside').1,
      next, Nat.cast_add, Int.add_mul, Nat.cast_one, Int.one_mul]
  positive := by
    rw [← stride_eq_ceil fits]
    exact (stride_bounds fits).1
  wide tile member := by
    rw [← stride_eq_ceil fits]
    exact (partition_widths fits height member).1
  columns tile member := by
    rw [← stride_eq_ceil fits]
    exact (partition_widths fits height member).2.1
  rect tile member := by
    rw [← stride_eq_ceil fits]
    exact (partition_widths fits height member).2.2
  last := by
    obtain ⟨tile, final, stop⟩ := partition_last fits height
    obtain ⟨-, covers, short⟩ := stride_bounds fits
    exact ⟨tile, final, by omega, by omega⟩

end Within

/-! ## Beyond the range -/

section Beyond
variable {width workers : Int64} (columns : 1 ≤ width.toInt) (hands : 1 ≤ workers.toInt)
  (beyond : 2 ^ 63 ≤ width.toInt + workers.toInt - 1)
include columns hands beyond

theorem stride_beyond :
    (stride width workers).toInt ≤ 0 ∧ -2 ^ 63 ≤ workers.toInt * (stride width workers).toInt := by
  have widest := width.toInt_lt
  have most := workers.toInt_lt
  -- The sum wraps to a negative number: what it lacks to `2 ^ 64`, with a minus sign.
  let lack : Int := 2 ^ 64 - (width.toInt + workers.toInt - 1)
  have bounds : 0 < lack ∧ lack ≤ 2 ^ 63 := by constructor <;> simp only [lack] <;> omega
  have numerator : (width + workers - 1).toInt = -lack := by
    rw [Int64.toInt_sub, Int64.toInt_add, Int.bmod_sub_bmod, Int64.toInt_one,
      ← Int.sub_bmod_right]
    rw [bmod_of_fits (by simp; omega) (by simp; omega)]
    simp only [lack]
    omega
  have share : 0 ≤ lack / workers.toInt ∧ workers.toInt * (lack / workers.toInt) ≤ lack :=
    ⟨Int.ediv_nonneg (by omega) (by omega), Int.mul_ediv_self_le (by omega)⟩
  have least := Int.ediv_le_self workers.toInt (show 0 ≤ lack by omega)
  have exact_stride : (stride width workers).toInt = -(lack / workers.toInt) := by
    rw [stride, Int64.toInt_div, numerator, Int.neg_tdiv,
      Int.tdiv_eq_ediv_of_nonneg (by omega)]
    exact bmod_of_fits (by omega) (by omega)
  rw [exact_stride, Int.mul_neg]
  omega

/-- No stripe reaches a column of the picture: they all end to the left of it. -/
theorem unowned_beyond (height : Int64) {tile : Tile}
    (member : tile ∈ partition width height workers) (column : Nat) : ¬tile.Owns column := by
  obtain ⟨falling, least⟩ := stride_beyond columns hands beyond
  rw [partition_eq columns hands, List.mem_map] at member
  obtain ⟨position, among, rfl⟩ := member
  have inside : (position : Int) < workers.toInt := by
    have := List.mem_range.mp among
    omega
  have left : position * (stride width workers).toInt ≤ 0 :=
    Int.mul_nonpos_of_nonneg_of_nonpos (by omega) falling
  have right : workers.toInt * (stride width workers).toInt ≤
      position * (stride width workers).toInt + (stride width workers).toInt := by
    have next : workers.toInt * (stride width workers).toInt ≤
        (position + 1 : Int) * (stride width workers).toInt :=
      Int.mul_le_mul_of_nonpos_right (by omega) falling
    rwa [Int.add_mul, Int.one_mul] at next
  have small := workers.toInt_lt
  have stop := (stripe_bounds_of_range (stride width workers) height position (by omega)
    ⟨by omega, by omega⟩ ⟨by omega, by omega⟩).2
  intro owned
  have reached := owned.2
  omega

end Beyond

/-- Every column of a picture lies in exactly one stripe if and only if the width and the number of
workers less one fit a machine integer. Then the stripes are the even cut, and every value of the
computation is what it is over the integers, but for two sums that may come to `2 ^ 63` before one is
taken away from them. Otherwise no column lies in any stripe. -/
theorem cut_exact_iff {width workers : Int64} (columns : 1 ≤ width.toInt)
    (hands : 1 ≤ workers.toInt) (height : Int64) :
    ((∀ column : Nat, (column : Int) < width.toInt →
        ∃! owner, ((partition width height workers).get owner).Owns column) ↔
      width.toInt + workers.toInt - 1 ≤ 2 ^ 63 - 1) ∧
    (width.toInt + workers.toInt - 1 ≤ 2 ^ 63 - 1 →
      (∀ position : Nat, (position : Int) < workers.toInt → Unwrapped width workers position) ∧
      EvenCut width workers (partition width height workers)) ∧
    (2 ^ 63 - 1 < width.toInt + workers.toInt - 1 →
      ∀ tile ∈ partition width height workers, ∀ column, ¬tile.Owns column) := by
  have outside : 2 ^ 63 - 1 < width.toInt + workers.toInt - 1 →
      ∀ tile ∈ partition width height workers, ∀ column, ¬tile.Owns column := by
    intro wraps tile member column
    exact unowned_beyond columns hands (by omega) height member column
  refine ⟨⟨fun owned => ?_, fun bounded column inside => ?_⟩, fun bounded => ?_, outside⟩
  · by_contra wraps
    -- The first column has an owner, but no stripe reaches it.
    obtain ⟨owner, owns, -⟩ := owned 0 (Int.lt_of_lt_of_le Int.one_pos columns)
    exact outside (by omega) _ (List.get_mem ..) 0 owns
  · exact exists_unique_owner ⟨columns, hands, bounded⟩ height inside
  · have fits : Fits width workers := ⟨columns, hands, bounded⟩
    exact ⟨fun position inside => unwrapped_of_fits fits inside, partition_even fits height⟩

/-- At the end of the range the first sum wraps although the cut is exact, and where the workers share
the columns without a remainder the second does too. -/
theorem sums_wrap_at_limit :
    (9223372036854775806 : Int64).toInt + (2 : Int64).toInt - 1 ≤ 2 ^ 63 - 1 ∧
      ((9223372036854775806 : Int64) + 2).toInt ≠
        (9223372036854775806 : Int64).toInt + (2 : Int64).toInt ∧
      (9223372036854775801 : Int64).toInt + (7 : Int64).toInt - 1 ≤ 2 ^ 63 - 1 ∧
      (Int64.ofNat 6 * stride 9223372036854775801 7 + 1 + stride 9223372036854775801 7).toInt ≠
        6 * (stride 9223372036854775801 7).toInt + 1 + (stride 9223372036854775801 7).toInt := by
  decide

/-- The widest picture that two workers can share, and the one that is a column too wide. -/
theorem cut_exact_at_limit :
    (1 : Int) ≤ (9223372036854775806 : Int64).toInt ∧ (1 : Int) ≤ (2 : Int64).toInt ∧
      EvenCut 9223372036854775806 2 (partition 9223372036854775806 3 2) ∧
      (1 : Int) ≤ (9223372036854775807 : Int64).toInt ∧
      ¬∀ column : Nat, (column : Int) < (9223372036854775807 : Int64).toInt →
        ∃! owner, ((partition 9223372036854775807 3 2).get owner).Owns column := by
  have columns : (1 : Int) ≤ (9223372036854775806 : Int64).toInt := by decide
  have columns' : (1 : Int) ≤ (9223372036854775807 : Int64).toInt := by decide
  have hands : (1 : Int) ≤ (2 : Int64).toInt := by decide
  obtain ⟨-, within, -⟩ := cut_exact_iff columns hands 3
  obtain ⟨exactly, -, -⟩ := cut_exact_iff columns' hands 3
  exact ⟨columns, hands, (within (by decide)).2, columns',
    fun owned => absurd (exactly.mp owned) (by decide)⟩

end Mosaic
