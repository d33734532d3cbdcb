import Mathlib.Algebra.Order.BigOperators.Group.List
import Mathlib.Data.Rat.Floor
import Mosaic.Progress
import Mosaic.Proofs.Stripes

/-! The share of a job that is done. Machine integers keep the numbers of lines modulo `2 ^ 64`, so there
is a percentage unless the number of all lines is a multiple of that, and it lies between 0 and 100
whatever wraps. As long as one hundred times the number of all lines fits a machine integer, the
percentage is the share over the integers rounded down, and it is one hundred only when every tile has
all its lines. -/
namespace Mosaic.Progress

/-! ## Lines that count as done -/

/-- The lines of a tile that count as done, over the integers. -/
def done (height : Int64) (tile : Tile) : Int := min (max tile.render.line.toInt 0) height.toInt

/-- The lines of all tiles that count as done. -/
def doneAll (height : Int64) (tiles : List Tile) : Int := (tiles.map (done height)).sum

theorem toInt_hundred : (100 : Int64).toInt = 100 := rfl

theorem contribution_exact (height : Int64) (tile : Tile) :
    (contribution height tile).toInt = done height tile := by
  rw [contribution, toInt_min, toInt_max, Int64.toInt_zero, done]

theorem doneAll_cons (height : Int64) (tile : Tile) (more : List Tile) :
    doneAll height (tile :: more) = done height tile + doneAll height more := by
  simp [doneAll]

section Counting
variable {height : Int64} (rows : 1 ≤ height.toInt)
include rows

theorem done_bounds (tile : Tile) : 0 ≤ done height tile ∧ done height tile ≤ height.toInt := by
  unfold done
  omega

theorem done_eq_height_iff (tile : Tile) :
    done height tile = height.toInt ↔ height ≤ tile.render.line := by
  rw [Int64.le_iff_toInt_le, done]
  omega

theorem doneAll_bounds (tiles : List Tile) :
    0 ≤ doneAll height tiles ∧ doneAll height tiles ≤ tiles.length * height.toInt := by
  induction tiles with
  | nil => simp [doneAll]
  | cons tile more ih =>
    have one := done_bounds rows tile
    rw [doneAll_cons, List.length_cons, Nat.cast_add, Nat.cast_one, Int.add_mul, Int.one_mul]
    omega

/-- Everything is done exactly if every tile has all its lines. -/
theorem doneAll_eq_iff (tiles : List Tile) :
    doneAll height tiles = tiles.length * height.toInt ↔
      ∀ tile ∈ tiles, height ≤ tile.render.line := by
  induction tiles with
  | nil => simp [doneAll]
  | cons tile more ih =>
    have one := done_bounds rows tile
    have others := doneAll_bounds rows more
    rw [List.forall_mem_cons, ← done_eq_height_iff rows, ← ih, doneAll_cons, List.length_cons,
      Nat.cast_add, Nat.cast_one, Int.add_mul, Int.one_mul]
    omega

end Counting

/-- The order of the tiles does not matter. -/
theorem doneAll_perm {tiles others : List Tile} (reordered : others.Perm tiles) (height : Int64) :
    doneAll height others = doneAll height tiles :=
  (reordered.map (done height)).sum_eq

/-- A tile that has come further has no fewer lines done. -/
theorem done_mono {tile later : Tile} (further : tile.render.line ≤ later.render.line)
    (height : Int64) : done height tile ≤ done height later := by
  rw [Int64.le_iff_toInt_le] at further
  unfold done
  omega

theorem doneAll_mono {tiles later : List Tile}
    (further : List.Forall₂ (fun tile after => tile.render.line ≤ after.render.line) tiles later)
    (height : Int64) : doneAll height tiles ≤ doneAll height later := by
  induction further with
  | nil => exact Int.le_refl _
  | cons first _ ih =>
    rw [doneAll_cons, doneAll_cons]
    exact Int.add_le_add (done_mono first height) ih

/-! ## In machine integers -/

/-- Adding up wraps once: what wraps on the way is made good in the end. -/
theorem sum_wraps (height : Int64) (tiles : List Tile) (before : Int64) :
    ((tiles.map (contribution height)).foldl (· + ·) before).toInt =
      (before.toInt + doneAll height tiles).bmod (2 ^ 64) := by
  induction tiles generalizing before with
  | nil =>
    rw [doneAll, List.map_nil, List.map_nil, List.sum_nil, Int.add_zero]
    exact (bmod_of_fits before.le_toInt before.toInt_lt).symm
  | cons tile more ih =>
    rw [List.map_cons, List.foldl_cons, ih, Int64.toInt_add, contribution_exact, Int.bmod_add_bmod,
      doneAll_cons, Int.add_assoc]

theorem hundredfold_wraps (height : Int64) (tiles : List Tile) :
    (100 * (tiles.map (contribution height)).foldl (· + ·) 0).toInt =
      (100 * doneAll height tiles).bmod (2 ^ 64) := by
  rw [Int64.toInt_mul, sum_wraps, Int64.toInt_zero, Int.zero_add, toInt_hundred, Int.mul_bmod_bmod]

theorem all_lines_wrap (height : Int64) (tiles : List Tile) :
    (Int64.ofNat tiles.length * height).toInt =
      (tiles.length * height.toInt).bmod (2 ^ 64) := by
  rw [Int64.toInt_mul, Int64.toInt_ofNat']
  exact Int.bmod_mul_bmod

/-- The number of all lines wraps to zero exactly at the multiples of `2 ^ 64`. -/
theorem all_lines_eq_zero_iff (height : Int64) (tiles : List Tile) :
    Int64.ofNat tiles.length * height = 0 ↔ (2 ^ 64 : Int) ∣ tiles.length * height.toInt := by
  rw [← Int64.toInt_inj, all_lines_wrap, Int64.toInt_zero]
  exact Int.dvd_iff_bmod_eq_zero.symm

/-- One hundred times the lines that are done over all lines, as machine integers divide them: both
numbers wrap, the quotient is rounded towards zero, and it wraps once more where the least machine
integer is divided by minus one. -/
def quotient (height : Int64) (tiles : List Tile) : Int :=
  (((100 * doneAll height tiles).bmod (2 ^ 64)).tdiv
    ((tiles.length * height.toInt).bmod (2 ^ 64))).bmod (2 ^ 64)

section Anywhere
variable {tiles : List Tile} {height : Int64}

theorem idle_iff : (tiles.isEmpty || height ≤ 0) = true ↔ tiles = [] ∨ height.toInt ≤ 0 := by
  simp [Int64.le_iff_toInt_le]

/-- Where there is nothing to do, nothing is done. -/
theorem percent?_of_idle (idle : tiles = [] ∨ height.toInt ≤ 0) : percent? tiles height = some 0 := by
  rw [percent?, if_pos (idle_iff.mpr idle)]

/-- Where there is something to do, the percentage is the quotient brought into range, unless the
number of all lines wraps to zero. -/
theorem percent?_of_busy (busy : ¬(tiles = [] ∨ height.toInt ≤ 0)) :
    ((2 ^ 64 : Int) ∣ tiles.length * height.toInt ∧ percent? tiles height = none) ∨
      ¬(2 ^ 64 : Int) ∣ tiles.length * height.toInt ∧ ∃ share, percent? tiles height = some share ∧
        share.toInt = min (max (quotient height tiles) 0) 100 := by
  rw [percent?, if_neg (mt idle_iff.mp busy)]
  by_cases wrapped : Int64.ofNat tiles.length * height = 0
  · left
    exact ⟨(all_lines_eq_zero_iff height tiles).mp wrapped, if_pos wrapped⟩
  · right
    refine ⟨mt (all_lines_eq_zero_iff height tiles).mpr wrapped, _, if_neg wrapped, ?_⟩
    rw [toInt_min, toInt_max, Int64.toInt_div, hundredfold_wraps, all_lines_wrap, Int64.toInt_zero,
      toInt_hundred, quotient]

/-- The percentage is missing exactly if there is something to do and the number of all lines wraps to
zero. -/
theorem percent?_eq_none_iff :
    percent? tiles height = none ↔
      1 ≤ tiles.length ∧ 1 ≤ height.toInt ∧ (2 ^ 64 : Int) ∣ tiles.length * height.toInt := by
  by_cases idle : tiles = [] ∨ height.toInt ≤ 0
  · rw [percent?_of_idle idle]
    constructor
    · intro absent
      cases absent
    · rintro ⟨cut, rows, -⟩
      rcases idle with rfl | flat
      · cases cut
      · omega
  · obtain ⟨cut, rows⟩ := not_or.mp idle
    have given := List.length_pos_iff.mpr cut
    rcases percent?_of_busy idle with ⟨wrapped, absent⟩ | ⟨divisible, share, present, -⟩
    · exact ⟨fun _ => ⟨given, by omega, wrapped⟩, fun _ => absent⟩
    · rw [present]
      constructor
      · intro absent
        cases absent
      · rintro ⟨-, -, wrapped⟩
        exact absurd wrapped divisible

/-- Wherever there is a percentage it lies between 0 and 100. -/
theorem percent?_range {share : Int64} (present : percent? tiles height = some share) :
    0 ≤ share ∧ share ≤ 100 ∧ (tiles = [] ∨ height.toInt ≤ 0 → share = 0) ∧
      (tiles ≠ [] → 1 ≤ height.toInt →
        share.toInt = min (max (quotient height tiles) 0) 100) := by
  by_cases idle : tiles = [] ∨ height.toInt ≤ 0
  · rw [percent?_of_idle idle] at present
    cases present
    refine ⟨by decide, by decide, fun _ => rfl, ?_⟩
    intro cut rows
    rcases idle with none | flat
    · exact absurd none cut
    · omega
  · rcases percent?_of_busy idle with ⟨-, absent⟩ | ⟨-, found, here, value⟩
    · rw [absent] at present
      cases present
    · obtain rfl : found = share := Option.some.inj (here.symm.trans present)
      refine ⟨?_, ?_, fun none => absurd none idle, fun _ _ => value⟩
      · rw [Int64.le_iff_toInt_le, Int64.toInt_zero]
        omega
      · rw [Int64.le_iff_toInt_le, toInt_hundred]
        omega

/-- The order of the tiles does not matter, whatever wraps. -/
theorem percent?_perm {others : List Tile} (reordered : others.Perm tiles) (height : Int64) :
    percent? others height = percent? tiles height := by
  have sum : (others.map (contribution height)).foldl (· + ·) 0 =
      (tiles.map (contribution height)).foldl (· + ·) 0 := by
    rw [← Int64.toInt_inj, sum_wraps, sum_wraps, doneAll_perm reordered]
  rw [percent?, percent?, sum, reordered.length_eq, reordered.isEmpty_eq]

end Anywhere

/-- There is a percentage for any tiles and any height, however many lines they report, unless there
are tiles and rows and the number of all lines is a multiple of `2 ^ 64`. It always lies between 0 and
100: it is 0 where there is nothing to do, and otherwise the quotient that machine integers give,
brought into this range. -/
theorem percentage_exists_and_stays_in_range (tiles : List Tile) (height : Int64) :
    (percent? tiles height = none ↔
      1 ≤ tiles.length ∧ 1 ≤ height.toInt ∧ (2 ^ 64 : Int) ∣ tiles.length * height.toInt) ∧
    (¬(1 ≤ tiles.length ∧ 1 ≤ height.toInt ∧ (2 ^ 64 : Int) ∣ tiles.length * height.toInt) →
      ∃ share, percent? tiles height = some share ∧ 0 ≤ share ∧ share ≤ 100 ∧
        (tiles = [] ∨ height.toInt ≤ 0 → share = 0) ∧
        (tiles ≠ [] → 1 ≤ height.toInt →
          share.toInt = min (max (quotient height tiles) 0) 100)) := by
  refine ⟨percent?_eq_none_iff, ?_⟩
  intro elsewhere
  cases found : percent? tiles height with
  | none => exact absurd (percent?_eq_none_iff.mp found) elsewhere
  | some share => exact ⟨share, rfl, percent?_range found⟩

/-- Four tiles of `2 ^ 62` rows have `2 ^ 64` lines, and three of them wrap to a negative number. -/
example : percent? (List.replicate 4 {}) 4611686018427387904 = none ∧
    percent? (List.replicate 3 { render := { line := 1 } }) 4611686018427387904 = some 0 := by
  decide

/-! ## The exact percentage -/

/-- Tiles of which the percentage is exact: there are tiles and rows, and one hundred times the number
of all lines fits a machine integer. -/
structure Measurable (tiles : List Tile) (height : Int64) : Prop where
  cut : tiles ≠ []
  rows : 1 ≤ height.toInt
  bounded : 100 * (tiles.length * height.toInt) ≤ 2 ^ 63 - 1

section Percentage
variable {tiles : List Tile} {height : Int64} (measurable : Measurable tiles height)
include measurable

theorem all_lines_pos : 0 < tiles.length * height.toInt := by
  have cut := List.length_pos_iff.mpr measurable.cut
  exact Int.mul_pos (by omega) (Int.lt_of_lt_of_le Int.one_pos measurable.rows)

/-- So small a number of lines does not wrap to zero. -/
theorem all_lines_indivisible : ¬(2 ^ 64 : Int) ∣ tiles.length * height.toInt := by
  intro wrapped
  have bounded := measurable.bounded
  have least := Int.le_of_dvd (all_lines_pos measurable) wrapped
  omega

/-- The share that is done lies between nothing and all. -/
theorem share_bounds :
    0 ≤ 100 * doneAll height tiles / (tiles.length * height.toInt) ∧
      100 * doneAll height tiles / (tiles.length * height.toInt) ≤ 100 := by
  have positive := all_lines_pos measurable
  have bounds := doneAll_bounds measurable.rows tiles
  constructor
  · exact Int.ediv_nonneg (by omega) (by omega)
  · exact Int.ediv_le_of_le_mul positive (by omega)

/-- Nothing wraps, so machine integers divide as the integers do. -/
theorem quotient_exact :
    quotient height tiles = 100 * doneAll height tiles / (tiles.length * height.toInt) := by
  have positive := all_lines_pos measurable
  have bounded := measurable.bounded
  have bounds := doneAll_bounds measurable.rows tiles
  obtain ⟨low, high⟩ := share_bounds measurable
  have hundredfold : (100 * doneAll height tiles).bmod (2 ^ 64) = 100 * doneAll height tiles :=
    bmod_of_fits (by omega) (by omega)
  have all : (tiles.length * height.toInt).bmod (2 ^ 64) = tiles.length * height.toInt :=
    bmod_of_fits (by omega) (by omega)
  rw [quotient, hundredfold, all, Int.tdiv_eq_ediv_of_nonneg (by omega)]
  exact bmod_of_fits (by omega) (by omega)

/-- The percentage exists, and it is the share that is done, rounded down. -/
theorem percent?_exact :
    ∃ share, percent? tiles height = some share ∧
      share.toInt = 100 * doneAll height tiles / (tiles.length * height.toInt) := by
  have rows := measurable.rows
  obtain ⟨low, high⟩ := share_bounds measurable
  have busy : ¬(tiles = [] ∨ height.toInt ≤ 0) := not_or.mpr ⟨measurable.cut, by omega⟩
  rcases percent?_of_busy busy with ⟨wrapped, -⟩ | ⟨-, share, present, value⟩
  · exact absurd wrapped (all_lines_indivisible measurable)
  · rw [quotient_exact measurable] at value
    exact ⟨share, present, by omega⟩

section Share
variable {share : Int64} (present : percent? tiles height = some share)
include present

theorem share_exact : share.toInt = 100 * doneAll height tiles / (tiles.length * height.toInt) := by
  obtain ⟨found, here, value⟩ := percent?_exact measurable
  obtain rfl : found = share := Option.some.inj (here.symm.trans present)
  exact value

/-- The percentage is one hundred exactly if every tile has all its lines. -/
theorem share_eq_hundred_iff : share = 100 ↔ ∀ tile ∈ tiles, height ≤ tile.render.line := by
  have positive := all_lines_pos measurable
  have bounds := doneAll_bounds measurable.rows tiles
  rw [← doneAll_eq_iff measurable.rows, ← Int64.toInt_inj, share_exact measurable present,
    toInt_hundred, Int.ediv_eq_iff_of_pos positive]
  omega

/-- The percentage is zero as long as less than a hundredth of all lines is done. -/
theorem share_eq_zero_iff :
    share = 0 ↔ 100 * doneAll height tiles < tiles.length * height.toInt := by
  have positive := all_lines_pos measurable
  have bounds := doneAll_bounds measurable.rows tiles
  rw [← Int64.toInt_inj, share_exact measurable present, Int64.toInt_zero,
    Int.ediv_eq_iff_of_pos positive]
  omega

/-- The percentage does not fall when tiles come further. -/
theorem share_mono {later : List Tile}
    (further : List.Forall₂ (fun tile after => tile.render.line ≤ after.render.line) tiles later) :
    ∃ reached, percent? later height = some reached ∧ share ≤ reached := by
  have same := further.length_eq
  have measured : Measurable later height := by
    refine ⟨?_, measurable.rows, same ▸ measurable.bounded⟩
    rw [← List.length_pos_iff, ← same, List.length_pos_iff]
    exact measurable.cut
  have more := doneAll_mono further height
  obtain ⟨reached, found, value⟩ := percent?_exact measured
  refine ⟨reached, found, ?_⟩
  rw [Int64.le_iff_toInt_le, share_exact measurable present, value, same]
  exact Int.ediv_le_ediv (same ▸ all_lines_pos measurable) (by omega)

end Share

/-- As long as one hundred times the number of all lines fits a machine integer, the percentage is the
share that is done, rounded down. It lies between 0 and 100. It is 100 exactly if every tile has all its
lines, and 0 exactly if less than a hundredth of all lines is done. It does not depend on the order of
the tiles, and it does not fall when tiles come further. -/
theorem percentage_is_exact_share :
    ∃ share, percent? tiles height = some share ∧
      share.toInt = ⌊((100 * doneAll height tiles : Int) : ℚ) /
        ((tiles.length * height.toInt : Int) : ℚ)⌋ ∧
      0 ≤ share ∧ share ≤ 100 ∧
      (share = 100 ↔ ∀ tile ∈ tiles, height ≤ tile.render.line) ∧
      (share = 0 ↔ 100 * doneAll height tiles < tiles.length * height.toInt) ∧
      (∀ others, others.Perm tiles → percent? others height = some share) ∧
      ∀ later, List.Forall₂ (fun tile after => tile.render.line ≤ after.render.line) tiles later →
        ∃ reached, percent? later height = some reached ∧ share ≤ reached := by
  obtain ⟨share, present, value⟩ := percent?_exact measurable
  obtain ⟨low, high, -⟩ := percent?_range present
  have positive := all_lines_pos measurable
  refine ⟨share, present, ?_, low, high, share_eq_hundred_iff measurable present,
    share_eq_zero_iff measurable present, ?_, fun later => share_mono measurable present⟩
  · rw [value, Int.floor_div_cast_of_nonneg (by omega), Int.floor_intCast]
  · intro others reordered
    rw [percent?_perm reordered, present]

end Percentage

/-- Two tiles with as many rows as there can be for an exact percentage; the second one lacks a line. -/
def oneLineShort : List Tile :=
  [{ render := { line := 46116860184273879 } }, { render := { line := 46116860184273878 } }]

theorem one_line_short_of_everything :
    Measurable oneLineShort 46116860184273879 ∧
      percent? oneLineShort 46116860184273879 = some 99 ∧
      percent? oneLineShort.reverse 46116860184273879 = some 99 ∧
      ∃ reached, percent? (oneLineShort.map fun tile =>
        { tile with render := { line := 46116860184273879 } }) 46116860184273879 = some reached ∧
        99 ≤ reached := by
  have measurable : Measurable oneLineShort 46116860184273879 :=
    ⟨by simp [oneLineShort], by decide, by decide⟩
  obtain ⟨share, present, -, -, -, -, -, reordered, further⟩ := percentage_is_exact_share measurable
  have value : percent? oneLineShort 46116860184273879 = some 99 := by decide
  obtain rfl : share = 99 := Option.some.inj (present.symm.trans value)
  refine ⟨measurable, value, reordered _ (List.reverse_perm _), further _ ?_⟩
  exact .cons (by decide) (.cons (by decide) .nil)

end Mosaic.Progress
