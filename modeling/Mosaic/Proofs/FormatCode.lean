import Mosaic.Proofs.FreshJob

/-! The format code of a job that can be rendered. Upper case is taken twice, once where defaults are
filled in and once where the code is looked up. For a code that is known the second time changes
nothing, so with defaults in place it is one of the three capital letters. -/
namespace Mosaic

namespace Text

/-- A character is its own upper-case form, or one of the runs gives it another. -/
theorem upper_cases (c : Char) :
    (upper c = c ∧ ∀ run ∈ upperRuns, run.2.2.1 = 1 → ¬(run.1 ≤ c.toNat ∧ c.toNat ≤ run.2.1)) ∨
      ∃ run ∈ upperRuns, run.1 ≤ c.toNat ∧ c.toNat ≤ run.2.1 ∧
        upper c = Char.ofNat (run.2.2.2 + (c.toNat - run.1)) := by
  unfold upper
  generalize upperRuns = runs
  split
  · rename_i first last step target found
    have inside := Array.find?_some found
    simp only [Bool.and_eq_true, decide_eq_true_eq] at inside
    exact .inr ⟨_, Array.mem_of_find?_eq_some found, inside.1.1, inside.1.2, rfl⟩
  · rename_i unfound
    refine .inl ⟨rfl, fun run member every within => ?_⟩
    have outside := Array.find?_eq_none.mp unfound run member
    simp only [every, within, Nat.mod_one] at outside
    simp at outside

theorem ofNat_toNat_or (code : Nat) : (Char.ofNat code).toNat = code ∨ (Char.ofNat code).toNat = 0 := by
  by_cases valid : code.isValidChar
  · left
    rw [Char.ofNat, dif_pos valid]
    rfl
  · right
    rw [Char.ofNat, dif_neg valid]
    rfl

/-- The runs begin with the small letters. None leads to these, and of those that lead as low as the
letters for formats, all but that of the small letters lead past them. -/
theorem runs_apart : ∀ run ∈ upperRuns.toList, 97 ≤ run.1 ∧
    (run.2.2.2 + (run.2.1 - run.1) < 97 ∨ 122 < run.2.2.2) ∧
      (run.1 = 97 ∧ run.2.1 = 122 ∨ run.1 = run.2.1 ∧ run.2.2.2 = 73 ∨ 78 < run.2.2.2) := by
  decide +kernel

/-- Capital letters and everything before the small ones stay as they are. -/
theorem upper_of_low {c : Char} (low : c.toNat < 97) : upper c = c := by
  rcases upper_cases c with ⟨same, -⟩ | ⟨run, member, first, -, -⟩
  · exact same
  · have begin := (runs_apart run (Array.mem_toList_iff.mpr member)).1
    omega

/-- An upper-case form is never a small letter. -/
theorem upper_not_small (c : Char) : ¬(97 ≤ (upper c).toNat ∧ (upper c).toNat ≤ 122) := by
  rintro ⟨low, high⟩
  rcases upper_cases c with ⟨same, outside⟩ | ⟨run, member, first, last, shape⟩
  · rw [same] at low high
    exact outside (0x61, 0x7A, 1, 0x41) (by decide +kernel) rfl ⟨low, high⟩
  · rw [shape] at low high
    have apart := (runs_apart run (Array.mem_toList_iff.mpr member)).2.1
    have value := ofNat_toNat_or (run.2.2.2 + (c.toNat - run.1))
    omega

/-- Where upper case taken twice gives a letter for a format, once is enough. -/
theorem upper_twice {c : Char} (known : upper (upper c) ∈ ['N', 'B', 'J']) :
    upper (upper c) = upper c := by
  rcases upper_cases (upper c) with ⟨same, -⟩ | ⟨run, member, first, last, shape⟩
  · exact same
  · have letter : ∀ code ∈ ['N', 'B', 'J'], code.toNat = 78 ∨ code.toNat = 66 ∨ code.toNat = 74 := by
      simp
    have number := letter _ known
    rw [shape] at number
    have apart := (runs_apart run (Array.mem_toList_iff.mpr member)).2.2
    have value := ofNat_toNat_or (run.2.2.2 + ((upper c).toNat - run.1))
    have small := upper_not_small c
    omega

end Text

/-- The codes of the formats. -/
def Format.codes : List String := ["N", "B", "J"]

theorem Format.toUpper_code {code : String} (known : code ∈ Format.codes) :
    Text.toUpper code = code := by
  have low : ∀ code ∈ Format.codes, ∀ c ∈ code.toList, c.toNat < 97 := by
    simp [Format.codes]
  have same : code.toList.map Text.upper = code.toList.map id := by
    apply List.map_congr_left
    intro c member
    exact Text.upper_of_low (low code known c member)
  rw [Text.toUpper, same, List.map_id, String.ofList_toList]

theorem Format.known_iff (code : String) :
    (Format.extension? code).isSome = true ↔ Text.toUpper code ∈ Format.codes := by
  simp only [Format.extension?, Format.codes]
  split <;> simp_all

theorem Text.toUpper_twice {text : String} (known : toUpper (toUpper text) ∈ Format.codes) :
    toUpper (toUpper text) = toUpper text := by
  have letters : ∀ code ∈ Format.codes, ∀ c ∈ code.toList, c ∈ ['N', 'B', 'J'] := by
    simp [Format.codes]
  have shape : toUpper (toUpper text) = String.ofList ((text.toList.map upper).map upper) := by
    rw [toUpper, toUpper, String.toList_ofList]
  have once : (text.toList.map upper).map upper = text.toList.map upper := by
    rw [List.map_map]
    apply List.map_congr_left
    intro c member
    rw [Function.comp_apply]
    apply upper_twice
    apply letters _ known
    rw [shape, String.toList_ofList]
    exact List.mem_map_of_mem (List.mem_map_of_mem member)
  rw [shape, once, toUpper]

/-- With defaults in place the format of a job that can be rendered is a code in upper case. -/
theorem Job.Renderable.format_known {job : Job} (renderable : job.Renderable) :
    job.withDefaults.format ∈ Format.codes := by
  have known := (Format.known_iff _).mp renderable.coded
  have once : Text.toUpper job.withDefaults.format = job.withDefaults.format :=
    Text.toUpper_twice known
  rwa [once] at known

/-- A job that was checked with its defaults in place has such a code already. -/
theorem Job.Renderable.format_settled {job : Job} (renderable : job.withDefaults.Renderable) :
    job.withDefaults.format ∈ Format.codes := by
  have known := renderable.format_known
  have given : job.withDefaults.format ≠ "" := by
    intro none
    have letters := congrArg String.toList none
    simp only [withDefaults, Text.toUpper, String.toList_ofList] at letters
    split at letters
    · cases letters
    · rename_i present
      simp at letters present
      exact present letters
  have again : job.withDefaults.withDefaults.format = Text.toUpper job.withDefaults.format := by
    rw [withDefaults, if_neg (by simpa using given)]
  rw [again] at known
  have once : Text.toUpper job.withDefaults.format = job.withDefaults.format :=
    Text.toUpper_twice known
  rwa [once] at known

end Mosaic
