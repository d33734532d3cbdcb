import Mathlib.Data.List.Forall2
import Mathlib.Data.List.Nodup
import Mosaic.Config.Settings
import Mosaic.Proofs.FormatCode

/-! Which settings are accepted, and what is told about the others. Settings are accepted exactly if the
timeout can be used, no two blocks share a name and every block makes a valid job. Otherwise the first
fault counts: the timeout, or the first block that is wrong. What was accepted stays usable: each name
leads to the one job that was checked under it. -/
namespace Mosaic.Config.Settings

/-! ## The timeout -/

/-- A timeout that can be used: none at all, an empty one, or one that says a duration. -/
def TimeoutFine (settings : Settings) : Prop :=
  ∀ block ∈ settings.renderer, block.timeout = "" ∨
    ∃ duration, Duration.parse block.timeout = .ok duration

/-- How a timeout goes wrong. -/
def TimeoutFault (settings : Settings) (fault : DurationFault) : Prop :=
  ∃ block ∈ settings.renderer, block.timeout ≠ "" ∧ Duration.parse block.timeout = .error fault

theorem TimeoutFault.unique {settings : Settings} {fault other : DurationFault}
    (wrong : settings.TimeoutFault fault) (wrong' : settings.TimeoutFault other) : fault = other := by
  obtain ⟨block, given, -, told⟩ := wrong
  obtain ⟨block', given', -, told'⟩ := wrong'
  obtain rfl : block = block' := Option.mem_unique given given'
  rw [told] at told'
  exact Except.error.inj told'

/-- Only the timeout decides whether there are options, whatever directory temporary files have. -/
theorem rendererOptions_cases (settings : Settings) (temporary : String) :
    (settings.TimeoutFine ∧ ∃ options, settings.rendererOptions temporary = .ok options) ∨
      ∃ fault, settings.TimeoutFault fault ∧
        settings.rendererOptions temporary = .error (.timeout fault) := by
  simp only [TimeoutFine, TimeoutFault, rendererOptions, Option.mem_def]
  cases settings.renderer with
  | none => exact .inl ⟨by simp, _, rfl⟩
  | some block =>
    by_cases blank : block.timeout = ""
    · left
      exact ⟨by simp [blank], _, if_pos (by simpa using blank)⟩
    · simp only [String.isEmpty_iff, blank, if_false]
      cases told : Duration.parse block.timeout with
      | ok duration => exact .inl ⟨by simp [told], _, rfl⟩
      | error fault => exact .inr ⟨fault, ⟨block, rfl, blank, told⟩, rfl⟩

theorem TimeoutFine.not_fault {settings : Settings} (fine : settings.TimeoutFine)
    (fault : DurationFault) : ¬settings.TimeoutFault fault := by
  rintro ⟨block, given, present, wrong⟩
  rcases fine block given with blank | ⟨duration, told⟩
  · exact present blank
  · rw [told] at wrong
    cases wrong

/-! ## The blocks -/

section Blocks
variable (settings : Settings) (processors : Int64)

/-- Blocks that can stand in one document: no two have the same name, and each makes a valid job. -/
structure Sound (blocks : List Job) : Prop where
  names : (blocks.map (·.name)).Nodup
  valid : ∀ block ∈ blocks, (settings.complete processors block).validate = .ok ()

/-- What is wrong with a block that stands after others of the given names. A name that was given before
counts before anything that is wrong with the job. -/
inductive BlockFault (earlier : List String) (block : Job) : Error → Prop where
  | again (given : block.name ∈ earlier) : BlockFault earlier block (.duplicateJob block.name)
  | refused {error : Error} (new : block.name ∉ earlier)
      (fault : (settings.complete processors block).validate = .error error) :
      BlockFault earlier block (.inJob block.name error)

variable {settings processors}

theorem sound_nil : settings.Sound processors [] := ⟨by simp, by simp⟩

theorem sound_cons_iff {block : Job} {more : List Job} :
    settings.Sound processors (block :: more) ↔
      (settings.complete processors block).validate = .ok () ∧
        (∀ other ∈ more, other.name ≠ block.name) ∧ settings.Sound processors more := by
  constructor
  · rintro ⟨names, valid⟩
    rw [List.map_cons, List.nodup_cons] at names
    obtain ⟨first, others⟩ := List.forall_mem_cons.mp valid
    refine ⟨first, fun other member same => names.1 ?_, names.2, others⟩
    exact same ▸ List.mem_map_of_mem member
  · rintro ⟨first, apart, names, valid⟩
    refine ⟨?_, List.forall_mem_cons.mpr ⟨first, valid⟩⟩
    rw [List.map_cons, List.nodup_cons]
    refine ⟨fun member => ?_, names⟩
    obtain ⟨other, among, same⟩ := List.mem_map.mp member
    exact apart other among same

namespace BlockFault
variable {earlier : List String} {block : Job} {error : Error}

/-- A block that is wrong has an old name or makes no valid job. -/
theorem not_fine (fault : settings.BlockFault processors earlier block error)
    (new : block.name ∉ earlier) :
    (settings.complete processors block).validate ≠ .ok () := by
  cases fault with
  | again given => exact absurd given new
  | refused _ fault =>
    rw [fault]
    intro impossible
    cases impossible

theorem unique {other : Error} (fault : settings.BlockFault processors earlier block error)
    (fault' : settings.BlockFault processors earlier block other) : error = other := by
  cases fault with
  | again given =>
    cases fault' with
    | again _ => rfl
    | refused new _ => exact absurd given new
  | refused new fault =>
    cases fault' with
    | again given => exact absurd given new
    | refused _ fault' =>
      rw [fault] at fault'
      cases fault'
      rfl

/-- The order of the names before a block does not matter. -/
theorem congr {names : List String} (same : ∀ name, name ∈ earlier ↔ name ∈ names)
    (fault : settings.BlockFault processors earlier block error) :
    settings.BlockFault processors names block error := by
  cases fault with
  | again given => exact .again ((same _).mp given)
  | refused new fault => exact .refused (fun given => new ((same _).mpr given)) fault

end BlockFault

/-- A block is passed and its name kept, or its fault is told. -/
theorem validateBlocks_cons_cases (seen : List String) (block : Job) (more : List Job) :
    (block.name ∉ seen ∧ (settings.complete processors block).validate = .ok () ∧
        settings.validateBlocks processors seen (block :: more) =
          settings.validateBlocks processors (block.name :: seen) more) ∨
      ∃ error, settings.BlockFault processors seen block error ∧
        settings.validateBlocks processors seen (block :: more) = .error error := by
  rw [validateBlocks]
  by_cases given : block.name ∈ seen
  · rw [if_pos given]
    exact .inr ⟨_, .again given, rfl⟩
  · rw [if_neg given]
    cases checked : (settings.complete processors block).validate with
    | ok _ => exact .inl ⟨given, rfl, rfl⟩
    | error error => exact .inr ⟨_, .refused given checked, rfl⟩

theorem validateBlocks_ok_iff (seen : List String) (blocks : List Job) :
    settings.validateBlocks processors seen blocks = .ok () ↔
      settings.Sound processors blocks ∧ ∀ block ∈ blocks, block.name ∉ seen := by
  induction blocks generalizing seen with
  | nil => simp [validateBlocks, sound_nil]
  | cons block more ih =>
    rw [sound_cons_iff, List.forall_mem_cons]
    rcases validateBlocks_cons_cases seen block more with ⟨new, valid, passed⟩ | ⟨error, fault, told⟩
    · rw [passed, ih]
      simp only [List.mem_cons, not_or]
      constructor
      · rintro ⟨sound, apart⟩
        exact ⟨⟨valid, fun other member => (apart other member).1, sound⟩, new,
          fun other member => (apart other member).2⟩
      · rintro ⟨⟨-, apart, sound⟩, -, later⟩
        exact ⟨sound, fun other member => ⟨apart other member, later other member⟩⟩
    · rw [told]
      constructor
      · intro impossible
        cases impossible
      · rintro ⟨⟨valid, -, -⟩, new, -⟩
        exact absurd valid (fault.not_fine new)

/-- The first block that is wrong is told, with the names of all blocks before it. -/
theorem validateBlocks_error_iff (seen : List String) (blocks : List Job) (error : Error) :
    settings.validateBlocks processors seen blocks = .error error ↔
      ∃ before block after, blocks = before ++ block :: after ∧
        settings.Sound processors before ∧ (∀ other ∈ before, other.name ∉ seen) ∧
        settings.BlockFault processors (before.map (·.name) ++ seen) block error := by
  constructor
  · intro told
    induction blocks generalizing seen with
    | nil => cases told
    | cons first more ih =>
      rcases validateBlocks_cons_cases seen first more with ⟨new, valid, passed⟩ | ⟨own, fault, own_told⟩
      · rw [passed] at told
        obtain ⟨before, block, after, rfl, sound, apart, fault⟩ := ih _ told
        simp only [List.mem_cons, not_or] at apart
        refine ⟨first :: before, block, after, rfl, sound_cons_iff.mpr ⟨valid, ?_, sound⟩,
          List.forall_mem_cons.mpr ⟨new, ?_⟩, fault.congr ?_⟩
        · exact fun other member => (apart other member).1
        · exact fun other member => (apart other member).2
        · simp only [List.map_cons, List.mem_append, List.mem_cons]
          tauto
      · rw [own_told] at told
        cases told
        exact ⟨[], first, more, rfl, sound_nil, by simp, by simpa using fault⟩
  · rintro ⟨before, block, after, rfl, sound, apart, fault⟩
    induction before generalizing seen with
    | nil =>
      rcases validateBlocks_cons_cases seen block after with ⟨new, valid, -⟩ | ⟨own, own_fault, told⟩
      · exact absurd valid (fault.not_fine (by simpa using new))
      · rw [List.nil_append, told, own_fault.unique (by simpa using fault)]
    | cons first before ih =>
      obtain ⟨valid, others, sound⟩ := sound_cons_iff.mp sound
      obtain ⟨new, apart⟩ := List.forall_mem_cons.mp apart
      rcases validateBlocks_cons_cases seen first (before ++ block :: after) with
        ⟨-, -, passed⟩ | ⟨own, own_fault, -⟩
      · rw [List.cons_append, passed]
        refine ih _ sound (fun other member => ?_) (fault.congr ?_)
        · rw [List.mem_cons, not_or]
          exact ⟨others other member, apart other member⟩
        · simp only [List.map_cons, List.mem_append, List.mem_cons]
          tauto
      · exact absurd valid (own_fault.not_fine new)

end Blocks

/-! ## Accepted settings -/

section Accepted
variable (settings : Settings) (processors : Int64)

/-- The first fault of settings: that of the timeout, or else that of the first block that is wrong. -/
inductive FirstFault : Error → Prop where
  | timeout {fault : DurationFault} (wrong : settings.TimeoutFault fault) : FirstFault (.timeout fault)
  | block {before : List Job} {block : Job} {after : List Job} {error : Error}
      (timely : settings.TimeoutFine) (order : settings.blocks = before ++ block :: after)
      (sound : settings.Sound processors before)
      (fault : settings.BlockFault processors (before.map (·.name)) block error) : FirstFault error

/-- The job that a block of accepted settings makes. What the block leaves out is filled in, and all else
stays as it is. -/
structure Makes (block job : Job) : Prop where
  kept : job = { block with
    width := job.width, height := job.height, workers := job.workers, format := job.format }
  width : job.width = if block.width = 0 then 400 else block.width
  height : job.height = if block.height = 0 then 300 else block.height
  workers : job.workers =
    if block.workers = 0 then min (settings.standardWorkers processors) job.width else block.workers
  format : job.format = if block.format = "" then "N" else Text.toUpper block.format
  valid : job.validate = .ok ()
  capital : Text.toUpper job.format = job.format
  staffed : block.workers = 0 → 1 ≤ job.workers ∧ job.workers ≤ job.width

variable {settings processors}

theorem validate_eq_ok_iff : settings.validate processors = .ok () ↔
    settings.TimeoutFine ∧ settings.Sound processors settings.blocks := by
  rw [validate]
  rcases settings.rendererOptions_cases standardTemporary with ⟨fine, options, given⟩ | ⟨fault, wrong, told⟩
  · simp only [given, validateBlocks_ok_iff]
    simp [fine]
  · simp only [told]
    constructor
    · intro impossible
      cases impossible
    · rintro ⟨fine, -⟩
      exact absurd wrong (fine.not_fault fault)

theorem validate_eq_error_iff {error : Error} :
    settings.validate processors = .error error ↔ settings.FirstFault processors error := by
  rw [validate]
  rcases settings.rendererOptions_cases standardTemporary with ⟨fine, options, given⟩ | ⟨fault, wrong, told⟩
  · simp only [given, validateBlocks_error_iff]
    constructor
    · rintro ⟨before, block, after, order, sound, -, fault⟩
      exact .block fine order sound (by simpa using fault)
    · rintro (wrong | ⟨_, order, sound, fault⟩)
      · exact absurd wrong (fine.not_fault _)
      · exact ⟨_, _, _, order, sound, by simp, by simpa using fault⟩
  · simp only [told]
    constructor
    · intro same
      cases same
      exact .timeout wrong
    · rintro (wrong' | ⟨fine, -, -, -⟩)
      · rw [wrong.unique wrong']
      · exact absurd wrong (fine.not_fault fault)

theorem min_le_width (workers width : Int64) : min workers width ≤ width := by
  change (if workers ≤ width then workers else width) ≤ width
  split
  · assumption
  · exact Int64.le_refl width

/-- A block that is accepted makes a job that can be rendered, with workers for all its columns at
most. -/
theorem makes_complete {block : Job}
    (valid : (settings.complete processors block).validate = .ok ()) :
    settings.Makes processors block (settings.complete processors block) := by
  obtain ⟨renderable, -⟩ := Job.renderable_of_validate valid
  have once := Format.toUpper_code renderable.format_settled
  refine ⟨rfl, rfl, rfl, rfl, ?_, valid, once, fun none => ⟨?_, ?_⟩⟩
  · change Text.toUpper (if block.format.isEmpty then Format.standard else block.format) = _
    by_cases blank : block.format = ""
    · rw [if_pos (by simpa using blank), if_pos blank]
      exact Format.toUpper_code (by decide)
    · rw [if_neg (by simpa using blank), if_neg blank]
  · rw [Int64.le_iff_toInt_le, Int64.toInt_one]
    exact renderable.hands
  · have staff : (settings.complete processors block).workers =
        min (settings.standardWorkers processors) (settings.complete processors block).width :=
      if_pos none
    rw [staff]
    exact min_le_width _ _

@[simp] theorem complete_name (block : Job) :
    (settings.complete processors block).name = block.name := rfl

theorem job?_eq_some_iff (names : (settings.blocks.map (·.name)).Nodup) {name : String} {job : Job} :
    settings.job? processors name = some job ↔ job ∈ settings.jobs processors ∧ job.name = name := by
  rw [job?, Option.map_eq_some_iff]
  constructor
  · rintro ⟨block, found, rfl⟩
    exact ⟨List.mem_map_of_mem (List.mem_of_find?_eq_some found), by simpa using List.find?_some found⟩
  · rintro ⟨member, rfl⟩
    obtain ⟨block, among, rfl⟩ := List.mem_map.mp member
    have named : (settings.blocks.find? (·.name == block.name)).isSome = true :=
      List.find?_isSome.mpr ⟨block, among, by simp⟩
    obtain ⟨other, found⟩ := Option.isSome_iff_exists.mp named
    have same : other.name = block.name := by simpa using List.find?_some found
    have one := List.inj_on_of_nodup_map names (List.mem_of_find?_eq_some found) among same
    exact ⟨other, found, by rw [one]⟩

theorem job?_eq_none_iff {name : String} :
    settings.job? processors name = none ↔ name ∉ settings.blocks.map (·.name) := by
  simp [job?]

end Accepted

/-- Settings are accepted exactly if the timeout can be used, no two blocks share a name, and every block
with defaults in place makes a valid job; otherwise the first fault is told. Accepted settings give
options, one valid job for each block in the order of the document, and under each name the one job
that has it. -/
theorem validation_is_sound_and_complete (settings : Settings) (processors : Int64) :
    (settings.validate processors = .ok () ↔
      settings.TimeoutFine ∧ settings.Sound processors settings.blocks) ∧
    (∀ error, settings.validate processors = .error error ↔ settings.FirstFault processors error) ∧
    (settings.validate processors = .ok () →
      (∀ temporary, ∃ options, settings.rendererOptions temporary = .ok options) ∧
      List.Forall₂ (settings.Makes processors) settings.blocks (settings.jobs processors) ∧
      (∀ name job, settings.job? processors name = some job ↔
        job ∈ settings.jobs processors ∧ job.name = name) ∧
      ∀ name, settings.job? processors name = none ↔ name ∉ settings.blocks.map (·.name)) := by
  refine ⟨validate_eq_ok_iff, fun error => validate_eq_error_iff, fun accepted => ?_⟩
  obtain ⟨fine, sound⟩ := validate_eq_ok_iff.mp accepted
  refine ⟨fun temporary => ?_, ?_, fun name job => job?_eq_some_iff sound.names,
    fun name => job?_eq_none_iff⟩
  · rcases settings.rendererOptions_cases temporary with ⟨-, given⟩ | ⟨fault, wrong, -⟩
    · exact given
    · exact absurd wrong (fine.not_fault fault)
  · rw [jobs, List.forall₂_map_right_iff, List.forall₂_same]
    intro block member
    exact makes_complete (sound.valid block member)

/-- A document with two blocks: one leaves out everything but the paths, the other has a small letter
for its format. -/
def twoBlocks : Settings :=
  { renderer := some { timeout := "90s" }
    blocks := [{ name := "still", scene := "still.pov", output := "still.png" },
      { name := "wide", scene := "wide.pov", output := "wide.bmp", width := 2, workers := 5,
        format := "b" }] }

theorem two_blocks_are_accepted :
    twoBlocks.validate 4 = .ok () ∧
      List.Forall₂ (twoBlocks.Makes 4) twoBlocks.blocks (twoBlocks.jobs 4) ∧
      twoBlocks.job? 4 "narrow" = none := by
  have accepted : twoBlocks.validate 4 = .ok () := by decide +kernel
  obtain ⟨-, -, usable⟩ := validation_is_sound_and_complete twoBlocks 4
  obtain ⟨-, made, -, absent⟩ := usable accepted
  exact ⟨accepted, made, (absent "narrow").mpr (by decide)⟩

end Mosaic.Config.Settings
