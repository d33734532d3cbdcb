import Mosaic.Proofs.PlacedPath

/-! The preview of a job and the files beside an output. A preview asks for no more than its job does,
and always for a picture that can be encoded. The files beside an output differ from it only in what
stands in place of the extension. An extension has one dot, and what the other files have in its place
has more, so no file is another one, and all of them stand in one directory. -/
namespace Mosaic

namespace Path

/-! ## Endings -/

theorem upToLastSlash_append_lastName (path : List Char) :
    upToLastSlash path ++ lastName path = path := by
  obtain ⟨whole, none⟩ | ⟨front, behind, upTo⟩ := split_at_last_slash path
  · rw [none, whole, List.nil_append]
  · rw [upTo, List.append_assoc, List.singleton_append, ← behind]

section Plain
variable {back : List Char} (plain : '/' ∉ back) (front : List Char)
include plain

theorem reverse_plain : ∀ c ∈ back.reverse, (c != '/') = true := by
  intro c member
  rw [bne_iff_ne]
  rintro rfl
  exact plain (List.mem_reverse.mp member)

theorem lastName_append_plain : lastName (front ++ back) = lastName front ++ back := by
  rw [lastName, List.reverse_append, List.takeWhile_append_of_pos (reverse_plain plain),
    List.reverse_append, List.reverse_reverse, lastName]

theorem upToLastSlash_append_plain : upToLastSlash (front ++ back) = upToLastSlash front := by
  rw [upToLastSlash, List.reverse_append, List.dropWhile_append_of_pos (reverse_plain plain),
    upToLastSlash]

end Plain

theorem extensionOf_plain (path : List Char) : '/' ∉ extensionOf path := by
  obtain ⟨stem, whole, -⟩ := extension_split path
  intro member
  exact lastName_plain path (whole ▸ List.mem_append_right stem member)

/-- Taking the extension off and putting it back gives the path again. -/
theorem withoutExtension_append_extension (path : String) :
    withoutExtension path ++ extension path = path := by
  obtain ⟨stem, whole, -⟩ := extension_split path.toList
  have split : path.toList = (upToLastSlash path.toList ++ stem) ++ extensionOf path.toList := by
    rw [List.append_assoc, ← whole, upToLastSlash_append_lastName]
  rw [← String.toList_inj, String.toList_append, withoutExtension_eq split, extension,
    String.toList_ofList, ← split]

/-- What stands in place of the extension has no influence on the directory. -/
theorem directory_ending (path : String) {ending : String} (plain : '/' ∉ ending.toList) :
    directory (withoutExtension path ++ ending) = directory path := by
  have own : '/' ∉ (extension path).toList := by
    rw [extension, String.toList_ofList]
    exact extensionOf_plain path.toList
  have same : upToLastSlash (withoutExtension path ++ ending).toList =
      upToLastSlash (withoutExtension path ++ extension path).toList := by
    rw [String.toList_append, String.toList_append, upToLastSlash_append_plain plain,
      upToLastSlash_append_plain own]
  rw [directory, same, withoutExtension_append_extension, directory]

/-- The extension begins at the last dot. -/
theorem extensionOf_append (front : List Char) {letters : List Char} (plain : '/' ∉ letters)
    (dotless : '.' ∉ letters) : extensionOf (front ++ '.' :: letters) = '.' :: letters := by
  have last : lastName (front ++ '.' :: letters) = lastName front ++ '.' :: letters :=
    lastName_append_plain (by simpa using plain) front
  have kept : ∀ c ∈ letters.reverse, (c != '.') = true := by
    intro c member
    rw [bne_iff_ne]
    rintro rfl
    exact dotless (List.mem_reverse.mp member)
  rw [extensionOf, last]
  simp [List.takeWhile_append_of_pos kept]

theorem extension_append (front : String) {letters : String} (plain : '/' ∉ letters.toList)
    (dotless : '.' ∉ letters.toList) : extension (front ++ "." ++ letters) = "." ++ letters := by
  have shape : (front ++ "." ++ letters).toList = front.toList ++ '.' :: letters.toList := by simp
  rw [extension, shape, extensionOf_append _ plain dotless]
  simp

theorem withoutExtension_append (front : String) {letters : String} (plain : '/' ∉ letters.toList)
    (dotless : '.' ∉ letters.toList) : withoutExtension (front ++ "." ++ letters) = front := by
  have shape : (front ++ "." ++ letters).toList = front.toList ++ '.' :: letters.toList := by simp
  refine String.toList_inj.mp (withoutExtension_eq ?_)
  rw [shape, extensionOf_append _ plain dotless]

theorem extension_dots (path : String) : (extension path).toList.count '.' ≤ 1 := by
  rw [extension, String.toList_ofList]
  obtain ⟨-, -, none | ⟨letters, some, dotless⟩⟩ := extension_split path.toList
  · simp [none]
  · simp [some, List.count_eq_zero.mpr dotless]

end Path

/-! ## The preview of a job -/

namespace Job

theorem snapshotOutput_eq (output : String) :
    snapshotOutput output = Path.withoutExtension output ++ ".snapshot" ++ "." ++ "png" := by
  simp only [snapshotOutput, String.append_assoc]
  rfl

theorem extension_snapshotOutput (output : String) :
    Path.extension (snapshotOutput output) = ".png" := by
  rw [snapshotOutput_eq]
  exact Path.extension_append _ (by decide) (by decide)

theorem snapshot_output {job : Job} (given : job.output ≠ "") :
    job.snapshot.output = snapshotOutput job.output := by
  rw [snapshot, if_neg (by simpa using given)]

/-- Whatever can be rendered has a valid preview, also where the output itself cannot be encoded. -/
theorem Renderable.snapshot_valid {job : Job} (renderable : job.Renderable) :
    job.snapshot.validate = .ok () := by
  have output := snapshot_output renderable.output
  have given : job.snapshot.output ≠ "" := by
    intro none
    have extension := extension_snapshotOutput job.output
    rw [← output, none] at extension
    exact absurd extension (by decide)
  have preview : job.snapshot.Renderable :=
    { scene := renderable.scene
      output := given
      columns := show 1 ≤ (75 : Int64).toInt by decide
      rows := show 1 ≤ (50 : Int64).toInt by decide
      hands := renderable.hands
      coded := renderable.coded }
  rw [preview.validate_eq, output, extension_snapshotOutput, if_pos (by decide)]

/-- What the files beside an output have in place of its extension: the output itself, its record, the
preview, and the record and the thumbnail of the preview. -/
def endings (output : String) : List String :=
  [Path.extension output, ".build.json", ".snapshot.png", ".snapshot.build.json",
    ".snapshot.thumb.png"]

theorem files_beside (output : String) :
    [output, metaPath output, snapshotOutput output, metaPath (snapshotOutput output),
        thumbnailPath (snapshotOutput output)] =
      (endings output).map (Path.withoutExtension output ++ ·) := by
  have front : Path.withoutExtension (snapshotOutput output) =
      Path.withoutExtension output ++ ".snapshot" := by
    rw [snapshotOutput_eq]
    exact Path.withoutExtension_append _ (by decide) (by decide)
  simp only [endings, metaPath, thumbnailPath, front, List.map_cons, List.map_nil,
    Path.withoutExtension_append_extension, String.append_assoc]
  rfl

/-- No extension is one of the other endings, which have two dots or more. -/
theorem endings_nodup (output : String) : (endings output).Nodup := by
  rw [endings, List.nodup_cons]
  refine ⟨fun member => ?_, by decide⟩
  have many : ∀ ending ∈ [".build.json", ".snapshot.png", ".snapshot.build.json",
      ".snapshot.thumb.png"], 2 ≤ ending.toList.count '.' := by decide
  have dots := many _ member
  have single := Path.extension_dots output
  omega

theorem endings_plain {output ending : String} (member : ending ∈ endings output) :
    '/' ∉ ending.toList := by
  rw [endings, List.mem_cons] at member
  rcases member with rfl | other
  · rw [Path.extension, String.toList_ofList]
    exact Path.extensionOf_plain output.toList
  · have plain : ∀ fixed ∈ [".build.json", ".snapshot.png", ".snapshot.build.json",
        ".snapshot.thumb.png"], '/' ∉ fixed.toList := by decide
    exact plain ending other

/-- The preview of a valid job is valid and keeps name, scene, workers and format. Whatever the output,
the picture, its record, the preview, and the record and thumbnail of the preview are five different
paths in one directory. -/
theorem preview_valid_and_files_apart (job : Job) :
    (job.validate = .ok () →
      job.snapshot.validate = .ok () ∧ job.snapshot.name = job.name ∧
        job.snapshot.scene = job.scene ∧ job.snapshot.workers = job.workers ∧
        job.snapshot.format = job.format) ∧
    (job.output ≠ "" →
      let preview := job.snapshot.output
      let files := [job.output, metaPath job.output, preview, metaPath preview, thumbnailPath preview]
      files.Nodup ∧ ∀ file ∈ files, Path.directory file = Path.directory job.output) := by
  refine ⟨fun valid => ?_, fun given => ?_⟩
  · obtain ⟨renderable, -⟩ := renderable_of_validate valid
    exact ⟨renderable.snapshot_valid, rfl, rfl, rfl, rfl⟩
  · rw [snapshot_output given]
    intro preview files
    have shape : files = (endings job.output).map (Path.withoutExtension job.output ++ ·) :=
      files_beside job.output
    rw [shape]
    refine ⟨(endings_nodup job.output).map fun first second same => ?_, fun file member => ?_⟩
    · have letters := congrArg String.toList same
      rw [String.toList_append, String.toList_append] at letters
      exact String.toList_inj.mp (List.append_cancel_left letters)
    · obtain ⟨ending, among, rfl⟩ := List.mem_map.mp member
      exact Path.directory_ending job.output (endings_plain among)

/-- The picture of a job goes to a hidden file without an extension of its own, below a directory that
has one. -/
def hiddenOutput : Job :=
  { scene := "scene.pov", output := "pictures.old/.tiff", width := 2, height := 2, workers := 1 }

theorem hidden_output_files_apart :
    hiddenOutput.validate = .ok () ∧ hiddenOutput.output ≠ "" ∧
      hiddenOutput.snapshot.validate = .ok () ∧
      ["pictures.old/.tiff", "pictures.old/.build.json", "pictures.old/.snapshot.png",
        "pictures.old/.snapshot.build.json", "pictures.old/.snapshot.thumb.png"].Nodup ∧
      Path.directory "pictures.old/.snapshot.thumb.png" = Path.directory "pictures.old/.tiff" := by
  have valid : hiddenOutput.validate = .ok () := by decide +kernel
  have given : hiddenOutput.output ≠ "" := by decide
  obtain ⟨kept, apart⟩ := preview_valid_and_files_apart hiddenOutput
  obtain ⟨different, together⟩ := apart given
  have files : [hiddenOutput.output, metaPath hiddenOutput.output, hiddenOutput.snapshot.output,
        metaPath hiddenOutput.snapshot.output, thumbnailPath hiddenOutput.snapshot.output] =
      ["pictures.old/.tiff", "pictures.old/.build.json", "pictures.old/.snapshot.png",
        "pictures.old/.snapshot.build.json", "pictures.old/.snapshot.thumb.png"] := by decide +kernel
  rw [files] at different together
  exact ⟨valid, given, (kept valid).1, different, together _ (by simp)⟩

end Job

end Mosaic
