import Mosaic.Proofs.FreshJob
import Mosaic.Proofs.PictureSaving

/-! Whether the output of an installed job can be written. A job is checked with the path as it was
given, and saved under the cleaned path from the root. Both have the same extension unless the given
path ends in a slash: then the check sees none, and the name before the slash decides. -/
namespace Mosaic

/-! ## The extension of a cleaned path -/

theorem Path.extension_of_lastName {path : String} (other : String)
    (same : Path.lastName path.toList = Path.lastName other.toList) :
    Path.extension path = Path.extension other := by
  rw [Path.extension, Path.extensionOf, same]
  rfl

/-- A path that does not end in a slash and can be encoded by its extension ends in a proper name. -/
theorem Path.isName_of_encodable {path : String}
    (encodable : Encoding.canEncode (Path.extension path) = true)
    (given : Path.lastName path.toList ≠ []) : Path.IsName (Path.lastName path.toList) := by
  refine ⟨given, fun here => ?_, fun above => ?_, Path.lastName_plain _⟩
  · rw [Path.extension_of_lastName "." here] at encodable
    exact absurd encodable (by decide)
  · rw [Path.extension_of_lastName ".." above] at encodable
    exact absurd encodable (by decide)

/-- Seen from the root such a path has the same extension. -/
theorem Path.extension_absolute {path : String}
    (encodable : Encoding.canEncode (Path.extension path) = true)
    (given : Path.lastName path.toList ≠ []) (workingDirectory : String) :
    Path.extension (Path.absolute workingDirectory path) = Path.extension path :=
  Path.extension_of_lastName _
    (Path.lastName_absolute workingDirectory (Path.isName_of_encodable encodable given))

/-! ## Saving -/

/-- Whether an error complains of a picture format. -/
def Error.isFormatFault (error : Error) : Bool :=
  match error.root with
  | .formatCode _ => true
  | .outputImage _ => true
  | .extension _ => true
  | _ => false

theorem Encoding.accepts_error {encoding : Encoding} {picture : Picture} {error : Error}
    (refused : encoding.accepts picture = .error error) : error.isFormatFault = false := by
  unfold Encoding.accepts at refused
  split at refused
  · split at refused
    · cases refused
      rfl
    · cases refused
  · split at refused
    · cases refused
      rfl
    · cases refused
  · cases refused

/-- Under an extension that can be encoded no save fails because of the format. -/
theorem save_of_encodable {path : String}
    (encodable : Encoding.canEncode (Path.extension path) = true) {picture : Picture}
    {store : FileStore} {token : String} {error : Error}
    (failed : (picture.save store token path).2 = .error error) : error.isFormatFault = false := by
  obtain ⟨cause, rfl⟩ | unencoded := (picture.save_reports store token path .standard).2 error failed
  · rfl
  · obtain ⟨encoding, known⟩ := Option.isSome_iff_exists.mp encodable
    unfold Picture.encode Codec.standard at unencoded
    simp only [known] at unencoded
    split at unencoded
    · rename_i refused
      cases unencoded
      exact Encoding.accepts_error refused
    · cases unencoded

/-- Under any other extension nothing is ever saved. -/
theorem save_of_unencodable {path : String}
    (unencodable : Encoding.canEncode (Path.extension path) = false) (picture : Picture)
    (store : FileStore) (token : String) : (picture.save store token path).2 ≠ .ok () := by
  intro saved
  have encoded := (picture.save_reports store token path .standard).1 saved
  have unknown : Encoding.ofExtension? (Path.extension path) = none := by
    simpa [Encoding.canEncode] using unencodable
  unfold Picture.encode Codec.standard at encoded
  simp only [unknown] at encoded
  cases encoded

/-! ## Installed jobs -/

/-- Locating the paths of a job takes nothing away that rendering needs. -/
theorem Job.Renderable.located {job : Job} (renderable : job.Renderable) {place : String}
    (absolute : Path.isAbsolute place = true) : (job.located place).Renderable where
  scene := (Path.absolute_isRooted absolute job.scene).ne_empty
  output := (Path.absolute_isRooted absolute job.output).ne_empty
  columns := renderable.columns
  rows := renderable.rows
  hands := renderable.hands
  coded := renderable.coded

/-- An installed job is valid exactly if the extension of its cleaned output can be encoded; nothing else
can be wrong with it. If the output was given without a slash at its end this is so. Then no save of a
canvas fails because of the format, and otherwise no save succeeds. -/
theorem installed_output_encodable_iff {session ready : Session} {store stored : FileStore}
    {id : String} {job : Job}
    (configured : session.configure store id job = (ready, stored, .ok ())) :
    let installed := ready.board.job
    installed = job.withDefaults.located store.workingPath ∧
      (installed.validate = .ok () ↔
        Encoding.canEncode (Path.extension installed.output) = true) ∧
      (installed.validate ≠ .ok () →
        installed.validate = .error (.outputImage installed.output)) ∧
      (job.output.toList.getLast? ≠ some '/' →
        installed.validate = .ok () ∧
          Path.extension installed.output = Path.extension job.output) ∧
      ∀ (canvas : Picture) (store : FileStore) (token : String),
        (installed.validate = .ok () → ∀ error,
          (canvas.save store token installed.output).2 = .error error →
            error.isFormatFault = false) ∧
        (installed.validate ≠ .ok () → (canvas.save store token installed.output).2 ≠ .ok ()) := by
  obtain ⟨extension, made, artifacts, valid, -, -, rfl⟩ := Session.configure_eq_install configured
  obtain ⟨renderable, encodable⟩ := Job.renderable_of_validate valid
  have checked := (renderable.located store.workingPath_isAbsolute).validate_eq
  intro installed
  have installed_eq : installed = job.withDefaults.located store.workingPath := rfl
  rw [← installed_eq] at checked
  have accepted : installed.validate = .ok () ↔
      Encoding.canEncode (Path.extension installed.output) = true := by
    rw [checked]
    split <;> simp_all
  refine ⟨rfl, accepted, ?_, ?_, fun canvas store token => ⟨?_, ?_⟩⟩
  · intro refused
    rw [checked, if_neg (mt accepted.mpr refused)]
  · intro open_
    have given : job.output ≠ "" := by simpa [Job.withDefaults] using renderable.output
    have named := mt (Path.getLast?_of_lastName_eq_nil (by simpa using given)) open_
    have same := Path.extension_absolute encodable named store.workingPath
    refine ⟨accepted.mpr ?_, same⟩
    rw [installed_eq]
    exact (congrArg Encoding.canEncode same).trans encodable
  · intro fine error failed
    exact save_of_encodable (accepted.mp fine) failed
  · intro refused
    exact save_of_unencodable (by simpa using mt accepted.mpr refused) canvas store token

/-- A job is configured in the root directory. -/
def configuredFor (output : String) : Session × FileStore × Except Error Unit :=
  ({} : Session).configure { workingDirectory := .root } "job"
    { scene := "scene.pov", output, width := 2, height := 2, workers := 1 }

theorem roundabout_output_stays_encodable :
    (configuredFor "pictures.old//../out.JPG").2.2 = .ok () ∧
      (configuredFor "pictures.old//../out.JPG").1.board.job.output = "/out.JPG" ∧
      (configuredFor "pictures.old//../out.JPG").1.board.job.validate = .ok () := by
  have accepted : (configuredFor "pictures.old//../out.JPG").2.2 = .ok () ∧
      (configuredFor "pictures.old//../out.JPG").1.board.job.output = "/out.JPG" := by
    decide +kernel
  refine ⟨accepted.1, accepted.2, ?_⟩
  rcases configured : configuredFor "pictures.old//../out.JPG" with ⟨ready, stored, result⟩
  rw [configured] at accepted
  obtain rfl : result = .ok () := accepted.1
  exact ((installed_output_encodable_iff configured).2.2.2.1 (by decide +kernel)).1

/-- A slash at the end hides the extension from the check, and the canvas can never be saved. -/
theorem trailing_slash_hides_extension :
    (configuredFor "out.xyz/").2.2 = .ok () ∧
      (configuredFor "out.xyz/").1.board.job.validate = .error (.outputImage "/out.xyz") ∧
      (Picture.save (configuredFor "out.xyz/").2.1 "1"
        (configuredFor "out.xyz/").1.board.job.output
        { width := 2, height := 2, pixel := fun _ _ => {} }).2 = .error (.extension ".xyz") := by
  decide +kernel

end Mosaic
