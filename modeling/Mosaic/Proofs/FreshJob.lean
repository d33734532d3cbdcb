import Mosaic.Proofs.Stripes
import Mosaic.Session

/-! A job that has just been configured. It has a tile for each worker, the tiles stand in the order
of their indices, and it can be started, whatever files and writers were involved. -/
namespace Mosaic

/-- A job with everything that rendering takes. Whether its output can be encoded is another matter. -/
structure Job.Renderable (job : Job) : Prop where
  scene : job.scene ≠ ""
  output : job.output ≠ ""
  columns : 1 ≤ job.width.toInt
  rows : 1 ≤ job.height.toInt
  hands : 1 ≤ job.workers.toInt
  coded : (Format.extension? job.withDefaults.format).isSome

/-- The last thing that is checked of a job is the extension of its output. -/
theorem Job.Renderable.validate_eq {job : Job} (renderable : job.Renderable) :
    job.validate =
      if Encoding.canEncode (Path.extension job.output) then .ok ()
      else .error (.outputImage job.output) := by
  have size : ¬(job.width < 1 ∨ job.height < 1) := by
    simp only [Int64.lt_iff_toInt_lt, Int64.toInt_one]
    have columns := renderable.columns
    have rows := renderable.rows
    omega
  have staff : ¬job.workers < 1 := by
    simp only [Int64.lt_iff_toInt_lt, Int64.toInt_one]
    have hands := renderable.hands
    omega
  have coded := renderable.coded
  rw [Option.isSome_iff_ne_none] at coded
  simp only [Job.validate, String.isEmpty_iff, renderable.scene, renderable.output, Bool.or_eq_true,
    decide_eq_true_eq, size, staff, Option.isNone_iff_eq_none, coded, if_false]
  cases Encoding.canEncode (Path.extension job.output) <;> rfl

theorem Job.renderable_of_validate {job : Job} (valid : job.validate = .ok ()) :
    job.Renderable ∧ Encoding.canEncode (Path.extension job.output) = true := by
  simp only [Job.validate] at valid
  split at valid
  · cases valid
  rename_i scene
  split at valid
  · cases valid
  rename_i output
  split at valid
  · cases valid
  rename_i size
  split at valid
  · cases valid
  rename_i staff
  split at valid
  · cases valid
  rename_i coded
  split at valid
  · cases valid
  rename_i encodable
  simp only [Bool.or_eq_true, decide_eq_true_eq, not_or, Int64.lt_iff_toInt_lt,
    Int64.toInt_one] at size staff
  have known := Option.isSome_iff_ne_none.mpr (by simpa using coded)
  exact ⟨⟨by simpa using scene, by simpa using output, by omega, by omega, by omega, known⟩,
    by simpa using encodable⟩

/-- A valid job has columns, rows and workers. -/
theorem Job.size_of_validate {job : Job} (valid : job.validate = .ok ()) :
    1 ≤ job.width.toInt ∧ 1 ≤ job.height.toInt ∧ 1 ≤ job.workers.toInt := by
  obtain ⟨renderable, -⟩ := Job.renderable_of_validate valid
  exact ⟨renderable.columns, renderable.rows, renderable.hands⟩

/-- The tiles of a job stand in the order of their indices. -/
theorem Job.tiles_indexed {job : Job} (columns : 1 ≤ job.width.toInt) (hands : 1 ≤ job.workers.toInt)
    {directory extension : String} {position : Nat} {tile : Tile}
    (found : (job.tiles directory extension)[position]? = some tile) :
    tile.index.toInt = position := by
  rw [Job.tiles, partition_eq columns hands, List.map_map, List.getElem?_map,
    Option.map_eq_some_iff] at found
  obtain ⟨index, place, rfl⟩ := found
  obtain ⟨short, rfl⟩ := List.getElem?_eq_some_iff.mp place
  have small := job.workers.toInt_lt
  rw [List.length_range] at short
  simp only [List.getElem_range, Function.comp_apply, Tile.located, stripe]
  exact Int64.toInt_ofNat_of_lt (by omega)

namespace Session

/-- A configured job that has not been started. -/
structure Fresh (session : Session) : Prop where
  unstarted : session.isStarted = false
  crew : session.crew = session.board.tiles.map fun tile => { tile }
  manned : session.crew ≠ []
  indexed : ∀ {position : Nat} {tile : Tile}, session.board.tiles[position]? = some tile →
    tile.index.toInt = position

/-- Whether a job gets as far as the writing of its artifacts: it is valid, its format has an extension,
and its directory can be made. -/
def admits (session : Session) (store : FileStore) (id : String) (job : Job) : Bool :=
  job.withDefaults.validate.isOk && (Format.extension (.ofString job.withDefaults.format)).isOk &&
    (store.makeDirectories (session.directoryFor store id)).2.isOk

/-- A job that gets no further leaves the session as it is. -/
theorem configure_of_refused {session : Session} {store : FileStore} {id : String} {job : Job}
    (refused : session.admits store id job = false) :
    ∃ stored error, session.configure store id job = (session, stored, .error error) := by
  simp only [configure]
  split
  · exact ⟨_, _, rfl⟩
  · exact ⟨_, _, rfl⟩
  · rename_i extension valid coded
    split
    · exact ⟨_, _, rfl⟩
    · rename_i made
      simp [admits, valid, coded, made, Except.isOk, Except.toBool] at refused

/-- A job that gets so far is installed if all its artifacts are written. Otherwise its directory is
removed and the session is cleared. -/
theorem configure_of_admitted {session : Session} {store : FileStore} {id : String} {job : Job}
    (admitted : session.admits store id job = true) :
    ∃ extension made,
      job.withDefaults.validate = .ok () ∧
      Format.extension (.ofString job.withDefaults.format) = .ok extension ∧
      store.makeDirectories (session.directoryFor store id) = (made, .ok ()) ∧
      session.configure store id job =
        let directory := session.directoryFor store id
        let located := job.withDefaults.located store.workingPath
        let tiles := located.tiles directory extension
        match writeArtifacts (session.writerFor directory) located made tiles with
        | (left, .error error) => (session.cleared, left.removeTree directory, .error error)
        | (left, .ok artifacts) =>
          (session.install id directory located tiles artifacts, left, .ok ()) := by
  simp only [admits, Bool.and_eq_true] at admitted
  obtain ⟨⟨accepted, encoded⟩, placed⟩ := admitted
  simp only [configure]
  split
  · rename_i faulty
    simp [faulty, Except.isOk, Except.toBool] at accepted
  · rename_i uncoded _
    simp [uncoded, Except.isOk, Except.toBool] at encoded
  · rename_i extension valid coded
    split
    · rename_i unmade
      simp [unmade, Except.isOk, Except.toBool] at placed
    · rename_i made whole
      exact ⟨extension, made, valid, coded, whole, rfl⟩

/-- What a session holds after a job was configured. -/
theorem configure_eq_install {session ready : Session} {store stored : FileStore} {id : String}
    {job : Job} (configured : session.configure store id job = (ready, stored, .ok ())) :
    ∃ extension made artifacts,
      let directory := session.directoryFor store id
      let located := job.withDefaults.located store.workingPath
      let tiles := located.tiles directory extension
      job.withDefaults.validate = .ok () ∧
      Format.extension (.ofString job.withDefaults.format) = .ok extension ∧
      writeArtifacts (session.writerFor directory) located made tiles = (stored, .ok artifacts) ∧
      ready = session.install id directory located tiles artifacts := by
  cases admission : session.admits store id job with
  | false =>
    obtain ⟨left, error, refused⟩ := configure_of_refused admission
    rw [refused] at configured
    cases configured
  | true =>
    obtain ⟨extension, made, valid, coded, -, whole⟩ := configure_of_admitted admission
    rw [whole] at configured
    simp only at configured
    split at configured
    · cases configured
    · rename_i left artifacts written
      cases configured
      exact ⟨extension, made, artifacts, valid, coded, written, rfl⟩

theorem configure_fresh {session ready : Session} {store stored : FileStore} {id : String} {job : Job}
    (configured : session.configure store id job = (ready, stored, .ok ())) : ready.Fresh := by
  obtain ⟨extension, made, artifacts, valid, -, -, rfl⟩ := configure_eq_install configured
  obtain ⟨columns, -, hands⟩ := Job.size_of_validate valid
  refine ⟨rfl, rfl, ?_, Job.tiles_indexed columns hands⟩
  have staffed : job.withDefaults.workers.toInt.toNat ≠ 0 := by omega
  simpa [install, Job.tiles, Job.located, partition_eq columns hands] using staffed

/-- A configured job has a worker for each of its tiles. Every worker is idle, nothing has been reported
on its tile, and the tile has the rows of the picture. -/
theorem configure_crew {session ready : Session} {store stored : FileStore} {id : String} {job : Job}
    (configured : session.configure store id job = (ready, stored, .ok ())) :
    1 ≤ job.height.toInt ∧ ready.board.job.height = job.height ∧
      ready.crew.length = job.workers.toInt ∧
      ∀ worker ∈ ready.crew, ∃ tile : Tile, worker = { tile } ∧ tile.render = {} ∧
        tile.endRow = job.height := by
  obtain ⟨extension, made, artifacts, valid, -, -, rfl⟩ := configure_eq_install configured
  obtain ⟨columns, rows, hands⟩ := Job.size_of_validate valid
  refine ⟨rows, rfl, ?_, fun worker member => ?_⟩
  · simp only [install, Job.tiles, Job.located, partition_eq columns hands, List.length_map,
      List.length_range]
    exact Int.toNat_of_nonneg (by omega)
  · simp only [install, Job.tiles, Job.located, partition_eq columns hands, List.mem_map] at member
    obtain ⟨tile, ⟨stripe, ⟨index, -, rfl⟩, rfl⟩, rfl⟩ := member
    exact ⟨_, rfl, rfl, rfl⟩

/-- Each worker of a fresh job has the tile of its place. -/
theorem Fresh.own_index {session : Session} (fresh : session.Fresh)
    (position : Fin session.crew.length) :
    (session.crew.get position).tile.index.toInt = position := by
  obtain ⟨place, short⟩ := position
  have same : session.crew[place]? = some (session.crew.get ⟨place, short⟩) :=
    List.getElem?_eq_getElem short
  generalize session.crew.get ⟨place, short⟩ = worker at same
  rw [fresh.crew, List.getElem?_map, Option.map_eq_some_iff] at same
  obtain ⟨tile, found, rfl⟩ := same
  exact fresh.indexed found

/-- A fresh job can be started. Its workers are those of the configured job, and one tile is awaited
for each. -/
theorem Fresh.start_ok {session : Session} (fresh : session.Fresh) (isSnapshot : Bool) :
    ∃ active run, session.start isSnapshot = .ok (active, run) ∧ active.id = run.id ∧
      active.board.job = session.board.job ∧
      active.board.tiles = session.board.tiles.map rewound ∧
      run.remaining = session.crew.length ∧ run.isSnapshot = isSnapshot ∧ run.isBroken = false := by
  have configured : session.isConfigured = true := by
    simpa [isConfigured] using fresh.manned
  simp only [start, configured, fresh.unstarted]
  refine ⟨_, _, rfl, rfl, rfl, rfl, ?_, rfl, rfl⟩
  exact List.length_map ..

end Session

end Mosaic
