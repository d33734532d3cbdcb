import Mathlib
import Mosaic.Proofs.ArtifactReading
import Mosaic.Proofs.FileLookup
import Mosaic.Proofs.FreshJob
import Mosaic.Proofs.Interleaving

/-! Calls on a session. Jobs are configured and started in any order and with any success, and events
are taken in between. What has come of the calls decides whether a job can be started. As long as a job
is configured there is a tile and a worker for each hand of the job, and until an event is taken in
nothing is reported on the tiles and their files are apart from each other. -/
namespace Mosaic

/-! ## The files of a job -/

/-- The name of a file that belongs to a tile. -/
def tileName (index : Int64) (extension : String) : String :=
  "tile" ++ Text.decimal index ++ extension

theorem decimal_plain (n : Int64) : '/' ∉ (Text.decimal n).toList := by
  intro member
  rcases Artifact.mem_decimal member with digit | sign
  · exact absurd digit (by decide)
  · exact absurd sign (by decide)

/-- The extensions of the files that belong to tiles. -/
def tileExtensions : List String := [".png", ".bmp", ".jpg", ".ini"]

theorem tileName_isName (index : Int64) {extension : String} (known : extension ∈ tileExtensions) :
    Path.IsName (tileName index extension).toList := by
  have plain : ∀ other ∈ tileExtensions, '/' ∉ other.toList := by decide
  simp only [tileName, String.toList_append]
  exact ⟨by simp, by simp, by simp, by simp [decimal_plain, plain extension known]⟩

/-- A file is known by its tile and its extension. -/
theorem tileName_inj {index other : Int64} {extension extension' : String}
    (known : extension ∈ tileExtensions) (known' : extension' ∈ tileExtensions)
    (same : tileName index extension = tileName other extension') :
    index = other ∧ extension = extension' := by
  have size : ∀ extension ∈ tileExtensions, extension.toList.length = 4 := by decide
  have letters := congrArg String.toList same
  simp only [tileName, String.toList_append] at letters
  obtain ⟨front, back⟩ :=
    List.append_inj' letters ((size extension known).trans (size extension' known').symm)
  have numbers := String.toList_inj.mp (List.append_cancel_left front)
  exact ⟨Int64.toInt_inj.mp (Int.repr_inj.mp numbers), String.toList_inj.mp back⟩

/-- The extensions of the pictures that renderers write. -/
theorem extension_known {code : Bytes} {extension : String}
    (coded : Format.extension code = .ok extension) : extension ∈ [".png", ".bmp", ".jpg"] := by
  simp only [Format.extension] at coded
  split at coded
  · rename_i found
    cases coded
    obtain ⟨letter, -, chosen⟩ := Option.bind_eq_some_iff.mp found
    simp only [Format.extension?] at chosen
    split at chosen <;> cases chosen <;> decide
  · cases coded

/-- Where a file that belongs to a tile stands. -/
def tilePath (home : String) (index : Int64) (extension : String) : String :=
  Path.join [home, tileName index extension]

section TilePath
variable {extension : String} (known : extension ∈ tileExtensions)
include known

theorem base_tilePath (home : String) (index : Int64) :
    Path.base (tilePath home index extension) = tileName index extension :=
  Path.base_join home (tileName_isName index known)

theorem directory_tilePath {home : String} (rooted : Path.IsRooted home) (index : Int64) :
    Path.directory (tilePath home index extension) = home :=
  rooted.directory_join (tileName_isName index known)

theorem tilePath_inj {extension' : String} (known' : extension' ∈ tileExtensions) {home : String}
    {index other : Int64} (same : tilePath home index extension = tilePath home other extension') :
    index = other ∧ extension = extension' := by
  have names := congrArg Path.base same
  rw [base_tilePath known, base_tilePath known'] at names
  exact tileName_inj known known' names

theorem nodup_tilePaths (home : String) {indices : List Int64} (apart : indices.Nodup) :
    (indices.map fun index => tilePath home index extension).Nodup :=
  apart.map fun _ _ same => (tilePath_inj known known same).1

end TilePath

/-- Nothing is reported on the tiles of a job when it is cut, and its pictures go into its directory. -/
theorem Job.tile_blank {job : Job} (columns : 1 ≤ job.width.toInt) (hands : 1 ≤ job.workers.toInt)
    {directory extension : String} {tile : Tile} (member : tile ∈ job.tiles directory extension) :
    tile.render = {} ∧ tile.parse = {} ∧
      tile.outputFile = tilePath directory tile.index extension := by
  simp only [Job.tiles, partition_eq columns hands, List.mem_map] at member
  obtain ⟨stripe, ⟨index, -, rfl⟩, rfl⟩ := member
  exact ⟨rfl, rfl, rfl⟩

/-! ## Writing artifacts -/

/-- Writing comes as far as a tile whose artifact cannot be written. -/
def StopsAt (writer : Writer) (job : Job) (store : FileStore) (tiles : List Tile) (tile : Tile)
    (cause : Error) : Prop :=
  ∃ written more paths between left, tiles = written ++ tile :: more ∧
    writeArtifacts writer job store written = (between, .ok paths) ∧
    writer between job tile = (left, .error cause)

/-- The error is that of the first artifact that cannot be written. -/
theorem writeArtifacts_error {writer : Writer} {job : Job} {store left : FileStore}
    {tiles : List Tile} {error : Error}
    (failed : writeArtifacts writer job store tiles = (left, .error error)) :
    ∃ tile cause, StopsAt writer job store tiles tile cause ∧ error = cause.ofWriter tile := by
  induction tiles generalizing store with
  | nil => cases failed
  | cons tile more ih =>
    simp only [writeArtifacts] at failed
    split at failed
    · rename_i cause refused
      cases failed
      exact ⟨tile, cause, ⟨[], more, [], store, left, rfl, rfl, refused⟩, rfl⟩
    · rename_i between path written
      split at failed
      · rename_i later stopped
        cases failed
        obtain ⟨last, cause, ⟨before, after, paths, here, final, rfl, all, refused⟩, rfl⟩ :=
          ih stopped
        refine ⟨last, cause, ⟨tile :: before, after, path :: paths, here, final, rfl, ?_, refused⟩, rfl⟩
        simp only [writeArtifacts, written, all]
      · cases failed

/-- However a writer complains, the error is about an artifact. -/
theorem root_ofWriter (tile : Tile) (cause : Error) :
    ∃ index path fault, (cause.ofWriter tile).root = .artifact index path fault := by
  unfold Error.ofWriter
  split
  · rename_i index path fault shape
    exact ⟨index, path, fault, shape⟩
  · exact ⟨tile.index, "", .reported cause.message, rfl⟩

/-- The paths of the artifacts that are written as INI files. -/
theorem writeArtifacts_paths {directory : String} {libraryPaths : List String} {job : Job}
    {store left : FileStore} {tiles : List Tile} {artifacts : List String}
    (written : writeArtifacts (Artifact.write { directory, libraryPaths }) job store tiles =
      (left, .ok artifacts)) :
    artifacts = tiles.map fun tile => tilePath directory tile.index ".ini" := by
  induction tiles generalizing store artifacts with
  | nil =>
    cases written
    rfl
  | cons tile more ih =>
    simp only [writeArtifacts] at written
    split at written
    · cases written
    · rename_i between path first
      split at written
      · cases written
      · rename_i paths rest
        cases written
        rw [List.map_cons, ← ih rest]
        simp only [Artifact.write] at first
        split at first
        · cases first
          rfl
        · cases first

namespace Session

/-! ## Calls -/

/-- What is done to a session: a job is configured, the job is started, or an event of a started job is
taken in. -/
inductive Call where
  | configure (store : FileStore) (id : String) (job : Job)
  | start (isSnapshot : Bool)
  | receive (run : Run) (store : FileStore) (token : String) (event : Event)

/-- What comes of a call. A job is refused before its artifacts are written, and it fails when one of
them cannot be. -/
inductive Outcome where
  | refused
  | failed
  | configured
  | started
  | denied
  | received
  deriving DecidableEq, Repr

/-- Whether an outcome bears on the next start. -/
def Outcome.isLasting : Outcome → Bool
  | failed | configured | started => true
  | refused | denied | received => false

/-- The session after a call. -/
def after (session : Session) : Call → Session
  | .configure store id job => (session.configure store id job).1
  | .start isSnapshot => ((session.start isSnapshot).toOption.map (·.1)).getD session
  | .receive run store token event => (session.receive run store token event).1

/-- What comes of a call on a session. -/
def outcome (session : Session) : Call → Outcome
  | .configure store id job =>
    if !session.admits store id job then .refused
    else if (session.configure store id job).2.2.isOk then .configured else .failed
  | .start isSnapshot => if (session.start isSnapshot).isOk then .started else .denied
  | .receive .. => .received

/-- The sessions to which calls lead, with what came of the calls. -/
inductive Reached (origin : Session) : List Outcome → Session → Prop where
  | new : Reached origin [] origin
  | call {history : List Outcome} {session : Session} (reached : Reached origin history session)
      (call : Call) : Reached origin (history ++ [session.outcome call]) (session.after call)

/-- The last outcome that bears on the next start. -/
def standing (history : List Outcome) : Option Outcome := (history.filter Outcome.isLasting).getLast?

theorem standing_concat (history : List Outcome) (outcome : Outcome) :
    standing (history ++ [outcome]) =
      if outcome.isLasting then some outcome else standing history := by
  unfold standing
  cases lasting : outcome.isLasting <;> simp [lasting]

/-- What came of the calls since a job was last configured, the last first. -/
def sinceConfigured (history : List Outcome) : List Outcome :=
  history.reverse.takeWhile (· ≠ .configured)

theorem received_since_concat (history : List Outcome) (outcome : Outcome) :
    .received ∈ sinceConfigured (history ++ [outcome]) ↔
      outcome ≠ .configured ∧ (outcome = .received ∨ .received ∈ sinceConfigured history) := by
  unfold sinceConfigured
  rw [List.reverse_append, List.reverse_singleton, List.singleton_append, List.takeWhile_cons]
  by_cases configured : outcome = .configured
  · simp [configured]
  · simp [configured, eq_comm]

/-- An admitted job fails when one of its artifacts cannot be written, and takes its directory along. -/
theorem configure_of_stopped {session : Session} {store : FileStore} {id : String} {job : Job}
    {error : Error} (admitted : session.admits store id job = true)
    (failed : (session.configure store id job).2.2 = .error error) :
    let directory := session.directoryFor store id
    let located := job.withDefaults.located store.workingPath
    ∃ extension made left,
      writeArtifacts (session.writerFor directory) located made (located.tiles directory extension) =
        (left, .error error) ∧
      session.configure store id job = (session.cleared, left.removeTree directory, .error error) := by
  obtain ⟨extension, made, -, -, -, whole⟩ := configure_of_admitted admitted
  rw [whole] at failed ⊢
  simp only at failed ⊢
  split at failed
  · rename_i left fault stopped
    cases failed
    exact ⟨extension, made, left, stopped, rfl⟩
  · cases failed

/-- The session once its job is started. -/
def begun (session : Session) (isSnapshot : Bool) : Session :=
  { session with
    crew := session.crew.map Worker.start
    isSnapshot
    isStarted := true
    board := { session.board with tiles := session.board.tiles.map rewound }
    compositor := session.compositor.begin session.board.job.output }

/-- A job is started if it is configured and has not been started. -/
theorem start_cases (session : Session) (isSnapshot : Bool) :
    (session.isConfigured = false ∧ session.start isSnapshot = .error .notConfigured) ∨
    (session.isConfigured = true ∧ session.isStarted = true ∧
      session.start isSnapshot = .error .alreadyStarted) ∨
    (session.isConfigured = true ∧ session.isStarted = false ∧
      ∃ run, session.start isSnapshot = .ok (session.begun isSnapshot, run)) := by
  unfold start
  cases configured : session.isConfigured with
  | false => exact .inl ⟨rfl, rfl⟩
  | true =>
    cases started : session.isStarted with
    | true => exact .inr (.inl ⟨rfl, rfl, rfl⟩)
    | false => exact .inr (.inr ⟨rfl, rfl, _, rfl⟩)

/-- An event changes the board and the canvas and nothing else. -/
theorem receive_session (session : Session) (run : Run) (store : FileStore) (token : String)
    (event : Event) :
    ∃ compositor board, (session.receive run store token event).1 = { session with compositor, board } ∧
      (board = session.board ∨ board = session.board.update event.tile) := by
  unfold receive
  split
  · exact ⟨session.compositor, session.board, rfl, .inl rfl⟩
  · obtain ⟨compositor, collected⟩ := session.collect_session store token event
    refine ⟨compositor, session.board.update event.tile, ?_, .inr rfl⟩
    simp only [collected]
    split <;> rfl

/-- What a call can do. -/
theorem call_cases (session : Session) (call : Call) :
    ((session.outcome call = .refused ∨ session.outcome call = .denied) ∧
      session.after call = session) ∨
    (session.outcome call = .failed ∧ session.after call = session.cleared) ∨
    (session.outcome call = .configured ∧ ∃ store id job stored,
      session.configure store id job = (session.after call, stored, .ok ())) ∨
    (session.outcome call = .started ∧ session.isConfigured = true ∧ ∃ isSnapshot,
      session.after call = session.begun isSnapshot) ∨
    (session.outcome call = .received ∧ ∃ compositor board,
      session.after call = { session with compositor, board } ∧
        (board = session.board ∨ ∃ tile, board = session.board.update tile)) := by
  cases call with
  | configure store id job =>
    cases admission : session.admits store id job with
    | false =>
      obtain ⟨stored, error, refused⟩ := configure_of_refused admission
      exact .inl ⟨.inl (by simp [outcome, admission]), by simp [after, refused]⟩
    | true =>
      cases result : (session.configure store id job).2.2 with
      | error error =>
        obtain ⟨-, -, left, -, whole⟩ := configure_of_stopped admission result
        exact .inr (.inl ⟨by simp [outcome, admission, result, Except.isOk, Except.toBool],
          by simp [after, whole]⟩)
      | ok =>
        refine .inr (.inr (.inl ⟨by simp [outcome, admission, result, Except.isOk, Except.toBool],
          store, id, job, (session.configure store id job).2.1, ?_⟩))
        rw [after, ← result]
  | start isSnapshot =>
    obtain ⟨-, denied⟩ | ⟨-, -, denied⟩ | ⟨configured, -, run, started⟩ :=
      start_cases session isSnapshot
    · exact .inl ⟨.inr (by simp [outcome, denied, Except.isOk, Except.toBool]),
        by simp [after, denied, Except.toOption]⟩
    · exact .inl ⟨.inr (by simp [outcome, denied, Except.isOk, Except.toBool]),
        by simp [after, denied, Except.toOption]⟩
    · exact .inr (.inr (.inr (.inl ⟨by simp [outcome, started, Except.isOk, Except.toBool], configured,
        isSnapshot, by simp [after, started, Except.toOption]⟩)))
  | receive run store token event =>
    obtain ⟨compositor, board, same, change⟩ := session.receive_session run store token event
    exact .inr (.inr (.inr (.inr ⟨rfl, compositor, board, same,
      change.imp_right fun shown => ⟨_, shown⟩⟩)))

/-! ## What calls keep -/

/-- There are a tile and a worker for each hand of the job, and the tiles stand in the order of their
indices. -/
structure Laid (session : Session) : Prop where
  tiles : session.board.tiles.length = session.board.job.workers.toInt
  crew : session.crew.length = session.board.job.workers.toInt
  indexed : ∀ (position : Nat) (tile : Tile), session.board.tiles[position]? = some tile →
    tile.index.toInt = position

/-- Nothing is reported on the tiles of the job, and its files stand in its directory. -/
structure Untouched (session : Session) : Prop where
  rooted : Path.IsRooted session.directory
  blank : ∀ tile ∈ session.board.tiles, tile.render = {} ∧ tile.parse = {}
  pictures : ∃ extension ∈ [".png", ".bmp", ".jpg"], ∀ tile ∈ session.board.tiles,
    tile.outputFile = tilePath session.directory tile.index extension
  artifacts : session.writer = none →
    session.artifacts = session.board.tiles.map fun tile => tilePath session.directory tile.index ".ini"

theorem Laid.nodup_indices {session : Session} (laid : session.Laid) :
    (session.board.tiles.map (·.index)).Nodup := by
  rw [List.nodup_iff_getElem?_ne_getElem?]
  intro position other before short same
  rw [List.length_map] at short
  rw [List.getElem?_map, List.getElem?_map, List.getElem?_eq_getElem short,
    List.getElem?_eq_getElem (Nat.lt_trans before short)] at same
  have here := laid.indexed _ _ (List.getElem?_eq_getElem (Nat.lt_trans before short))
  have there := laid.indexed _ _ (List.getElem?_eq_getElem short)
  have index : session.board.tiles[position].index = session.board.tiles[other].index :=
    Option.some.inj same
  rw [index, there] at here
  omega

theorem laid_of_configured {session ready : Session} {store stored : FileStore} {id : String}
    {job : Job} (configured : session.configure store id job = (ready, stored, .ok ())) :
    ready.Laid := by
  have fresh := configure_fresh configured
  obtain ⟨-, -, hands, -⟩ := configure_crew configured
  obtain ⟨extension, made, artifacts, -, -, -, shape⟩ := configure_eq_install configured
  have workers : ready.board.job.workers = job.workers := by
    rw [shape]
    rfl
  have tiles : ready.board.tiles.length = ready.crew.length := by
    rw [fresh.crew, List.length_map]
  exact ⟨by rw [tiles, hands, workers], by rw [hands, workers], fun _ _ => fresh.indexed⟩

theorem untouched_install (session : Session) (id : String) {directory extension : String} {job : Job}
    {artifacts : List String} (columns : 1 ≤ job.width.toInt) (hands : 1 ≤ job.workers.toInt)
    (rooted : Path.IsRooted directory) (known : extension ∈ [".png", ".bmp", ".jpg"])
    (written : session.writer = none → artifacts =
      (job.tiles directory extension).map fun tile => tilePath directory tile.index ".ini") :
    (session.install id directory job (job.tiles directory extension) artifacts).Untouched where
  rooted := rooted
  blank _ member :=
    ⟨(Job.tile_blank columns hands member).1, (Job.tile_blank columns hands member).2.1⟩
  pictures := ⟨extension, known, fun _ member => (Job.tile_blank columns hands member).2.2⟩
  artifacts := written

theorem untouched_of_configured {session ready : Session} {store stored : FileStore} {id : String}
    {job : Job} (configured : session.configure store id job = (ready, stored, .ok ())) :
    ready.Untouched := by
  obtain ⟨extension, made, artifacts, valid, coded, written, rfl⟩ := configure_eq_install configured
  obtain ⟨columns, -, hands⟩ := Job.size_of_validate valid
  have rooted := Path.absolute_isRooted store.workingPath_isAbsolute
    (Path.join [session.options.scratch, id])
  refine untouched_install session id columns hands rooted (extension_known coded) fun default => ?_
  rw [writerFor, default, Option.getD_none] at written
  exact writeArtifacts_paths written

theorem begun_isConfigured (session : Session) (isSnapshot : Bool) :
    (session.begun isSnapshot).isConfigured = session.isConfigured := by
  simp [isConfigured, begun]

theorem Laid.begun {session : Session} (laid : session.Laid) (isSnapshot : Bool) :
    (session.begun isSnapshot).Laid := by
  refine ⟨?_, ?_, fun position tile found => ?_⟩
  · simpa [Session.begun] using laid.tiles
  · simpa [Session.begun] using laid.crew
  · simp only [Session.begun, List.getElem?_map, Option.map_eq_some_iff] at found
    obtain ⟨before, here, rfl⟩ := found
    exact laid.indexed position before here

/-- Starting leaves tiles on which nothing is reported as they are. -/
theorem Untouched.begun {session : Session} (untouched : session.Untouched) (isSnapshot : Bool) :
    (session.begun isSnapshot).Untouched := by
  have same : session.board.tiles.map rewound = session.board.tiles := by
    refine (List.map_congr_left fun tile member => ?_).trans (List.map_id _)
    obtain ⟨render, -⟩ := untouched.blank tile member
    rw [rewound, render, ← render]
    rfl
  obtain ⟨rooted, blank, pictures, artifacts⟩ := untouched
  rw [← same] at blank pictures artifacts
  exact ⟨rooted, blank, pictures, artifacts⟩

/-- An event puts a tile in the place of its own index. -/
theorem Laid.update {session : Session} (laid : session.Laid) (compositor : Compositor) (tile : Tile) :
    Laid { session with compositor, board := session.board.update tile } := by
  refine ⟨?_, laid.crew, fun position shown found => ?_⟩
  · simpa [Board.update, length_place] using laid.tiles
  · simp only [Board.update, getElem?_place] at found
    split at found
    · rename_i own
      cases found
      exact own.1
    · exact laid.indexed position shown found

/-- What holds of a session by what came of the calls. -/
structure Kept (origin session : Session) (history : List Outcome) : Prop where
  writer : session.writer = origin.writer
  manned : session.isConfigured = true ↔
    standing history = some .configured ∨ standing history = some .started
  active : session.isStarted = true ↔ standing history = some .started
  laid : session.isConfigured = true → session.Laid
  untouched : session.isConfigured = true → .received ∉ sinceConfigured history → session.Untouched

/-- A new session has nothing to keep yet. -/
theorem Kept.new (options : RendererOptions) (writer : Option Writer) :
    Kept { options, writer } { options, writer } [] where
  writer := rfl
  manned := by simp [isConfigured, standing]
  active := by simp [standing]
  laid := by simp [isConfigured]
  untouched := by simp [isConfigured]

/-- One call keeps it. -/
theorem Kept.call {origin session : Session} {history : List Outcome}
    (kept : Kept origin session history) (call : Call) :
    Kept origin (session.after call) (history ++ [session.outcome call]) := by
  obtain ⟨idle, same⟩ | ⟨failed, cleared⟩ | ⟨configured, store, id, job, stored, made⟩ |
    ⟨started, manned, isSnapshot, begun⟩ | ⟨received, compositor, board, shown, change⟩ :=
    session.call_cases call
  · have lasting : (session.outcome call).isLasting = false := by
      obtain refused | denied := idle <;> simp [*, Outcome.isLasting]
    have stands := (standing_concat history (session.outcome call)).trans (if_neg (by simp [lasting]))
    rw [same]
    refine ⟨kept.writer, stands ▸ kept.manned, stands ▸ kept.active, kept.laid, fun manned quiet => ?_⟩
    refine kept.untouched manned fun earlier => quiet ?_
    rw [received_since_concat]
    exact ⟨fun configured => by simp [configured] at idle, .inr earlier⟩
  · have stands := (standing_concat history .failed).trans (if_pos rfl)
    rw [failed, cleared]
    have vacant : session.cleared.isConfigured ≠ true := by simp [isConfigured, Session.cleared]
    refine ⟨kept.writer, ?_, ?_, fun manned => absurd manned vacant,
      fun manned => absurd manned vacant⟩
    · simp [stands, vacant]
    · simp [stands, Session.cleared]
  · have stands := (standing_concat history .configured).trans (if_pos rfl)
    have fresh := configure_fresh made
    rw [configured]
    refine ⟨?_, ?_, ?_, fun _ => laid_of_configured made, fun _ _ => untouched_of_configured made⟩
    · obtain ⟨extension, files, artifacts, -, -, -, shape⟩ := configure_eq_install made
      rw [shape]
      exact kept.writer
    · simpa [stands, isConfigured] using fresh.manned
    · simp [stands, fresh.unstarted]
  · have stands := (standing_concat history .started).trans (if_pos rfl)
    rw [started, begun]
    refine ⟨kept.writer, ?_, ?_, fun _ => (kept.laid manned).begun isSnapshot, fun _ quiet => ?_⟩
    · simp [stands, begun_isConfigured, manned]
    · simp [stands, Session.begun]
    · refine (kept.untouched manned fun earlier => quiet ?_).begun isSnapshot
      rw [received_since_concat]
      exact ⟨by decide, .inr earlier⟩
  · have stands := (standing_concat history .received).trans (if_neg (by decide))
    rw [received, shown]
    refine ⟨kept.writer, stands ▸ kept.manned, stands ▸ kept.active, fun manned => ?_,
      fun _ quiet => ?_⟩
    · obtain rfl | ⟨tile, rfl⟩ := change
      · obtain ⟨tiles, crew, indexed⟩ := kept.laid manned
        exact ⟨tiles, crew, indexed⟩
      · exact (kept.laid manned).update compositor tile
    · exact absurd ((received_since_concat history .received).mpr ⟨by decide, .inl rfl⟩) quiet

/-- Any number of calls keep it. -/
theorem Reached.kept {options : RendererOptions} {writer : Option Writer} {history : List Outcome}
    {session : Session} (reached : Reached { options, writer } history session) :
    Kept { options, writer } session history := by
  induction reached with
  | new => exact .new options writer
  | call reached call ih => exact ih.call call

/-- What came of the calls decides what comes of a start. -/
theorem Kept.start_iff {origin session : Session} {history : List Outcome}
    (kept : Kept origin session history) (isSnapshot : Bool) :
    ((session.start isSnapshot).isOk = true ↔ standing history = some .configured) ∧
    (session.start isSnapshot = .error .alreadyStarted ↔ standing history = some .started) ∧
    (session.start isSnapshot = .error .notConfigured ↔
      standing history ≠ some .configured ∧ standing history ≠ some .started) := by
  have manned := kept.manned
  have active := kept.active
  obtain ⟨vacant, denied⟩ | ⟨staffed, started, denied⟩ | ⟨staffed, waiting, run, begun⟩ :=
    start_cases session isSnapshot
  · have neither := not_or.mp (mt manned.mpr (by simp [vacant]))
    simp [denied, neither, Except.isOk, Except.toBool]
  · have stands := active.mp started
    simp [denied, stands, Except.isOk, Except.toBool]
  · have unstarted := mt active.mpr (by simp [waiting])
    have stands := (manned.mp staffed).resolve_right unstarted
    simp [begun, stands, Except.isOk, Except.toBool]

/-- The files that belong to the tiles of an untouched job. -/
theorem Untouched.files_apart {session : Session} (untouched : session.Untouched)
    (apart : (session.board.tiles.map (·.index)).Nodup) :
    let tiles := session.board.tiles
    let outputs := tiles.map (·.outputFile)
    (∃ extension, ∀ tile ∈ tiles, Path.directory tile.outputFile = session.directory ∧
      Path.base tile.outputFile = "tile" ++ Text.decimal tile.index ++ extension) ∧
    outputs.Nodup ∧
    (session.writer = none →
      session.artifacts.map Path.base = tiles.map ("tile" ++ Text.decimal ·.index ++ ".ini") ∧
      (∀ path ∈ session.artifacts, Path.directory path = session.directory) ∧
      (outputs ++ session.artifacts).Nodup) := by
  obtain ⟨rooted, -, ⟨extension, drawable, pictures⟩, artifacts⟩ := untouched
  intro tiles outputs
  have known : extension ∈ tileExtensions := by
    simp only [tileExtensions, List.mem_cons] at drawable ⊢
    tauto
  have ini : ".ini" ∈ tileExtensions := by decide
  have other : extension ≠ ".ini" := by
    rintro rfl
    exact absurd drawable (by decide)
  have shape : ∀ extension, (tiles.map fun tile => tilePath session.directory tile.index extension) =
      (tiles.map (·.index)).map fun index => tilePath session.directory index extension := by
    intro extension
    rw [List.map_map]
    rfl
  have drawn : outputs = tiles.map fun tile => tilePath session.directory tile.index extension :=
    List.map_congr_left pictures
  have distinct : outputs.Nodup := by
    rw [drawn, shape]
    exact nodup_tilePaths known _ apart
  refine ⟨⟨extension, fun tile member => ?_⟩, distinct, fun default => ?_⟩
  · rw [pictures tile member]
    exact ⟨directory_tilePath known rooted _, base_tilePath known _ _⟩
  · rw [artifacts default]
    refine ⟨?_, ?_, ?_⟩
    · rw [List.map_map]
      refine List.map_congr_left fun tile _ => ?_
      rw [Function.comp_apply, base_tilePath ini]
      rfl
    · intro path member
      obtain ⟨tile, -, rfl⟩ := List.mem_map.mp member
      exact directory_tilePath ini rooted _
    · refine List.nodup_append.mpr ⟨distinct, ?_, ?_⟩
      · rw [shape]
        exact nodup_tilePaths ini _ apart
      · intro output drawnTo path written same
        rw [drawn] at drawnTo
        obtain ⟨tile, -, rfl⟩ := List.mem_map.mp drawnTo
        obtain ⟨second, -, rfl⟩ := List.mem_map.mp written
        exact other (tilePath_inj known ini same).2

theorem directoryFor_isRooted (session : Session) (store : FileStore) (id : String) :
    Path.IsRooted (session.directoryFor store id) :=
  Path.absolute_isRooted store.workingPath_isAbsolute _

/-- The directory of a job bears the identifier of the job. -/
theorem directoryFor_ne_root (session : Session) (store : FileStore) {id : String}
    (proper : Path.IsName id.toList) : session.directoryFor store id ≠ "/" := by
  have plain := Path.lastName_of_plain proper.plain
  have joined := Path.lastName_join session.options.scratch (plain ▸ proper)
  rw [plain] at joined
  have named := Path.lastName_absolute store.workingPath (joined ▸ proper)
  intro root
  rw [← directoryFor, root, joined] at named
  exact proper.nonempty named.symm

/-- Calls on a new session come in any order and with any success, and events in between. A job can be
started exactly if the last that came as far as its artifacts has them all and has not been started
since; otherwise the call changes nothing. A job that is refused changes nothing either. A job with an
artifact that cannot be written takes its directory along and leaves the session without a job. And a
configured job has a tile and a worker for each hand, in the order of the indices; until an event is
taken in nothing is reported on the tiles, and all files that belong to them are apart from each other
in the directory of the job. -/
theorem calls_keep_session_sound {options : RendererOptions} {writer : Option Writer}
    {history : List Outcome} {session : Session}
    (reached : Reached { options, writer } history session) :
    (∀ isSnapshot,
      ((session.start isSnapshot).isOk = true ↔ standing history = some .configured) ∧
      (session.start isSnapshot = .error .alreadyStarted ↔ standing history = some .started) ∧
      (session.start isSnapshot = .error .notConfigured ↔
        standing history ≠ some .configured ∧ standing history ≠ some .started) ∧
      ((session.start isSnapshot).isOk = false → session.after (.start isSnapshot) = session)) ∧
    (∀ store id job, session.admits store id job = false →
      ∃ stored error, session.configure store id job = (session, stored, .error error)) ∧
    (∀ store id job error, Path.IsName id.toList → session.admits store id job = true →
      (session.configure store id job).2.2 = .error error →
      let directory := session.directoryFor store id
      let located := job.withDefaults.located store.workingPath
      let left := (session.configure store id job).2.1
      (∃ extension made tile cause,
        StopsAt (session.writerFor directory) located made (located.tiles directory extension) tile
          cause ∧ error = cause.ofWriter tile) ∧
      (∃ index path cause, error.root = .artifact index path cause) ∧
      (session.configure store id job).1 =
        { options := session.options, writer := session.writer, compositor := session.compositor } ∧
      left.node? directory = none ∧ ∀ rest, left.node? (directory ++ "/" ++ rest) = none) ∧
    (session.isConfigured = true →
      let tiles := session.board.tiles
      let outputs := tiles.map (·.outputFile)
      tiles.length = session.board.job.workers.toInt ∧
      session.crew.length = session.board.job.workers.toInt ∧
      (∀ (position : Nat) tile, tiles[position]? = some tile → tile.index.toInt = position) ∧
      (.received ∉ sinceConfigured history →
        (∀ tile ∈ tiles, tile.render = {} ∧ tile.parse = {}) ∧
        (∃ extension, ∀ tile ∈ tiles, Path.directory tile.outputFile = session.directory ∧
          Path.base tile.outputFile = "tile" ++ Text.decimal tile.index ++ extension) ∧
        outputs.Nodup ∧
        (writer = none →
          session.artifacts.map Path.base = tiles.map ("tile" ++ Text.decimal ·.index ++ ".ini") ∧
          (∀ path ∈ session.artifacts, Path.directory path = session.directory) ∧
          (outputs ++ session.artifacts).Nodup))) := by
  have kept := reached.kept
  refine ⟨fun isSnapshot => ?_, fun store id job => configure_of_refused,
    fun store id job error proper admitted failed => ?_, fun configured => ?_⟩
  · obtain ⟨accepted, again, early⟩ := kept.start_iff isSnapshot
    refine ⟨accepted, again, early, fun denied => ?_⟩
    cases result : session.start isSnapshot with
    | error error => simp [after, result, Except.toOption]
    | ok => simp [result, Except.isOk, Except.toBool] at denied
  · obtain ⟨extension, made, left, stopped, whole⟩ := configure_of_stopped admitted failed
    obtain ⟨tile, cause, stops, rfl⟩ := writeArtifacts_error stopped
    rw [whole]
    exact ⟨⟨extension, made, tile, cause, stops, rfl⟩, root_ofWriter tile cause, rfl,
      FileStore.node?_removed (session.directoryFor_isRooted store id)
        (session.directoryFor_ne_root store proper)⟩
  · have laid := kept.laid configured
    refine ⟨laid.tiles, laid.crew, laid.indexed, fun quiet => ?_⟩
    have untouched := kept.untouched configured quiet
    have files := untouched.files_apart laid.nodup_indices
    rw [kept.writer] at files
    exact ⟨untouched.blank, files⟩

/-- A writer that fails at the second tile of some jobs. -/
def fickleWriter : Writer := fun store job tile =>
  if job.name = "ill" ∧ tile.index = 1 then (store, .error (.reported "disk full")) else (store, .ok "")

/-- The configuration of a job with two tiles, in the root directory. -/
def configuring (id name : String) : Call :=
  .configure { workingDirectory := .root } id
    { name, scene := "scene.pov", output := "out.png", width := 4, height := 2, workers := 2 }

theorem failed_job_bars_start :
    ∃ history session, Reached { writer := some fickleWriter } history session ∧
      history = [.denied, .configured, .started, .refused, .failed] ∧
      session.start false = .error .notConfigured ∧
      ((session.after (configuring "d" "well")).start false).isOk = true ∧
      ((session.after (configuring "d" "well")).board.tiles.map (·.outputFile)).Nodup := by
  obtain ⟨history, session, reached, outcomes⟩ : ∃ history session,
      Reached { writer := some fickleWriter } history session ∧
      history ++ [session.outcome (configuring "d" "well")] =
        [.denied, .configured, .started, .refused, .failed] ++ [.configured] :=
    ⟨_, _, ((((Reached.new.call (.start false)).call (configuring "a" "well")).call
      (.start true)).call (.configure { workingDirectory := .root } "b" {})).call
      (configuring "c" "ill"), by decide +kernel⟩
  have again := reached.call (configuring "d" "well")
  obtain ⟨rfl, -⟩ := List.append_inj' outcomes (by simp)
  rw [outcomes] at again
  obtain ⟨starting, -, -, -⟩ := calls_keep_session_sound reached
  obtain ⟨restarting, -, -, whole⟩ := calls_keep_session_sound again
  have manned := again.kept.manned.mpr (by decide)
  exact ⟨_, session, reached, rfl, (starting false).2.2.1.mpr (by decide),
    (restarting false).1.mpr (by decide), ((whole manned).2.2.2 (by decide +kernel)).2.2.1⟩

end Session

end Mosaic
