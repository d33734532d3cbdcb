import Mosaic.Build
import Mosaic.Proofs.Directories
import Mosaic.Proofs.WorkerLife

/-! The footprint of a job. A job that cannot be configured leaves no file behind and touches none. Any
other job changes files only at its own places, whatever its renderers do, whether it is watched in a log
or in a view, whatever is refused meanwhile, and however it ends: at its picture, where the path of its
record leads, at the thumbnail beside it, and in its directory. No temporary file stays. -/
namespace Mosaic

open FileStore (Confined Grown Undisturbed)

/-! ## Configuring -/

/-- The place of an artifact in a directory. -/
def Artifact.Place (directory : String) (location : Location) : Prop :=
  ∃ index, location = .ofPath (tilePath directory index ".ini")

section Artifacts
variable {writer : ArtifactWriter} (rooted : Path.IsRooted writer.directory)
include rooted

end Artifacts

namespace Session

end Session

/-! ## Taking in events -/

/-- How the files stand while a job is at work, compared with the files at its origin: no temporary file
is there, and no link leads to one or stands in the directory of the job. -/
structure Site.Clear (site : Site) (origin store : FileStore) : Prop where
  vacant : ∀ path ∈ site.saved, ¬store.HasFile (site.temporary path)
  unlinked : ∀ path ∈ site.saved, origin.Unlinked (site.temporary path)
  linkless : store.Linkless (.ofPath site.directory)

namespace Site.Clear
variable {site : Site} {origin : FileStore}

/-- What a job writes leaves it so. -/
theorem confined {before after : FileStore} (clear : site.Clear origin before)
    (confined : Confined (site.Target origin) before after) : site.Clear origin after := by
  refine ⟨?_, clear.unlinked, clear.linkless.confined confined⟩
  rintro path member ⟨node, found, other⟩
  have apart : ¬site.Target origin (site.temporary path) := fun target =>
    target.ne_temporary member (clear.unlinked path member) rfl
  rw [confined.elsewhere _ apart] at found
  exact clear.vacant path member ⟨node, found, other⟩

section Store
variable {store : FileStore} (clear : site.Clear origin store)
include clear

/-- A picture of the job is saved at its own place. -/
theorem save {path : String} (member : path ∈ site.saved) (rooted : Path.IsRooted path)
    (target : site.Target origin (.ofPath path)) (picture : Picture) :
    Confined (site.Target origin) store (picture.save store site.token path).1 :=
  FileStore.save_confined rooted target site.plain (clear.vacant path member) picture

/-- The file of a tile is written at its own place. -/
theorem writeTile (index : Int64) {extension : String} (known : extension ∈ tileExtensions)
    (content : Content) :
    Confined (site.Target origin) store
      (store.write (tilePath site.directory index extension) content).1 :=
  .write_within clear.linkless (tilePath_isRooted site.home index known)
    (tilePath_isWithin site.home index known) (.tile index known) content

theorem applyFile {compositor : Compositor} (aimed : compositor.output = site.output) (path : String)
    (rect : Rect) :
    (compositor.applyFile store site.token path rect).1.output = site.output ∧
      Confined (site.Target origin) store
        (compositor.applyFile store site.token path rect).2.1 := by
  unfold Compositor.applyFile
  split
  · exact ⟨aimed, .refl _ store⟩
  · rename_i picture loaded
    have saved := clear.save List.mem_cons_self site.rooted .picture
      (Compositor.draw compositor.canvas picture rect)
    rw [← aimed] at saved
    unfold Compositor.apply
    simp only
    split
    · rename_i after stored
      rw [stored] at saved
      exact ⟨aimed, saved⟩
    · rename_i after error stuck
      rw [stuck] at saved
      exact ⟨aimed, saved⟩

end Store

end Site.Clear

namespace Session

/-- The job of the session is that of the site, and its canvas is saved there. -/
structure Aims (session : Session) (site : Site) : Prop where
  canvas : session.compositor.output = site.output
  picture : session.board.job.output = site.output

section Aims
variable {session : Session} {site : Site} (aims : session.Aims site) {origin store : FileStore}
  (clear : site.Clear origin store)
include aims clear

theorem Aims.collect (event : Event) :
    (session.collect store site.token event).1.Aims site ∧
      Confined (site.Target origin) store (session.collect store site.token event).2 := by
  unfold Session.collect
  split
  · obtain ⟨kept, confined⟩ := clear.applyFile aims.canvas event.tile.outputFile event.tile.rect
    exact ⟨⟨kept, aims.picture⟩, confined⟩
  · exact ⟨aims, .refl _ store⟩

/-- One event changes files at the places of the job only, and it moves no worker. -/
theorem Aims.receive (run : Run) (event : Event) :
    (session.receive run store site.token event).1.Aims site ∧
      (session.receive run store site.token event).2.1.crew = run.crew ∧
      Confined (site.Target origin) store (session.receive run store site.token event).2.2.1 := by
  unfold Session.receive
  split
  · exact ⟨aims, rfl, .refl _ store⟩
  · obtain ⟨kept, confined⟩ := aims.collect clear event
    have crew : (if event.kind.isTerminal then { run with remaining := run.remaining - 1 }
        else run).crew = run.crew := by
      split <;> rfl
    simp only
    split
    · exact ⟨⟨kept.canvas, kept.picture⟩, crew, confined⟩
    · exact ⟨⟨kept.canvas, kept.picture⟩, crew, confined⟩

end Aims

theorem Aims.receiveAll {session : Session} {site : Site} (aims : session.Aims site)
    {origin store : FileStore} (clear : site.Clear origin store) (run : Run) (events : List Event) :
    (session.receiveAll run store site.token events).1.Aims site ∧
      (session.receiveAll run store site.token events).2.1.crew = run.crew ∧
      Confined (site.Target origin) store
        (session.receiveAll run store site.token events).2.2.1 := by
  induction events generalizing session store run with
  | nil => exact ⟨aims, rfl, .refl _ store⟩
  | cons event more ih =>
    obtain ⟨kept, crew, confined⟩ := aims.receive clear run event
    obtain ⟨last, same, rest⟩ := ih kept (clear.confined confined)
      (session.receive run store site.token event).2.1
    exact ⟨last, same.trans crew, confined.trans rest⟩

end Session

/-! ## The work of the renderers -/

namespace Run

/-- The renderers draw into the directory of the site. -/
def Draws (run : Run) (site : Site) : Prop :=
  ∀ running ∈ run.crew, ∃ index extension, extension ∈ tileExtensions ∧
    running.worker.tile.outputFile = tilePath site.directory index extension

/-- Whatever happens to a worker, its picture goes where it went. -/
def Steady (deed : Running → Running × List Event) : Prop :=
  ∀ running, (deed running).1.worker.tile.outputFile = running.worker.tile.outputFile

theorem steady_enter : Steady enter := fun _ => rfl

theorem steady_reject (failure : Failure) : Steady (reject failure) := fun _ => rfl

theorem steady_emit (isError : Bool) (text : Bytes) : Steady (emit isError text) := by
  intro running
  unfold emit
  split
  · have alike := lastTile_blank (readAll_blank ((reads text).map ((isError, ·))) running)
    have same := congrArg Tile.outputFile alike
    rw [readAll_worker]
    exact same
  · rfl

theorem steady_close (ending : Ending) : Steady (close ending) := by
  intro running
  unfold close
  split
  · cases ending <;> rfl
  · rfl

theorem Draws.act {run : Run} {site : Site} (draws : run.Draws site) (index : Nat)
    {deed : Running → Running × List Event} (steady : Steady deed) :
    (run.act index deed).1.Draws site := by
  unfold Run.act
  split
  · exact draws
  · rename_i running found
    intro other member
    rcases List.mem_or_eq_of_mem_set member with old | rfl
    · exact draws other old
    · rw [steady]
      exact draws running (List.mem_of_getElem? found)

theorem Draws.actAll {run : Run} {site : Site} (draws : run.Draws site)
    {deed : Running → Running × List Event} (steady : Steady deed) :
    (run.actAll deed).1.Draws site := by
  intro other member
  simp only [Run.actAll, List.map_map, List.mem_map, Function.comp] at member
  obtain ⟨running, before, rfl⟩ := member
  rw [steady]
  exact draws running before

theorem Draws.launch {run : Run} {site : Site} (draws : run.Draws site) (failure : Option Failure) :
    (run.launch failure).1.Draws site := by
  cases failure with
  | none => exact draws.actAll steady_enter
  | some failure => exact draws.actAll (steady_reject failure)

end Run

namespace Rendering

/-- A job under way at its site: it saves and draws at the places of the site, and no other file has
changed since. -/
structure Working (site : Site) (origin : FileStore) (rendering : Rendering) : Prop where
  aims : rendering.build.session.Aims site
  draws : rendering.run.Draws site
  files : Confined (site.Target origin) origin rendering.build.store

/-- Showing events touches nothing but the log and the view. -/
theorem present_frame (rendering : Rendering) (passed : List (Board × Event)) :
    (rendering.present passed).build.session = rendering.build.session ∧
      (rendering.present passed).build.store = rendering.build.store ∧
      (rendering.present passed).run = rendering.run := by
  unfold present
  split <;> exact ⟨rfl, rfl, rfl⟩

theorem Working.present {site : Site} {origin : FileStore} {rendering : Rendering}
    (working : Working site origin rendering) (passed : List (Board × Event)) :
    Working site origin (rendering.present passed) := by
  obtain ⟨session, store, run⟩ := rendering.present_frame passed
  exact ⟨session ▸ working.aims, run ▸ working.draws, store ▸ working.files⟩

theorem Working.close {site : Site} {origin : FileStore} {rendering : Rendering}
    (working : Working site origin rendering) : Working site origin rendering.close := by
  unfold Rendering.close
  split
  · exact ⟨working.aims, working.draws, working.files⟩
  · exact working

theorem Working.begin {site : Site} {origin : FileStore} {build : Build} {run : Run}
    (aims : build.session.Aims site) (draws : run.Draws site)
    (files : Confined (site.Target origin) origin build.store) (options : BuildOptions) :
    Working site origin (.begin build options run) := by
  unfold Rendering.begin
  simp only
  split
  · exact ⟨aims, draws, files⟩
  · exact ⟨aims, draws, files⟩

section Working
variable {site : Site} {origin : FileStore} (clear : site.Clear origin origin) {rendering : Rendering}
include clear

/-- Taking in what has happened to the workers. -/
theorem Working.pass (working : Working site origin rendering) {outcome : Run × List Event}
    (draws : outcome.1.Draws site) : Working site origin (rendering.pass site.token outcome) := by
  obtain ⟨aims, crew, confined⟩ := working.aims.receiveAll (clear.confined working.files)
    outcome.1 outcome.2
  refine Working.present ⟨?_, fun running member => draws running (crew ▸ member),
    working.files.trans confined⟩ _
  unfold Session.observe
  simp only
  split
  · exact ⟨aims.canvas, aims.picture⟩
  · exact aims

/-- Renderers that are killed draw no more. -/
theorem Working.halt (working : Working site origin rendering) :
    Working site origin (rendering.halt site.token) :=
  working.pass clear (working.draws.actAll (Run.steady_close _))

/-- The picture that a renderer leaves is the one of its tile. -/
theorem Working.leave (working : Working site origin rendering) (index : Nat) (content : Content) :
    Working site origin (rendering.leave index content) := by
  unfold Rendering.leave
  split
  · exact working
  · rename_i running found
    split
    · obtain ⟨tile, extension, known, drawn⟩ := working.draws running (List.mem_of_getElem? found)
      have own := (clear.confined working.files).writeTile tile known content
      rw [← drawn] at own
      exact ⟨working.aims, working.draws, working.files.trans own⟩
    · exact working

/-- Whatever happens, the job stays at its site. -/
theorem Working.meet (working : Working site origin rendering) (happening : Happening) :
    Working site origin (rendering.meet site.token happening) := by
  cases happening with
  | output tile isError text =>
    exact working.pass clear (working.draws.act tile (Run.steady_emit isError text))
  | picture tile content => exact working.leave clear tile content
  | ending tile ending =>
    exact working.pass clear (working.draws.act tile (Run.steady_close ending))
  | cancellation => exact Working.halt clear ⟨working.aims, working.draws, working.files⟩
  | key name =>
    unfold Rendering.meet
    simp only
    split
    · split
      · exact Working.halt clear ⟨working.aims, working.draws, working.files⟩
      · exact ⟨working.aims, working.draws, working.files⟩
    · exact working
  | terminalFailure error =>
    unfold Rendering.meet
    simp only
    split
    · exact Working.halt clear ⟨working.aims, working.draws, working.files⟩
    · exact working
  | refusals refuses =>
    exact ⟨working.aims, working.draws, working.files.trans (.refusing _ refuses)⟩

/-- All that happens while the renderers are at work. -/
theorem Working.meetAll (working : Working site origin rendering) (happenings : List Happening) :
    Working site origin (rendering.meetAll site.token happenings) := by
  unfold Rendering.meetAll
  induction happenings generalizing rendering with
  | nil => exact (working.halt clear).close
  | cons happening more ih => exact ih (working.meet clear happening)

end Working

end Rendering

namespace Build

section Working
variable {site : Site} {origin : FileStore} (clear : site.Clear origin origin)
include clear

variable {build : Build} {options : BuildOptions} {occasion : Occasion}
  (token : occasion.token = site.token)
  (thumbnail : (options.isSnapshot && 0 < options.thumbnailSize) = true → site.hasThumbnail = true)
include token thumbnail

end Working

/-! ## The whole job -/

/-- The job as it is built: itself or its preview. -/
def wanted (options : BuildOptions) (job : Job) : Job :=
  if options.isSnapshot then job.snapshot else job

/-- The path of the picture of a job. -/
def picturePath (build : Build) (options : BuildOptions) (job : Job) : String :=
  Path.absolute build.store.workingPath (wanted options job).output

/-- The directory for the files of a job's tiles. -/
def tileDirectory (build : Build) (occasion : Occasion) : String :=
  build.session.directoryFor build.store occasion.id

/-- What a job counts on: nothing stands where its directory goes, and no file stands and no link leads
where the temporary files of its picture and of its thumbnail go. -/
structure Unclaimed (build : Build) (options : BuildOptions) (occasion : Occasion) (job : Job) :
    Prop where
  directory : build.store.find (.ofPath (build.tileDirectory occasion)) = none
  plain : '/' ∉ occasion.token.toList
  temporary : ∀ path ∈ [build.picturePath options job,
      Job.thumbnailPath (build.picturePath options job)],
    ¬build.store.HasFile (.ofPath (Picture.temporaryPath path occasion.token)) ∧
      build.store.Unlinked (.ofPath (Picture.temporaryPath path occasion.token))

/-- The site of a job. -/
def Unclaimed.site {build : Build} {options : BuildOptions} {occasion : Occasion} {job : Job}
    (unclaimed : build.Unclaimed options occasion job) : Site where
  output := build.picturePath options job
  directory := build.tileDirectory occasion
  token := occasion.token
  hasThumbnail := options.isSnapshot && 0 < options.thumbnailSize
  rooted := Path.absolute_isRooted build.store.workingPath_isAbsolute _
  home := build.session.directoryFor_isRooted build.store occasion.id
  plain := unclaimed.plain

section RunJob
variable {build : Build} {options : BuildOptions} {occasion : Occasion} {job : Job}

/-- Nothing stands in the way of a job when the directories that it needs have been made. -/
theorem Unclaimed.clear (unclaimed : build.Unclaimed options occasion job) (tree : build.store.IsTree)
    {made : FileStore} (grown : Grown build.store made) : unclaimed.site.Clear made made where
  vacant path member file :=
    (unclaimed.temporary path member).1 ((grown.undisturbed _).hasFile file)
  unlinked path member location found :=
    (unclaimed.temporary path member).2 location ((grown.find_link_iff _ _).mp found)
  linkless := tree.linkless_of_grown unclaimed.directory grown

end RunJob

end Build

end Mosaic
