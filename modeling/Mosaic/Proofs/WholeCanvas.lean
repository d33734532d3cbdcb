import Mathlib.Data.List.Chain
import Mosaic.Proofs.Compositing
import Mosaic.Proofs.PictureSaving

/-! What stands at the output of a job while its tiles come in. Tiles may be unreadable, and saves may
fail at any of their steps and at any time, also after others that succeeded: a request finds its own
files and its own refusals, and the codec may be any. The output always shows a whole canvas: the one of
the last save that succeeded, or what was there when the job began. A tile whose save failed stays on the
canvas, so the next save shows it too. -/
namespace Mosaic.Compositor

/-- What a compositor is told to do. -/
inductive Order where
  | begin (output : String)
  | apply (picture : Picture) (rect : Rect)
  | applyFile (path : String) (rect : Rect)

/-- Whether an order begins a job. -/
def Order.begins : Order → Bool
  | begin _ => true
  | _ => false

/-- An order with the files that are there at its time, what is refused then, and the token for its
temporary file. -/
structure Request where
  order : Order
  store : FileStore
  token : String := ""

/-- What came of a request. -/
structure Entry where
  request : Request
  compositor : Compositor
  store : FileStore
  result : Except Error Unit

/-- Carries out a request. -/
def serve (codec : Codec) (compositor : Compositor) (request : Request) : Entry :=
  let (after, store, result) :=
    match request.order with
    | .begin output => (compositor.begin output, request.store, .ok ())
    | .apply picture rect => compositor.apply request.store request.token picture rect codec
    | .applyFile path rect => compositor.applyFile request.store request.token path rect codec
  { request, compositor := after, store, result }

/-- Carries out requests in order. The files may change from one to the next. -/
def log (codec : Codec) (compositor : Compositor) : List Request → List Entry
  | [] => []
  | request :: more =>
    let entry := compositor.serve codec request
    entry :: entry.compositor.log codec more

/-- The tile that a request puts on the canvas, if it can be read. -/
def Request.tile? (codec : Codec) (request : Request) : Option Placement :=
  match request.order with
  | .begin _ => none
  | .apply picture rect => some { picture, rect, store := request.store, token := request.token }
  | .applyFile path rect =>
    (Picture.load request.store path codec).toOption.map fun picture =>
      { picture, rect, store := request.store, token := request.token }

/-- Between two requests of a job nobody else touches its output. -/
def Steady (earlier later : Entry) : Prop :=
  later.request.order.begins = false →
    later.request.store.node? earlier.compositor.output =
      earlier.store.node? earlier.compositor.output

/-- Nobody else touches the outputs, and temporary files have unused names. -/
structure Undisturbed (entries : List Entry) : Prop where
  steady : entries.IsChain Steady
  unused : ∀ entry ∈ entries, entry.request.order.begins = false →
    Picture.Unused entry.request.store entry.compositor.output entry.request.token

section Codec
variable {codec : Codec}

/-! ## One request -/

/-- A request that begins no job either has no tile to put on the canvas and changes nothing, or it
applies its tile. -/
theorem serve_cases {request : Request} (compositor : Compositor)
    (inside : request.order.begins = false) :
    (∃ path rect cause, request.order = .applyFile path rect ∧
      Picture.load request.store path codec = .error cause ∧ request.tile? codec = none ∧
      compositor.serve codec request = ⟨request, compositor, request.store, .error (.tileImage cause)⟩) ∨
    ∃ tile, request.tile? codec = some tile ∧ tile.store = request.store ∧
      tile.token = request.token ∧
      compositor.serve codec request =
        let (after, store, result) :=
          compositor.apply tile.store tile.token tile.picture tile.rect codec
        ⟨request, after, store, result⟩ := by
  obtain ⟨order, store, token⟩ := request
  cases order with
  | begin output => cases inside
  | apply picture rect => exact .inr ⟨⟨picture, rect, store, token⟩, rfl, rfl, rfl, rfl⟩
  | applyFile path rect =>
    cases loaded : Picture.load store path codec with
    | error cause =>
      exact .inl ⟨path, rect, cause, rfl, loaded, by simp [Request.tile?, loaded, Except.toOption],
        by simp [serve, applyFile, loaded]⟩
    | ok picture =>
      exact .inr ⟨⟨picture, rect, store, token⟩, by simp [Request.tile?, loaded, Except.toOption],
        rfl, rfl, by simp [serve, applyFile, loaded]⟩

/-- A tile is put on the canvas in any case. The canvas is then saved, all of it or nothing. -/
theorem apply_cases {compositor : Compositor} {store : FileStore} {token : String}
    (unused : Picture.Unused store compositor.output token) (picture : Picture) (rect : Rect) :
    let canvas := draw compositor.canvas picture rect
    (∃ error, compositor.apply store token picture rect codec =
      ({ compositor with canvas := some canvas }, store, .error error)) ∨
    ∃ content stored, canvas.encode compositor.output codec = .ok content ∧
      stored.node? compositor.output = some (.file content) ∧
      compositor.apply store token picture rect codec =
        ({ compositor with canvas := some canvas }, stored, .ok ()) := by
  intro canvas
  obtain ⟨error, failed, -⟩ | ⟨location, content, allowed, encoded, saved⟩ :=
    Picture.save_outcome unused canvas codec
  · left
    exact ⟨.savingCanvas compositor.output error, by simp [apply, canvas, failed]⟩
  · right
    have same := FileStore.sameDirectories_put allowed.vacant content
    have held := FileStore.find_put (FileStore.ne_root_of_find allowed.vacant) store (.file content)
    exact ⟨content, store.put location (.file content), encoded,
      FileStore.node?_of_found (same.resolve allowed.led) held (by simp),
      by simp only [apply, canvas, saved]⟩

/-- Whatever becomes of the save, the compositor holds the canvas with the tile. -/
theorem apply_compositor (compositor : Compositor) (store : FileStore) (token : String)
    (picture : Picture) (rect : Rect) (codec : Codec) :
    (compositor.apply store token picture rect codec).1 =
      { compositor with canvas := some (draw compositor.canvas picture rect) } := by
  simp only [apply]
  split <;> rfl

section Serving
variable {compositor : Compositor} {request : Request} (inside : request.order.begins = false)
include inside

theorem serve_compositor :
    (compositor.serve codec request).compositor =
      compositor.applyAll (request.tile? codec).toList := by
  obtain ⟨path, rect, cause, -, -, none, served⟩ | ⟨tile, some, -, -, served⟩ :=
    serve_cases compositor inside
  · rw [served, none]
    rfl
  · rw [served, some]
    simp only [Option.toList_some, applyAll, List.foldl_cons, List.foldl_nil, apply_compositor]

theorem serve_output : (compositor.serve codec request).compositor.output = compositor.output := by
  obtain ⟨path, rect, cause, -, -, -, served⟩ | ⟨tile, -, -, -, served⟩ :=
    serve_cases compositor inside
  · rw [served]
  · rw [served]
    simp only [apply_compositor]

variable (unused : Picture.Unused request.store compositor.output request.token)
include unused

/-- A request that fails leaves all files as they are. -/
theorem serve_failed (failed : (compositor.serve codec request).result ≠ .ok ()) :
    (compositor.serve codec request).store = request.store := by
  obtain ⟨path, rect, cause, -, -, -, served⟩ | ⟨tile, -, files, name, served⟩ :=
    serve_cases compositor inside
  · rw [served]
  · rw [← files, ← name] at unused
    obtain ⟨error, step⟩ | ⟨content, stored, -, -, step⟩ :=
      apply_cases unused tile.picture tile.rect
    · rw [served, step]
      exact files
    · rw [served, step] at failed
      exact absurd rfl failed

/-- A request that succeeds leaves the whole canvas at the output. -/
theorem serve_saved (saved : (compositor.serve codec request).result = .ok ()) :
    ∃ tile canvas content, request.tile? codec = some tile ∧
      (compositor.serve codec request).compositor.canvas = some canvas ∧
      canvas.encode compositor.output codec = .ok content ∧
      (compositor.serve codec request).store.node? compositor.output = some (.file content) := by
  obtain ⟨path, rect, cause, -, -, -, served⟩ | ⟨tile, readable, files, name, served⟩ :=
    serve_cases compositor inside
  · rw [served] at saved
    cases saved
  · rw [← files, ← name] at unused
    obtain ⟨error, step⟩ | ⟨content, stored, encoded, shown, step⟩ :=
      apply_cases unused tile.picture tile.rect
    · rw [served, step] at saved
      cases saved
    · rw [served, step]
      exact ⟨tile, _, content, readable, rfl, encoded, shown⟩

end Serving

/-! ## A stretch of requests -/

/-- What comes of requests after an entry, within the job that writes to the output. -/
inductive Course (codec : Codec) (output : String) : Entry → List Entry → Prop where
  | done {entry : Entry} (own : entry.compositor.output = output) : Course codec output entry []
  | step {entry next : Entry} {more : List Entry} (own : entry.compositor.output = output)
      (served : next = entry.compositor.serve codec next.request)
      (inside : next.request.order.begins = false)
      (steady : next.request.store.node? output = entry.store.node? output)
      (unused : Picture.Unused next.request.store output next.request.token)
      (rest : Course codec output next more) : Course codec output entry (next :: more)

/-- The last of several entries, or the one before them if there are none. -/
def latest (opening : Entry) (entries : List Entry) : Entry := entries.getLast?.getD opening

theorem latest_cons (opening entry : Entry) (entries : List Entry) :
    latest opening (entry :: entries) = latest entry entries := by
  rw [latest, List.getLast?_cons]
  rfl

namespace Course
variable {output : String} {opening : Entry} {entries : List Entry}

theorem own (course : Course codec output opening entries) : opening.compositor.output = output := by
  cases course <;> assumption

/-- The tiles that can be read have been put on the canvas, one after the other. -/
theorem latest_compositor (course : Course codec output opening entries) :
    (latest opening entries).compositor =
      opening.compositor.applyAll (entries.filterMap (·.request.tile? codec)) := by
  induction course with
  | done own => rfl
  | @step entry next more own served inside steady unused rest ih =>
    have drawn := @serve_compositor codec entry.compositor _ inside
    rw [← served] at drawn
    rw [latest_cons, ih, drawn]
    cases tile : next.request.tile? codec <;> simp [tile, applyAll]

/-- As long as nothing succeeds the output stays as it is. -/
theorem node?_of_failed (course : Course codec output opening entries)
    (failed : ∀ entry ∈ entries, entry.result ≠ .ok ()) :
    (latest opening entries).store.node? output = opening.store.node? output := by
  induction course with
  | done own => rfl
  | @step entry next more own served inside steady unused rest ih =>
    obtain ⟨fails, later⟩ := List.forall_mem_cons.mp failed
    have files : next.store = next.request.store := by
      rw [served] at fails ⊢
      exact serve_failed inside (own ▸ unused) fails
    rw [latest_cons, ih later, files, steady]

/-- A stretch falls into what came before an entry, the entry itself and what came after it. -/
theorem split {entry : Entry} {earlier later : List Entry}
    (course : Course codec output opening (earlier ++ entry :: later)) :
    Course codec output opening earlier ∧ Course codec output (latest opening earlier) [entry] ∧
      Course codec output entry later ∧
      latest opening (earlier ++ entry :: later) = latest entry later := by
  induction earlier generalizing opening with
  | nil =>
    cases course with
    | step own served inside steady unused rest =>
      exact ⟨.done own, .step own served inside steady unused (.done rest.own), rest,
        latest_cons opening entry later⟩
  | cons first others ih =>
    cases course with
    | step own served inside steady unused rest =>
      obtain ⟨before, here, after, last⟩ := ih rest
      exact ⟨.step own served inside steady unused before, by rwa [latest_cons], after,
        by rw [List.cons_append, latest_cons, last]⟩

/-- Up to an entry all tiles that could be read are on the canvas. -/
theorem entry_compositor {entry : Entry} {earlier later : List Entry}
    (course : Course codec output opening (earlier ++ entry :: later)) :
    entry.compositor = opening.compositor.applyAll
      ((earlier ++ [entry]).filterMap (·.request.tile? codec)) := by
  obtain ⟨before, here, -, -⟩ := course.split
  have drawn := here.latest_compositor
  rw [before.latest_compositor] at drawn
  rw [List.filterMap_append, applyAll, List.foldl_append]
  exact drawn

end Course

theorem log_requests (requests : List Request) (compositor : Compositor) :
    (compositor.log codec requests).map (·.request) = requests := by
  induction requests generalizing compositor with
  | nil => rfl
  | cons request more ih => rw [log, List.map_cons, ih]; rfl

/-- Every entry of a log is what came of its request, and begins the log of the requests after it. -/
theorem log_split {requests : List Request} {compositor : Compositor} {before since : List Entry}
    {opening : Entry} (history : compositor.log codec requests = before ++ opening :: since) :
    (∃ earlier : Compositor, opening = earlier.serve codec opening.request) ∧
      since = opening.compositor.log codec (since.map (·.request)) := by
  induction requests generalizing compositor before with
  | nil => simp [log] at history
  | cons request more ih =>
    cases before with
    | nil =>
      obtain ⟨rfl, rfl⟩ := List.cons.inj history
      exact ⟨⟨compositor, rfl⟩, by rw [log_requests]⟩
    | cons first others => exact ih (List.cons.inj history).2

/-- The requests of a job that nobody disturbs. -/
theorem course_of_log {requests : List Request} {output : String} {opening : Entry}
    (own : opening.compositor.output = output)
    (undisturbed : Undisturbed (opening :: opening.compositor.log codec requests))
    (inside : ∀ request ∈ requests, request.order.begins = false) :
    Course codec output opening (opening.compositor.log codec requests) := by
  induction requests generalizing opening with
  | nil => exact .done own
  | cons request more ih =>
    obtain ⟨first, others⟩ := List.forall_mem_cons.mp inside
    obtain ⟨steady, steadyLater⟩ := List.isChain_cons_cons.mp undisturbed.steady
    have kept : (opening.compositor.serve codec request).compositor.output = output :=
      (serve_output first).trans own
    have free := undisturbed.unused _ (List.mem_cons_of_mem _ List.mem_cons_self) first
    rw [kept] at free
    refine .step own rfl first (own ▸ steady first) free (ih kept ⟨steadyLater, ?_⟩ others)
    exact fun entry member => undisturbed.unused entry (List.mem_cons_of_mem _ member)

/-! ## A whole history -/

/-- Requests of any kind are carried out one after the other, whatever the codec, whatever pictures and
files there are and whatever is refused at any time. Since a job began its output shows what stood there
then, or the encoding of the canvas right after the last request that succeeded. That canvas shows every
tile that was put on it since, whether or not its own save failed: the first in full, and over it the
others where they cover it. A tile that cannot be read changes nothing. A save that fails, at whatever
step, changes no file and keeps the tile on the canvas. And while a canvas is being written the output
shows what it showed before. -/
theorem output_shows_whole_canvas {compositor : Compositor} {requests : List Request}
    (undisturbed : Undisturbed (compositor.log codec requests)) {before since : List Entry}
    {opening : Entry} {output : String}
    (history : compositor.log codec requests = before ++ opening :: since)
    (begun : opening.request.order = .begin output)
    (inside : ∀ entry ∈ since, entry.request.order.begins = false) :
    let shown := (latest opening since).store.node? output
    ((∀ entry ∈ since, entry.result ≠ .ok ()) →
      shown = opening.request.store.node? output) ∧
    (∀ earlier entry later, since = earlier ++ entry :: later → entry.result = .ok () →
      (∀ other ∈ later, other.result ≠ .ok ()) →
      ∃ first rest canvas content,
        (earlier ++ [entry]).filterMap (·.request.tile? codec) = first :: rest ∧
        canvas = {
          width := first.picture.width
          height := first.picture.height
          pixel := fun x y => Placement.topmost rest x y (first.picture.color x y) } ∧
        entry.compositor.canvas = some canvas ∧
        canvas.encode output codec = .ok content ∧ shown = some (.file content)) ∧
    ∀ earlier entry later, since = earlier ++ entry :: later →
      let previous := (latest opening earlier).compositor
      (∀ path rect cause, entry.request.order = .applyFile path rect →
        Picture.load entry.request.store path codec = .error cause →
        entry.result = .error (.tileImage cause) ∧ entry.compositor = previous ∧
          entry.store = entry.request.store) ∧
      (∀ tile, entry.request.tile? codec = some tile →
        entry.compositor.canvas = some (draw previous.canvas tile.picture tile.rect)) ∧
      (entry.result ≠ .ok () → entry.store = entry.request.store) ∧
      ∀ place created content, entry.request.store.IsTree → '/' ∉ entry.request.token.toList →
        entry.request.store.create (Picture.temporaryPath output entry.request.token) =
          .ok (place, created) →
        entry.request.store.Unlinked place →
        (created.put place (.file content)).node? output =
          entry.request.store.node? output := by
  obtain ⟨⟨former, served⟩, followed⟩ := log_split history
  have opened : opening.compositor = former.begin output ∧ opening.store = opening.request.store := by
    rw [served]
    simp [serve, begun]
  have course : Course codec output opening since := by
    rw [followed]
    refine course_of_log (by rw [opened.1]; rfl) ?_ (by simpa using inside)
    rw [← followed]
    rw [history] at undisturbed
    exact ⟨undisturbed.steady.right_of_append,
      fun entry member => undisturbed.unused entry (List.mem_append_right _ member)⟩
  refine ⟨fun failed => ?_, fun earlier entry later cut saved failed => ?_,
    fun earlier entry later cut => ?_⟩
  · rw [course.node?_of_failed failed, opened.2]
  · subst cut
    obtain ⟨before, here, after, last⟩ := course.split
    cases here with
    | step own served inside steady unused rest =>
      rw [served] at saved
      obtain ⟨tile, canvas, content, readable, held, encoded, shown⟩ :=
        serve_saved inside (own ▸ unused) saved
      rw [← served] at held shown
      rw [own] at encoded shown
      have some_tile : (earlier ++ [entry]).filterMap (·.request.tile? codec) ≠ [] := by
        simp [readable]
      obtain ⟨first, others, tiles⟩ := List.exists_cons_of_ne_nil some_tile
      have drawn := applyAll_begin former output first others
      rw [← tiles, ← opened.1, ← course.entry_compositor, held] at drawn
      refine ⟨first, others, canvas, content, tiles, Option.some.inj drawn, held, encoded, ?_⟩
      rw [last, after.node?_of_failed failed, shown]
  · subst cut
    obtain ⟨before, here, after, last⟩ := course.split
    cases here with
    | step own served inside steady unused rest =>
      refine ⟨fun path rect cause order unreadable => ?_, fun tile readable => ?_, fun failed => ?_,
        fun place created content tree plain opened unlinked => ?_⟩
      · obtain ⟨path', rect', cause', order', unreadable', -, refused⟩ | ⟨tile, readable, -⟩ :=
          serve_cases (latest opening earlier).compositor inside
        · obtain ⟨rfl, rfl⟩ := Order.applyFile.inj (order.symm.trans order')
          obtain rfl := Except.error.inj (unreadable.symm.trans unreadable')
          rw [served, refused]
          exact ⟨rfl, rfl, rfl⟩
        · simp [Request.tile?, order, unreadable, Except.toOption] at readable
      · have drawn := @serve_compositor codec (latest opening earlier).compositor _ inside
        rw [← served, readable] at drawn
        rw [drawn]
        exact apply_canvas _ _ _ _ _
      · rw [served] at failed ⊢
        exact serve_failed inside (own ▸ unused) failed
      · exact Picture.node?_while_saving tree plain unused opened unlinked content

end Codec

/-- Four pixels of one colour. -/
def fourPixels (red : UInt8) : Picture where
  width := 4
  height := 1
  pixel _ _ := { red, alpha := 255 }

/-- The root directory, and in it the directory of the output. -/
def withDirectory : FileStore := FileStore.put { workingDirectory := .root } (.ofNames ["o"]) .directory

/-- Refuses one operation, whatever the path. -/
def refusing (operation : Operation) (asked : Operation) (_ : String) : Option Refusal :=
  if asked = operation then some { errno := .noSpace, written := [1, 2] } else none

/-- A tile that is one column wide. -/
def columnTile (red : UInt8) (column : Int64) : Order :=
  .apply (fourPixels red) (.ofCorners column 0 (column + 1) 1)

/-- A compositor at the beginning of a job. -/
def begun : Compositor := { output := "/o/x.png" }

/-- The first tile is saved. -/
def firstTile : Request := ⟨columnTile 1 0, withDirectory, "1"⟩

/-- The files after the first tile. -/
def withCanvas : FileStore := (begun.serve .standard firstTile).store

/-- The canvas with the second tile cannot be moved to its path, the next tile cannot be read, and for
the canvas with the third there is no room. -/
def unluckyTiles : List Request :=
  [⟨columnTile 2 1, { withCanvas with refuses := refusing .rename }, "2"⟩,
    ⟨.applyFile "/missing.png" (.ofCorners 0 0 4 1), withCanvas, "3"⟩,
    ⟨columnTile 3 2, { withCanvas with refuses := refusing .write }, "4"⟩]

/-- The last tile is saved. -/
def lastTile : Request := ⟨columnTile 4 3, withCanvas, "5"⟩

/-- Requests within a job leave its output where it is. -/
theorem unused_of_requests {codec : Codec} {compositor : Compositor} {requests : List Request}
    (free : ∀ request ∈ requests, request.order.begins = false ∧
      Picture.Unused request.store compositor.output request.token) :
    ∀ entry ∈ compositor.log codec requests,
      Picture.Unused entry.request.store entry.compositor.output entry.request.token := by
  induction requests generalizing compositor with
  | nil => exact fun entry member => absurd member List.not_mem_nil
  | cons request more ih =>
    obtain ⟨⟨inside, unused⟩, others⟩ := List.forall_mem_cons.mp free
    have kept := @serve_output codec compositor request inside
    rw [log, List.forall_mem_cons]
    exact ⟨kept ▸ unused, ih (kept ▸ others)⟩

/-- Where requests fail one after the other and nobody else changes a file, all stays as it is. -/
theorem steady_of_failed {codec : Codec} {compositor : Compositor} {requests : List Request}
    {store : FileStore}
    (free : ∀ request ∈ requests, request.order.begins = false ∧
      Picture.Unused request.store compositor.output request.token)
    (same : ∀ request ∈ requests, ∀ path, request.store.node? path = store.node? path)
    (failed : ∀ entry ∈ (compositor.log codec requests).dropLast, entry.result ≠ .ok ()) :
    (compositor.log codec requests).IsChain Steady := by
  induction requests generalizing compositor with
  | nil => exact .nil
  | cons request more ih =>
    obtain ⟨⟨inside, unused⟩, others⟩ := List.forall_mem_cons.mp free
    obtain ⟨here, elsewhere⟩ := List.forall_mem_cons.mp same
    have kept := @serve_output codec compositor request inside
    cases more with
    | nil => exact .singleton _
    | cons next rest =>
      rw [log, log, List.dropLast_cons_cons] at failed
      obtain ⟨stuck, later⟩ := List.forall_mem_cons.mp failed
      rw [log, log, List.isChain_cons_cons]
      refine ⟨fun _ => ?_, ih (kept ▸ others) elsewhere later⟩
      rw [serve_failed inside unused stuck, here]
      exact elsewhere next List.mem_cons_self _

/-- A job is begun. -/
def beginning : Request := ⟨.begin "/o/x.png", withDirectory, ""⟩

/-- A job with the given tiles. -/
def jobOf (tiles : List Request) : List Entry := ({} : Compositor).log .standard (beginning :: tiles)

theorem unlucky_undisturbed : Undisturbed (jobOf (firstTile :: unluckyTiles ++ [lastTile])) := by
  have free : ∀ request ∈ firstTile :: unluckyTiles ++ [lastTile], request.order.begins = false ∧
      ((request.store.resolve (Picture.temporaryPath "/o/x.png" request.token)).toOption.all
        fun place => (request.store.find place).isNone) = true := by
    decide +kernel
  have unused : ∀ request ∈ firstTile :: unluckyTiles ++ [lastTile], request.order.begins = false ∧
      Picture.Unused request.store begun.output request.token := fun request member =>
    ⟨(free request member).1, FileStore.vacant_of_all (free request member).2⟩
  have failed : ∀ entry ∈ ((begun.serve .standard firstTile).compositor.log .standard
      (unluckyTiles ++ [lastTile])).dropLast, entry.result ≠ .ok () := by
    decide +kernel
  have kept := @serve_output .standard begun firstTile rfl
  constructor
  · have same : ∀ request ∈ unluckyTiles ++ [lastTile], ∀ path,
        request.store.node? path = withCanvas.node? path := by
      intro request member
      simp only [unluckyTiles, List.cons_append, List.nil_append, List.mem_cons,
        List.not_mem_nil, or_false] at member
      rcases member with rfl | rfl | rfl | rfl <;> exact fun _ => rfl
    have later := steady_of_failed
      (kept ▸ fun request member => unused request (List.mem_cons_of_mem _ member)) same failed
    exact .cons_cons (fun _ => rfl) (.cons_cons (fun _ => rfl) later)
  · rw [jobOf, log, List.forall_mem_cons]
    exact ⟨fun inside => absurd inside (by decide),
      fun entry member _ => @unused_of_requests .standard begun _ unused entry member⟩

theorem Undisturbed.of_append {entries more : List Entry} (undisturbed : Undisturbed (entries ++ more)) :
    Undisturbed entries :=
  ⟨undisturbed.steady.left_of_append,
    fun entry member => undisturbed.unused entry (List.mem_append_left more member)⟩

/-- What the output shows after a job with the given tiles. -/
def shownAfter (tiles : List Request) : Option Node :=
  (latest (({} : Compositor).serve .standard beginning)
    (begun.log .standard tiles)).store.node? "/o/x.png"

/-- The reds of a row of four pixels. -/
def reds (canvas : Picture) : List UInt8 := (List.range 4).map fun x => (canvas.pixel x 0).red

/-- The first canvas stays at the output until the last tile, and then all four tiles are there. -/
theorem unlucky_tiles_are_shown_later :
    ∃ first canvas content final,
      (jobOf (firstTile :: unluckyTiles ++ [lastTile])).map (·.result.isOk) =
        [true, true, false, false, false, true] ∧
      Picture.encode "/o/x.png" first = .ok content ∧ reds first = [1, 1, 1, 1] ∧
      shownAfter (firstTile :: unluckyTiles) = some (.file content) ∧
      Picture.encode "/o/x.png" canvas = .ok final ∧ reds canvas = [1, 2, 3, 4] ∧
      shownAfter (firstTile :: unluckyTiles ++ [lastTile]) = some (.file final) := by
  have inside : ∀ entry ∈ (jobOf (firstTile :: unluckyTiles ++ [lastTile])).tail,
      entry.request.order.begins = false := by
    decide +kernel
  have failed : ∀ entry ∈ ((jobOf (firstTile :: unluckyTiles)).drop 2), entry.result ≠ .ok () := by
    decide +kernel
  obtain ⟨-, early, -⟩ :=
    @output_shows_whole_canvas .standard {} (beginning :: firstTile :: unluckyTiles)
      (@Undisturbed.of_append _ [_] unlucky_undisturbed) []
      (begun.log .standard (firstTile :: unluckyTiles)) _ _ rfl rfl
      fun entry member => inside entry (List.mem_append_left [_] member)
  obtain ⟨-, late, -⟩ :=
    @output_shows_whole_canvas .standard {} (beginning :: firstTile :: unluckyTiles ++ [lastTile])
      unlucky_undisturbed [] (begun.log .standard (firstTile :: unluckyTiles ++ [lastTile])) _ _
      rfl rfl inside
  obtain ⟨_, _, first, content, -, -, held, encoded, shown⟩ :=
    early [] _ _ rfl (by decide +kernel) failed
  obtain ⟨_, _, canvas, final, -, -, held', encoded', shown'⟩ :=
    late [_, _, _, _] _ [] rfl (by decide +kernel) (by simp)
  have before : (some first).map reds = some [1, 1, 1, 1] := by
    rw [← held]
    decide +kernel
  have after : (some canvas).map reds = some [1, 2, 3, 4] := by
    rw [← held']
    decide +kernel
  exact ⟨first, canvas, content, final, by decide +kernel, encoded, Option.some.inj before, shown,
    encoded', Option.some.inj after, shown'⟩

end Mosaic.Compositor
