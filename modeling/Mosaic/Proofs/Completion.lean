import Mosaic.Proofs.EventLoop
import Mosaic.Proofs.Percentage
import Mosaic.Proofs.WorkerLife

/-! The last progress of a job. Progress is counted in the lines that the renderers report and not in
tiles that have ended, so a job ends at one hundred percent exactly if every tile shows all its lines.
A tile that is finished does, one whose renderer was never launched does not, and one whose renderer
crashed shows what the renderer last reported: a crash after the last line goes unnoticed. -/
namespace Mosaic

/-! ## What a worker ends with -/

/-- A tile that is finished shows all its lines, and one whose process was not launched shows what it
showed before. There is no other end than these two and a crash. -/
theorem live_lines (tile : Tile) (fate : Fate) :
    let after := (({ tile } : Worker).live fate).1
    (after.state = .finished ∧ after.tile.render.line = tile.endRow) ∨
      (after.state = .failedToStart ∧ after.tile.render = tile.render) ∨
      after.state = .crashed := by
  obtain ⟨outputs, last, -, read, ends, kept⟩ := live_eq tile fate
  simp only [kept]
  cases code : fate.exitCode? with
  | some value =>
    obtain ⟨-, state, -, ended⟩ := (ends.exited value).mp code
    have place : (lastTile tile outputs).blank = tile.blank := by
      rw [read]
      exact lastTile_blank (readAll_blank fate.reads _)
    have last_row : (lastTile tile outputs).blank.endRow = tile.blank.endRow := by rw [place]
    exact .inl ⟨state, by rw [ended]; exact last_row⟩
  | none =>
    obtain ⟨-, state, -, -, ended⟩ := ends.failed.mp code
    cases fate with
    | notLaunched failure =>
      subst read
      exact .inr (.inl ⟨state, by rw [ended]; rfl⟩)
    | launched reads ending => exact .inr (.inr state)

/-- A tile on which nothing was reported shows all its lines in the end exactly if it is finished or its
renderer crashed after reporting the last of them. -/
theorem live_complete_iff {tile : Tile} (unreported : tile.render = {}) (rows : 1 ≤ tile.endRow.toInt)
    (fate : Fate) :
    let after := (({ tile } : Worker).live fate).1
    tile.endRow ≤ after.tile.render.line ↔
      after.state = .finished ∨
        after.state = .crashed ∧ tile.endRow ≤ after.tile.render.line := by
  intro after
  rcases live_lines tile fate with ⟨state, line⟩ | ⟨state, render⟩ | state
  · simp [after, state, line]
  · have short : ¬tile.endRow ≤ (0 : Int64) := by
      rw [Int64.le_iff_toInt_le, Int64.toInt_zero]
      omega
    simp [after, state, render, unreported, short]
  · simp [after, state]

/-! ## The end of a job -/

/-- The lives of the workers of a job: what they are afterwards and the events that they send. -/
def Session.lives (session : Session) (fates : Fin session.crew.length → Fate)
    (sender : Fin session.crew.length) : Worker × List Event :=
  (session.crew.get sender).live (fates sender)

namespace Session

/-- The tiles as the workers leave them. -/
def ended (session : Session) (fates : Fin session.crew.length → Fate) : List Tile :=
  (List.ofFn fun sender => (session.lives fates sender).1).map (·.tile)

theorem ended_length (session : Session) (fates : Fin session.crew.length → Fate) :
    (session.ended fates).length = session.crew.length := by
  simp [ended]

theorem forall_mem_ended (session : Session) (fates : Fin session.crew.length → Fate)
    (property : Tile → Prop) :
    (∀ tile ∈ session.ended fates, property tile) ↔
      ∀ sender, property (session.lives fates sender).1.tile := by
  rw [ended, List.forall_mem_map, List.forall_mem_ofFn_iff]

/-- The percentage of a configured job is exact as long as one hundred times the number of all its
lines fits a machine integer. -/
theorem ended_measurable {session ready : Session} {store stored : FileStore} {id : String} {job : Job}
    (configured : session.configure store id job = (ready, stored, .ok ()))
    (bounded : 100 * job.workers.toInt * job.height.toInt ≤ 2 ^ 63 - 1)
    (fates : Fin ready.crew.length → Fate) :
    Progress.Measurable (ready.ended fates) job.height := by
  obtain ⟨rows, -, staff, -⟩ := configure_crew configured
  have manned := List.length_pos_iff.mpr (configure_fresh configured).manned
  refine ⟨?_, rows, ?_⟩
  · rw [← List.length_pos_iff, ended_length]
    exact manned
  · rwa [ended_length, staff, ← Int.mul_assoc]

/-- A tile of a configured job shows all its lines in the end exactly if it is finished or its renderer
crashed after reporting the last of them. -/
theorem lives_complete_iff {session ready : Session} {store stored : FileStore} {id : String}
    {job : Job} (configured : session.configure store id job = (ready, stored, .ok ()))
    (fates : Fin ready.crew.length → Fate) (sender : Fin ready.crew.length) :
    job.height ≤ (ready.lives fates sender).1.tile.render.line ↔
      (ready.lives fates sender).1.state = .finished ∨
        (ready.lives fates sender).1.state = .crashed ∧
          job.height ≤ (ready.lives fates sender).1.tile.render.line := by
  obtain ⟨rows, -, -, crew⟩ := configure_crew configured
  obtain ⟨tile, worker, unreported, last⟩ := crew _ (List.get_mem ready.crew sender)
  rw [← last] at rows ⊢
  rw [lives, worker]
  exact live_complete_iff unreported rows (fates sender)

/-- A fresh job can be started, and unless the number of its lines wraps to zero it passes on its end
last, with the percentage of what its workers leave. -/
theorem Fresh.last_event {session : Session} (fresh : session.Fresh) (isSnapshot : Bool)
    (fates : Fin session.crew.length → Fate)
    (divisible : ¬(2 ^ 64 : Int) ∣ session.crew.length * session.board.job.height.toInt) :
    ∃ active run, session.start isSnapshot = .ok (active, run) ∧
      ∀ deliveries : List Delivery,
        Interleaving (fun sender => (session.lives fates sender).2) (deliveries.map (·.event)) →
        ∃ board progress,
          Progress.percent? (session.ended fates) session.board.job.height = some progress ∧
          (active.takeAll run deliveries).passed.getLast? =
            some (board, { kind := .jobFinished, isSnapshot, progress }) := by
  obtain ⟨active, run, started, -, order, tiles, counted, mark, whole⟩ := fresh.start_ok isSnapshot
  have spans : active.board.tiles.length = session.crew.length := by
    rw [tiles, fresh.crew, List.length_map, List.length_map]
  have waiting : run.remaining ≠ 0 := by
    rw [counted]
    exact mt List.length_eq_zero_iff.mp fresh.manned
  have shared : active.board.HasShare := by
    rw [Board.HasShare, spans, order]
    exact divisible
  have lived := fun sender => live_script (fresh.own_index sender) (fates sender)
  have sent : ∀ sender : Fin session.crew.length, Script sender (session.lives fates sender).2 :=
    fun sender => (lived sender).1
  have awaits := awaits_all sent counted whole
  refine ⟨active, run, started, fun deliveries mixed => ?_⟩
  have board := (takeAll_heeds awaits active shared mixed).2
  have shown : (active.takeAll run deliveries).session.board.tiles = session.ended fates := by
    rw [board]
    exact settled_crew sent mixed spans fun sender => (lived sender).2
  have same : (active.takeAll run deliveries).session.board.job = session.board.job := by
    rw [board, Board.heed_job, order]
  obtain ⟨announced, progress, -, share, passed⟩ :=
    takeAll_passed awaits active shared waiting mixed
  rw [Board.progress?, shown, same] at share
  exact ⟨_, progress, share, by rw [passed, List.getLast?_concat, mark]⟩

end Session

/-- A job that is configured and not too large can be started, and whatever becomes of its renderers and
however their events are mixed, its last event says that it is finished. The progress is then one
hundred exactly if every tile is finished or its renderer crashed after reporting the last line. So a
renderer that was never launched, or that crashed earlier, keeps the job below one hundred, and where
no renderer crashes so late the progress is one hundred exactly if every tile is finished. -/
theorem full_progress_iff {session ready : Session} {store stored : FileStore} {id : String} {job : Job}
    (configured : session.configure store id job = (ready, stored, .ok ()))
    (bounded : 100 * job.workers.toInt * job.height.toInt ≤ 2 ^ 63 - 1) (isSnapshot : Bool)
    (fates : Fin ready.crew.length → Fate) :
    ∃ active run, ready.start isSnapshot = .ok (active, run) ∧
      ∀ deliveries : List Delivery,
        Interleaving (fun sender => (ready.lives fates sender).2) (deliveries.map (·.event)) →
        ∃ board last, (active.takeAll run deliveries).passed.getLast? = some (board, last) ∧
          last.kind = .jobFinished ∧ 0 ≤ last.progress.toInt ∧ last.progress.toInt ≤ 100 ∧
          (last.progress = 100 ↔ ∀ sender,
            (ready.lives fates sender).1.state = .finished ∨
              (ready.lives fates sender).1.state = .crashed ∧
                job.height ≤ (ready.lives fates sender).1.tile.render.line) ∧
          (∀ sender, (ready.lives fates sender).1.state = .failedToStart ∨
              (ready.lives fates sender).1.state = .crashed ∧
                (ready.lives fates sender).1.tile.render.line < job.height →
            last.progress.toInt < 100) ∧
          ((∀ sender, (ready.lives fates sender).1.state = .crashed →
              (ready.lives fates sender).1.tile.render.line < job.height) →
            (last.progress = 100 ↔ ∀ sender, (ready.lives fates sender).1.state = .finished)) := by
  have fresh := Session.configure_fresh configured
  obtain ⟨-, height, -, -⟩ := Session.configure_crew configured
  have measurable := Session.ended_measurable configured bounded fates
  have divisible := Progress.all_lines_indivisible measurable
  rw [Session.ended_length, ← height] at divisible
  obtain ⟨active, run, started, ends⟩ := fresh.last_event isSnapshot fates divisible
  refine ⟨active, run, started, fun deliveries mixed => ?_⟩
  obtain ⟨board, progress, share, last⟩ := ends deliveries mixed
  rw [height] at share
  obtain ⟨low, high⟩ := Progress.share_bounds measurable
  rw [← Progress.share_exact measurable share] at low high
  have full : progress = 100 ↔ ∀ sender,
      (ready.lives fates sender).1.state = .finished ∨
        (ready.lives fates sender).1.state = .crashed ∧
          job.height ≤ (ready.lives fates sender).1.tile.render.line := by
    rw [Progress.share_eq_hundred_iff measurable share, Session.forall_mem_ended]
    exact forall_congr' (Session.lives_complete_iff configured fates)
  refine ⟨board, _, last, rfl, low, high, full, ?_, ?_⟩
  · intro sender short
    have missed : progress ≠ 100 := by
      intro hundred
      rcases full.mp hundred sender with finished | ⟨crashed, reached⟩
      · simp [finished] at short
      · rcases short with failed | ⟨-, line⟩
        · rw [crashed] at failed
          cases failed
        · exact Int64.not_le.mpr line reached
    exact lt_of_le_of_ne high fun hundred => missed (Int64.toInt_inj.mp hundred)
  · intro early
    refine full.trans (forall_congr' fun sender => ⟨fun ends => ?_, .inl⟩)
    exact ends.resolve_right fun late => Int64.not_le.mpr (early sender late.1) late.2

/-- A job for one worker, just configured. -/
def soleConfigured : Session × FileStore × Except Error Unit :=
  ({} : Session).configure { workingDirectory := .root } "sole"
    { scene := "scene.pov", output := "canvas.png", width := 2, height := 2, workers := 1 }

/-- The renderer reports something and is then killed. -/
def killedAfter (report : String) : Fate :=
  .launched [(false, .ofString report)] (.broken (.killed .kill))

theorem killed_after_report (worker : Worker) {text : String} {report : RenderReport}
    (found : (Marker.all Marker.render? (.ofString text)).getLast? = some report) :
    (worker.live (killedAfter text)).1.state = .crashed ∧
      (worker.live (killedAfter text)).1.tile.render = report := by
  simp [killedAfter, Worker.live, Running.readAll, Running.read, Worker.absorb, Running.finish,
    Worker.fail, Tile.advance, found]

/-- The events of a single worker are one way of mixing them. -/
theorem sole_interleaving {count : Nat} (one : count = 1) (sequences : Fin count → List Event)
    (sender : Fin count) : Interleaving sequences (sequences sender) := by
  subst one
  generalize left : sequences sender = events
  induction events generalizing sequences with
  | nil => exact .silent fun other => by rw [Subsingleton.elim other sender, left]
  | cons event rest ih => exact .sent left (ih _ (Function.update_self ..))

theorem sole_accepted :
    ∃ ready stored, soleConfigured = (ready, stored, .ok ()) ∧ ready.crew.length = 1 := by
  obtain ⟨accepted, one⟩ :
      soleConfigured.2.2 = .ok () ∧ soleConfigured.1.crew.length = 1 := by decide +kernel
  rcases configured : soleConfigured with ⟨ready, stored, result⟩
  rw [configured] at accepted one
  obtain rfl : result = .ok () := accepted
  exact ⟨ready, stored, rfl, one⟩

/-- The events of a worker, delivered in their own order. -/
def delivered (events : List Event) : List Delivery := events.map fun event => ⟨event, default, ""⟩

theorem delivered_events (events : List Event) : (delivered events).map (·.event) = events := by
  simp [delivered, Function.comp_def]

theorem early_crash_falls_short :
    ∃ ready stored, soleConfigured = (ready, stored, .ok ()) ∧ ready.crew.length = 1 ∧
      ∃ active run, ready.start false = .ok (active, run) ∧ ∀ sender,
        let life := ready.lives (fun _ => killedAfter "0:00:01 Rendering line 1 of 2") sender
        life.1.state = .crashed ∧
          ∃ board last,
            (active.takeAll run (delivered life.2)).passed.getLast? = some (board, last) ∧
              last.progress.toInt < 100 := by
  obtain ⟨ready, stored, configured, one⟩ := sole_accepted
  obtain ⟨active, run, started, ends⟩ := full_progress_iff configured (by decide) false
    (fun _ => killedAfter "0:00:01 Rendering line 1 of 2")
  refine ⟨ready, stored, configured, one, active, run, started, fun sender => ?_⟩
  have found : (Marker.all Marker.render? (.ofString "0:00:01 Rendering line 1 of 2")).getLast? =
      some { elapsed := { sec := 1 }, line := 1, total := 2 } := by decide +kernel
  obtain ⟨crashed, report⟩ := killed_after_report (ready.crew.get sender) found
  obtain ⟨board, last, passed, -, -, -, -, short, -⟩ := ends
    (delivered (ready.lives (fun _ => killedAfter "0:00:01 Rendering line 1 of 2") sender).2)
    (by rw [delivered_events]; exact sole_interleaving one _ sender)
  refine ⟨crashed, board, last, passed, short sender (.inr ⟨crashed, ?_⟩)⟩
  rw [Session.lives, report]
  decide

/-- What the worker of the job is in the end, and the last event of the job. -/
def soleOutcome (fate : Fate) : Option (Worker × Event) :=
  match soleConfigured.1.start false, soleConfigured.1.crew with
  | .ok (active, run), [worker] =>
    ((active.takeAll run (delivered (worker.live fate).2)).passed.getLast?).map fun entry =>
      ((worker.live fate).1, entry.2)
  | _, _ => none

/-- A crash after the last line goes unnoticed: the tile has failed, and the job ends at one hundred
percent. -/
theorem late_crash_counts_as_complete :
    soleConfigured.2.2 = .ok () ∧
      (soleOutcome (killedAfter "0:00:01 Rendering line 2 of 2\n")).map
        (fun outcome => (outcome.1.state, outcome.2.kind, outcome.2.progress)) =
      some (.crashed, .jobFinished, 100) := by
  decide +kernel

end Mosaic
