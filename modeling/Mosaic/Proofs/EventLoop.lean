import Mosaic.Proofs.FreshJob
import Mosaic.Proofs.Interleaving
import Mosaic.Proofs.Percentage

/-! The loop of a started job. The session counts the tiles that have ended and stops at the last.
However the events of the workers are mixed, nothing is then left in the channel, every event has been
passed on, and the board shows what the workers hold. This takes a share of the job that can be told:
where the number of all lines wraps to zero there is none, and the loop stops at its first event, before
anything is passed on. -/
namespace Mosaic

/-! ## What is passed on -/

namespace Board

/-- The number of all lines does not wrap to zero. -/
def HasShare (board : Board) : Prop :=
  ¬(2 ^ 64 : Int) ∣ board.tiles.length * board.job.height.toInt

theorem HasShare.update {board : Board} (shared : board.HasShare) (tile : Tile) :
    (board.update tile).HasShare := by
  rw [HasShare, Board.update, length_place]
  exact shared

theorem HasShare.heed {board : Board} (shared : board.HasShare) (events : List Event) :
    (board.heed events).HasShare := by
  rw [HasShare, heed_length, heed_job]
  exact shared

theorem HasShare.progress? {board : Board} (shared : board.HasShare) :
    ∃ progress, board.progress? = some progress := by
  rw [← Option.isSome_iff_exists, Option.isSome_iff_ne_none, Board.progress?]
  intro absent
  exact shared (Progress.percent?_eq_none_iff.mp absent).2.2

/-- A board with tiles and rows has a progress exactly if the number of all lines does not wrap to
zero. -/
theorem progress?_eq_none {board : Board} (cut : board.tiles ≠ []) (rows : 1 ≤ board.job.height.toInt)
    (wrapped : ¬board.HasShare) : board.progress? = none := by
  have tiles := List.length_pos_iff.mpr cut
  exact Progress.percent?_eq_none_iff.mpr ⟨tiles, rows, not_not.mp wrapped⟩

/-- Events as they are passed on: each with the snapshot mark and the progress of the board that it
leaves, and beside it that board. There is no such list if one of the boards has no progress. -/
def announced? (board : Board) (isSnapshot : Bool) : List Event → Option (List (Board × Event))
  | [] => some []
  | event :: more => do
    let board := board.update event.tile
    let progress ← board.progress?
    let rest ← board.announced? isSnapshot more
    some ((board, { event with isSnapshot, progress }) :: rest)

theorem announced?_cons {board : Board} {isSnapshot : Bool} {event : Event} {more : List Event}
    {progress : Int64} {rest : List (Board × Event)}
    (share : (board.update event.tile).progress? = some progress)
    (told : (board.update event.tile).announced? isSnapshot more = some rest) :
    board.announced? isSnapshot (event :: more) =
      some ((board.update event.tile, { event with isSnapshot, progress }) :: rest) := by
  simp [announced?, share, told]

theorem announced?_progress {board : Board} {isSnapshot : Bool} {events : List Event}
    {passed : List (Board × Event)} (told : board.announced? isSnapshot events = some passed) :
    ∀ entry ∈ passed, entry.1.progress? = some entry.2.progress := by
  induction events generalizing board passed with
  | nil =>
    cases told
    exact fun entry member => absurd member List.not_mem_nil
  | cons event more ih =>
    simp only [announced?, Option.bind_eq_bind, Option.bind_eq_some_iff, Option.some.injEq] at told
    obtain ⟨progress, share, rest, later, rfl⟩ := told
    rw [List.forall_mem_cons]
    exact ⟨share, ih later⟩

end Board

/-! ## The loop -/

/-- An event that is taken in, with the files that are there at that moment. -/
structure Delivery where
  event : Event
  store : FileStore
  token : String

/-- A session that has taken in events, and what it has passed on, each with the board of its
moment. -/
structure Taken where
  session : Session
  run : Run
  passed : List (Board × Event)

/-- A run that waits for as many tiles as there are workers still at work. -/
structure Awaits {count : Nat} (run : Run) (sequences : Fin count → List Event) : Prop where
  scripted : Scripted sequences
  counted : run.remaining = (pending sequences).card
  whole : run.isBroken = false

section Awaits
variable {count : Nat} {run : Run} {sequences : Fin count → List Event}
  (awaits : Awaits run sequences)
include awaits

theorem Awaits.remaining_eq_zero_iff {events : List Event} (mixed : Interleaving sequences events) :
    run.remaining = 0 ↔ events = [] := by
  rw [awaits.counted, Finset.card_eq_zero, mixed.eq_nil_iff]

theorem Awaits.isOver_iff {events : List Event} (mixed : Interleaving sequences events) :
    run.isOver = true ↔ events = [] := by
  simp [Run.isOver, awaits.whole, awaits.remaining_eq_zero_iff mixed]

end Awaits

namespace Session

/-- Takes in events in order. The files may change from one to the next. -/
def takeAll (session : Session) (run : Run) : List Delivery → Taken
  | [] => { session, run, passed := [] }
  | delivery :: more =>
    let (session, run, _, passed) :=
      session.receive run delivery.store delivery.token delivery.event
    let rest := session.takeAll run more
    { rest with passed := passed.map ((session.board, ·)) ++ rest.passed }

/-- Taking in events while nothing else touches the files is a special case. -/
theorem receiveAll_eq_takeAll (events : List Event) (session : Session) (run : Run)
    (store : FileStore) (token : String) :
    ∃ deliveries : List Delivery, deliveries.map (·.event) = events ∧
      session.takeAll run deliveries =
        { session := (session.receiveAll run store token events).1
          run := (session.receiveAll run store token events).2.1
          passed := (session.receiveAll run store token events).2.2.2 } := by
  induction events generalizing session run store with
  | nil => exact ⟨[], rfl, rfl⟩
  | cons event more ih =>
    obtain ⟨deliveries, same, taken⟩ := ih (session.receive run store token event).1
      (session.receive run store token event).2.1 (session.receive run store token event).2.2.1
    refine ⟨⟨event, store, token⟩ :: deliveries, by simp [same], ?_⟩
    simp only [takeAll, receiveAll, taken]

/-- An awaited event is taken in and passed on, and the run waits for what is left. -/
theorem receive_awaited {count : Nat} {sequences : Fin count → List Event} {sender : Fin count}
    {event : Event} {rest : List Event} {run : Run} (awaits : Awaits run sequences)
    (next : sequences sender = event :: rest) (session : Session) (shared : session.board.HasShare)
    (store : FileStore) (token : String) :
    ∃ after run' files progress,
      session.receive run store token event =
        (after, run', files,
          { event with isSnapshot := run.isSnapshot, progress } :: after.opening run') ∧
      after.id = session.id ∧ after.board = session.board.update event.tile ∧
      after.board.progress? = some progress ∧ run'.isSnapshot = run.isSnapshot ∧
      Awaits run' (Function.update sequences sender rest) := by
  have member : sender ∈ pending sequences := mem_pending.mpr (by simp [next])
  have waiting : run.isOver = false := by
    simp [Run.isOver, awaits.whole, awaits.counted, Finset.ne_empty_of_mem member]
  obtain ⟨compositor, collected⟩ := session.collect_session store token event
  obtain ⟨progress, share⟩ := (shared.update event.tile).progress?
  simp only [receive, waiting, collected, share, Bool.false_eq_true, if_false]
  cases awaits.scripted.script next with
  | ending terminal own =>
    rw [if_pos terminal]
    refine ⟨_, _, _, progress, rfl, rfl, rfl, share, rfl, awaits.scripted.update next, ?_,
      awaits.whole⟩
    rw [pending_update_nil, Finset.card_erase_of_mem member, ← awaits.counted]
  | output kind own more =>
    rw [if_neg (by simp [kind, EventKind.isTerminal])]
    refine ⟨_, _, _, progress, rfl, rfl, rfl, share, rfl, awaits.scripted.update next, ?_,
      awaits.whole⟩
    rw [pending_update_of_ne_nil (by simp [next]) more.ne_nil, awaits.counted]

/-- The loop on its way: after part of the events it waits for the workers whose events are unread,
its board has heeded the part, and it has passed the part on, with the end of the job when no tile
is awaited any more. -/
theorem takeAll_awaited {count : Nat} (session : Session) (shared : session.board.HasShare)
    (consumed : List Delivery) {unread : List Event} {sequences : Fin count → List Event} {run : Run}
    (mixed : Interleaving sequences (consumed.map (·.event) ++ unread))
    (awaits : Awaits run sequences) :
    let after := session.takeAll run consumed
    after.session.id = session.id ∧
      after.session.board = session.board.heed (consumed.map (·.event)) ∧
      after.run.isSnapshot = run.isSnapshot ∧
      (∃ leftover : Fin count → List Event,
        Interleaving leftover unread ∧ Awaits after.run leftover) ∧
      ∃ announced,
        session.board.announced? run.isSnapshot (consumed.map (·.event)) = some announced ∧
        (session.opening run).map ((session.board, ·)) ++ after.passed =
          announced ++ (after.session.opening after.run).map ((after.session.board, ·)) := by
  induction consumed generalizing sequences session run with
  | nil => exact ⟨rfl, rfl, rfl, ⟨sequences, mixed, awaits⟩, [], rfl, List.append_nil _⟩
  | cons delivery more ih =>
    rw [List.map_cons, List.cons_append] at mixed
    have waiting := mt (awaits.remaining_eq_zero_iff mixed).mp (List.cons_ne_nil _ _)
    cases mixed with
    | sent next later =>
      obtain ⟨after, run', files, progress, step, id, board, share, mark, awaits'⟩ :=
        receive_awaited awaits next session shared delivery.store delivery.token
      obtain ⟨id', board', mark', leftover, announced, told, passed⟩ :=
        ih after (board ▸ shared.update _) later awaits'
      rw [board] at share
      rw [board, mark] at told
      simp only [takeAll, step]
      refine ⟨id'.trans id, ?_, mark'.trans mark, leftover, _, Board.announced?_cons share told, ?_⟩
      · rw [board', board, List.map_cons, Board.heed_cons]
      · rw [opening, if_neg waiting, List.map_cons, List.cons_append, passed, ← board]
        rfl

section Loop
variable {count : Nat} {sequences : Fin count → List Event} {run : Run}
  (awaits : Awaits run sequences) (session : Session) (shared : session.board.HasShare)
include awaits shared

/-- In the end the board has heeded every event. -/
theorem takeAll_heeds {deliveries : List Delivery}
    (mixed : Interleaving sequences (deliveries.map (·.event))) :
    (session.takeAll run deliveries).session.id = session.id ∧
      (session.takeAll run deliveries).session.board =
        session.board.heed (deliveries.map (·.event)) := by
  rw [← List.append_nil (deliveries.map _)] at mixed
  obtain ⟨same, board, -⟩ := session.takeAll_awaited shared deliveries mixed awaits
  exact ⟨same, board⟩

/-- The loop stops exactly when nothing is left unread. -/
theorem takeAll_stops_iff {consumed unread : List Delivery}
    (mixed : Interleaving sequences ((consumed ++ unread).map (·.event))) :
    ((session.takeAll run consumed).run.isOver = true ↔ unread = []) ∧
      (session.takeAll run consumed).run.isBroken = false := by
  rw [List.map_append] at mixed
  obtain ⟨-, -, -, ⟨leftover, later, waits⟩, -⟩ :=
    session.takeAll_awaited shared consumed mixed awaits
  rw [waits.isOver_iff later, List.map_eq_nil_iff]
  exact ⟨Iff.rfl, waits.whole⟩

/-- A loop that has something to wait for passes every event on, and then the end of the job. -/
theorem takeAll_passed (waiting : run.remaining ≠ 0) {deliveries : List Delivery}
    (mixed : Interleaving sequences (deliveries.map (·.event))) :
    let after := session.takeAll run deliveries
    ∃ announced progress,
      session.board.announced? run.isSnapshot (deliveries.map (·.event)) = some announced ∧
      after.session.board.progress? = some progress ∧
      after.passed = announced ++
        [(after.session.board,
          { kind := .jobFinished, isSnapshot := run.isSnapshot, progress })] := by
  rw [← List.append_nil (deliveries.map _)] at mixed
  obtain ⟨-, board, mark, ⟨leftover, later, waits⟩, announced, told, passed⟩ :=
    session.takeAll_awaited shared deliveries mixed awaits
  have done := (waits.remaining_eq_zero_iff later).mpr rfl
  obtain ⟨progress, share⟩ := (shared.heed (deliveries.map (·.event))).progress?
  rw [← board] at share
  refine ⟨announced, progress, told, share, ?_⟩
  simpa only [opening, if_neg waiting, if_pos done, closing?, share, mark, Option.map_some,
    Option.toList_some, List.map_nil, List.map_cons, List.nil_append] using passed

end Loop

/-- A loop that has stopped takes nothing in. -/
theorem takeAll_over {run : Run} (ended : run.isOver = true) (session : Session)
    (deliveries : List Delivery) :
    session.takeAll run deliveries = { session, run, passed := [] } := by
  induction deliveries with
  | nil => rfl
  | cons delivery more ih =>
    simp only [takeAll, receive, ended, if_true, ih, List.map_nil, List.nil_append]

/-- Where there is no share to tell the loop stops at its first event, and nothing is passed on. -/
theorem takeAll_broken {run : Run} (waiting : run.isOver = false) {session : Session}
    (cut : session.board.tiles ≠ []) (rows : 1 ≤ session.board.job.height.toInt)
    (wrapped : ¬session.board.HasShare) (delivery : Delivery) (more : List Delivery) :
    let after := session.takeAll run (delivery :: more)
    after.run.isBroken = true ∧ after.passed = [] ∧
      after.session.board = session.board.update delivery.event.tile := by
  obtain ⟨compositor, collected⟩ :=
    session.collect_session delivery.store delivery.token delivery.event
  have absent : (session.board.update delivery.event.tile).progress? = none := by
    refine Board.progress?_eq_none ?_ rows ?_
    · rw [← List.length_pos_iff, Board.update, length_place]
      exact List.length_pos_iff.mpr cut
    · rwa [Board.HasShare, Board.update, length_place]
  simp only [takeAll, receive, waiting, collected, absent, Bool.false_eq_true, if_false]
  rw [takeAll_over (by simp [Run.isOver])]
  exact ⟨rfl, rfl, rfl⟩

end Session

/-! ## The lives of workers -/

/-- Reading gives outputs, and the worker keeps its place. -/
theorem readAll_script {position : Nat} (reads : List (Bool × Bytes)) (running : Running)
    (own : running.worker.tile.index.toInt = position) {last : Event}
    (terminal : last.kind.isTerminal = true) (ended : last.tile.index.toInt = position) :
    Script position ((running.readAll reads).2 ++ [last]) := by
  induction reads generalizing running with
  | nil => exact .ending terminal ended
  | cons read more ih =>
    obtain ⟨isError, text⟩ := read
    cases isError
    · exact .output rfl own (ih (running.read false text).1 own)
    · exact .output rfl own (ih (running.read true text).1 own)

theorem readAll_index (reads : List (Bool × Bytes)) (running : Running) :
    (running.readAll reads).1.worker.tile.index = running.worker.tile.index := by
  induction reads generalizing running with
  | nil => rfl
  | cons read more ih =>
    obtain ⟨isError, text⟩ := read
    cases isError
    · exact ih (running.read false text).1
    · exact ih (running.read true text).1

theorem finish_event (running : Running) (ending : Ending) :
    (running.finish ending).2.kind.isTerminal = true ∧
      (running.finish ending).2.tile = (running.finish ending).1.tile ∧
      (running.finish ending).1.tile.index = running.worker.tile.index := by
  cases ending <;> exact ⟨rfl, rfl, rfl⟩

theorem start_tile (worker : Worker) : worker.start.tile = worker.tile := by
  unfold Worker.start
  split <;> rfl

/-- Whatever befalls a worker, it sends outputs and one last event, and the last event holds the
tile that the worker keeps. -/
theorem live_script {worker : Worker} {position : Nat} (own : worker.tile.index.toInt = position)
    (fate : Fate) :
    Script position (worker.live fate).2 ∧
      (worker.live fate).2.getLast?.map (·.tile) = some (worker.live fate).1.tile := by
  cases fate with
  | notLaunched failure => exact ⟨.ending rfl (by rw [← own, ← start_tile worker]), rfl⟩
  | launched reads ending =>
    have begun : worker.start.launched.tile.index.toInt = position := by
      rw [← own, ← start_tile worker]
      rfl
    let running : Running := { worker := worker.start.launched }
    obtain ⟨terminal, tile, index⟩ := finish_event (running.readAll reads).1 ending
    have ended : ((running.readAll reads).1.finish ending).2.tile.index.toInt = position := by
      rw [tile, index, readAll_index]
      exact begun
    simp only [Worker.live]
    exact ⟨readAll_script reads running begun terminal ended, by simp [running, tile]⟩

/-! ## The whole job -/

/-- When no worker has sent anything yet, all of them are awaited. -/
theorem awaits_all {count : Nat} {sequences : Fin count → List Event} {run : Run}
    (scripts : ∀ sender : Fin count, Script sender (sequences sender))
    (counted : run.remaining = count) (whole : run.isBroken = false) : Awaits run sequences := by
  refine ⟨fun sender => .inr (scripts sender), ?_, whole⟩
  have everyone : pending sequences = Finset.univ := by
    rw [Finset.eq_univ_iff_forall]
    exact fun sender => mem_pending.mpr (scripts sender).ne_nil
  rw [everyone, Finset.card_univ, Fintype.card_fin, counted]

/-- A result that tells what a tile shows. -/
def TileResult.Tells (result : TileResult) (tile : Tile) : Prop :=
  result.index = tile.index ∧ result.startColumn = tile.startColumn ∧
    result.endColumn = tile.endColumn ∧ result.lines = tile.render.line ∧
    result.elapsed = tile.render.elapsed.text

/-- If the board shows what the workers of a run hold, the results tell what the board shows. -/
theorem observe_tells {session : Session} {run : Run} (same : session.id = run.id)
    (shown : session.board.tiles = (run.crew.map (·.worker)).map (·.tile)) :
    (session.observe run).board.tiles = (session.observe run).crew.map (·.tile) ∧
      List.Forall₂ TileResult.Tells (session.observe run).results
        (session.observe run).board.tiles := by
  rw [Session.observe, if_pos same]
  refine ⟨shown, ?_⟩
  rw [shown, Session.results, List.forall₂_map_left_iff, List.forall₂_map_right_iff,
    List.forall₂_same]
  exact fun worker _ => ⟨rfl, rfl, rfl, rfl, rfl⟩

/-- A configured job is started, and its workers send their events in whatever order the channel
brings them. Unless the number of all lines, which is the number of workers times the height, is a
multiple of `2 ^ 64`, the loop stops exactly when nothing is left unread. It has then passed on every
event in the order of arrival, with the snapshot mark and the progress of its moment, and last of all the
end of the job. Every place of the board shows the tile with which its worker ended, so the final board
does not depend on the order, and it shows what the workers hold and the results tell. If the number of
all lines is such a multiple, the program stops at the first event, whatever it is: nothing is ever
passed on, not even the end of the job. -/
theorem every_event_is_passed_on {session ready : Session} {store stored : FileStore} {id : String}
    {job : Job} (configured : session.configure store id job = (ready, stored, .ok ()))
    (isSnapshot : Bool) :
    ∃ active run, ready.start isSnapshot = .ok (active, run) ∧
      run.isOver = false ∧ active.opening run = [] ∧
      ((2 ^ 64 : Int) ∣ job.workers.toInt * job.height.toInt →
        ∀ delivery more,
          let final := active.takeAll run (delivery :: more)
          final.run.isBroken = true ∧ final.passed = [] ∧
            final.session.board = active.board.update delivery.event.tile) ∧
      (¬(2 ^ 64 : Int) ∣ job.workers.toInt * job.height.toInt →
        (∀ sequences : Fin ready.crew.length → List Event,
          (∀ sender : Fin ready.crew.length, Script sender (sequences sender)) →
          (∀ deliveries : List Delivery, Interleaving sequences (deliveries.map (·.event)) →
            let events := deliveries.map (·.event)
            let final := active.takeAll run deliveries
            (∀ consumed unread, consumed ++ unread = deliveries →
              ((active.takeAll run consumed).run.isOver = true ↔ unread = []) ∧
                (active.takeAll run consumed).run.isBroken = false) ∧
            (∃ announced progress, active.board.announced? isSnapshot events = some announced ∧
              final.session.board.progress? = some progress ∧
              final.passed = announced ++
                [(final.session.board, { kind := .jobFinished, isSnapshot, progress })]) ∧
            (∀ event ∈ events, event.kind ≠ .jobFinished) ∧
            (∀ entry ∈ final.passed,
              Progress.percent? entry.1.tiles entry.1.job.height = some entry.2.progress) ∧
            final.session.board.tiles.length = ready.crew.length ∧
            ∀ position : Fin ready.crew.length, final.session.board.tiles[position.val]? =
              (sequences position).getLast?.map (·.tile)) ∧
          ∀ deliveries deliveries' : List Delivery,
            Interleaving sequences (deliveries.map (·.event)) →
            Interleaving sequences (deliveries'.map (·.event)) →
            (active.takeAll run deliveries).session.board =
              (active.takeAll run deliveries').session.board) ∧
        ∀ fates : Fin ready.crew.length → Fate,
          let lives := fun sender => (ready.crew.get sender).live (fates sender)
          (∀ sender : Fin ready.crew.length, Script sender (lives sender).2) ∧
          ∀ deliveries : List Delivery,
            Interleaving (fun sender => (lives sender).2) (deliveries.map (·.event)) →
            ∀ finished : Run, finished.id = run.id →
              finished.crew.map (·.worker) = List.ofFn (fun sender => (lives sender).1) →
              let final := (active.takeAll run deliveries).session.observe finished
              final.board.tiles = final.crew.map (·.tile) ∧
                List.Forall₂ TileResult.Tells final.results final.board.tiles) := by
  have fresh := Session.configure_fresh configured
  obtain ⟨rows, height, hands, -⟩ := Session.configure_crew configured
  obtain ⟨active, run, started, identity, order, tiles, counted, mark, whole⟩ :=
    fresh.start_ok isSnapshot
  have spans : active.board.tiles.length = ready.crew.length := by
    rw [tiles, fresh.crew, List.length_map, List.length_map]
  have waiting : run.remaining ≠ 0 := by
    rw [counted]
    exact mt List.length_eq_zero_iff.mp fresh.manned
  have working : run.isOver = false := by simp [Run.isOver, waiting, whole]
  have shared : active.board.HasShare ↔ ¬(2 ^ 64 : Int) ∣ job.workers.toInt * job.height.toInt := by
    rw [Board.HasShare, spans, hands, order, height]
  refine ⟨active, run, started, working, if_neg waiting, fun wrapped => ?_, fun divisible => ?_⟩
  · have cut : active.board.tiles ≠ [] := by
      rw [← List.length_pos_iff, spans]
      exact List.length_pos_iff.mpr fresh.manned
    exact Session.takeAll_broken working cut (by rwa [order, height])
      (mt shared.mp (not_not.mpr wrapped))
  have shared := shared.mpr divisible
  refine ⟨fun sequences scripts => ?_, fun fates => ?_⟩
  · have awaits := awaits_all scripts counted whole
    refine ⟨fun deliveries mixed => ?_, fun deliveries deliveries' mixed mixed' => ?_⟩
    · obtain ⟨announced, progress, told, share, passed⟩ :=
        Session.takeAll_passed awaits active shared waiting mixed
      have board := (Session.takeAll_heeds awaits active shared mixed).2
      rw [mark] at told passed
      refine ⟨?_, ⟨announced, progress, told, share, passed⟩, ?_, ?_, ?_, ?_⟩
      · rintro consumed unread rfl
        exact Session.takeAll_stops_iff awaits active shared mixed
      · intro event member
        obtain ⟨sender, sent⟩ := mixed.mem member
        exact (scripts sender).kind_ne sent
      · intro entry member
        rw [passed, List.mem_append, List.mem_singleton] at member
        rcases member with early | rfl
        · exact Board.announced?_progress told entry early
        · exact share
      · rw [board, Board.heed_length, spans]
      · intro position
        rw [board]
        exact settled_tile scripts mixed spans position
    · rw [(Session.takeAll_heeds awaits active shared mixed).2,
        (Session.takeAll_heeds awaits active shared mixed').2]
      exact settled_board scripts mixed mixed' spans
  · intro lives
    have lived := fun sender : Fin ready.crew.length =>
      live_script (fresh.own_index sender) (fates sender)
    have sent := fun sender => (lived sender).1
    refine ⟨sent, fun deliveries mixed finished same crew => ?_⟩
    obtain ⟨unchanged, board⟩ :=
      Session.takeAll_heeds (awaits_all sent counted whole) active shared mixed
    refine observe_tells (unchanged.trans (identity.trans same.symm)) ?_
    rw [board, crew]
    exact settled_crew sent mixed spans fun sender => (lived sender).2

/-- A job for two workers, just configured. -/
def pairConfigured : Session × FileStore × Except Error Unit :=
  ({} : Session).configure { workingDirectory := .root } "pair"
    { scene := "scene.pov", output := "canvas.png", width := 3, height := 2, workers := 2 }

/-- The first worker ends at once; the second reports a line before it fails. -/
def pairEvents (position : Nat) : List Event :=
  if position = 0 then [{ kind := .tileFinished }]
  else
    [{ kind := .output, tile := { index := 1 } },
      { kind := .tileFailed, tile := { index := 1, render := { line := 1 } } }]

/-- The end of the first tile between the two events of the second. -/
def pairDeliveries : List Delivery :=
  [⟨{ kind := .output, tile := { index := 1 } }, default, ""⟩,
    ⟨{ kind := .tileFinished }, default, ""⟩,
    ⟨{ kind := .tileFailed, tile := { index := 1, render := { line := 1 } } }, default, ""⟩]

theorem pair_interleaving {count : Nat} (two : count = 2) :
    Interleaving (fun sender : Fin count => pairEvents sender) (pairDeliveries.map (·.event)) := by
  subst two
  refine @Interleaving.sent 2 _ 1 _ _ _ rfl ?_
  refine @Interleaving.sent 2 _ 0 _ _ _ rfl ?_
  refine @Interleaving.sent 2 _ 1 _ _ _ rfl ?_
  exact .silent (by decide)

theorem pair_scripts {position : Nat} (short : position < 2) :
    Script position (pairEvents position) := by
  match position, short with
  | 0, _ => exact .ending rfl rfl
  | 1, _ => exact .output rfl rfl (.ending rfl rfl)

theorem crossing_events_are_passed_on :
    pairConfigured.2.2 = .ok () ∧
      (∀ sender : Fin pairConfigured.1.crew.length, Script sender (pairEvents sender)) ∧
      ∃ active run, pairConfigured.1.start false = .ok (active, run) ∧
        (active.takeAll run pairDeliveries).run.isOver = true ∧
        (active.takeAll run pairDeliveries).session.board.tiles[1]? =
          some { index := 1, render := { line := 1 } } := by
  obtain ⟨accepted, two⟩ : pairConfigured.2.2 = .ok () ∧ pairConfigured.1.crew.length = 2 := by
    decide +kernel
  rcases configured : pairConfigured with ⟨ready, stored, result⟩
  rw [configured] at accepted two
  obtain rfl : result = .ok () := accepted
  have scripts : ∀ sender : Fin ready.crew.length, Script sender (pairEvents sender) :=
    fun sender => pair_scripts (two ▸ sender.isLt)
  obtain ⟨active, run, started, -, -, -, passes⟩ := every_event_is_passed_on configured false
  obtain ⟨passes, -⟩ := (passes (by decide)).1 (fun sender => pairEvents sender) scripts
  obtain ⟨stops, -, -, -, -, tiles⟩ := passes pairDeliveries (pair_interleaving two)
  refine ⟨rfl, scripts, active, run, started, ?_, ?_⟩
  · exact (stops pairDeliveries [] (List.append_nil _)).1.mpr rfl
  · exact (tiles ⟨1, two ▸ Nat.one_lt_two⟩).trans rfl

/-- A job of four tiles and `2 ^ 62` rows, just configured. -/
def tallConfigured : Session × FileStore × Except Error Unit :=
  ({} : Session).configure { workingDirectory := .root } "tall"
    { scene := "scene.pov", output := "canvas.png", width := 4, height := 4611686018427387904
      workers := 4 }

/-- Every worker ends at once. -/
def tallEvents (position : Nat) : List Event :=
  [{ kind := .tileFinished, tile := { index := .ofNat position } }]

/-- The ends of the tiles in order. -/
def tallDeliveries : List Delivery :=
  (List.range 4).flatMap fun position => (tallEvents position).map fun event => ⟨event, default, ""⟩

/-- Four workers end, but neither their ends nor the end of the job is passed on. -/
theorem tall_job_breaks_off :
    tallConfigured.2.2 = .ok () ∧ tallConfigured.1.crew.length = 4 ∧
      (∀ sender : Fin 4, Script sender (tallEvents sender)) ∧
      Interleaving (fun sender : Fin 4 => tallEvents sender) (tallDeliveries.map (·.event)) ∧
      ∃ active run, tallConfigured.1.start false = .ok (active, run) ∧
        (active.takeAll run tallDeliveries).passed = [] ∧
        (active.takeAll run tallDeliveries).run.isBroken = true := by
  obtain ⟨accepted, four, outcome⟩ : tallConfigured.2.2 = .ok () ∧
      tallConfigured.1.crew.length = 4 ∧
      (tallConfigured.1.start false).toOption.map (fun begun =>
        ((begun.1.takeAll begun.2 tallDeliveries).passed,
          (begun.1.takeAll begun.2 tallDeliveries).run.isBroken)) = some ([], true) := by
    decide +kernel
  have own : ∀ sender : Fin 4, (Int64.ofNat sender).toInt = sender := by decide
  refine ⟨accepted, four, fun sender => .ending rfl (own sender), ?_, ?_⟩
  · refine @Interleaving.sent 4 _ 0 _ _ _ rfl ?_
    refine @Interleaving.sent 4 _ 1 _ _ _ rfl ?_
    refine @Interleaving.sent 4 _ 2 _ _ _ rfl ?_
    refine @Interleaving.sent 4 _ 3 _ _ _ rfl ?_
    exact .silent (by decide)
  · cases started : tallConfigured.1.start false with
    | error error =>
      rw [started] at outcome
      cases outcome
    | ok begun =>
      obtain ⟨active, run⟩ := begun
      rw [started] at outcome
      obtain ⟨passed, broken⟩ := Prod.mk.inj (Option.some.inj outcome)
      exact ⟨active, run, rfl, passed, broken⟩

end Mosaic
