import Mosaic.Proofs.EventLoop
import Mosaic.Report.ProgressView

/-! The view of a running job follows the loop. It starts from the tiles of some moment and is then sent
every event from the beginning, so it takes some of them in a second time. This does no harm: each place
shows the last tile that was put there, and once the view has caught up with the moment from which it
started, its tiles are those of the board. -/
namespace Mosaic

/-! ## The last event about a tile -/

/-- The last of the relevant events about the tile at a position. -/
def lastFor (relevant : Event → Bool) (events : List Event) (position : Nat) : Option Event :=
  events.reverse.find? fun event => relevant event && event.tile.index.toInt == position

section Noting
variable {α : Type} (relevant : Event → Bool) (value : Event → α)

theorem lastFor_append (earlier later : List Event) (position : Nat) :
    lastFor relevant (earlier ++ later) position =
      (lastFor relevant later position).or (lastFor relevant earlier position) := by
  rw [lastFor, List.reverse_append, List.find?_append]
  rfl

/-- Puts a value in the place of the tile that a relevant event is about. -/
def note (list : List α) (event : Event) : List α :=
  if relevant event && (0 ≤ event.tile.index.toInt && event.tile.index.toInt < list.length) then
    list.set event.tile.index.toInt.toNat (value event)
  else list

/-- Puts the values of events in their places, one after the other. -/
def noteAll (list : List α) (events : List Event) : List α :=
  events.foldl (note relevant value) list

theorem length_note (list : List α) (event : Event) :
    (note relevant value list event).length = list.length := by
  unfold note
  split <;> simp

theorem length_noteAll (events : List Event) (list : List α) :
    (noteAll relevant value list events).length = list.length := by
  induction events generalizing list with
  | nil => rfl
  | cons event more ih => exact (ih _).trans (length_note relevant value list event)

theorem getElem?_note (list : List α) (event : Event) {position : Nat}
    (inside : position < list.length) :
    (note relevant value list event)[position]? =
      ((lastFor relevant [event] position).map value).or list[position]? := by
  unfold note lastFor
  rw [List.reverse_singleton, List.find?_singleton]
  by_cases about : (relevant event && event.tile.index.toInt == position) = true
  · obtain ⟨matters, own⟩ := Bool.and_eq_true_iff.mp about
    simp only [beq_iff_eq] at own
    simp [matters, own, inside]
  · rw [if_neg about, Option.map_none, Option.none_or]
    split
    · rename_i written
      simp only [Bool.and_eq_true, beq_iff_eq, decide_eq_true_eq] at written about
      have elsewhere : event.tile.index.toInt ≠ position := fun own => about ⟨written.1, own⟩
      exact List.getElem?_set_ne (by omega)
    · rfl

/-- Each place shows the value of the last event about it. -/
theorem getElem?_noteAll (events : List Event) {list : List α} {position : Nat}
    (inside : position < list.length) :
    (noteAll relevant value list events)[position]? =
      ((lastFor relevant events position).map value).or list[position]? := by
  induction events generalizing list with
  | nil => rfl
  | cons event more ih =>
    have still : position < (note relevant value list event).length := by
      rwa [length_note]
    have split := lastFor_append relevant [event] more position
    rw [List.singleton_append] at split
    rw [noteAll, List.foldl_cons, ← noteAll, ih still, getElem?_note relevant value list event inside,
      split]
    cases lastFor relevant more position <;> rfl

/-- Events that were taken in before do no harm when they come again with all that followed them. -/
theorem noteAll_replay (list : List α) (earlier later : List Event) :
    noteAll relevant value (noteAll relevant value list earlier) (earlier ++ later) =
      noteAll relevant value list (earlier ++ later) := by
  refine List.ext_getElem? fun position => ?_
  by_cases inside : position < list.length
  · have still : position < (noteAll relevant value list earlier).length := by
      rwa [length_noteAll]
    rw [getElem?_noteAll _ _ _ still, getElem?_noteAll _ _ _ inside, getElem?_noteAll _ _ _ inside,
      lastFor_append]
    cases lastFor relevant later position <;> cases lastFor relevant earlier position <;> rfl
  · rw [List.getElem?_eq_none (by simp only [length_noteAll]; omega),
      List.getElem?_eq_none (by simp only [length_noteAll]; omega)]

end Noting

/-! ## The view -/

namespace Report

/-- The event in a message, if it holds one. -/
def Message.event? : Message → Option Event
  | .event sent => some sent
  | _ => none

namespace ProgressView

/-- The view takes note of the tiles of all events but the end of the job, and of the states of those
that end a tile. -/
theorem take_notes (view : ProgressView) (event : Event) :
    (view.take event).tiles = note (·.kind != .jobFinished) (·.tile) view.tiles event ∧
      (view.take event).states = note (·.kind.isTerminal) (·.state) view.states event := by
  unfold take
  by_cases last : event.kind = .jobFinished
  · simp [last, note, EventKind.isTerminal]
  · rw [if_neg last]
    refine ⟨by simp [place, note, last], ?_⟩
    cases terminal : event.kind.isTerminal <;> simp [placeState, note, terminal]

theorem react_notes (view : ProgressView) (message : Message) :
    let sent := message.event?.toList
    (view.react message).view.tiles =
        noteAll (·.kind != .jobFinished) (·.tile) view.tiles sent ∧
      (view.react message).view.states =
        noteAll (·.kind.isTerminal) (·.state) view.states sent := by
  cases message with
  | event sent => exact view.take_notes sent
  | key name =>
    simp only [react]
    split <;> exact ⟨rfl, rfl⟩
  | closed => exact ⟨rfl, rfl⟩
  | other => exact ⟨rfl, rfl⟩

/-- Whatever else the view is told, its tiles and states are those of the events. -/
theorem attend_notes (messages : List Message) (view : ProgressView) :
    let seen := messages.filterMap Message.event?
    (view.attend messages).tiles = noteAll (·.kind != .jobFinished) (·.tile) view.tiles seen ∧
      (view.attend messages).states = noteAll (·.kind.isTerminal) (·.state) view.states seen := by
  induction messages generalizing view with
  | nil => exact ⟨rfl, rfl⟩
  | cons message more ih =>
    obtain ⟨tiles, states⟩ := ih (view.react message).view
    obtain ⟨noted, marked⟩ := view.react_notes message
    have seen : (message :: more).filterMap Message.event? =
        message.event?.toList ++ more.filterMap Message.event? := by
      cases message <;> rfl
    simp only [seen, noteAll, List.foldl_append]
    rw [noted] at tiles
    rw [marked] at states
    exact ⟨tiles, states⟩

end ProgressView

end Report

/-! ## The loop -/

/-- Entries of which each holds the board that its event leaves. The end of the job is about no tile,
and nothing comes after it. -/
inductive Follows : Board → List (Board × Event) → Prop where
  | done {board : Board} : Follows board []
  | next {board : Board} {entry : Board × Event} {more : List (Board × Event)}
      (noted : entry.1.tiles = note (·.kind != .jobFinished) (·.tile) board.tiles entry.2)
      (last : entry.2.kind = .jobFinished → entry.2.tile = {} ∧ more = [])
      (later : Follows entry.1 more) : Follows board (entry :: more)

theorem Follows.last {board : Board} {entries : List (Board × Event)} (follows : Follows board entries)
    {earlier later : List (Board × Event)} {entry : Board × Event}
    (cut : entries = earlier ++ entry :: later) (ended : entry.2.kind = .jobFinished) :
    entry.2.tile = {} ∧ later = [] := by
  induction follows generalizing earlier with
  | done => simp at cut
  | next noted last rest ih =>
    cases earlier with
    | nil =>
      obtain ⟨rfl, rfl⟩ := List.cons.inj cut
      exact last ended
    | cons first others => exact ih (List.cons.inj cut).2

/-- The board after a number of events. -/
theorem Follows.tiles_at {board : Board} {entries : List (Board × Event)}
    (follows : Follows board entries) {count : Nat} {current : Board}
    (found : (board :: entries.map (·.1))[count]? = some current) :
    current.tiles =
      noteAll (·.kind != .jobFinished) (·.tile) board.tiles ((entries.map (·.2)).take count) := by
  induction follows generalizing count with
  | done =>
    cases count with
    | zero =>
      cases found
      rfl
    | succ count => simp at found
  | next noted last later ih =>
    cases count with
    | zero =>
      cases found
      rfl
    | succ count =>
      rw [ih found, noted]
      rfl

namespace Session

/-- Everything that a loop passes on, with the end of the job where it waits for no tile. -/
def emitted (session : Session) (run : Run) (deliveries : List Delivery) : List (Board × Event) :=
  (session.opening run).map ((session.board, ·)) ++ (session.takeAll run deliveries).passed

/-- A loop that has stopped passes on at most the end of the job. -/
theorem emitted_over {run : Run} (ended : run.isOver = true) (session : Session)
    (deliveries : List Delivery) :
    session.emitted run deliveries = (session.opening run).map ((session.board, ·)) := by
  rw [emitted, takeAll_over ended, List.append_nil]

theorem opening_of_waiting {run : Run} (waiting : run.isOver = false) (session : Session) :
    session.opening run = [] := by
  simp only [Run.isOver, Bool.or_eq_false_iff, decide_eq_false_iff_not] at waiting
  rw [opening, if_neg waiting.1]

/-- A loop that waits for a tile passes the next event on, or it stops there. -/
theorem emitted_cons {run : Run} (waiting : run.isOver = false) (session : Session)
    (delivery : Delivery) (more : List Delivery) :
    session.emitted run (delivery :: more) = [] ∨
      ∃ (after : Session) (run' : Run) (progress : Int64),
        after.board = session.board.update delivery.event.tile ∧
        session.emitted run (delivery :: more) =
          (after.board, { delivery.event with isSnapshot := run'.isSnapshot, progress }) ::
            after.emitted run' more := by
  obtain ⟨compositor, collected⟩ :=
    session.collect_session delivery.store delivery.token delivery.event
  rw [emitted, opening_of_waiting waiting]
  simp only [takeAll, receive, waiting, collected, Bool.false_eq_true, if_false]
  split
  · left
    rw [takeAll_over (by simp [Run.isOver])]
    rfl
  · exact .inr ⟨_, _, _, rfl, rfl⟩

theorem opening_follows (session : Session) (run : Run) :
    Follows session.board ((session.opening run).map ((session.board, ·))) := by
  unfold opening
  split
  · unfold closing?
    cases session.board.progress? with
    | none => exact .done
    | some progress => exact .next rfl (fun _ => ⟨rfl, rfl⟩) .done
  · exact .done

/-- Each event is passed on with the board that it leaves. The end of the job leaves the board as it
is. -/
theorem emitted_follows {deliveries : List Delivery} (run : Run) (session : Session)
    (ongoing : ∀ delivery ∈ deliveries, delivery.event.kind ≠ .jobFinished) :
    Follows session.board (session.emitted run deliveries) := by
  induction deliveries generalizing session run with
  | nil =>
    rw [emitted, takeAll, List.append_nil]
    exact session.opening_follows run
  | cons delivery more ih =>
    cases ended : run.isOver with
    | true =>
      rw [emitted_over ended]
      exact session.opening_follows run
    | false =>
      obtain ⟨now, later⟩ := List.forall_mem_cons.mp ongoing
      obtain stopped | ⟨after, run', progress, board, passed⟩ :=
        emitted_cons ended session delivery more
      · rw [stopped]
        exact .done
      · rw [passed]
        refine .next ?_ (fun ended => absurd ended now) (ih run' after later)
        simp [board, Board.update, place, note, now]

end Session

/-- A loop takes in events of any kind but the end of the job, about any tiles, whether or not they have
a place. A view is made when the loop has passed on some of its events, and is then told all of them in
order, with other messages in between. There is always one state for each tile: that of the last event
that ended the tile, and until then the tile is running. From the moment at which it was made the view
shows the tiles of the board. The event that ends the job comes last and changes nothing, although its
tile has the index of the first. -/
theorem view_follows_loop (session : Session) (run : Run) {deliveries : List Delivery}
    (ongoing : ∀ delivery ∈ deliveries, delivery.event.kind ≠ .jobFinished) {made : Nat}
    {origin : Board}
    (snapshot : (session.board :: (session.emitted run deliveries).map (·.1))[made]? = some origin)
    {messages : List Report.Message}
    (told : messages.filterMap Report.Message.event? <+:
      (session.emitted run deliveries).map (·.2)) :
    let emitted := session.emitted run deliveries
    let seen := messages.filterMap Report.Message.event?
    let view := (Report.ProgressView.ofBoard origin).attend messages
    view.tiles.length = session.board.tiles.length ∧ view.states.length = view.tiles.length ∧
    (∀ position < view.states.length, view.states[position]? =
      some (((lastFor (·.kind.isTerminal) seen position).map (·.state)).getD .running)) ∧
    (made ≤ seen.length → ∃ current,
      (session.board :: emitted.map (·.1))[seen.length]? = some current ∧
        view.tiles = current.tiles) ∧
    ∀ earlier (entry : Board × Event) later, emitted = earlier ++ entry :: later →
      entry.2.kind = .jobFinished →
      entry.2.tile = {} ∧ later = [] ∧ (view.react (.event entry.2)).view = view := by
  have follows := session.emitted_follows run ongoing
  have start := follows.tiles_at snapshot
  intro emitted seen view
  obtain ⟨tiles, states⟩ := Report.ProgressView.attend_notes messages (.ofBoard origin)
  have count : origin.tiles.length = session.board.tiles.length := by
    rw [start, length_noteAll]
  have shown : view.tiles.length = origin.tiles.length := by
    rw [tiles, length_noteAll]
    rfl
  have known : view.states.length = origin.tiles.length := by
    rw [states, length_noteAll]
    exact List.length_map ..
  refine ⟨shown.trans count, known.trans shown.symm, fun position inside => ?_, fun caught => ?_,
    fun earlier entry later cut ended => ?_⟩
  · have place : position < (Report.ProgressView.ofBoard origin).states.length := by
      simpa [Report.ProgressView.ofBoard] using known ▸ inside
    have running : (Report.ProgressView.ofBoard origin).states[position]? = some .running := by
      rw [known] at inside
      simp [Report.ProgressView.ofBoard, inside]
    rw [states, getElem?_noteAll _ _ _ place, running]
    cases lastFor (·.kind.isTerminal) seen position <;> rfl
  · have whole : seen = (emitted.map (·.2)).take seen.length := List.prefix_iff_eq_take.mp told
    have short : seen.length ≤ (emitted.map (·.2)).length := told.length_le
    have bound : seen.length < (session.board :: emitted.map (·.1)).length := by
      simp only [List.length_map, List.length_cons] at short ⊢
      omega
    have found := List.getElem?_eq_getElem bound
    have now := follows.tiles_at found
    refine ⟨_, found, ?_⟩
    -- What the board has taken in before the view was made is the first part of what the view is told.
    have part : (emitted.map (·.2)).take made = seen.take made := by
      rw [whole, List.take_take, Nat.min_eq_left caught]
    have split : seen = (emitted.map (·.2)).take made ++ seen.drop made := by
      rw [part, List.take_append_drop]
    calc view.tiles
        = noteAll (·.kind != .jobFinished) (·.tile) origin.tiles seen := tiles
      _ = noteAll (·.kind != .jobFinished) (·.tile) session.board.tiles seen := by
        rw [start, split, noteAll_replay]
      _ = _ := by rw [now, ← whole]
  · obtain ⟨none, last⟩ := follows.last cut ended
    refine ⟨none, last, ?_⟩
    simp [Report.ProgressView.react, Report.ProgressView.take, ended]

/-- Two tiles, of which nothing is known yet. -/
def twoTiles : Session where
  board := {
    job := { height := 4 }
    tiles := [{ index := 0, endRow := 4 }, { index := 1, endRow := 4 }] }

/-- A tile reports, another crashes, a third has no place, and the first is finished. -/
def mixedDeliveries : List Delivery :=
  [⟨{ kind := .output, tile := { index := 1, endRow := 4, render := { line := 2 } } }, default, ""⟩,
    ⟨{ kind := .tileFailed, tile := { index := 0, endRow := 4, render := { line := 1 } }
       state := .crashed }, default, ""⟩,
    ⟨{ kind := .unknown, tile := { index := 7 } }, default, ""⟩,
    ⟨{ kind := .tileFinished, tile := { index := 1, endRow := 4, render := { line := 4 } }
       state := .finished }, default, ""⟩]

/-- What a view of the two tiles is told: a key, and then everything. -/
def mixedMessages : List Report.Message :=
  .key "q" :: (twoTiles.emitted { remaining := 2 } mixedDeliveries).map fun entry => .event entry.2

theorem late_view_catches_up :
    ∃ origin current,
      let boards := twoTiles.board :: (twoTiles.emitted { remaining := 2 } mixedDeliveries).map (·.1)
      boards[3]? = some origin ∧ boards[5]? = some current ∧
      ((Report.ProgressView.ofBoard origin).attend mixedMessages).tiles = current.tiles ∧
      ((Report.ProgressView.ofBoard origin).attend mixedMessages).states[0]? = some .crashed := by
  have snapshot : (twoTiles.board ::
      (twoTiles.emitted { remaining := 2 } mixedDeliveries).map (·.1))[3]? =
      some { twoTiles.board with tiles :=
        [{ index := 0, endRow := 4, render := { line := 1 } },
          { index := 1, endRow := 4, render := { line := 2 } }] } := by decide +kernel
  have told : mixedMessages.filterMap Report.Message.event? <+:
      (twoTiles.emitted { remaining := 2 } mixedDeliveries).map (·.2) := by decide +kernel
  obtain ⟨-, -, states, tiles, -⟩ :=
    view_follows_loop twoTiles { remaining := 2 } (by decide +kernel) snapshot told
  obtain ⟨current, found, shown⟩ := tiles (by decide +kernel)
  refine ⟨_, current, snapshot, ?_, shown, (states 0 (by decide +kernel)).trans (by decide +kernel)⟩
  rw [← found]
  exact congrArg _ (by decide +kernel)

end Mosaic
