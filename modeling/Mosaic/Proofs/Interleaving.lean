import Mathlib.Data.Fintype.Card
import Mosaic.Board
import Mosaic.Worker

/-! Workers send their events into one channel, each in its own order and the last of each ending its
tile. However the events are mixed, the board that heeds them all shows the last copy of each tile. -/
namespace Mosaic

/-! ## What workers send -/

/-- What the worker at a position sends: outputs, and then one event that ends its tile. -/
inductive Script (position : Nat) : List Event → Prop where
  | ending {event : Event} (terminal : event.kind.isTerminal = true)
      (own : event.tile.index.toInt = position) : Script position [event]
  | output {event : Event} {rest : List Event} (kind : event.kind = .output)
      (own : event.tile.index.toInt = position) (more : Script position rest) :
      Script position (event :: rest)

/-- The events of all workers in one channel, those of each worker in its own order. -/
inductive Interleaving {count : Nat} : (Fin count → List Event) → List Event → Prop where
  | silent {sequences : Fin count → List Event} (spent : ∀ sender, sequences sender = []) :
      Interleaving sequences []
  | sent {sequences : Fin count → List Event} {sender : Fin count} {event : Event}
      {rest more : List Event} (next : sequences sender = event :: rest)
      (later : Interleaving (Function.update sequences sender rest) more) :
      Interleaving sequences (event :: more)

theorem Script.ne_nil {position : Nat} {events : List Event} (script : Script position events) :
    events ≠ [] := by
  cases script <;> simp

theorem Script.own {position : Nat} {event : Event} {rest : List Event}
    (script : Script position (event :: rest)) : event.tile.index.toInt = position := by
  cases script <;> assumption

/-- A worker never says that the job is finished. -/
theorem Script.kind_ne {position : Nat} {events : List Event} (script : Script position events)
    {event : Event} (member : event ∈ events) : event.kind ≠ .jobFinished := by
  induction script with
  | ending terminal own =>
    obtain rfl := List.mem_singleton.mp member
    intro finished
    rw [finished] at terminal
    cases terminal
  | output kind own more ih =>
    rcases List.mem_cons.mp member with rfl | later
    · rw [kind]
      decide
    · exact ih later

/-- Every worker has sent everything or has such a sequence to send. -/
def Scripted {count : Nat} (sequences : Fin count → List Event) : Prop :=
  ∀ sender, sequences sender = [] ∨ Script sender (sequences sender)

section Sending
variable {count : Nat} {sequences : Fin count → List Event} {sender : Fin count} {event : Event}
  {rest : List Event} (scripted : Scripted sequences) (next : sequences sender = event :: rest)
include scripted next

theorem Scripted.script : Script sender (event :: rest) := by
  rcases scripted sender with spent | script
  · rw [next] at spent
    cases spent
  · rwa [next] at script

theorem Scripted.update : Scripted (Function.update sequences sender rest) := by
  intro other
  by_cases same : other = sender
  · subst same
    rw [Function.update_self]
    cases scripted.script next with
    | ending terminal own => exact .inl rfl
    | output kind own more => exact .inr more
  · rw [Function.update_of_ne same]
    exact scripted other

end Sending

theorem Interleaving.mem {count : Nat} {sequences : Fin count → List Event} {events : List Event}
    (mixed : Interleaving sequences events) {event : Event} (member : event ∈ events) :
    ∃ sender, event ∈ sequences sender := by
  induction mixed with
  | silent spent => simp at member
  | @sent sequences sender head rest more next later ih =>
    rcases List.mem_cons.mp member with rfl | among
    · exact ⟨sender, by simp [next]⟩
    · obtain ⟨other, held⟩ := ih among
      by_cases same : other = sender
      · subst same
        rw [Function.update_self] at held
        exact ⟨other, by simp [next, held]⟩
      · rw [Function.update_of_ne same] at held
        exact ⟨other, held⟩

/-! ## Workers still at work -/

/-- The workers that have not sent everything. -/
def pending {count : Nat} (sequences : Fin count → List Event) : Finset (Fin count) :=
  Finset.univ.filter fun sender => sequences sender ≠ []

theorem mem_pending {count : Nat} {sequences : Fin count → List Event} {sender : Fin count} :
    sender ∈ pending sequences ↔ sequences sender ≠ [] := by
  simp [pending]

theorem pending_eq_empty {count : Nat} {sequences : Fin count → List Event} :
    pending sequences = ∅ ↔ ∀ sender, sequences sender = [] := by
  simp [pending, Finset.filter_eq_empty_iff]

theorem Interleaving.eq_nil_iff {count : Nat} {sequences : Fin count → List Event}
    {events : List Event} (mixed : Interleaving sequences events) :
    events = [] ↔ pending sequences = ∅ := by
  rw [pending_eq_empty]
  cases mixed with
  | silent spent => simp [spent]
  | @sent _ sender _ _ _ next later =>
    constructor
    · intro absent
      cases absent
    · intro spent
      rw [spent sender] at next
      cases next

/-- A worker that sends its last event is no longer pending. -/
theorem pending_update_nil {count : Nat} (sequences : Fin count → List Event) (sender : Fin count) :
    pending (Function.update sequences sender []) = (pending sequences).erase sender := by
  ext other
  by_cases same : other = sender
  · subst same
    simp [mem_pending]
  · simp [mem_pending, same]

/-- A worker that has more to send stays pending. -/
theorem pending_update_of_ne_nil {count : Nat} {sequences : Fin count → List Event}
    {sender : Fin count} {rest : List Event} (held : sequences sender ≠ []) (more : rest ≠ []) :
    pending (Function.update sequences sender rest) = pending sequences := by
  ext other
  by_cases same : other = sender
  · subst same
    simp [mem_pending, held, more]
  · simp [mem_pending, same]

/-! ## The board -/

theorem length_place (tiles : List Tile) (tile : Tile) : (place tiles tile).length = tiles.length := by
  unfold place
  split <;> simp

/-- A tile is put in the place of its index, if there is one. -/
theorem getElem?_place (tiles : List Tile) (tile : Tile) (position : Nat) :
    (place tiles tile)[position]? =
      if tile.index.toInt = position ∧ position < tiles.length then some tile
      else tiles[position]? := by
  unfold place
  split
  · rename_i inside
    simp only [Bool.and_eq_true, decide_eq_true_eq] at inside
    rw [List.getElem?_set]
    by_cases here : tile.index.toInt = position
    · have short : position < tiles.length := by omega
      simp [here, short]
    · rw [if_neg (by omega), if_neg (by omega)]
  · rename_i outside
    simp only [Bool.and_eq_true, decide_eq_true_eq] at outside
    rw [if_neg (by omega)]

/-- The board after the tiles of events were put on it. -/
def Board.heed (board : Board) (events : List Event) : Board :=
  events.foldl (fun board event => board.update event.tile) board

theorem Board.heed_cons (board : Board) (event : Event) (more : List Event) :
    board.heed (event :: more) = (board.update event.tile).heed more := rfl

theorem Board.heed_job (board : Board) (events : List Event) :
    (board.heed events).job = board.job := by
  induction events generalizing board with
  | nil => rfl
  | cons event more ih => exact ih (board.update event.tile)

/-- A tile is put in the place of its index. -/
theorem Board.update_tiles (board : Board) {tile : Tile} {position : Nat}
    (own : tile.index.toInt = position) :
    (board.update tile).tiles = board.tiles.set position tile := by
  simp only [Board.update, place, own, Int.toNat_natCast]
  by_cases short : position < board.tiles.length
  · simp [short]
  · simp [short, List.set_eq_of_length_le (Nat.le_of_not_lt short)]

theorem Board.heed_length (board : Board) (events : List Event) :
    (board.heed events).tiles.length = board.tiles.length := by
  induction events generalizing board with
  | nil => rfl
  | cons event more ih =>
    rw [Board.heed_cons, ih]
    exact length_place board.tiles event.tile

/-- Every place of the board shows the tile of the last event that its worker sent. -/
theorem Interleaving.heed_tile {count : Nat} {sequences : Fin count → List Event}
    {events : List Event} (mixed : Interleaving sequences events) {board : Board}
    (scripted : Scripted sequences) (spans : board.tiles.length = count) (position : Fin count) :
    (board.heed events).tiles[position.val]? =
      ((sequences position).getLast?.map (·.tile)).or board.tiles[position.val]? := by
  induction mixed generalizing board with
  | silent spent => simp [spent, Board.heed]
  | @sent sequences sender event rest more next later ih =>
    have tiles := board.update_tiles (scripted.script next).own
    rw [Board.heed_cons, ih (scripted.update next) (by simp [tiles, spans]), tiles]
    by_cases same : position = sender
    · subst same
      rw [Function.update_self, next, List.getElem?_set_self (by omega)]
      cases rest with
      | nil => rfl
      | cons second others => simp [List.getLast?_cons]
    · rw [Function.update_of_ne same, List.getElem?_set_ne (by omega)]

section Settled
variable {count : Nat} {sequences : Fin count → List Event}
  (scripts : ∀ sender : Fin count, Script sender (sequences sender))
include scripts

/-- In the end every place shows the tile with which its worker ended. -/
theorem settled_tile {events : List Event} (mixed : Interleaving sequences events) {board : Board}
    (spans : board.tiles.length = count) (position : Fin count) :
    (board.heed events).tiles[position.val]? = (sequences position).getLast?.map (·.tile) := by
  rw [mixed.heed_tile (fun sender => .inr (scripts sender)) spans]
  obtain ⟨first, rest, shape⟩ := List.exists_cons_of_ne_nil (scripts position).ne_nil
  rw [shape, List.getLast?_cons]
  rfl

/-- The final board does not depend on how the events were mixed. -/
theorem settled_board {events events' : List Event} (mixed : Interleaving sequences events)
    (mixed' : Interleaving sequences events') {board : Board} (spans : board.tiles.length = count) :
    board.heed events = board.heed events' := by
  have tiles : (board.heed events).tiles = (board.heed events').tiles := by
    refine List.ext_getElem? fun position => ?_
    by_cases inside : position < count
    · exact (settled_tile scripts mixed spans ⟨position, inside⟩).trans
        (settled_tile scripts mixed' spans ⟨position, inside⟩).symm
    · rw [List.getElem?_eq_none (by rw [Board.heed_length]; omega),
        List.getElem?_eq_none (by rw [Board.heed_length]; omega)]
  have job := (board.heed_job events).trans (board.heed_job events').symm
  cases whole : board.heed events
  cases whole' : board.heed events'
  simp_all

/-- When workers end with the tiles that they hold, the final board shows what the workers hold. -/
theorem settled_crew {events : List Event} (mixed : Interleaving sequences events) {board : Board}
    (spans : board.tiles.length = count) {workers : Fin count → Worker}
    (ended : ∀ sender, (sequences sender).getLast?.map (·.tile) = some (workers sender).tile) :
    (board.heed events).tiles = (List.ofFn workers).map (·.tile) := by
  refine List.ext_getElem? fun position => ?_
  by_cases inside : position < count
  · rw [settled_tile scripts mixed spans ⟨position, inside⟩, ended]
    simp [inside]
  · rw [List.getElem?_eq_none (by rw [Board.heed_length]; omega)]
    simp [inside]

end Settled

end Mosaic
