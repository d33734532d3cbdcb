import Mathlib.Logic.Relation
import Mosaic.Proofs.ViewConvergence

/-! The view drains the channel of its job. It asks for the next event with its first command and after
every event, so one command to wait is always under way until the channel is known to be closed. Keys and
other messages come whenever they like; a key may cancel the job, but none of them asks for an event,
takes one away or ends the view. -/
namespace Mosaic.Report

/-- Whether a message makes the view cancel its job. -/
def Message.cancels : Message → Bool
  | .key name => ProgressView.isCancelKey name
  | _ => false

/-- A view at work on the events of a job. A command to wait is `waiting` until it takes something out of
the channel, and what it has taken is among the `answers` until it reaches the view. For the record stand
what the job has sent, and what the view was told together with its reactions. -/
structure Desk where
  view : ProgressView
  waiting : Nat := 0
  answers : List Message := []
  channel : List Event := []
  isClosed : Bool := false
  sent : List Event := []
  log : List (Message × Reaction) := []

namespace Desk

/-- What the view was told. -/
def heard (desk : Desk) : List Message := desk.log.map (·.1)

/-- The events that have reached the view. -/
def received (desk : Desk) : List Event := desk.heard.filterMap Message.event?

/-- The commands to wait that have not been answered. -/
def outstanding (desk : Desk) : Nat := desk.waiting + desk.answers.length

/-- Sets a command of the view to work. Only a command to wait makes any. -/
def issue (desk : Desk) (command : Command) : Desk :=
  { desk with waiting := desk.waiting + (if command = .wait then 1 else 0) }

/-- A new view of a board, with its first command set to work. -/
def opened (board : Board) : Desk :=
  ({ view := .ofBoard board } : Desk).issue ProgressView.firstCommand

/-- A message reaches the view, and the command that the view returns is set to work. -/
def tell (desk : Desk) (message : Message) : Desk :=
  let reaction := desk.view.react message
  { desk with
    view := reaction.view
    log := desk.log ++ [(message, reaction)] }.issue reaction.command

/-- A command to wait makes headway: it takes the next event, it learns that no more will come, or its
answer reaches the view. Answers need not arrive in the order in which they were taken. -/
inductive Served : Desk → Desk → Prop where
  | fetch {desk : Desk} {event : Event} {more : List Event} (waits : 0 < desk.waiting)
      (next : desk.channel = event :: more) :
      Served desk { desk with
        waiting := desk.waiting - 1
        channel := more
        answers := desk.answers ++ [.event event] }
  | learn {desk : Desk} (waits : 0 < desk.waiting) (empty : desk.channel = [])
      (closed : desk.isClosed = true) :
      Served desk { desk with
        waiting := desk.waiting - 1
        answers := desk.answers ++ [.closed] }
  | answer {desk : Desk} {message : Message} {before after : List Message}
      (among : desk.answers = before ++ message :: after) :
      Served desk { desk.tell message with answers := before ++ after }

/-- Something comes from outside: the job sends an event or closes the channel, which it does once and
after all events, or the view is told something that is no answer. -/
inductive Stirred : Desk → Desk → Prop where
  | send {desk : Desk} (event : Event) (opened : desk.isClosed = false) :
      Stirred desk { desk with
        channel := desk.channel ++ [event]
        sent := desk.sent ++ [event] }
  | close {desk : Desk} (opened : desk.isClosed = false) :
      Stirred desk { desk with isClosed := true }
  | press {desk : Desk} (name : String) : Stirred desk (desk.tell (.key name))
  | other {desk : Desk} : Stirred desk (desk.tell .other)

/-- The next thing that happens. -/
def Step (desk next : Desk) : Prop := Served desk next ∨ Stirred desk next

/-- Where a new view of a board can come to. -/
def Reached (board : Board) : Desk → Prop := Relation.ReflTransGen Step (opened board)

end Desk

/-! ## One message -/

namespace ProgressView

/-- The view asks for the next event after an event, ends when there are no more, and cancels the job at
three keys. -/
theorem react_reply (view : ProgressView) (message : Message) :
    ((view.react message).command = .wait ↔ message.event?.isSome) ∧
      ((view.react message).command = .quit ↔ message = .closed) ∧
      (view.react message).cancels = message.cancels := by
  cases message with
  | key name =>
    cases cancels : isCancelKey name <;> simp [react, Message.event?, Message.cancels, cancels]
  | event sent => simp [react, Message.event?, Message.cancels]
  | closed => simp [react, Message.event?, Message.cancels]
  | other => simp [react, Message.event?, Message.cancels]

theorem take_marks (view : ProgressView) (event : Event) :
    (view.take event).isDone = view.isDone ∧ (view.take event).isAborted = view.isAborted := by
  unfold take
  split <;> exact ⟨rfl, rfl⟩

/-- Only the end of the events marks the view as done, and only a cancelling key as aborted. -/
theorem react_marks (view : ProgressView) (message : Message) :
    (view.react message).view.isDone = (view.isDone || message == .closed) ∧
      (view.react message).view.isAborted = (view.isAborted || message.cancels) := by
  cases message with
  | key name =>
    cases cancels : isCancelKey name <;> simp [react, Message.cancels, cancels]
  | event sent =>
    have other : (Message.event sent == .closed) = false := rfl
    simpa [react, Message.cancels, other] using view.take_marks sent
  | closed => simp [react, Message.cancels]
  | other => simp [react, Message.cancels]

end ProgressView

/-! ## What holds at every moment -/

namespace Desk

section Telling
variable (desk : Desk) (message : Message)

theorem heard_tell : (desk.tell message).heard = desk.heard ++ [message] := by
  simp [heard, tell, issue]

theorem received_tell :
    (desk.tell message).received = desk.received ++ message.event?.toList := by
  rw [received, heard_tell, List.filterMap_append]
  cases message <;> rfl

theorem waiting_tell :
    (desk.tell message).waiting = desk.waiting + if message.event?.isSome then 1 else 0 := by
  simp only [tell, issue, (desk.view.react_reply message).1]

end Telling

/-- The marks of the view and its reactions are those that the messages call for. -/
structure Marked (desk : Desk) : Prop where
  done : desk.view.isDone = desk.heard.contains .closed
  aborted : desk.view.isAborted = desk.heard.any Message.cancels
  replies : ∀ entry ∈ desk.log, (entry.2.command = .quit ↔ entry.1 = .closed) ∧
    entry.2.cancels = entry.1.cancels

/-- Whatever the view is told, it reacts as it should. -/
theorem Marked.tell {desk : Desk} (marked : desk.Marked) (message : Message) :
    (desk.tell message).Marked := by
  obtain ⟨done, aborted⟩ := desk.view.react_marks message
  obtain ⟨-, quits, cancels⟩ := desk.view.react_reply message
  refine ⟨?_, ?_, fun entry member => ?_⟩
  · rw [heard_tell, List.contains_append]
    simp only [Desk.tell, issue, done, marked.done, List.contains_cons, List.contains_nil, Bool.or_false]
    rw [BEq.comm]
  · rw [heard_tell, List.any_append]
    simp [Desk.tell, issue, aborted, marked.aborted]
  · rcases List.mem_append.mp member with earlier | now
    · exact marked.replies entry earlier
    · obtain rfl := List.mem_singleton.mp now
      exact ⟨quits, cancels⟩

/-- How things stand on a desk: one command is under way or the view knows that the channel is closed;
what was sent has arrived, is arriving or is still to be taken, in this order; and when the end becomes
known nothing is left in the channel. -/
structure Tended (desk : Desk) : Prop where
  one : desk.outstanding + desk.heard.count .closed = 1
  order : desk.received ++ desk.answers.filterMap Message.event? ++ desk.channel = desk.sent
  proper : ∀ message ∈ desk.answers, message = .closed ∨ message.event?.isSome
  last : .closed ∈ desk.answers ++ desk.heard → desk.isClosed = true ∧ desk.channel = []

/-- While a command waits nobody has learnt of the end. -/
theorem Tended.idle {desk : Desk} (tended : desk.Tended) (waits : 0 < desk.waiting) :
    desk.answers = [] ∧ desk.waiting = 1 ∧ .closed ∉ desk.heard := by
  have one := tended.one
  simp only [outstanding] at one
  exact ⟨List.eq_nil_of_length_eq_zero (by omega), by omega, List.count_eq_zero.mp (by omega)⟩

/-- The only command under way is the one whose answer arrives. -/
theorem Tended.sole_answer {desk : Desk} (tended : desk.Tended) {message : Message}
    {before after : List Message} (among : desk.answers = before ++ message :: after) :
    before = [] ∧ after = [] ∧ desk.waiting = 0 ∧ .closed ∉ desk.heard := by
  have one := tended.one
  simp only [outstanding, among, List.length_append, List.length_cons] at one
  exact ⟨List.eq_nil_of_length_eq_zero (by omega), List.eq_nil_of_length_eq_zero (by omega),
    by omega, List.count_eq_zero.mp (by omega)⟩

/-- Headway of a command keeps the desk tended. -/
theorem Tended.served {desk next : Desk} (tended : desk.Tended) (served : Served desk next) :
    next.Tended := by
  cases served with
  | @fetch event more waits taken =>
    obtain ⟨none, once, unknown⟩ := tended.idle waits
    refine ⟨?_, ?_, ?_, ?_⟩
    · simpa [outstanding, heard, none, once] using tended.one
    · simpa [received, heard, none, taken, Message.event?] using tended.order
    · simp [none, Message.event?]
    · intro ended
      simp only [none, List.nil_append, List.mem_append, List.mem_singleton, reduceCtorEq,
        false_or] at ended
      exact absurd ended unknown
  | learn waits empty closed =>
    obtain ⟨none, once, unknown⟩ := tended.idle waits
    have order := tended.order
    rw [none] at order
    refine ⟨?_, ?_, ?_, fun _ => ⟨closed, empty⟩⟩
    · simpa [outstanding, heard, none, once] using tended.one
    · rw [none]
      exact order
    · simp [none]
  | @answer message before after among =>
    obtain ⟨rfl, rfl, once, unknown⟩ := tended.sole_answer among
    have order := tended.order
    have told := desk.heard_tell message
    have arrived := desk.received_tell message
    have waits := desk.waiting_tell message
    have count : (desk.tell message).heard.count .closed = if message = .closed then 1 else 0 := by
      rw [told, List.count_append, List.count_eq_zero.mpr unknown, List.count_singleton]
      simp [beq_iff_eq]
    rw [among] at order
    refine ⟨?_, ?_, by simp, fun ended => ?_⟩
    · -- An event is followed by the next command, the end by none.
      change (desk.tell message).waiting + 0 + (desk.tell message).heard.count .closed = 1
      rw [waits, count, once]
      rcases tended.proper message (by simp [among]) with rfl | isEvent
      · rfl
      · rw [if_pos isEvent, if_neg (by rintro rfl; cases isEvent)]
    · change (desk.tell message).received ++ [] ++ desk.channel = desk.sent
      rw [arrived, List.append_nil, ← order]
      cases message <;> rfl
    · change .closed ∈ [] ++ (desk.tell message).heard at ended
      rw [told, List.nil_append, List.mem_append, List.mem_singleton] at ended
      rcases ended with earlier | now
      · exact absurd earlier unknown
      · exact tended.last (by simp [among, now])

/-- Nothing from outside disturbs the desk. -/
theorem Tended.stirred {desk next : Desk} (tended : desk.Tended) (stirred : Stirred desk next) :
    next.Tended := by
  have aside : ∀ message : Message, message.event? = none → message ≠ .closed →
      (desk.tell message).Tended := by
    intro message noEvent noEnd
    have told := desk.heard_tell message
    have waits : (desk.tell message).waiting = desk.waiting := by
      rw [waiting_tell, noEvent]
      rfl
    have count : (desk.tell message).heard.count .closed = desk.heard.count .closed := by
      rw [told, List.count_append, List.count_singleton]
      simp [noEnd]
    refine ⟨?_, ?_, tended.proper, fun ended => tended.last ?_⟩
    · rw [outstanding, waits, count]
      exact tended.one
    · rw [received_tell, noEvent, Option.toList_none, List.append_nil]
      exact tended.order
    · rw [told] at ended
      simpa [tell, issue, Ne.symm noEnd] using ended
  cases stirred with
  | send event opened =>
    refine ⟨tended.one, ?_, tended.proper, fun ended => ?_⟩
    · rw [← List.append_assoc]
      exact congrArg (· ++ [event]) tended.order
    · have known := (tended.last ended).1
      rw [opened] at known
      cases known
  | close opened =>
    exact ⟨tended.one, tended.order, tended.proper, fun ended => ⟨rfl, (tended.last ended).2⟩⟩
  | press name => exact aside _ rfl (by simp)
  | other => exact aside _ rfl (by simp)

/-- Both hold wherever a view comes to. -/
theorem Reached.tended {board : Board} {desk : Desk} (reached : Reached board desk) :
    desk.Tended ∧ desk.Marked := by
  induction reached with
  | refl =>
    refine ⟨⟨rfl, rfl, by simp [opened, issue], by simp [opened, issue, heard]⟩, ⟨?_, ?_, ?_⟩⟩
    · simp [opened, issue, heard, ProgressView.ofBoard]
    · simp [opened, issue, heard, ProgressView.ofBoard]
    · simp [opened, issue]
  | tail _ step ih =>
    obtain ⟨tended, marked⟩ := ih
    rcases step with served | stirred
    · refine ⟨tended.served served, ?_⟩
      cases served with
      | fetch => exact ⟨marked.done, marked.aborted, marked.replies⟩
      | learn => exact ⟨marked.done, marked.aborted, marked.replies⟩
      | @answer message =>
        obtain ⟨done, aborted, replies⟩ := marked.tell message
        exact ⟨done, aborted, replies⟩
    · refine ⟨tended.stirred stirred, ?_⟩
      cases stirred with
      | send => exact ⟨marked.done, marked.aborted, marked.replies⟩
      | close => exact ⟨marked.done, marked.aborted, marked.replies⟩
      | press name => exact marked.tell _
      | other => exact marked.tell _

/-! ## Headway -/

/-- The steps that commands have still to make if nothing more is sent: two for an event in the channel
or for a command that waits, three for an answer that will lead to the next command, and one for the news
of the end. -/
def todo (desk : Desk) : Nat :=
  2 * desk.channel.length + 2 * desk.waiting +
    3 * (desk.answers.filterMap Message.event?).length + desk.answers.count .closed

/-- Each headway of a command is one step less to make. -/
theorem Tended.todo_served {desk next : Desk} (tended : desk.Tended) (served : Served desk next) :
    next.todo + 1 = desk.todo := by
  cases served with
  | @fetch event more waits taken =>
    have events : [Message.event event].filterMap Message.event? = [event] := rfl
    simp only [todo, taken, events, List.filterMap_append, List.count_append, List.length_append,
      List.length_cons, List.length_nil, List.count_singleton, beq_iff_eq, reduceCtorEq, if_false]
    omega
  | learn waits empty closed =>
    have events : [Message.closed].filterMap Message.event? = [] := rfl
    simp only [todo, events, List.filterMap_append, List.count_append, List.append_nil,
      List.count_singleton_self]
    omega
  | @answer message before after among =>
    have waits := desk.waiting_tell message
    have same : (desk.tell message).channel = desk.channel := rfl
    obtain ⟨rfl, rfl, -, -⟩ := tended.sole_answer among
    rcases tended.proper message (by simp [among]) with rfl | isEvent
    · simp [todo, waits, same, among, Message.event?]
    · obtain ⟨event, shape⟩ := Option.isSome_iff_exists.mp isEvent
      have events : [message].filterMap Message.event? = [event] := by simp [shape]
      have other : [message].count .closed = 0 := by
        refine List.count_eq_zero.mpr fun ended => ?_
        obtain rfl := List.mem_singleton.mp ended
        cases isEvent
      rw [if_pos isEvent] at waits
      simp only [todo, same, waits, among, List.nil_append, events, other, List.filterMap_nil,
        List.length_nil, List.length_singleton, List.count_nil]
      omega

/-- What comes from outside after the channel is closed makes no work for commands. -/
theorem todo_stirred {desk next : Desk} (closed : desk.isClosed = true)
    (stirred : Stirred desk next) : next.todo = desk.todo := by
  have aside : ∀ message : Message, message.event? = none → (desk.tell message).todo = desk.todo := by
    intro message noEvent
    have waits := desk.waiting_tell message
    rw [noEvent] at waits
    rw [todo, waits]
    rfl
  cases stirred with
  | send event opened =>
    rw [closed] at opened
    cases opened
  | close opened => rfl
  | press name => exact aside _ rfl
  | other => exact aside _ rfl

/-- A command can make headway until the view has learnt of the end. -/
theorem Tended.exists_served {desk : Desk} (tended : desk.Tended) (closed : desk.isClosed = true)
    (unknown : .closed ∉ desk.heard) : ∃ next, Served desk next := by
  have one := tended.one
  rw [List.count_eq_zero.mpr unknown, outstanding] at one
  cases taken : desk.answers with
  | cons message more => exact ⟨_, @Served.answer desk message [] more taken⟩
  | nil =>
    have waits : 0 < desk.waiting := by
      rw [taken, List.length_nil] at one
      omega
    cases left : desk.channel with
    | nil => exact ⟨_, .learn waits left closed⟩
    | cons event more => exact ⟨_, .fetch waits left⟩

/-! ## The whole run -/

theorem cancels_iff (message : Message) :
    message.cancels = true ↔ ∃ name ∈ ["q", "ctrl+c", "esc"], message = .key name := by
  cases message with
  | key name => simp [Message.cancels, ProgressView.isCancelKey, or_assoc]
  | event sent => simp [Message.cancels]
  | closed => simp [Message.cancels]
  | other => simp [Message.cancels]

/-- Reactions of a kind are those to messages of a kind. -/
theorem filter_log {desk : Desk} (reacts : Reaction → Bool) {kind : Message → Bool}
    (alike : ∀ entry ∈ desk.log, reacts entry.2 = kind entry.1) :
    (desk.log.filter (reacts ·.2)).map (·.1) = desk.heard.filter kind := by
  rw [heard, List.filter_map]
  exact congrArg _ (List.filter_congr alike)

/-- Whatever happens to a view, in whatever order: until it is told that there are no more events there is
exactly one command to wait under way, and then there is none. The view ends once, when it is told so, and
is done from then on and not before. It is aborted from the first of three keys on, and each of these keys
cancels the job once. What was sent reaches the view in order, nothing twice, and all of it by the time the
view is done, whether or not it was aborted. Once the channel is closed every step that a command makes is
one less to make, nothing else makes more of them, and they do not stop before the view is done. -/
theorem view_drains_channel {board : Board} {desk : Desk} (reached : Reached board desk) :
    desk.outstanding = (if desk.heard.contains .closed then 0 else 1) ∧
    (desk.log.filter (·.2.command = .quit)).map (·.1) =
      (if desk.heard.contains .closed then [.closed] else []) ∧
    (desk.view.isDone = true ↔ .closed ∈ desk.heard) ∧
    (desk.view.isAborted = true ↔ ∃ name ∈ ["q", "ctrl+c", "esc"], .key name ∈ desk.heard) ∧
    (desk.log.filter (·.2.cancels)).map (·.1) = desk.heard.filter Message.cancels ∧
    desk.received <+: desk.sent ∧
    (.closed ∈ desk.heard → desk.isClosed = true ∧ desk.received = desk.sent) ∧
    (desk.isClosed = true →
      (.closed ∉ desk.heard → ∃ next, Served desk next) ∧
      ∀ next, Step desk next →
        Served desk next ∧ next.todo + 1 = desk.todo ∨ next.todo = desk.todo) := by
  obtain ⟨tended, marked⟩ := reached.tended
  have one := tended.one
  have quits : (desk.log.filter (·.2.command = .quit)).map (·.1) =
      desk.heard.filter (· == .closed) := by
    refine filter_log (·.command = .quit) fun entry member => ?_
    rw [Bool.eq_iff_iff, decide_eq_true_iff, beq_iff_eq]
    exact (marked.replies entry member).1
  refine ⟨?_, ?_, ?_, ?_, filter_log (·.cancels) fun entry member => (marked.replies entry member).2, ?_,
    fun ended => ?_, fun closed => ⟨tended.exists_served closed, fun next step => ?_⟩⟩
  · split
    · rename_i ended
      have told := List.count_pos_iff.mpr (List.contains_iff_mem.mp ended)
      omega
    · rename_i unknown
      rw [List.count_eq_zero.mpr (mt List.contains_iff_mem.mpr unknown)] at one
      exact one
  · rw [quits, List.filter_beq]
    split
    · rename_i ended
      have told := List.count_pos_iff.mpr (List.contains_iff_mem.mp ended)
      rw [show desk.heard.count .closed = 1 by omega]
      rfl
    · rename_i unknown
      rw [List.count_eq_zero.mpr (mt List.contains_iff_mem.mpr unknown)]
      rfl
  · rw [marked.done, List.contains_iff_mem]
  · rw [marked.aborted, List.any_eq_true]
    constructor
    · rintro ⟨message, told, cancels⟩
      obtain ⟨name, known, rfl⟩ := (cancels_iff message).mp cancels
      exact ⟨name, known, told⟩
    · rintro ⟨name, known, told⟩
      exact ⟨_, told, (cancels_iff _).mpr ⟨name, known, rfl⟩⟩
  · exact ⟨_, by rw [← List.append_assoc]; exact tended.order⟩
  · obtain ⟨closed, empty⟩ := tended.last (List.mem_append_right _ ended)
    have told := List.count_pos_iff.mpr ended
    have none : desk.answers = [] := by
      rw [outstanding] at one
      exact List.eq_nil_of_length_eq_zero (by omega)
    have order := tended.order
    rw [none, empty] at order
    exact ⟨closed, by simpa using order⟩
  · rcases step with served | stirred
    · exact .inl ⟨served, tended.todo_served served⟩
    · exact .inr (todo_stirred closed stirred)

/-- A tile ends after it has reported once. -/
def twoEvents : List Event := [{ kind := .output }, { kind := .tileFailed, state := .crashed }]

/-- The view is aborted while an event is on its way to it. -/
theorem aborted_view_drains_channel :
    ∃ desk, Reached {} desk ∧ desk.sent = twoEvents ∧ .closed ∈ desk.heard ∧
      desk.received = twoEvents ∧ desk.outstanding = 0 ∧ desk.view.isAborted = true ∧
      (desk.log.filter (·.2.cancels)).length = 2 := by
  obtain ⟨desk, reached, heard, sent⟩ : ∃ desk, Reached {} desk ∧
      desk.heard = [.key "q", .key "esc", .event { kind := .output }, .other,
        .event { kind := .tileFailed, state := .crashed }, .closed, .key "x"] ∧
      desk.sent = twoEvents := by
    have answered := fun (desk : Desk) (message : Message) (alone : desk.answers = [message]) =>
      @Served.answer desk message [] [] alone
    have sent : Reached {} _ := .tail .refl (.inr (.send { kind := .output } rfl))
    have taken : Reached {} _ := .tail (.tail sent (.inr (.press "q"))) (.inl (.fetch (by decide) rfl))
    have failed : Reached {} _ := .tail taken (.inr (.send { kind := .tileFailed, state := .crashed } rfl))
    have told : Reached {} _ := .tail (.tail failed (.inr (.press "esc"))) (.inl (answered _ _ rfl))
    have closed : Reached {} _ := .tail (.tail told (.inr (.close rfl))) (.inr .other)
    have second : Reached {} _ := .tail closed (.inl (.fetch (by decide) rfl))
    have last : Reached {} _ := .tail second (.inl (answered _ _ rfl))
    have learnt : Reached {} _ := .tail last (.inl (.learn (by decide) rfl rfl))
    have ended : Reached {} _ := .tail learnt (.inl (answered _ _ rfl))
    exact ⟨_, .tail ended (.inr (.press "x")), rfl, rfl⟩
  obtain ⟨one, -, -, aborted, cancels, -, drained, -⟩ := view_drains_channel reached
  have ended : .closed ∈ desk.heard := by simp [heard]
  have counted := congrArg List.length cancels
  rw [List.length_map, heard] at counted
  rw [if_pos (List.contains_iff_mem.mpr ended)] at one
  exact ⟨desk, reached, sent, ended, (drained ended).2.trans sent, one,
    aborted.mpr ⟨"q", by simp, by simp [heard]⟩, counted.trans (by decide)⟩

end Desk

end Mosaic.Report
