import Hes.Fuota.ActionRefinement

set_option autoImplicit false

namespace Hes.Fuota

open Mqtt Relation Text Transition

def Event.command : Event -> Option Bytes
  | .dequeued command => some command
  | _ => none

/-- The commands that were taken from the queue, in their order. -/
def taken (log : List Event) : List Bytes := log.filterMap Event.command

def Action.commands : Action -> List Bytes
  | .enqueue command => [command]
  | _ => []

/-- What was taken since, with what still waits behind it, is left of the queue and of the arrivals;
no command changes its place. -/
def InOrder (arrived : List Bytes) (before after : Core) : Prop := exists begun,
  taken after.log = taken before.log ++ begun /\
    (begun ++ after.queue).Sublist (before.queue ++ arrived)

variable {permitted : Cause -> Core -> Prop} {before middle after : Core}

theorem inOrder_shrunk (same : taken after.log = taken before.log)
    (left : after.queue.Sublist before.queue) : InOrder [] before after :=
  ⟨[], by simpa using same, by simpa using left⟩

theorem inOrder_took (command : Bytes) (took : taken after.log = taken before.log ++ [command])
    (front : before.queue = command :: after.queue) : InOrder [] before after :=
  ⟨[command], took, by simp [front]⟩

theorem InOrder.trans {first second : List Bytes} (earlier : InOrder first before middle)
    (later : InOrder second middle after) : InOrder (first ++ second) before after := by
  obtain ⟨begun, took, left⟩ := earlier
  obtain ⟨begun', took', left'⟩ := later
  refine ⟨begun ++ begun', by rw [took', took, List.append_assoc], ?_⟩
  have inner : (begun ++ (begun' ++ after.queue)).Sublist (begun ++ (middle.queue ++ second)) :=
    (List.append_sublist_append_left begun).mpr left'
  have outer : ((begun ++ middle.queue) ++ second).Sublist ((before.queue ++ first) ++ second) :=
    List.Sublist.append left (List.Sublist.refl second)
  simpa only [List.append_assoc] using inner.trans (by simpa only [List.append_assoc] using outer)

/-- A move that no other thread makes takes the front of the queue, or nothing. -/
theorem Move.inOrder (move : Move permitted before after)
    (alone : forall now, ¬ permitted .queued now) : InOrder [] before after := by
  cases move with
  | took cause command rest ok takes queue =>
    exact inOrder_took command (by simp [taken, Core.note, Core.assign, Event.command]) queue
  | completed command rest requestId ok queue =>
    exact inOrder_took command (by simp [taken, Core.note, Core.assign, Event.command]) queue
  | started command rest requestId hopCount ok queue =>
    exact inOrder_took command (by simp [taken, Core.note, Core.assign, Event.command]) queue
  | shrunk rest shorter => exact inOrder_shrunk rfl shorter.sublist
  | queued queue ok => exact absurd ok (alone before)
  | _ =>
    refine inOrder_shrunk ?_ (show List.Sublist _ before.queue from List.Sublist.refl before.queue)
    simp [taken, Core.note, Core.assign, Core.withFile, Event.command]

theorem moves_inOrder (moves : ReflTransGen (Move permitted) before after)
    (alone : forall now, ¬ permitted .queued now) : InOrder [] before after := by
  induction moves with
  | refl => exact inOrder_shrunk rfl (List.Sublist.refl _)
  | tail _ move ih => exact ih.trans (move.inOrder alone)

theorem tail_sublist_if (full : Prop) [Decidable full] (queue : List Bytes) :
    (if full then queue.tail else queue).Sublist queue := by
  split
  next => exact List.tail_sublist queue
  next => exact List.Sublist.refl queue

theorem perform_inOrder (fuota : Fuota) (action : Action) :
    InOrder action.commands (core fuota) (core (perform action fuota).2) := by
  have moves := perform_moves fuota action
  cases action with
  | enqueue command =>
    -- the oldest command is dropped where the queue is full
    have kept := tail_sublist_if (fuota.client.rfMeterFuota.length ≥ maxFuotaQueueSize)
      fuota.client.rfMeterFuota
    exact ⟨[], (List.append_nil _).symm, show List.Sublist (_ ++ [command]) _ from
      List.Sublist.append kept (List.Sublist.refl [command])⟩
  | cancel ids =>
    exact inOrder_shrunk rfl List.filter_sublist
  | reply data => exact moves_inOrder moves fun now => by simp [Causes, ReplyCauses]
  | resume path name => exact moves_inOrder moves fun now => by simp [Causes]
  | pollTimeout => exact moves_inOrder moves fun now => by simp [Causes]
  | queue => exact moves_inOrder moves fun now => by simp [Causes]
  | packet => exact moves_inOrder moves fun now => by simp [Causes]

/-- A queue within the bound stays within it. -/
theorem perform_bounded (fuota : Fuota) (action : Action)
    (bounded : fuota.client.rfMeterFuota.length ≤ maxFuotaQueueSize) :
    (perform action fuota).2.client.rfMeterFuota.length ≤ maxFuotaQueueSize := by
  cases arrived : action.commands with
  | nil =>
    obtain ⟨begun, _, left⟩ := perform_inOrder fuota action
    have shorter := left.length_le
    simp only [arrived, core, List.length_append, List.length_nil] at shorter
    omega
  | cons =>
    cases action with
    | enqueue command =>
      simp only [perform, enqueueFuota, setClient, Prog.update]
      split <;> simp only [List.length_append, List.length_tail, List.length_singleton,
        maxFuotaQueueSize] at * <;> omega
    | _ => simp [Action.commands] at arrived

/-- In every run commands are taken in the order in which they were queued, each at most once and
none that was not queued, whatever other steps come between. -/
theorem run_takes_in_order (start : Fuota) (actions : List Action) :
    exists last begun, run step start actions = some last /\
      taken last.log = taken start.log ++ begun /\
      (begun ++ last.client.rfMeterFuota).Sublist
        (start.client.rfMeterFuota ++ actions.flatMap Action.commands) /\
      (start.client.rfMeterFuota.length ≤ maxFuotaQueueSize ->
        last.client.rfMeterFuota.length ≤ maxFuotaQueueSize) := by
  have served : exists last, run step start actions = some last /\
      InOrder (actions.flatMap Action.commands) (core start) (core last) /\
      (start.client.rfMeterFuota.length ≤ maxFuotaQueueSize ->
        last.client.rfMeterFuota.length ≤ maxFuotaQueueSize) := by
    induction actions generalizing start with
    | nil => exact ⟨start, rfl, inOrder_shrunk rfl (List.Sublist.refl _), id⟩
    | cons action rest ih =>
      obtain ⟨last, ran, ordered, bounded⟩ := ih (perform action start).2
      refine ⟨last, ran, ?_, fun within => bounded (perform_bounded start action within)⟩
      rw [List.flatMap_cons]
      exact (perform_inOrder start action).trans ordered
  obtain ⟨last, ran, ⟨begun, took, left⟩, bounded⟩ := served
  exact ⟨last, begun, ran, took, left, bounded⟩

/-- The request that an event is about. -/
def Event.names : Event -> Option Int
  | .sent frame => some frame.requestId
  | .imageSent requestId _ => some requestId
  | .updated requestId _ _ => some requestId
  | _ => none

/-- The id is the first one, or that of a command that was taken. -/
def Issued (first : Int) (log : List Event) (id : Int) : Prop :=
  id = first \/ ∃ command ∈ taken log, stoi (part (split colon command) 0) = .ok id

/-- What a move notes is about the request in force, and another one comes with its command. -/
structure Describes (before after : Core) (new : List Event) : Prop where
  log : after.log = before.log ++ new
  names : ∀ event ∈ new, forall id, event.names = some id -> id = before.requestId
  next : after.requestId = before.requestId \/
    ∃ command ∈ taken new, stoi (part (split colon command) 0) = .ok after.requestId

theorem told_quiet (new : List Event) (log : after.log = before.log ++ new)
    (quiet : ∀ event ∈ new, event.names = none) (same : after.requestId = before.requestId) :
    Describes before after new where
  log := log
  names event inside id named := by
    rw [quiet event inside] at named
    cases named
  next := Or.inl same

theorem told_one (event : Event) (log : after.log = before.log ++ [event]) (quiet : event.names = none)
    (same : after.requestId = before.requestId) : exists new, Describes before after new :=
  ⟨[event], told_quiet [event] log (by simpa using quiet) same⟩

theorem told_two (first second : Event) (log : after.log = before.log ++ [first] ++ [second])
    (quiet : first.names = none) (quiet' : second.names = none)
    (same : after.requestId = before.requestId) : exists new, Describes before after new :=
  ⟨[first, second], told_quiet [first, second] (by simpa using log) (by simp [quiet, quiet']) same⟩

theorem Move.told (move : Move permitted before after) : exists new, Describes before after new := by
  cases move with
  | sent frame written =>
    exact ⟨[_], rfl, by simp [Event.names], Or.inl rfl⟩
  | updated status errorCode => exact ⟨[_], rfl, by simp [Event.names], Or.inl rfl⟩
  | imaged frame => exact ⟨[_], rfl, by simp [Event.names], Or.inl rfl⟩
  | completed command rest requestId ok queue long id =>
    exact ⟨[.dequeued command, .assigned .openFile], by simp [Core.note, Core.assign],
      by simp [Event.names], Or.inr ⟨command, by simp [taken, Event.command], id⟩⟩
  | started command rest requestId hopCount ok queue long id =>
    exact ⟨[.dequeued command, .assigned .openFile], by simp [Core.note, Core.assign],
      by simp [Event.names], Or.inr ⟨command, by simp [taken, Event.command], id⟩⟩
  | _ =>
    first
    | exact ⟨[], told_quiet [] (List.append_nil _).symm (by simp) rfl⟩
    | exact told_one _ rfl rfl rfl
    | exact told_two _ _ rfl rfl rfl rfl

/-- What was noted since, and the request in force, is about allowed requests. -/
structure Tells (first : Int) (start : Nat) (core : Core) : Prop where
  now : Issued first core.log core.requestId
  noted : forall index event, start ≤ index -> core.log[index]? = some event ->
    forall id, event.names = some id -> Issued first (core.log.take index) id

theorem Issued.later {first id : Int} {log more : List Event} (allowed : Issued first log id) :
    Issued first (log ++ more) id := by
  rcases allowed with same | ⟨command, inside, reads⟩
  next => exact Or.inl same
  next =>
    refine Or.inr ⟨command, ?_, reads⟩
    rw [taken, List.filterMap_append]
    exact List.mem_append_left _ inside

theorem Describes.tells {first : Int} {start : Nat} {new : List Event} (told : Describes before after new)
    (tells : Tells first start before) : Tells first start after := by
  constructor
  next =>
    rw [told.log]
    rcases told.next with same | ⟨command, inside, reads⟩
    next => exact same ▸ tells.now.later
    next =>
      refine Or.inr ⟨command, ?_, reads⟩
      rw [taken, List.filterMap_append]
      exact List.mem_append_right _ inside
  next =>
    intro index event past known id named
    rw [told.log] at known ⊢
    by_cases old : index < before.log.length
    next =>
      rw [List.getElem?_append_left old] at known
      rw [List.take_append_of_le_length (Nat.le_of_lt old)]
      exact tells.noted index event past known id named
    next =>
      rw [List.getElem?_append_right (by omega)] at known
      rw [told.names event (List.mem_of_getElem? known) id named, List.take_append, List.take_of_length_le (by omega)]
      exact tells.now.later

theorem moves_tell {first : Int} {start : Nat} (moves : ReflTransGen (Move permitted) before after)
    (tells : Tells first start before) : Tells first start after := by
  induction moves with
  | refl => exact tells
  | tail _ move ih =>
    obtain ⟨new, told⟩ := move.told
    exact told.tells ih

/-- In every run, what is written to the database or transmitted is about the request that the
machine began with, or about one whose command was taken before. -/
theorem run_names_taken (start : Fuota) (actions : List Action) :
    exists last, run step start actions = some last /\
      forall index event, start.log.length ≤ index -> last.log[index]? = some event ->
        forall id, event.names = some id ->
          id = start.client.requestId \/
            ∃ command ∈ taken (last.log.take index), stoi (part (split colon command) 0) = .ok id := by
  have told : exists last, run step start actions = some last /\
      Tells start.client.requestId start.log.length (core last) := by
    have initial : Tells start.client.requestId start.log.length (core start) := by
      constructor
      next => exact Or.inl rfl
      next =>
        intro index event past known
        have beyond : start.log[index]? = none := List.getElem?_eq_none past
        cases beyond.symm.trans known
    generalize start.client.requestId = first at initial ⊢
    generalize start.log.length = length at initial ⊢
    induction actions generalizing start with
    | nil => exact ⟨start, rfl, initial⟩
    | cons action rest ih => exact ih _ (moves_tell (perform_moves start action) initial)
  obtain ⟨last, ran, tells⟩ := told
  exact ⟨last, ran, tells.noted⟩

end Hes.Fuota
