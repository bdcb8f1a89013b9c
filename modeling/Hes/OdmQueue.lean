import Mathlib.Data.List.Nodup
import Hes.Lib.Transition
import Hes.Mqtt

set_option autoImplicit false

namespace Hes.OdmQueue

open Transition Text Mqtt

/-- A queued command and the number of commands accepted before it. -/
structure Entry where
  serial : Nat
  cmd : Bytes
  deriving DecidableEq, Repr

def Entry.reqId (entry : Entry) : Bytes := part (explode colon entry.cmd) 0

inductive ClientPhase where
  | idle
  | processing (entry : Entry)
  | processed (entry : Entry)
  | stopped
  deriving DecidableEq, Repr

/-- The queues and both threads; below them, what has happened to the accepted commands. -/
structure Queues where
  odm : List Entry := []
  cancelledRequests : List Bytes := []
  cancelling : Option (List Bytes) := none
  client : ClientPhase := .idle
  accepted : Nat := 0
  processed : List Nat := []
  dropped : List Nat := []
  cancelled : List Entry := []
  pushed : List Bytes := []
  deriving DecidableEq, Repr

inductive Event where
  | enqueue (cmd : Bytes)
  | cancel (ids : List Bytes)
  | pushCancelled
  | drainCancelled
  | readFront
  | process
  | pop
  | disconnected
  deriving DecidableEq, Repr

def maxQueueSize : Nat := 500

def enqueueOdm (queues : Queues) (cmd : Bytes) : Queues :=
  let full := queues.odm.length ≥ maxQueueSize
  { queues with
    odm := (if full then queues.odm.tail else queues.odm) ++
      [{ serial := queues.accepted, cmd := cmd }]
    accepted := queues.accepted + 1
    dropped := if full then queues.dropped ++ (queues.odm.head?.map Entry.serial).toList
      else queues.dropped }

def removeCommandsByReqId (queues : Queues) (ids : List Bytes) : Queues :=
  { queues with
    odm := queues.odm.filter fun entry => entry.reqId ∉ ids
    cancelled := queues.cancelled ++ queues.odm.filter fun entry => entry.reqId ∈ ids
    cancelling := some ids }

def step : Step Queues Event := fun queues event =>
  match event with
  | .enqueue cmd => if queues.cancelling = none then some (enqueueOdm queues cmd) else none
  | .cancel ids =>
    if queues.cancelling = none then some (removeCommandsByReqId queues ids) else none
  | .pushCancelled => queues.cancelling.map fun ids => { queues with
      cancelledRequests := queues.cancelledRequests ++ ids
      pushed := queues.pushed ++ ids
      cancelling := none }
  | .drainCancelled =>
    if queues.client = .idle then
      some { queues with cancelledRequests := queues.cancelledRequests.tail }
    else none
  -- a pending CANCEL makes the loop break before the front is processed
  | .readFront =>
    if queues.client = .idle /\ queues.cancelledRequests = [] then
      queues.odm.head?.map fun entry => { queues with client := .processing entry }
    else none
  | .process =>
    match queues.client with
    | .processing entry => some { queues with
        client := .processed entry
        processed := queues.processed ++ [entry.serial] }
    | _ => none
  | .pop =>
    match queues.client with
    | .processed _ => some { queues with odm := queues.odm.tail, client := .idle }
    | _ => none
  | .disconnected =>
    match queues.client with
    | .processed _ => some { queues with client := .stopped }
    | _ => none

def Queues.active (queues : Queues) : Option Entry :=
  match queues.client with
  | .processing entry | .processed entry => some entry
  | .idle | .stopped => none

/-- The step does not take the command in process out of the queue. -/
def Undisturbed (queues : Queues) (event : Event) : Prop :=
  match event, queues.active with
  | .cancel ids, some entry => entry.reqId ∉ ids
  | .enqueue _, some _ => queues.odm.length < maxQueueSize
  | _, _ => True

instance (queues : Queues) (event : Event) : Decidable (Undisturbed queues event) := by
  unfold Undisturbed
  split <;> infer_instance

structure Queues.Valid (queues : Queues) : Prop where
  front : forall entry, queues.active = some entry -> queues.odm.head? = some entry
  order : (queues.odm.map Entry.serial).Pairwise (· < ·)
  fresh : ∀ entry ∈ queues.odm, entry.serial < queues.accepted
  accounted : forall serial, serial < queues.accepted ->
    serial ∈ queues.odm.map Entry.serial \/ serial ∈ queues.processed \/
      serial ∈ queues.dropped \/ serial ∈ queues.cancelled.map Entry.serial
  named : ∀ entry ∈ queues.cancelled, entry.reqId ∈ queues.pushed \/
    exists ids, queues.cancelling = some ids /\ entry.reqId ∈ ids
  once : queues.processed.Nodup
  earlier : ∀ serial ∈ queues.processed, serial < queues.accepted
  gone : ∀ entry ∈ queues.odm, entry.serial ∈ queues.processed ->
    queues.client = .processed entry \/ queues.client = .stopped
  marked : forall entry, queues.client = .processed entry -> entry.serial ∈ queues.processed

theorem Queues.Valid.same_entry {queues : Queues} (valid : queues.Valid) (first second : Entry)
    (firstIn : first ∈ queues.odm) (secondIn : second ∈ queues.odm)
    (same : first.serial = second.serial) : first = second := by
  have distinct : (queues.odm.map Entry.serial).Nodup := valid.order.imp Nat.ne_of_lt
  exact List.inj_on_of_nodup_map distinct firstIn secondIn same

theorem initial_valid : Queues.Valid {} := by
  constructor <;> simp [Queues.active]

/-- A full queue loses its front to `dropped`; nothing else leaves the queue. -/
theorem enqueueOdm_keeps (queues : Queues) (cmd : Bytes) (serial : Nat)
    (known : serial ∈ queues.odm.map Entry.serial \/ serial ∈ queues.processed \/
      serial ∈ queues.dropped \/ serial ∈ queues.cancelled.map Entry.serial) :
    serial ∈ (enqueueOdm queues cmd).odm.map Entry.serial \/ serial ∈ queues.processed \/
      serial ∈ (enqueueOdm queues cmd).dropped \/ serial ∈ queues.cancelled.map Entry.serial := by
  rcases known with queued | done | lost | cancelled
  next =>
    by_cases full : queues.odm.length ≥ maxQueueSize
    next =>
      cases entries : queues.odm with
      | nil => simp [entries] at queued
      | cons front rest =>
        rw [entries] at queued
        rcases List.mem_cons.mp queued with first | later
        next =>
          refine Or.inr (Or.inr (Or.inl ?_))
          rw [entries] at full
          simp only [enqueueOdm, entries, full, if_true]
          simp [first]
        next =>
          refine Or.inl ?_
          rw [entries] at full
          simp only [enqueueOdm, entries, full, if_true, List.tail_cons, List.map_append]
          exact List.mem_append_left _ later
    next =>
      refine Or.inl ?_
      simp only [enqueueOdm, full, if_false, List.map_append]
      exact List.mem_append_left _ queued
  next => exact Or.inr (Or.inl done)
  next =>
    refine Or.inr (Or.inr (Or.inl ?_))
    simp only [enqueueOdm]
    split
    next => exact List.mem_append_left _ lost
    next => exact lost
  next => exact Or.inr (Or.inr (Or.inr cancelled))

theorem enqueue_valid (queues : Queues) (valid : queues.Valid) (cmd : Bytes)
    (idle : queues.active = none \/ queues.odm.length < maxQueueSize) :
    (enqueueOdm queues cmd).Valid := by
  have kept : (if queues.odm.length ≥ maxQueueSize then queues.odm.tail else queues.odm).Sublist
      queues.odm := by
    split
    next => exact List.tail_sublist _
    next => exact List.Sublist.refl _
  refine ⟨?_, ?_, ?_, ?_, valid.named, valid.once, ?_, ?_, valid.marked⟩
  next =>
    intro entry active
    have front := valid.front entry active
    have roomy : ¬ queues.odm.length ≥ maxQueueSize := by
      rcases idle with none' | room
      next =>
        change queues.active = some entry at active
        simp [none'] at active
      next => omega
    simp [enqueueOdm, roomy, front]
  next =>
    simp only [enqueueOdm, List.map_append, List.pairwise_append]
    refine ⟨valid.order.sublist (kept.map _), by simp, ?_⟩
    intro serial inside other last
    obtain ⟨entry, member, rfl⟩ := List.mem_map.mp inside
    have bound := valid.fresh entry (kept.subset member)
    simp_all
  next =>
    intro entry inside
    rcases List.mem_append.mp inside with before | newest
    next => exact Nat.lt_succ_of_lt (valid.fresh entry (kept.subset before))
    next => simp [List.mem_singleton.mp newest, enqueueOdm]
  next =>
    intro serial bound
    by_cases newest : serial = queues.accepted
    next => exact Or.inl (by simp [enqueueOdm, newest])
    next =>
      have before : serial < queues.accepted := by
        simp only [enqueueOdm] at bound
        omega
      exact enqueueOdm_keeps queues cmd serial (valid.accounted serial before)
  next =>
    intro serial inside
    exact Nat.lt_succ_of_lt (valid.earlier serial inside)
  next =>
    intro entry inside done
    rcases List.mem_append.mp inside with before | newest
    next => exact valid.gone entry (kept.subset before) done
    next =>
      have bound := valid.earlier _ done
      simp [List.mem_singleton.mp newest] at bound

theorem cancel_valid (queues : Queues) (valid : queues.Valid) (ids : List Bytes)
    (free : queues.cancelling = none)
    (spared : forall entry, queues.active = some entry -> entry.reqId ∉ ids) :
    (removeCommandsByReqId queues ids).Valid := by
  have kept : ∀ entry ∈ (removeCommandsByReqId queues ids).odm, entry ∈ queues.odm :=
    fun entry inside => (List.mem_filter.mp inside).1
  refine ⟨?_, ?_, ?_, ?_, ?_, valid.once, valid.earlier, ?_, valid.marked⟩
  next =>
    intro entry active
    have front := valid.front entry active
    obtain ⟨rest, entries⟩ := List.head?_eq_some_iff.mp front
    simp [removeCommandsByReqId, entries, spared entry active]
  next => exact valid.order.sublist (List.filter_sublist.map _)
  next => exact fun entry inside => valid.fresh entry (kept entry inside)
  next =>
    intro serial bound
    rcases valid.accounted serial bound with queued | done | lost | cancelled
    next =>
      obtain ⟨entry, member, rfl⟩ := List.mem_map.mp queued
      by_cases named : entry.reqId ∈ ids
      next =>
        refine Or.inr (Or.inr (Or.inr (List.mem_map.mpr ⟨entry, ?_, rfl⟩)))
        exact List.mem_append_right _ (List.mem_filter.mpr ⟨member, by simpa using named⟩)
      next =>
        exact Or.inl (List.mem_map.mpr
          ⟨entry, List.mem_filter.mpr ⟨member, by simpa using named⟩, rfl⟩)
    next => exact Or.inr (Or.inl done)
    next => exact Or.inr (Or.inr (Or.inl lost))
    next =>
      refine Or.inr (Or.inr (Or.inr ?_))
      simp only [removeCommandsByReqId, List.map_append]
      exact List.mem_append_left _ cancelled
  next =>
    intro entry inside
    rcases List.mem_append.mp inside with before | removed
    next =>
      rcases valid.named entry before with pushed | ⟨other, pending, -⟩
      next => exact Or.inl pushed
      next => simp [free] at pending
    next =>
      exact Or.inr ⟨ids, rfl, by simpa using (List.mem_filter.mp removed).2⟩
  next => exact fun entry inside done => valid.gone entry (kept entry inside) done

theorem process_valid (queues : Queues) (valid : queues.Valid) (entry : Entry)
    (processing : queues.client = .processing entry) :
    Queues.Valid { queues with
      client := .processed entry, processed := queues.processed ++ [entry.serial] } := by
  have active : queues.active = some entry := by simp [Queues.active, processing]
  have front := valid.front entry active
  have inside : entry ∈ queues.odm := List.mem_of_head? front
  have unprocessed : entry.serial ∉ queues.processed := by
    intro done
    rcases valid.gone entry inside done with finished | stopped
    next => simp [processing] at finished
    next => simp [processing] at stopped
  refine ⟨?_, valid.order, valid.fresh, ?_, valid.named, ?_, ?_, ?_, ?_⟩
  next =>
    intro other same
    have equal : entry = other := by simpa [Queues.active] using same
    exact equal ▸ front
  next =>
    intro serial bound
    rcases valid.accounted serial bound with queued | done | lost | cancelled
    next => exact Or.inl queued
    next => exact Or.inr (Or.inl (List.mem_append_left _ done))
    next => exact Or.inr (Or.inr (Or.inl lost))
    next => exact Or.inr (Or.inr (Or.inr cancelled))
  next =>
    have distinct : [entry.serial].Nodup := List.nodup_singleton _
    refine List.nodup_append.mpr ⟨valid.once, distinct, ?_⟩
    rintro serial done other last rfl
    exact unprocessed (List.mem_singleton.mp last ▸ done)
  next =>
    intro serial done
    rcases List.mem_append.mp done with before | last
    next => exact valid.earlier serial before
    next => exact List.mem_singleton.mp last ▸ valid.fresh entry inside
  next =>
    intro other member done
    rcases List.mem_append.mp done with before | last
    next =>
      rcases valid.gone other member before with finished | stopped
      next => simp [processing] at finished
      next => simp [processing] at stopped
    next =>
      have equal := valid.same_entry other entry member inside (List.mem_singleton.mp last)
      exact Or.inl (by simp [equal])
  next =>
    intro other same
    have equal : entry = other := by simpa using same
    exact List.mem_append_right _ (by simp [equal])

theorem pop_valid (queues : Queues) (valid : queues.Valid) (entry : Entry)
    (finished : queues.client = .processed entry) :
    Queues.Valid { queues with odm := queues.odm.tail, client := .idle } := by
  have active : queues.active = some entry := by simp [Queues.active, finished]
  obtain ⟨rest, entries⟩ := List.head?_eq_some_iff.mp (valid.front entry active)
  have kept : ∀ other ∈ queues.odm.tail, other ∈ queues.odm := fun _ => List.mem_of_mem_tail
  refine ⟨?_, valid.order.sublist ((List.tail_sublist _).map _), ?_, ?_, valid.named, valid.once,
    valid.earlier, ?_, ?_⟩
  next => simp [Queues.active]
  next => exact fun other inside => valid.fresh other (kept other inside)
  next =>
    intro serial bound
    rcases valid.accounted serial bound with queued | others
    next =>
      rw [entries] at queued
      rcases List.mem_cons.mp queued with first | later
      next => exact Or.inr (Or.inl (first ▸ valid.marked entry finished))
      next => exact Or.inl (by simpa [entries] using later)
    next => exact Or.inr others
  next =>
    intro other inside done
    have again : other = entry := by
      rcases valid.gone other (kept other inside) done with same | stopped
      next => simpa [finished] using same.symm
      next => simp [finished] at stopped
    have order := valid.order
    simp only [entries, List.map_cons, List.pairwise_cons] at order
    have later := order.1 other.serial (List.mem_map.mpr ⟨other, by simpa [entries] using inside, rfl⟩)
    simp [again] at later
  next => simp

theorem readFront_valid (queues : Queues) (valid : queues.Valid) (entry : Entry)
    (idle : queues.client = .idle) (front : queues.odm.head? = some entry) :
    Queues.Valid { queues with client := .processing entry } := by
  refine ⟨?_, valid.order, valid.fresh, valid.accounted, valid.named, valid.once, valid.earlier,
    ?_, ?_⟩
  next =>
    intro other same
    have equal : entry = other := by simpa [Queues.active] using same
    exact equal ▸ front
  next =>
    intro other inside done
    rcases valid.gone other inside done with finished | stopped
    next => simp [idle] at finished
    next => simp [idle] at stopped
  next => simp

theorem disconnected_valid (queues : Queues) (valid : queues.Valid) :
    Queues.Valid { queues with client := .stopped } := by
  refine ⟨?_, valid.order, valid.fresh, valid.accounted, valid.named, valid.once, valid.earlier,
    ?_, ?_⟩
  next => simp [Queues.active]
  next => exact fun _ _ _ => Or.inr rfl
  next => simp

theorem push_valid (queues : Queues) (valid : queues.Valid) (ids : List Bytes)
    (pending : queues.cancelling = some ids) :
    Queues.Valid { queues with
      cancelledRequests := queues.cancelledRequests ++ ids
      pushed := queues.pushed ++ ids, cancelling := none } := by
  refine ⟨valid.front, valid.order, valid.fresh, valid.accounted, ?_, valid.once, valid.earlier,
    valid.gone, valid.marked⟩
  intro entry inside
  rcases valid.named entry inside with pushed | ⟨other, known, named⟩
  next => exact Or.inl (List.mem_append_left _ pushed)
  next =>
    have equal : ids = other := by simpa [pending] using known
    exact Or.inl (List.mem_append_right _ (equal ▸ named))

theorem step_valid (queues : Queues) (event : Event) (next : Queues) (valid : queues.Valid)
    (undisturbed : Undisturbed queues event) (stepped : step queues event = some next) :
    next.Valid := by
  cases event with
  | enqueue cmd =>
    obtain ⟨-, rfl⟩ : queues.cancelling = none /\ enqueueOdm queues cmd = next := by
      simpa [step] using stepped
    refine enqueue_valid queues valid cmd ?_
    cases active : queues.active with
    | none => exact Or.inl rfl
    | some entry => exact Or.inr (by simpa [Undisturbed, active] using undisturbed)
  | cancel ids =>
    obtain ⟨free, rfl⟩ : queues.cancelling = none /\ removeCommandsByReqId queues ids = next := by
      simpa [step] using stepped
    refine cancel_valid queues valid ids free ?_
    intro entry active
    simpa [Undisturbed, active] using undisturbed
  | pushCancelled =>
    obtain ⟨ids, pending, rfl⟩ := Option.map_eq_some_iff.mp stepped
    exact push_valid queues valid ids pending
  | drainCancelled =>
    obtain ⟨-, rfl⟩ : queues.client = .idle /\
        { queues with cancelledRequests := queues.cancelledRequests.tail } = next := by
      simpa [step] using stepped
    exact ⟨valid.front, valid.order, valid.fresh, valid.accounted, valid.named, valid.once,
      valid.earlier, valid.gone, valid.marked⟩
  | readFront =>
    simp only [step] at stepped
    split at stepped
    next ready =>
      obtain ⟨entry, front, rfl⟩ := Option.map_eq_some_iff.mp stepped
      exact readFront_valid queues valid entry ready.1 front
    next => simp at stepped
  | process =>
    simp only [step] at stepped
    split at stepped
    next entry processing =>
      obtain rfl := Option.some.inj stepped
      exact process_valid queues valid entry processing
    next => simp at stepped
  | pop =>
    simp only [step] at stepped
    split at stepped
    next entry finished =>
      obtain rfl := Option.some.inj stepped
      exact pop_valid queues valid entry finished
    next => simp at stepped
  | disconnected =>
    simp only [step] at stepped
    split at stepped
    next entry finished =>
      obtain rfl := Option.some.inj stepped
      exact disconnected_valid queues valid
    next => simp at stepped

/-- Every accepted command is accounted for and none is processed twice. -/
theorem odm_commands_accounted (events : List Event) (queues : Queues)
    (undisturbed : AllAllowed step Undisturbed {} events)
    (finished : run step {} events = some queues) :
    (forall serial, serial < queues.accepted ->
      (∃ entry ∈ queues.odm, entry.serial = serial) \/ serial ∈ queues.processed \/
        serial ∈ queues.dropped \/
        ∃ entry ∈ queues.cancelled, entry.serial = serial /\
          (entry.reqId ∈ queues.pushed \/
            exists ids, queues.cancelling = some ids /\ entry.reqId ∈ ids)) /\
    queues.processed.Nodup /\
    forall entry, queues.active = some entry -> queues.odm.head? = some entry := by
  have valid := run_guarded_invariant step Undisturbed Queues.Valid
    (fun before event next held allowed stepped => step_valid before event next held allowed stepped)
    {} queues events initial_valid undisturbed finished
  refine ⟨?_, valid.once, valid.front⟩
  intro serial bound
  rcases valid.accounted serial bound with queued | done | lost | cancelled
  next => exact Or.inl (by simpa using queued)
  next => exact Or.inr (Or.inl done)
  next => exact Or.inr (Or.inr (Or.inl lost))
  next =>
    obtain ⟨entry, inside, same⟩ := List.mem_map.mp cancelled
    exact Or.inr (Or.inr (Or.inr ⟨entry, inside, same, valid.named entry inside⟩))

/-- The second command is cancelled while the first one is processed. -/
def cancelBehindFront : List Event :=
  [.enqueue (ascii "1:x"), .enqueue (ascii "2:y"), .readFront, .cancel [ascii "2"], .process,
    .pushCancelled, .pop]

theorem odm_commands_accounted_cancel :
    exists queues, run step {} cancelBehindFront = some queues /\ queues.processed.Nodup := by
  refine ⟨_, rfl, ?_⟩
  exact (odm_commands_accounted cancelBehindFront _ (by decide) rfl).2.1

theorem enqueues_fill (cmd : Bytes) (count : Nat) (small : count ≤ maxQueueSize) :
    run step {} (List.replicate count (.enqueue cmd)) = some
      { odm := (List.range count).map fun serial => { serial := serial, cmd := cmd }
        accepted := count } := by
  induction count with
  | zero => rfl
  | succ count ih =>
    have roomy : ¬ maxQueueSize ≤ count := by omega
    rw [List.replicate_succ', run_append step _ _ _ _ (ih (by omega))]
    simp [run, step, enqueueOdm, roomy, List.range_succ]

/-- A full queue drops its oldest command; a pop behind a CANCEL of the front drops the next. -/
theorem accepted_command_lost :
    (exists queues, run step {} (List.replicate 500 (.enqueue (ascii "1:x")) ++
        [.enqueue (ascii "2:y")]) = some queues /\
      0 < queues.accepted /\ 0 ∉ queues.odm.map Entry.serial /\ 0 ∉ queues.processed /\
      0 ∉ queues.cancelled.map Entry.serial) /\
    exists queues, run step {} [.enqueue (ascii "1:x"), .enqueue (ascii "2:y"), .readFront,
        .cancel [ascii "1"], .pushCancelled, .process, .pop] = some queues /\
      1 < queues.accepted /\ 1 ∉ queues.odm.map Entry.serial /\ 1 ∉ queues.processed /\
      1 ∉ queues.cancelled.map Entry.serial := by
  constructor
  next =>
    rw [run_append step _ _ _ _ (enqueues_fill (ascii "1:x") 500 (by decide))]
    exact ⟨_, rfl, by decide, by decide +kernel, by decide, by decide⟩
  next => exact ⟨_, rfl, by decide, by decide, by decide, by decide⟩

end Hes.OdmQueue
