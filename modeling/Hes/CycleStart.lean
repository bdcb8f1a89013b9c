import Hes.NodeMap

set_option autoImplicit false

namespace Hes.CycleActivity

open Prog Text NodeQueues

/-- The nodes of the activity; there are none when the list cannot be built. -/
def builtNodes (database : Database) (gatewayId : Bytes) : List Entry :=
  (buildNodeListFromDb database gatewayId).toOption.getD []

theorem builtNodes_fresh (database : Database) (gatewayId : Bytes) :
    ∀ node ∈ builtNodes database gatewayId, Fresh node := by
  rw [builtNodes]
  cases built : buildNodeListFromDb database gatewayId with
  | error fault => simp [Except.toOption]
  | ok nodes =>
    obtain ⟨gatewayMac, _, map⟩ := buildNodeListFromDb_built built
    exact map.fresh

/-- The gateway can be had: the network manager does not have it, and the state is written. -/
def SyncAnswer.Free (answer : SyncAnswer) : Prop :=
  exists row, answer.acquiredByNms = .rows row /\ row ≠ some 1 /\ answer.write = .success

theorem acquire_free {answer : SyncAnswer} (free : answer.Free) (activity : Activity) :
    insertUpdateHesNmsSyncTime answer 1 activity =
      (some .success, { activity with syncTimes := activity.syncTimes ++ [1] }) := by
  obtain ⟨row, answered, other, written⟩ := free
  simp only [insertUpdateHesNmsSyncTime, answered, written]
  simp [other, noteSyncTime, update, bind, pure]

theorem acquire_taken {answer : SyncAnswer} (taken : ¬ answer.Free) (activity : Activity) :
    exists ret, insertUpdateHesNmsSyncTime answer 1 activity = (some ret, activity) /\ ret ≠ .success := by
  -- what is not free is left alone
  cases answered : answer.acquiredByNms with
  | failed => exact ⟨.failure, by simp [insertUpdateHesNmsSyncTime, answered, pure], by decide⟩
  | noResult => exact ⟨.failure, by simp [insertUpdateHesNmsSyncTime, answered, pure], by decide⟩
  | rows row =>
    by_cases nms : row = some 1
    next => exact ⟨.failure, by simp [insertUpdateHesNmsSyncTime, answered, nms, pure], by decide⟩
    next =>
      have unwritten : answer.write ≠ .success := fun written => taken ⟨row, answered, nms, written⟩
      exact ⟨answer.write, by simp [insertUpdateHesNmsSyncTime, answered, nms, unwritten, pure], unwritten⟩

/-- What is behind the acquisition. -/
def acquiredCycle (fuel : Nat) (database : Database) (gatewayId : Bytes) :
    Prog Activity (Result Code) := do
  onClient (setTarget .pull)
  match <- updateGatewayDetails gatewayId with
  | .error fault => return .error fault
  | .ok _ =>
    match buildNodeListFromDb database gatewayId with
    | .error fault => return .error fault
    | .ok nodes =>
      let ret <- pullMissingInfoForAllNodes fuel nodes
      onClient (setTarget .idle)
      let _ <- insertUpdateHesNmsSyncTime database.release 0
      return .ok ret

theorem hesStartCycleActiviy_free {database : Database} (free : database.acquire.Free) (fuel : Nat)
    (gatewayId : Bytes) (activity : Activity) :
    hesStartCycleActiviy fuel database gatewayId activity = acquiredCycle fuel database gatewayId
      { activity.begun with syncTimes := activity.syncTimes ++ [1] } := by
  have begun : update Activity.begun activity = (some (), activity.begun) := rfl
  rw [hesStartCycleActiviy, ran_bind begun, ran_bind (acquire_free free _)]
  rfl

theorem hesStartCycleActiviy_taken {database : Database} (taken : ¬ database.acquire.Free) (fuel : Nat)
    (gatewayId : Bytes) (activity : Activity) :
    hesStartCycleActiviy fuel database gatewayId activity =
      (some (.ok .failure), activity.begun) := by
  have begun : update Activity.begun activity = (some (), activity.begun) := rfl
  obtain ⟨ret, tried, failed⟩ := acquire_taken taken activity.begun
  rw [hesStartCycleActiviy, ran_bind begun, ran_bind tried]
  simp [failed, pure]

def SyncAnswer.writes (answer : SyncAnswer) : Bool :=
  match answer.acquiredByNms with
  | .rows _ => answer.write = .success
  | _ => false

/-- The gateway is released, whatever the network manager has. -/
theorem release_written (answer : SyncAnswer) (activity : Activity) :
    exists ret, insertUpdateHesNmsSyncTime answer 0 activity = (some ret,
      { activity with syncTimes := activity.syncTimes ++ if answer.writes then [0] else [] }) := by
  cases answered : answer.acquiredByNms with
  | failed => exact ⟨.failure, by simp [insertUpdateHesNmsSyncTime, SyncAnswer.writes, answered, pure]⟩
  | noResult => exact ⟨.failure, by simp [insertUpdateHesNmsSyncTime, SyncAnswer.writes, answered, pure]⟩
  | rows row =>
    refine ⟨answer.write, ?_⟩
    by_cases written : answer.write = .success <;>
      simp [insertUpdateHesNmsSyncTime, SyncAnswer.writes, answered, written, noteSyncTime, update, bind, pure]

/-- What the cycle activity leaves when it has the gateway. -/
def Ended (nodes : List Entry) : Result Code -> Activity -> Prop
  | .ok ret, activity => nodes ≠ [] /\ Outcome nodes ret activity
  | .error _, activity => activity.visits = []

theorem Outcome.same {nodes : List Entry} {ret : Code} {before after : Activity}
    (outcome : Outcome nodes ret before) (visits : after.visits = before.visits)
    (status : after.client.gateway.status = before.client.gateway.status) : Outcome nodes ret after := by
  rcases outcome with ⟨ok, all⟩ | ⟨failed, ⟨turns, first, broken⟩ | ⟨all, gone⟩⟩
  next => exact Or.inl ⟨ok, visits ▸ all⟩
  next => exact Or.inr ⟨failed, Or.inl ⟨turns, first, visits ▸ broken⟩⟩
  next => exact Or.inr ⟨failed, Or.inr ⟨visits ▸ all, status ▸ gone⟩⟩

theorem updateGatewayDetails_visits (gatewayId : Bytes) {wait : Activity -> Prop} (visits : List Visit) :
    Triple wait (fun activity => activity.visits = visits) (updateGatewayDetails gatewayId)
      fun _ activity => activity.visits = visits := by
  rw [updateGatewayDetails]
  split
  next => exact triple_pure _ fun _ same => same
  next =>
    apply triple_bind fun _ activity => activity.visits = visits
    next => exact fun _ same => same
    exact fun _ => triple_pure _ fun _ same => same

theorem acquiredCycle_served (fuel : Nat) (database : Database) (gatewayId : Bytes) :
    Triple (Cut (plan (builtNodes database gatewayId))) (fun activity => activity.visits = [])
      (acquiredCycle fuel database gatewayId) (Ended (builtNodes database gatewayId)) := by
  have fresh := builtNodes_fresh database gatewayId
  apply triple_bind fun _ activity => activity.visits = []
  next => exact fun _ none => none
  intro _
  apply triple_bind _ (updateGatewayDetails_visits gatewayId [])
  intro updated
  split
  next => exact triple_pure _ fun _ none => none
  next =>
    split
    next => exact triple_pure _ fun _ none => none
    next nodes built =>
      have same : builtNodes database gatewayId = nodes := by simp [builtNodes, built, Except.toOption]
      rw [same] at fresh ⊢
      apply triple_bind _ (pullMissingInfoForAllNodes_served fuel fresh)
      intro ret
      apply triple_bind fun _ => Outcome nodes ret
      next => exact fun _ outcome => outcome.same rfl rfl
      intro _
      apply triple_bind fun _ => Outcome nodes ret
      next =>
        intro activity outcome
        obtain ⟨code, written⟩ := release_written database.release activity
        rw [written]
        exact outcome.same rfl rfl
      intro _
      exact triple_pure _ fun _ outcome => ⟨built_nonempty built, outcome⟩

/-- The state of the visits: the first ones of the plan, and only the last one may have ended them. -/
structure Planned (nodes : List Entry) (visits : List Visit) : Prop where
  served : exists turns, turns <+: plan nodes /\ List.Forall₂ Served turns visits
  goesOn : ∀ visit ∈ visits.dropLast, visit.goesOn = true

theorem planned_none (nodes : List Entry) : Planned nodes [] :=
  ⟨⟨[], List.nil_prefix, List.Forall₂.nil⟩, by simp⟩

theorem AllServed.planned {nodes : List Entry} {turns : List (Phase × Entry)} {visits : List Visit}
    (all : AllServed turns visits) (inside : turns <+: plan nodes) : Planned nodes visits :=
  ⟨⟨turns, inside, all.served⟩, fun visit known => all.goesOn visit (List.mem_of_mem_dropLast known)⟩

theorem Outcome.planned {nodes : List Entry} {ret : Code} {activity : Activity}
    (outcome : Outcome nodes ret activity) : Planned nodes activity.visits := by
  rcases outcome with ⟨_, all⟩ | ⟨_, ⟨turns, first, broken⟩ | ⟨all, _⟩⟩
  next => exact all.planned (List.prefix_refl _)
  next => exact ⟨⟨turns, first, broken.served⟩, broken.goesOn⟩
  next => exact all.planned (planOf_begins (by decide) nodes)

/-- In every state that a cycle activity reaches, also while it waits. -/
theorem hesStartCycleActiviy_planned (fuel : Nat) (database : Database) (gatewayId : Bytes)
    (activity : Activity) : Planned (builtNodes database gatewayId)
      (hesStartCycleActiviy fuel database gatewayId activity).2.visits := by
  by_cases free : database.acquire.Free
  next =>
    rw [hesStartCycleActiviy_free free]
    have served := acquiredCycle_served fuel database gatewayId
      { activity.begun with syncTimes := activity.syncTimes ++ [1] } rfl
    cases ran : acquiredCycle fuel database gatewayId
        { activity.begun with syncTimes := activity.syncTimes ++ [1] } with
    | mk result last =>
      rw [ran] at served
      cases result with
      | none =>
        obtain ⟨turns, first, all⟩ := served
        exact all.planned first
      | some result =>
        cases result with
        | ok ret => exact Outcome.planned served.2
        | error fault =>
          rw [show last.visits = [] from served]
          exact planned_none _
  next =>
    rw [hesStartCycleActiviy_taken free]
    exact planned_none _

theorem sameSyncTimes_frame : ActivityFrame fun before after => after.syncTimes = before.syncTimes where
  refl _ := rfl
  trans _ _ _ before behind := behind.trans before
  client _ _ _ := rfl
  scalar _ _ := rfl
  pop _ := rfl
  goesOn activity := by
    by_cases connected : activity.client.gateway.status = .connected <;> simp [goesOn, connected]
  note _ _ := rfl

/-- Whether the cycle is over for the network manager, and for the client. -/
def Released (database : Database) (times : List Nat) : Result Code -> Activity -> Prop
  | .ok _, activity => activity.client.control.targetState = .idle /\
      activity.client.control.currentState = .idle /\
      activity.syncTimes = times ++ if database.release.writes then [0] else []
  | .error _, activity => activity.syncTimes = times

theorem acquiredCycle_released (fuel : Nat) (database : Database) (gatewayId : Bytes) (times : List Nat) :
    Triple (fun activity => activity.syncTimes = times) (fun activity => activity.syncTimes = times)
      (acquiredCycle fuel database gatewayId) (Released database times) := by
  have details : Triple (fun activity => activity.syncTimes = times)
      (fun activity => activity.syncTimes = times) (updateGatewayDetails gatewayId)
      fun _ activity => activity.syncTimes = times := by
    rw [updateGatewayDetails]
    split
    next => exact triple_pure _ fun _ same => same
    next =>
      apply triple_bind fun _ activity => activity.syncTimes = times
      next => exact fun _ same => same
      exact fun _ => triple_pure _ fun _ same => same
  apply triple_bind fun _ activity => activity.syncTimes = times
  next => exact fun _ same => same
  intro _
  apply triple_bind _ details
  intro updated
  split
  next => exact triple_pure _ fun _ same => same
  next =>
    split
    next => exact triple_pure _ fun _ same => same
    next nodes _ =>
      have pulls : Triple (fun activity => activity.syncTimes = times)
          (fun activity => activity.syncTimes = times) (pullMissingInfoForAllNodes fuel nodes)
          fun _ activity => activity.syncTimes = times /\
            activity.client.control.currentState = .idle := by
        apply Triple.and
        next =>
          apply Respects.invariant _ fun _ same => same
          exact fun activity same => (sameSyncTimes_frame.pullsAll fuel nodes activity).trans same
        next =>
          apply triple_bind _ (returns_trivial _ _)
          intro outcome
          apply triple_bind fun _ activity => activity.client.control.currentState = .idle
          next => exact fun _ _ => rfl
          exact fun _ => triple_pure _ fun _ idle => idle
      apply triple_bind _ pulls
      intro ret
      apply triple_bind fun _ activity => activity.syncTimes = times /\
        activity.client.control.targetState = .idle /\ activity.client.control.currentState = .idle
      next => exact fun _ known => ⟨known.1, rfl, known.2⟩
      intro _
      apply triple_bind fun _ => Released database times (.ok ret)
      next =>
        intro activity known
        obtain ⟨code, written⟩ := release_written database.release activity
        rw [written]
        exact ⟨known.2.1, known.2.2, congrArg (· ++ _) known.1⟩
      intro _
      exact triple_pure _ fun _ released => released

end Hes.CycleActivity
