import Hes.Fuota.FrameCosts
import Hes.Fuota.Reroute

set_option autoImplicit false

namespace Hes.Fuota

open Prog Text Mqtt Transition

section Heights

/-- What a visit of all leaves and the frame behind it cost at most. -/
def visitCost (nodes : Nat) : Nat := nodes * leafCost + 1

/-- More than a step costs and a state has replies and retries left. -/
def span (nodes : Nat) : Nat := visitCost nodes + 32

def Place.rank (here : Place) : Nat :=
  match here.state with
  | .openFile => 16
  | .gatewayPathSilence => 15
  | .targetNodeSilence => 14
  | .sectorRead => 12
  | .fwimageOfSectorCount => 11
  | .eraseFlash => 10
  | .fwImageTransfer | .lastUpdateFwimageOfSectorcount => 9
  | .fwImageEndofPageTransfer => 8
  | .newFwimageCrcCalculate => 7
  | .activateNewFwimage => 6
  | .sendActivateCmd => 5
  | .readAndCompareFwVersion => 4
  | .networkUnsilence => 3
  | .targetNodeUnsilence => 2
  | .gatewayPathUnsilence => 1
  -- a reply in NETWORK_SILENCE comes late: what is sent there is sent on the way to the next state
  | .networkSilence | .rollbackToNormalCommMode | .idle | .unset => 0

/-- The alternates that are left come first: the retries begin anew with each. -/
def Place.retries (here : Place) : Nat :=
  (2 - here.cntx.alternateRetry) * 4 + (3 - here.cntx.retryCount)

/-- The frames that a state can still ask for without going on. -/
def Place.left (here : Place) : Nat :=
  match here.state with
  | .gatewayPathSilence => 3 - here.gateway
  | .targetNodeSilence => 3 - here.target
  | .targetNodeUnsilence | .gatewayPathUnsilence => 3 - here.unsilence
  | .sectorRead | .fwimageOfSectorCount | .eraseFlash | .fwImageEndofPageTransfer
  | .newFwimageCrcCalculate | .activateNewFwimage | .sendActivateCmd | .readAndCompareFwVersion =>
    here.retries
  | _ => 0

def Place.height (nodes : Nat) (here : Place) : Nat := here.rank * span nodes + here.left

/-- What is needed in front of `cansend_fuota_next_command`: for the place it leads to, and the
frames that it transmits. -/
def Place.budget (nodes : Nat) (here : Place) : Nat :=
  match here.state with
  | .networkSilence => 13 * span nodes
  | .openFile | .fwImageTransfer | .lastUpdateFwimageOfSectorcount | .networkUnsilence
  | .rollbackToNormalCommMode | .idle | .unset => here.height nodes
  | _ => here.height nodes + 1

theorem retries_le (here : Place) : here.retries ≤ 11 := by
  unfold Place.retries
  omega

theorem left_le (here : Place) : here.left ≤ 11 := by
  have few := retries_le here
  unfold Place.left
  split <;> omega

theorem height_budget (nodes : Nat) (here : Place) : here.height nodes ≤ here.budget nodes := by
  unfold Place.budget
  cases state : here.state with
  | networkSilence => simp [Place.height, Place.rank, Place.left, state]
  | _ => simp

/-- The numbers of tries, and no retry context that was started. -/
def Limited (here : Place) : Prop := Limits here.cntx /\ here.active = false

end Heights

section Rules

/-- In a place, behind so many frames. -/
structure Stands (inputs : Inputs) (base : Nat) (here : Place) (cost : Nat) (fuota : Fuota) : Prop where
  inputs : fuota.inputs = inputs
  place : place fuota = here
  sent : transmitted fuota.log ≤ base + cost

/-- The request is over, or the frames and what the place still needs are paid for. -/
structure Affords (measure : Place -> Nat) (queue : List Bytes) (top : Nat) (here : Place) (cost : Nat) :
    Prop where
  limited : Limited here
  paid : here.queue.length < queue.length \/ here.queue = queue /\ measure here + cost ≤ top

def Holds (measure : Place -> Nat) (inputs : Inputs) (queue : List Bytes) (base top : Nat)
    (fuota : Fuota) : Prop :=
  exists here cost, Stands inputs base here cost fuota /\ Affords measure queue top here cost

/-- A thread that does not come back has sent no more. -/
def Halted (queue : List Bytes) (base top : Nat) (fuota : Fuota) : Prop :=
  fuota.client.rfMeterFuota.length < queue.length \/ transmitted fuota.log ≤ base + top

variable {nodes : Nat} {inputs : Inputs} {queue : List Bytes} {base top : Nat} {here : Place} {cost : Nat}

theorem Affords.goes {measure other : Place -> Nat} {there : Place} {more : Nat}
    (fits : Affords measure queue top here cost) (limited : Limited there) (same : there.queue = here.queue)
    (less : other there + more ≤ measure here + cost) : Affords other queue top there more := by
  refine ⟨limited, ?_⟩
  rw [same]
  refine fits.paid.imp id fun paid => ⟨paid.1, ?_⟩
  have room := paid.2
  omega

theorem Affords.mono {measure other : Place -> Nat} {more : Nat} (fits : Affords measure queue top here cost)
    (less : other here + more ≤ measure here + cost) : Affords other queue top here more :=
  fits.goes fits.limited rfl less

theorem Affords.enters {measure other : Place -> Nat} {more : Nat}
    (fits : Affords measure queue top here cost) (state : FuotaState)
    (less : other { here with state := state } + more ≤ measure here + cost) :
    Affords other queue top { here with state := state } more :=
  fits.goes ⟨fits.limited.1, fits.limited.2⟩ rfl less

theorem Stands.halted {measure : Place -> Nat} {fuota : Fuota} (stands : Stands inputs base here cost fuota)
    (fits : Affords measure queue top here cost) : Halted queue base top fuota := by
  have same : fuota.client.rfMeterFuota = here.queue := congrArg Place.queue stands.place
  rcases fits.paid with shorter | ⟨_, paid⟩
  next => exact Or.inl (same ▸ shorter)
  next =>
    have sent := stands.sent
    exact Or.inr (by omega)

theorem Holds.halted {measure : Place -> Nat} {fuota : Fuota}
    (holds : Holds measure inputs queue base top fuota) : Halted queue base top fuota := by
  obtain ⟨here, cost, stands, fits⟩ := holds
  exact stands.halted fits

theorem Holds.mono {measure other : Place -> Nat} {fuota : Fuota}
    (holds : Holds measure inputs queue base top fuota) (less : forall here, other here ≤ measure here) :
    Holds other inputs queue base top fuota := by
  obtain ⟨here, cost, stands, fits⟩ := holds
  exact ⟨here, cost, stands, fits.mono (Nat.add_le_add_right (less here) cost)⟩

variable {A B : Type} {post : B -> Fuota -> Prop} {next : A -> Prog Fuota B}

theorem stands_costs (network : InNetwork nodes inputs) {first : Prog Fuota A} (more : Nat)
    (costs : Respects (Costs nodes false here more) first)
    (fits : Affords (fun _ => 0) queue top here (cost + more)) :
    Triple (Halted queue base top) (Stands inputs base here cost) first
      fun _ => Stands inputs base here (cost + more) := by
  intro fuota stands
  obtain ⟨same, stays, less⟩ := costs fuota (stands.inputs ▸ network) stands.place
  have sent := stands.sent
  have behind : Stands inputs base here (cost + more) (first fuota).2 :=
    ⟨same.trans stands.inputs, stays, by omega⟩
  cases ran : first fuota with
  | mk outcome after =>
    rw [ran] at behind
    cases outcome with
    | none => exact behind.halted fits
    | some value => exact behind

/-- Behind a free program the place is the same. -/
theorem stands_free (network : InNetwork nodes inputs) {first : Prog Fuota A}
    (fits : Affords (fun _ => 0) queue top here cost)
    (free : Respects (Costs nodes false here 0) first)
    (behind : forall value, Triple (Halted queue base top) (Stands inputs base here cost) (next value) post) :
    Triple (Halted queue base top) (Stands inputs base here cost) (first >>= next) post :=
  triple_bind _ (stands_costs network 0 free fits) behind

theorem stands_look (view : Fuota -> A) (known : A -> Prop)
    (seen : forall fuota, place fuota = here -> known (view fuota))
    (behind : forall value, known value ->
      Triple (Halted queue base top) (Stands inputs base here cost) (next value) post) :
    Triple (Halted queue base top) (Stands inputs base here cost) (observe view >>= next) post := by
  apply triple_bind fun value fuota => known value /\ Stands inputs base here cost fuota
  next => exact triple_observe view fun fuota stands => ⟨seen fuota stands.place, stands⟩
  next => exact fun value => triple_known (behind value)

theorem setState_stands (state : FuotaState) (fuota : Fuota) (stands : Stands inputs base here cost fuota) :
    Stands inputs base { here with state := state } cost (setState state fuota).2 := by
  obtain ⟨same, rfl, sent⟩ := stands
  refine ⟨same, rfl, ?_⟩
  show transmitted (fuota.log ++ [_]) ≤ _
  rw [transmitted, List.countP_append, List.countP_singleton, ← transmitted]
  simpa [Event.transmits] using sent

theorem setState_goes (state : FuotaState) :
    Triple (Halted queue base top) (Stands inputs base here cost) (setState state)
      fun _ => Stands inputs base { here with state := state } cost :=
  triple_update _ fun fuota stands => setState_stands state fuota stands

/-- A change of the machine that shows in its place. -/
theorem setMachine_goes (change : Machine -> Machine) (effect : Place -> Place)
    (follows : forall fuota : Fuota,
      place { fuota with machine := change fuota.machine } = effect (place fuota)) :
    Triple (Halted queue base top) (Stands inputs base here cost) (setMachine change)
      fun _ => Stands inputs base (effect here) cost :=
  triple_update _ fun fuota stands =>
    ⟨stands.inputs, (follows fuota).trans (congrArg effect stands.place), stands.sent⟩

end Rules

section Completions

variable {nodes : Nat} {inputs : Inputs} {queue : List Bytes} {base top : Nat} {here : Place} {cost : Nat}

theorem dequeue_stands {B : Type} {post : B -> Fuota -> Prop} {next : Option Bytes -> Prog Fuota B}
    (empty : here.queue = [] ->
      Triple (Halted queue base top) (Stands inputs base here cost) (next none) post)
    (taken : forall command rest, here.queue = command :: rest ->
      Triple (Halted queue base top) (Stands inputs base { here with queue := rest } cost)
        (next (some command)) post) :
    Triple (Halted queue base top) (Stands inputs base here cost) (dequeueFuota >>= next) post := by
  intro fuota stands
  have same : fuota.client.rfMeterFuota = here.queue := congrArg Place.queue stands.place
  cases queued : fuota.client.rfMeterFuota with
  | nil =>
    rw [ran_bind (show dequeueFuota fuota = (some none, fuota) by simp [dequeueFuota, queued])]
    exact empty (same.symm.trans queued) fuota stands
  | cons command rest =>
    let popped : Fuota := { fuota with client := { fuota.client with rfMeterFuota := rest } }
    rw [ran_bind (show dequeueFuota fuota = (some (some command), popped) by
      simp [dequeueFuota, queued, popped])]
    apply taken command rest (same.symm.trans queued) popped
    refine ⟨stands.inputs, ?_, stands.sent⟩
    rw [← stands.place]
    rfl

variable (network : InNetwork nodes inputs)

include network

theorem undernodes_stands {B : Type} {post : B -> Fuota -> Prop}
    {next : List MeterVitalInfo -> Prog Fuota B}
    (affords : Affords (fun _ => 0) queue top here cost)
    (behind : forall meters, meters.length ≤ nodes ->
      Triple (Halted queue base top) (Stands inputs base here cost) (next meters) post) :
    Triple (Halted queue base top) (Stands inputs base here cost) (undernodes >>= next) post := by
  intro fuota stands
  let asked : Fuota := { fuota with
    counters := { fuota.counters with metersRead := fuota.counters.metersRead + 1 } }
  have standing : Stands inputs base here cost asked := ⟨stands.inputs, stands.place, stands.sent⟩
  have ran : undernodes fuota = (fuota.inputs.meters fuota.counters.metersRead, asked) := by
    rw [undernodes, ran_bind (show getGatewayUndernodes fuota =
      (some (fuota.inputs.meters fuota.counters.metersRead), asked) from rfl)]
    cases fuota.inputs.meters fuota.counters.metersRead <;> rfl
  cases listed : fuota.inputs.meters fuota.counters.metersRead with
  | none =>
    rw [listed] at ran
    rw [waited_bind ran]
    exact standing.halted affords
  | some meters =>
    rw [listed] at ran
    rw [ran_bind ran]
    exact behind meters (network.listed _ meters (stands.inputs ▸ listed)) asked standing

omit network in
theorem unsilenceGateway_costs :
    Respects (Costs nodes false here 1) prepareToUnsilenceTheGatewayNode := by
  apply free_costs (observe_costs _)
  intro step
  split
  next =>
    apply free_costs (framePmeshOta_costs _ _)
    exact fun _ => costs_free buildAndStoreFuotaCmd_costs fun _ => pure_costs 0 ()
  next => exact pure_costs 1 ()

/-- Where a frame is sent the gateway is next. -/
theorem sendNetworkUnsilence_holds (measure : Place -> Nat)
    (stays : Affords measure queue top here cost)
    (goes : Affords measure queue top { here with state := .gatewayPathUnsilence } (cost + visitCost nodes)) :
    Triple (Halted queue base top) (Stands inputs base here cost) sendNetworkUnsilence
      fun _ => Holds measure inputs queue base top := by
  have now : Affords (fun _ => 0) queue top here cost := stays.mono (by omega)
  have later : Affords (fun _ => 0) queue top { here with state := .gatewayPathUnsilence }
      (cost + visitCost nodes) := goes.mono (by omega)
  apply stands_free network now fun _ => costs_same rfl rfl rfl
  intro alone
  split
  next =>
    apply stands_free network now fun _ => costs_same rfl rfl rfl
    intro _
    apply triple_bind _ (setState_goes .gatewayPathUnsilence)
    intro _
    have sends : Affords (fun _ => 0) queue top { here with state := .gatewayPathUnsilence } (cost + 1) :=
      later.mono (by unfold visitCost; omega)
    apply (stands_costs network 1 unsilenceGateway_costs sends).weaken fun _ => id
    exact fun _ fuota stands => ⟨_, _, stands, goes.mono (by unfold visitCost; omega)⟩
  next =>
    apply undernodes_stands network now
    intro meters _
    apply stands_free network now fun _ => costs_same rfl rfl rfl
    intro _
    apply stands_free network now fun _ => costs_same rfl rfl rfl
    intro _
    apply stands_free network now (observe_costs _)
    intro target
    apply undernodes_stands network now
    intro leaves few
    split
    next => exact triple_pure () fun fuota stands => ⟨here, cost, stands, stays⟩
    next =>
      have visits : Affords (fun _ => 0) queue top here (cost + nodes * leafCost) :=
        ⟨stays.limited, later.paid.imp id fun paid => ⟨paid.1, by
          have room := paid.2
          unfold visitCost at room
          omega⟩⟩
      apply triple_bind _ (stands_costs network _
        (visitLeaves_costs disableLeaf disableLeaf_costs leaves few target) visits)
      intro _
      apply triple_update
      intro fuota stands
      exact ⟨_, _, setState_stands .gatewayPathUnsilence fuota stands, goes.mono (by unfold visitCost; omega)⟩

omit network in
/-- The request is over: whatever the place is. -/
theorem over_affords (limited : Limited here) (shorter : here.queue.length < queue.length)
    (measure : Place -> Nat) (total : Nat) : Affords measure queue top here total :=
  ⟨limited, Or.inl shorter⟩

theorem takeCommand_holds (command : Bytes) (limited : Limited here)
    (shorter : here.queue.length < queue.length) (measure : Place -> Nat) :
    Triple (Halted queue base top) (Stands inputs base here cost) (takeCommand command)
      fun _ => Holds measure inputs queue base top := by
  have now : Affords (fun _ => 0) queue top here cost := over_affords limited shorter _ _
  apply stands_free network now fun _ => costs_same rfl rfl rfl
  intro _
  apply stands_free network now fun _ => costs_event _ rfl rfl rfl rfl
  intro _
  apply (setState_goes .openFile).weaken fun _ => id
  exact fun _ fuota stands => ⟨_, _, stands, limited, Or.inl shorter⟩

omit network in
theorem parseRequest_costs (command : Bytes) :
    Respects (Costs nodes false here 0) (parseAndUpdateFuotaRequest command) := by
  unfold parseAndUpdateFuotaRequest
  dsimp only
  split
  next => exact pure_costs 0 false
  next =>
    apply free_costs
    next =>
      intro fuota
      cases stoi (part (split colon command) 0) <;> exact costs_same rfl rfl rfl
    intro requestId
    apply free_costs fun _ => costs_same rfl rfl rfl
    intro _
    exact free_costs (fun _ => costs_same rfl rfl rfl) fun _ => pure_costs 0 true

theorem continueWith_holds (command : Bytes) (limited : Limited here)
    (shorter : here.queue.length < queue.length) (measure : Place -> Nat) :
    Triple (Halted queue base top) (Stands inputs base here cost) (continueWith command)
      fun _ => Holds measure inputs queue base top := by
  have now : Affords (fun _ => 0) queue top here cost := over_affords limited shorter _ _
  apply stands_free network now fun _ => costs_same rfl rfl rfl
  intro _
  apply stands_free network now (parseRequest_costs command)
  intro parsed
  split
  next =>
    apply stands_free network now fun _ => costs_event _ rfl rfl rfl rfl
    intro _
    apply stands_free network now fun _ => costs_same rfl rfl rfl
    intro _
    apply (setState_goes .openFile).weaken fun _ => id
    exact fun _ fuota stands => ⟨_, _, stands, limited, Or.inl shorter⟩
  next =>
    apply triple_pure
    exact fun fuota stands => ⟨_, _, stands, limited, Or.inl shorter⟩

theorem handleFuotaCompletion_holds (affords : Affords (fun _ => 4 * span nodes) queue top here cost) :
    Triple (Halted queue base top) (Stands inputs base here cost) handleFuotaCompletion
      fun _ => Holds (Place.budget nodes) inputs queue base top := by
  apply dequeue_stands
  next =>
    intro empty
    apply triple_bind _ (setState_goes .networkUnsilence)
    intro _
    apply sendNetworkUnsilence_holds network
    next =>
      refine ⟨affords.limited, affords.paid.imp id fun paid => ⟨paid.1, ?_⟩⟩
      have room := paid.2
      simp only [Place.budget, Place.height, Place.rank, Place.left]
      omega
    next =>
      refine ⟨affords.limited, affords.paid.imp id fun paid => ⟨paid.1, ?_⟩⟩
      have room := paid.2
      simp only [Place.budget, Place.height, Place.rank, Place.left, span] at room ⊢
      omega
  next =>
    intro command rest queued
    have shorter : rest.length < queue.length := by
      have longer : rest.length < here.queue.length := by simp [queued]
      rcases affords.paid with less | ⟨same, _⟩
      next => exact longer.trans less
      next => exact same ▸ longer
    have limited : Limited { here with queue := rest } := affords.limited
    exact continueWith_holds network command limited shorter _

theorem nextCommandOr_holds (state : FuotaState)
    (affords : Affords (Place.budget nodes) queue top { here with state := state } cost) :
    Triple (Halted queue base top) (Stands inputs base here cost) (nextCommandOr state)
      fun _ => Holds (Place.budget nodes) inputs queue base top := by
  apply dequeue_stands
  next =>
    intro empty
    apply (setState_goes state).weaken fun _ => id
    exact fun _ fuota stands => ⟨_, _, stands, affords⟩
  next =>
    intro command rest queued
    have shorter : rest.length < queue.length := by
      have longer : rest.length < here.queue.length := by simp [queued]
      rcases affords.paid with less | ⟨same, _⟩
      next => exact longer.trans less
      next => exact (show here.queue = queue from same) ▸ longer
    have limited : Limited { here with queue := rest } := affords.limited
    exact takeCommand_holds network command limited shorter _

omit network in
/-- No retry context was started: the machine rolls back. -/
theorem silenceFailed_holds (state : FuotaState) (change : RetryContext -> RetryContext)
    (same : forall cntx : RetryContext, (change cntx).maxRetries = cntx.maxRetries /\
      (change cntx).alternateMaxcnt = cntx.alternateMaxcnt)
    (affords : Affords (fun _ => 0) queue top here cost) :
    Triple (Halted queue base top) (Stands inputs base here cost) (silenceFailed state change)
      fun _ => Holds (Place.budget nodes) inputs queue base top := by
  obtain ⟨⟨retries, alternates⟩, inactive⟩ := affords.limited
  let effect : Place -> Place := fun now => { now with
    cntx := { change now.cntx with alternateRetry := 0 } }
  have limits : Limits (effect here).cntx :=
    ⟨(same here.cntx).1.trans retries, (same here.cntx).2.trans alternates⟩
  apply triple_bind _ (setState_goes state)
  intro _
  apply triple_bind _ (setMachine_goes _ effect fun _ => rfl)
  intro _ fuota stands
  have terminates : decideTimeoutAction fuota = (some .terminate, fuota) := by
    have idle : fuota.machine.cntxActive = false := (congrArg Place.active stands.place).trans inactive
    simp [decideTimeoutAction, bind, observe, idle, pure]
  rw [commandResponseTimeoutAtFuota, ran_bind terminates]
  have rolled : Triple (Halted queue base top) (Stands inputs base (effect { here with state := state }) cost)
      (stopRetryContext >>= fun _ => setState .rollbackToNormalCommMode)
      fun _ => Holds (Place.budget nodes) inputs queue base top := by
    apply triple_bind _ (setMachine_goes _ (fun now => { now with active := false }) fun _ => rfl)
    intro _
    apply (setState_goes .rollbackToNormalCommMode).weaken fun _ => id
    intro _ last stands
    refine ⟨_, _, stands, ⟨limits, rfl⟩, affords.paid.imp id fun paid => ⟨paid.1, ?_⟩⟩
    have room := paid.2
    simp only [Place.budget, Place.height, Place.rank, Place.left]
    omega
  exact rolled fuota stands

end Completions

section Replies

variable {nodes : Nat} {inputs : Inputs} {base : Nat} {here : Place}

/-- A part of the handling of a reply: from a place that was reached without frames, with what the
request has left when the reply comes. -/
def Answers (nodes : Nat) (inputs : Inputs) (base : Nat) (first here : Place) {A : Type}
    (prog : Prog Fuota A) : Prop :=
  Triple (Halted first.queue base (first.height nodes)) (Stands inputs base here 0) prog
    fun _ => Holds (Place.budget nodes) inputs first.queue base (first.height nodes)

variable {first : Place}

/-- On the way nothing was sent, and the queue is as it was. -/
structure Under (first here : Place) : Prop where
  limited : Limited here
  queue : here.queue = first.queue

theorem Under.affords (under : Under first here) (measure : Place -> Nat)
    (less : measure here ≤ first.height nodes) :
    Affords measure first.queue (first.height nodes) here 0 :=
  ⟨under.limited, Or.inr ⟨under.queue, less⟩⟩

theorem Under.now (under : Under first here) :
    Affords (fun _ => 0) first.queue (first.height nodes) here 0 := under.affords _ (Nat.zero_le _)

theorem answers_free (network : InNetwork nodes inputs) (under : Under first here) {A B : Type}
    {prog : Prog Fuota A} {next : A -> Prog Fuota B} (free : Respects (Costs nodes false here 0) prog)
    (behind : forall value, Answers nodes inputs base first here (next value)) :
    Answers nodes inputs base first here (prog >>= next) :=
  stands_free network under.now free behind

theorem answers_look {A B : Type} {next : A -> Prog Fuota B} (view : Fuota -> A) (known : A -> Prop)
    (seen : forall fuota, place fuota = here -> known (view fuota))
    (behind : forall value, known value -> Answers nodes inputs base first here (next value)) :
    Answers nodes inputs base first here (observe view >>= next) :=
  stands_look view known seen behind

theorem answers_machine {B : Type} {next : Unit -> Prog Fuota B} (change : Machine -> Machine)
    (effect : Place -> Place) (follows : forall fuota : Fuota,
      place { fuota with machine := change fuota.machine } = effect (place fuota))
    (behind : Answers nodes inputs base first (effect here) (next ())) :
    Answers nodes inputs base first here (setMachine change >>= next) :=
  triple_bind _ (setMachine_goes change effect follows) fun _ => behind

theorem answers_state {B : Type} {next : Unit -> Prog Fuota B} (state : FuotaState)
    (behind : Answers nodes inputs base first { here with state := state } (next ())) :
    Answers nodes inputs base first here (setState state >>= next) :=
  triple_bind _ (setState_goes state) fun _ => behind

/-- The last of the handling, with enough left for what follows. -/
theorem answers_pure {A : Type} (value : A) (under : Under first here)
    (less : here.budget nodes ≤ first.height nodes) :
    Answers nodes inputs base first here (pure value : Prog Fuota A) :=
  triple_pure value fun _ stands => ⟨here, 0, stands, under.affords _ less⟩

theorem answers_setState (state : FuotaState) (under : Under first here)
    (less : { here with state := state }.budget nodes ≤ first.height nodes) :
    Answers nodes inputs base first here (setState state) := by
  apply (setState_goes state).weaken fun _ => id
  exact fun _ _ stands => ⟨_, 0, stands, under.limited, Or.inr ⟨under.queue, less⟩⟩

theorem answers_setMachine (change : Machine -> Machine) (effect : Place -> Place)
    (follows : forall fuota : Fuota,
      place { fuota with machine := change fuota.machine } = effect (place fuota))
    (under : Under first (effect here)) (less : (effect here).budget nodes ≤ first.height nodes) :
    Answers nodes inputs base first here (setMachine change) := by
  apply (setMachine_goes change effect follows).weaken fun _ => id
  exact fun _ _ stands => ⟨_, 0, stands, under.affords _ less⟩

theorem retryOr_answers (network : InNetwork nodes inputs) (limit : Nat) (retrying given : Prog Fuota Unit)
    (under : Under first here) (high : 4 * span nodes ≤ first.height nodes)
    (again : here.cntx.retryCount < limit -> Answers nodes inputs base first
      { here with cntx := { here.cntx with retryCount := here.cntx.retryCount + 1 } } retrying)
    (free : Respects (Costs nodes false here 0) given) :
    Answers nodes inputs base first here (retryOr limit retrying given) := by
  apply answers_look _ (· = here.cntx.retryCount)
  next => exact fun fuota same => congrArg (fun now => now.cntx.retryCount) same
  intro count known
  subst known
  split
  next few =>
    apply answers_machine _ (fun now => { now with cntx := { now.cntx with
      retryCount := now.cntx.retryCount + 1 } }) fun _ => rfl
    exact again few
  next =>
    apply answers_free network under free
    intro _
    apply answers_machine _ (fun now => { now with cntx := { now.cntx with retryCount := 0 } })
      fun _ => rfl
    apply handleFuotaCompletion_holds network
    exact ⟨under.limited, Or.inr ⟨under.queue, high⟩⟩

end Replies

end Hes.Fuota
