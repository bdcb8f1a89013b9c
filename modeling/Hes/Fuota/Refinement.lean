import Hes.Fuota.Moves

set_option autoImplicit false

namespace Hes.Fuota

open Prog Text Mqtt Relation

variable {permitted : Cause -> Core -> Prop}

/-- From one state to another by moves. -/
def Path (permitted : Cause -> Core -> Prop) (before after : Fuota) : Prop :=
  ReflTransGen (Move permitted) (core before) (core after)

theorem path_refl (fuota : Fuota) : Path permitted fuota fuota := ReflTransGen.refl

theorem path_trans (first second third : Fuota) (before : Path permitted first second)
    (behind : Path permitted second third) : Path permitted first third := before.trans behind

theorem path_same {before after : Fuota} (same : core after = core before) :
    Path permitted before after := by
  rw [Path, same]

theorem path_move {before after : Fuota} {moved : Core} (move : Move permitted (core before) moved)
    (same : core after = moved) : Path permitted before after := by
  rw [Path, same]
  exact ReflTransGen.single move

/-- Moves that leave the state of the machine, the hop count of the request and the queue. -/
structure Steady (permitted : Cause -> Core -> Prop) (before after : Fuota) : Prop where
  moves : Path permitted before after
  state : after.machine.ondemandFuotaState = before.machine.ondemandFuotaState
  hopCount : after.client.hopCount = before.client.hopCount
  queue : after.client.rfMeterFuota = before.client.rfMeterFuota

theorem steady_refl (fuota : Fuota) : Steady permitted fuota fuota :=
  ⟨path_refl fuota, rfl, rfl, rfl⟩

theorem steady_trans (first second third : Fuota) (before : Steady permitted first second)
    (behind : Steady permitted second third) : Steady permitted first third :=
  ⟨before.moves.trans behind.moves, behind.state.trans before.state,
    behind.hopCount.trans before.hopCount, behind.queue.trans before.queue⟩

theorem steady_same {before after : Fuota} (same : core after = core before) :
    Steady permitted before after :=
  ⟨path_same same, congrArg Core.state same, congrArg Core.hopCount same, congrArg Core.queue same⟩

theorem steady_move {before after : Fuota} {moved : Core} (move : Move permitted (core before) moved)
    (same : core after = moved) (state : moved.state = (core before).state)
    (hopCount : moved.hopCount = (core before).hopCount)
    (queue : moved.queue = (core before).queue) : Steady permitted before after := by
  subst same
  exact ⟨path_move move rfl, state, hopCount, queue⟩

theorem steady_bind {A B : Type} {first : Prog Fuota A} {next : A -> Prog Fuota B}
    (before : Respects (Steady permitted) first)
    (behind : forall value, Respects (Steady permitted) (next value)) :
    Respects (Steady permitted) (first >>= next) := respects_bind steady_trans before behind

theorem steady_pure {A : Type} (value : A) : Respects (Steady permitted) (pure value : Prog Fuota A) :=
  respects_pure steady_refl value

theorem steady_observe {A : Type} (view : Fuota -> A) : Respects (Steady permitted) (observe view) :=
  respects_observe steady_refl view

/-- A program that changes nothing an observer sees. -/
def Unseen {A : Type} (prog : Prog Fuota A) : Prop :=
  Respects (fun before after => core after = core before) prog

theorem Unseen.steady {A : Type} {prog : Prog Fuota A} (unseen : Unseen prog) :
    Respects (Steady permitted) prog := fun fuota => steady_same (unseen fuota)

/-- Steady where something is known that no steady program changes. -/
def Within (permitted : Cause -> Core -> Prop) (known : Fuota -> Prop) (before after : Fuota) : Prop :=
  known before -> Steady permitted before after

section Withins

variable {known : Fuota -> Prop}

def Stable (permitted : Cause -> Core -> Prop) (known : Fuota -> Prop) : Prop :=
  forall before after, Steady permitted before after -> known before -> known after

theorem within_refl (fuota : Fuota) : Within permitted known fuota fuota := fun _ => steady_refl fuota

theorem within_trans (stable : Stable permitted known) (first second third : Fuota)
    (before : Within permitted known first second) (behind : Within permitted known second third) :
    Within permitted known first third := by
  intro holds
  have moved := before holds
  exact steady_trans first second third moved (behind (stable first second moved holds))

theorem Steady.within {A : Type} {prog : Prog Fuota A} (steady : Respects (Steady permitted) prog) :
    Respects (Within permitted known) prog := fun fuota _ => steady fuota

theorem within_bind (stable : Stable permitted known) {A B : Type} {first : Prog Fuota A}
    {next : A -> Prog Fuota B} (before : Respects (Within permitted known) first)
    (behind : forall value, Respects (Within permitted known) (next value)) :
    Respects (Within permitted known) (first >>= next) :=
  respects_bind (within_trans stable) before behind

end Withins

section Frames

theorem steady_framePmeshOtaCmdHeader (packetType : UInt8) (command : Bytes)
    (sequence : SequenceCommand command) :
    Respects (Steady permitted) (framePmeshOtaCmdHeader packetType command) := by
  intro fuota
  exact steady_move (Move.gateway (core fuota) command sequence) rfl rfl rfl rfl

/-- Without too many hops the frame is built; else only the hop count of the route is. -/
theorem steady_framePmeshFuotaCmdHeaderForTargetNode (packetType : UInt8) (command : Bytes)
    (fuota : Fuota)
    (ok : forall now : Core, now.hopCount = fuota.client.hopCount -> permitted .targeted now)
    (activates : command = activateRead -> (core fuota).state = .activateNewFwimage)
    (verifies : Verifying command -> (core fuota).state = .newFwimageCrcCalculate /\
      (forall route, permitted .summed { core fuota with route := route }) /\
        command = verifyCommand (core fuota).crc.value) :
    Steady permitted fuota (framePmeshFuotaCmdHeaderForTargetNode packetType command fuota).2 := by
  have counted : Move permitted (core fuota) _ := Move.routed (core fuota)
  by_cases many : toUInt8 fuota.client.hopCount > 32
  next =>
    apply steady_move counted _ rfl rfl rfl
    simp [framePmeshFuotaCmdHeaderForTargetNode, bind, observe, setRadio, update, many, core,
      headerInit]
  next =>
    have built : Move permitted
        { core fuota with route := { (core fuota).route with hopCount := toUInt8 (core fuota).hopCount } }
        _ := Move.target _ command (ok _ rfl) rfl activates
          (fun verifying => ⟨(verifies verifying).1, (verifies verifying).2.1 _, (verifies verifying).2.2⟩)
    refine ⟨(ReflTransGen.single counted).trans ?_, rfl, rfl, rfl⟩
    apply ReflTransGen.single
    convert built using 1
    simp [framePmeshFuotaCmdHeaderForTargetNode, bind, observe, setRadio, update, many, core,
      headerInit, placeFrame, Core.routeBuilt]

theorem steady_frameFuotaCmdheaderForNetwork (packetType : UInt8) (command : Bytes)
    (sequence : SequenceCommand command) :
    Respects (Steady permitted) (frameFuotaCmdheaderForNetwork packetType command) := by
  intro fuota
  by_cases many : fuota.radio.currentFuotaRoute.hopCount > 32
  next =>
    apply steady_same
    simp [frameFuotaCmdheaderForNetwork, bind, observe, setRadio, update, many, core, headerInit]
  next =>
    apply steady_move (Move.network (core fuota) command sequence) _ rfl rfl rfl
    simp [frameFuotaCmdheaderForNetwork, bind, observe, setRadio, update, many, core, headerInit,
      placeFrame, Core.routeBuilt]

theorem steady_writeFrame : Respects (Steady permitted) writeFrame := by
  intro fuota
  exact steady_move (Move.sent (core fuota) fuota.radio.frame
    (fuota.inputs.write fuota.counters.writes)) rfl rfl rfl rfl

theorem networkCommand_sequence (machine : Machine) (command : Bytes)
    (known : networkCommand machine = some command) : SequenceCommand command := by
  unfold networkCommand at known
  split at known
  next => exact ⟨machine.networkSilenceState, Or.inl known⟩
  next =>
    split at known
    next => exact ⟨machine.networkSilenceState, Or.inr known⟩
    next => exact absurd known (by simp)

theorem steady_buildNetworkCommand : Respects (Steady permitted) buildNetworkCommand := by
  intro fuota
  simp only [buildNetworkCommand, bind, observe]
  cases known : networkCommand fuota.machine with
  | none => exact steady_refl fuota
  | some command =>
    exact steady_frameFuotaCmdheaderForNetwork _ command
      (networkCommand_sequence fuota.machine command known) fuota

theorem steady_buildAndStoreFuotaCmd : Respects (Steady permitted) buildAndStoreFuotaCmd := by
  apply steady_bind steady_buildNetworkCommand
  intro _
  apply steady_bind steady_writeFrame
  intro written
  split
  next => exact fun fuota => steady_same rfl
  next => exact steady_pure false

theorem steady_updateStatus (requestStatus errorCode : Nat) :
    Respects (Steady permitted) (updateStatus requestStatus errorCode) := by
  intro fuota
  simp only [updateStatus, ondemandFuotaUpdateStatus, bind, observe, update]
  split
  next => exact steady_refl fuota
  next =>
    apply steady_move (Move.updated (core fuota)
      (if requestStatus = 17 && errorCode = 1 then 21 else requestStatus) errorCode) _ rfl rfl rfl
    simp [core, Core.note, apply_ite Machine.ondemandFuotaState, Machine.terminal]

end Frames

section Routes

theorem getAlternateSourceRoute_found (fuota after : Fuota)
    (ran : getAlternateSourceRoute fuota = (some true, after)) : (core after).HasAlternate := by
  -- alternate routes are only found by a query that gives some
  simp only [getAlternateSourceRoute] at ran
  split at ran
  next => simp at ran
  next paths known =>
    simp only [Prod.mk.injEq, Option.some.injEq, decide_eq_true_eq] at ran
    refine ⟨fuota.counters.alternatesRead, paths, ?_, ran.1⟩
    rw [← ran.2]
    exact known

theorem unseen_getAlternateSourceRoute : Unseen getAlternateSourceRoute := by
  intro fuota
  simp only [getAlternateSourceRoute]
  split <;> rfl

theorem steady_useAlternate (chosen : Radio -> Option AlternatePathInfo) (fuota : Fuota)
    (found : (core fuota).HasAlternate) :
    Steady permitted fuota (useAlternate chosen fuota).2 := by
  simp only [useAlternate, bind, observe]
  cases chosen fuota.radio with
  | none => exact steady_refl fuota
  | some path =>
    exact steady_move (Move.detoured (core fuota) path.meterMacAddress _ found) rfl rfl rfl rfl

theorem steady_buildAlternateRoute (targetMac : Bytes) :
    Respects (Steady permitted) (buildAlternateRoute targetMac) := by
  intro fuota
  apply moved_bind steady_trans (unseen_getAlternateSourceRoute.steady fuota)
  intro found after ran _
  cases found with
  | false => exact steady_refl after
  | true => exact steady_useAlternate _ after (getAlternateSourceRoute_found fuota after ran)

theorem steady_buildAlternaterouteImageTransfer (routerCount : UInt8) :
    Respects (Steady permitted) (buildAlternaterouteImageTransfer routerCount) := by
  apply steady_bind (steady_updateStatus 22 1)
  intro _ fuota
  apply moved_bind steady_trans (unseen_getAlternateSourceRoute.steady fuota)
  intro found after ran _
  cases found with
  | false => exact steady_refl after
  | true => exact steady_useAlternate _ after (getAlternateSourceRoute_found fuota after ran)

theorem unseen_setCntx (change : RetryContext -> RetryContext) : Unseen (setCntx change) :=
  fun _ => rfl

theorem useAlternate_inputs {chosen : Radio -> Option AlternatePathInfo} {fuota after : Fuota}
    {used : Bool} (ran : useAlternate chosen fuota = (some used, after)) :
    (core after).inputs = (core fuota).inputs := by
  cases known : chosen fuota.radio with
  | none =>
    simp only [useAlternate, bind, observe, known] at ran
    rw [← (Prod.mk.inj ran).2]
  | some path =>
    simp only [useAlternate, bind, observe, known] at ran
    rw [← (Prod.mk.inj ran).2]
    rfl

theorem buildAlternateRoute_found (targetMac : Bytes) (fuota after : Fuota)
    (ran : buildAlternateRoute targetMac fuota = (some true, after)) : (core after).HasAlternate := by
  -- an alternate route that is taken was found
  obtain ⟨found, middle, queried, used⟩ := (returned_bind _ _ _ _ _).mp ran
  cases found with
  | false => simp [pure] at used
  | true =>
    rw [if_pos rfl] at used
    have evidence := getAlternateSourceRoute_found fuota middle queried
    rw [Core.HasAlternate, useAlternate_inputs used]
    exact evidence

theorem buildAlternaterouteImageTransfer_found (routerCount : UInt8) (fuota after : Fuota)
    (ran : buildAlternaterouteImageTransfer routerCount fuota = (some true, after)) :
    (core after).HasAlternate := by
  obtain ⟨_, updated, _, rest⟩ := (returned_bind _ _ _ _ _).mp ran
  obtain ⟨found, middle, queried, used⟩ := (returned_bind _ _ _ _ _).mp rest
  cases found with
  | false => simp [pure] at used
  | true =>
    rw [if_pos rfl] at used
    have evidence := getAlternateSourceRoute_found updated middle queried
    rw [Core.HasAlternate, useAlternate_inputs used]
    exact evidence

theorem steady_updateClientTxBufferWithRoute (payload : Option Bytes) (payloadLen : Nat)
    (fuota : Fuota) (found : (core fuota).HasAlternate) :
    Steady permitted fuota (updateClientTxBufferWithRoute payload payloadLen fuota).2 :=
  steady_move (Move.alternate (core fuota) found) rfl rfl rfl rfl

theorem steady_prepareAlternateRouteRetry (payload : Option Bytes) (payloadLen : Nat) :
    Respects (Steady permitted) (prepareAlternateRouteRetry payload payloadLen) := by
  apply steady_bind (unseen_setCntx _).steady
  intro _
  apply steady_bind (steady_updateStatus 18 1)
  intro _
  apply steady_bind (steady_observe _)
  intro buffer
  dsimp only
  split
  next => exact steady_pure ()
  next =>
    intro fuota
    apply moved_bind steady_trans (steady_buildAlternateRoute _ fuota)
    intro found after ran _
    cases found with
    | false => exact steady_same rfl
    | true =>
      have evidence := buildAlternateRoute_found _ fuota after ran
      apply moved_bind steady_trans (steady_updateClientTxBufferWithRoute payload payloadLen after evidence)
      intro _ last _ _
      exact steady_same rfl

theorem steady_prepareAlternateSamerouteRetry (payload : Option Bytes) (payloadLen : Nat) :
    Respects (Steady permitted) (prepareAlternateSamerouteRetry payload payloadLen) := by
  unfold prepareAlternateSamerouteRetry
  split
  next => exact steady_pure ()
  next =>
    apply steady_bind (unseen_setCntx _).steady
    intro _
    apply steady_bind (steady_updateStatus 22 1)
    intro _
    apply steady_bind (steady_observe _)
    intro buffer
    dsimp only
    split
    next => exact steady_pure ()
    next =>
      intro fuota
      apply moved_bind steady_trans (steady_buildAlternaterouteImageTransfer _ fuota)
      intro found after ran _
      cases found with
      | false => exact steady_same rfl
      | true =>
        exact steady_updateClientTxBufferWithRoute payload payloadLen after
          (buildAlternaterouteImageTransfer_found _ fuota after ran)

end Routes

section Leaves

/-- A leaf is addressed while the network is silenced or unsilenced. -/
structure Leafward (fuota : Fuota) : Prop where
  found : (core fuota).HasLeaf
  state : fuota.machine.ondemandFuotaState = .networkSilence \/
    fuota.machine.ondemandFuotaState = .networkUnsilence

theorem Path.hasLeaf {before after : Fuota} (path : Path permitted before after)
    (found : (core before).HasLeaf) : (core after).HasLeaf := by
  unfold Core.HasLeaf Core.IsLeaf
  rw [(moves_fixed path).1]
  exact found

theorem leafward_stable : Stable permitted Leafward := by
  intro before after steady leafward
  constructor
  next => exact steady.moves.hasLeaf leafward.found
  next =>
    rw [steady.state]
    exact leafward.state

theorem Path.heard {before after : Fuota} (path : Path permitted before after)
    (heard : (core before).Heard) : (core after).Heard := by
  rw [Core.Heard, (moves_fixed path).1]
  exact heard

theorem unseen_nextArrival : Unseen nextArrival := fun _ => rfl

theorem steady_resend (vars : SocketVars) : Respects (Steady permitted) (resend vars) := by
  apply steady_bind steady_writeFrame
  intro written
  split <;> exact steady_pure _

theorem steady_handleFrame (frame : Bytes) (vars : SocketVars) :
    Respects (Steady permitted) (handleFrame frame vars) := by
  unfold handleFrame
  dsimp only
  split
  next => exact steady_resend vars
  next =>
    split
    next => exact steady_bind (steady_observe _) fun _ => steady_pure _
    next => exact steady_pure _

theorem steady_socketTurn (vars : SocketVars) : Respects (Steady permitted) (socketTurn vars) := by
  unfold socketTurn
  split
  next => exact steady_handleFrame _ _
  next =>
    split
    next =>
      apply steady_bind unseen_nextArrival.steady
      intro arrival
      cases arrival with
      | failed => exact steady_pure _
      | timedOut => exact steady_resend vars
      | data bytes =>
        dsimp only
        split <;> exact steady_pure _
    next => exact steady_pure _

theorem steady_waitForSocketResponse : Respects (Steady permitted) waitForSocketResponse := by
  apply steady_bind (steady_observe _)
  intro fuel
  exact respects_loop steady_refl steady_trans socketTurn steady_socketTurn fuel {}

/-- Bytes in the buffer were read. -/
def Buffered (vars : SocketVars) (fuota : Fuota) : Prop := vars.recvbuf ≠ [] -> (core fuota).Heard

theorem resend_buffered (vars : SocketVars) : Returns (Buffered vars) (resend vars)
    (afterTurn Buffered fun result after => result = true -> (core after).Heard) := by
  apply triple_bind (fun _ => Buffered vars)
  next =>
    apply Respects.returns (@steady_writeFrame fun _ _ => True)
    intro before after buffered steady some_
    exact steady.moves.heard (buffered some_)
  next =>
    intro written
    split
    next => exact triple_pure _ fun _ buffered => buffered
    next => exact triple_pure _ fun _ _ same => absurd same (by simp)

theorem socketTurn_buffered (vars : SocketVars) : Returns (Buffered vars) (socketTurn vars)
    (afterTurn Buffered fun result after => result = true -> (core after).Heard) := by
  intro fuota buffered
  unfold socketTurn
  cases first : firstFrame vars.recvbuf with
  | some parts =>
    have heard : (core fuota).Heard := by
      apply buffered
      intro empty
      simp [firstFrame, empty] at first
    have moved : Steady (fun _ _ => True) fuota
        (handleFrame parts.1 { vars with recvbuf := parts.2 } fuota).2 := steady_handleFrame _ _ fuota
    cases ran : handleFrame parts.1 { vars with recvbuf := parts.2 } fuota with
    | mk outcome after =>
      rw [ran] at moved
      have later := moved.moves.heard heard
      cases outcome with
      | none => simp [ran]
      | some turn =>
        simp only [ran]
        cases turn with
        | again _ => exact fun _ => later
        | done _ => exact fun _ => later
  | none =>
    by_cases few : vars.rfRetryCount < rfMaxRetries
    next =>
      simp only [few, if_true]
      cases arrival : fuota.inputs.arrival fuota.counters.arrivals with
      | failed =>
        rw [ran_bind (show nextArrival fuota = (some .failed, _) from by rw [nextArrival, arrival])]
        exact fun same => absurd same (by simp)
      | timedOut =>
        rw [ran_bind (show nextArrival fuota = (some .timedOut, _) from by rw [nextArrival, arrival])]
        exact resend_buffered vars _ buffered
      | data bytes =>
        rw [ran_bind (show nextArrival fuota = (some (.data bytes), _) from by rw [nextArrival, arrival])]
        by_cases empty : bytes = []
        next =>
          simp only [empty, if_true]
          exact fun same => absurd same (by simp)
        next =>
          simp only [empty, if_false]
          exact fun _ => ⟨fuota.counters.arrivals, bytes, arrival, empty⟩
    next =>
      simp only [few, if_false]
      exact fun same => absurd same (by simp)

theorem waitForSocketResponse_heard (fuota after : Fuota)
    (ran : waitForSocketResponse fuota = (some true, after)) : (core after).Heard := by
  -- a socket that answers has given bytes
  rw [waitForSocketResponse, ran_bind (show observe _ fuota = (some fuota.inputs.fuel, fuota) from rfl)]
    at ran
  have triple : Returns (Buffered {}) (loop socketTurn fuota.inputs.fuel {}) _ :=
    triple_loop socketTurn Buffered (fun _ _ _ => trivial) socketTurn_buffered fuota.inputs.fuel {}
  exact triple.returned (fun some_ => absurd rfl some_) ran rfl

theorem within_executeStep (attempts : Nat) :
    Respects (Within permitted Leafward) (executeStep attempts) := by
  induction attempts with
  | zero => exact Steady.within (steady_pure false)
  | succ attempts ih =>
    apply within_bind leafward_stable (Steady.within steady_buildAndStoreFuotaCmd)
    intro sent
    split
    next =>
      intro fuota leafward
      apply moved_bind steady_trans (steady_waitForSocketResponse fuota)
      intro answered after ran moved
      have later := leafward_stable fuota after moved leafward
      cases answered with
      | false => exact ih after later
      | true =>
        have replier : (core after).replier = bytesToHexString after.radio.currentFuotaTargetMac := by
          rw [Core.replier, if_neg]
          next => rfl
          next => rcases later.state with silence | unsilence <;> simp [core, *]
        apply steady_move (Move.leafAcknowledged (core after) later.found
          (waitForSocketResponse_heard fuota after ran) later.state) _ rfl rfl rfl
        rw [replier]
        rfl
    next => exact ih

theorem within_executeFuotasequence (steps : List Nat) :
    Respects (Within permitted Leafward) (executeFuotasequence steps) := by
  induction steps with
  | nil => exact Steady.within (steady_pure true)
  | cons step rest ih =>
    apply within_bind leafward_stable (Steady.within (Unseen.steady fun _ => rfl))
    intro _
    apply within_bind leafward_stable (within_executeStep 3)
    intro done
    split
    next => exact ih
    next => exact Steady.within (steady_pure false)

theorem executeStep_heard (attempts : Nat) (fuota after : Fuota)
    (ran : executeStep attempts fuota = (some true, after)) : (core after).Heard := by
  induction attempts generalizing fuota with
  | zero => simp [executeStep] at ran
  | succ attempts ih =>
    obtain ⟨sent, middle, _, rest⟩ := (returned_bind _ _ _ _ _).mp ran
    cases sent with
    | false => exact ih middle rest
    | true =>
      obtain ⟨answered, last, waited, noted⟩ := (returned_bind _ _ _ _ _).mp rest
      cases answered with
      | false => exact ih last noted
      | true =>
        have heard := waitForSocketResponse_heard middle last waited
        rw [← (Prod.mk.inj noted).2]
        exact heard

theorem executeFuotasequence_heard (steps : List Nat) (some_ : steps ≠ []) (fuota after : Fuota)
    (ran : executeFuotasequence steps fuota = (some true, after)) : (core after).Heard := by
  induction steps generalizing fuota with
  | nil => exact absurd rfl some_
  | cons step rest ih =>
    obtain ⟨_, counted, _, first⟩ := (returned_bind _ _ _ _ _).mp ran
    obtain ⟨done, middle, executed, later⟩ := (returned_bind _ _ _ _ _).mp first
    cases done with
    | false => simp at later
    | true =>
      cases rest with
      | nil =>
        rw [← (Prod.mk.inj later).2]
        exact executeStep_heard 3 counted middle executed
      | cons _ _ => exact ih (by simp) middle later

theorem sequence_heard (sequence : Prog Fuota Bool) (change : Machine -> Machine)
    (same : sequence = executeFuotasequence sequenceSteps) (fuota after : Fuota)
    (ran : (do
      let success <- sequence
      setMachine change
      return success) fuota = (some true, after)) : (core after).Heard := by
  -- a sequence for a leaf between two settings of a flag: what was done was heard
  subst same
  obtain ⟨success, middle, executed, rest⟩ := (returned_bind _ _ _ _ _).mp ran
  have result : success = true := by simpa [bind, setMachine, update, pure] using (Prod.mk.inj rest).1
  subst result
  have heard := executeFuotasequence_heard sequenceSteps (by decide) fuota middle executed
  rw [← (Prod.mk.inj rest).2]
  exact heard

theorem sendFuotaEnableToLeaf_heard (leaf : MeterVitalInfo) (fuota after : Fuota)
    (ran : sendFuotaEnableToLeaf leaf fuota = (some true, after)) : (core after).Heard := by
  obtain ⟨addressed, middle, _, rest⟩ := (returned_bind _ _ _ _ _).mp ran
  cases addressed with
  | false => simp at rest
  | true =>
    obtain ⟨_, flagged, _, last⟩ := (returned_bind _ _ _ _ _).mp rest
    exact sequence_heard _ _ rfl flagged after last

theorem sendFuotaDisableToLeafNodes_heard (leaf : MeterVitalInfo) (fuota after : Fuota)
    (ran : sendFuotaDisableToLeafNodes leaf fuota = (some true, after)) : (core after).Heard := by
  obtain ⟨addressed, middle, _, rest⟩ := (returned_bind _ _ _ _ _).mp ran
  cases addressed with
  | false => simp at rest
  | true =>
    obtain ⟨_, flagged, _, last⟩ := (returned_bind _ _ _ _ _).mp rest
    exact sequence_heard _ _ rfl flagged after last

theorem within_addressLeaf (leaf : MeterVitalInfo) :
    Respects (Within permitted Leafward) (addressLeaf leaf) := by
  intro fuota leafward
  simp only [addressLeaf, bind, observe, setRadio, update]
  have targeted : Move permitted (core fuota) _ :=
    Move.addressed (core fuota) leaf.meterMacAddress (core fuota).route leafward.found
  cases known : computeRouterPath fuota.radio.gatewayRouteInfo leaf.meterMacAddress with
  | none => exact steady_move targeted rfl rfl rfl rfl
  | some route =>
    refine ⟨(ReflTransGen.single targeted).trans ?_, rfl, rfl, rfl⟩
    apply ReflTransGen.single
    exact Move.addressed _ leaf.meterMacAddress _ leafward.found

theorem within_sequence (change : Machine -> Machine) (sequence : Prog Fuota Bool)
    (moves : Respects (Within permitted Leafward) sequence) :
    Respects (Within permitted Leafward) (do
      let success <- sequence
      setMachine fun machine => { change machine with
        ondemandFuotaState := machine.ondemandFuotaState }
      return success) := by
  apply within_bind leafward_stable moves
  intro success
  exact Steady.within (steady_bind (Unseen.steady fun _ => rfl) fun _ => steady_pure success)

theorem within_sendFuotaEnableToLeaf (leaf : MeterVitalInfo) :
    Respects (Within permitted Leafward) (sendFuotaEnableToLeaf leaf) := by
  apply within_bind leafward_stable (within_addressLeaf leaf)
  intro addressed
  cases addressed with
  | false => exact Steady.within (steady_pure false)
  | true =>
    apply within_bind leafward_stable (Steady.within (Unseen.steady fun _ => rfl))
    intro _
    exact within_sequence (fun machine => { machine with useAlternateFuotaRoute := false }) _
      (within_executeFuotasequence sequenceSteps)

theorem within_sendFuotaDisableToLeafNodes (leaf : MeterVitalInfo) :
    Respects (Within permitted Leafward) (sendFuotaDisableToLeafNodes leaf) := by
  apply within_bind leafward_stable (within_addressLeaf leaf)
  intro addressed
  cases addressed with
  | false => exact Steady.within (steady_pure false)
  | true =>
    apply within_bind leafward_stable (Steady.within (Unseen.steady fun _ => rfl))
    intro _
    exact within_sequence (fun machine => { machine with useAlternateFuotarouteDisable := false }) _
      (within_executeFuotasequence sequenceSteps)

/-- The row of a leaf is written: as its sequence ended, or as it does where nothing is heard. -/
theorem steady_recordLeaf (leaf : MeterVitalInfo) (status : Nat) (fuota : Fuota)
    (found : (core fuota).IsLeaf leaf)
    (told : (core fuota).Heard \/ (core fuota).state = .networkSilence /\ status = 0 \/
      (core fuota).state = .networkUnsilence /\ status = 1) :
    Steady permitted fuota
      (insertUpdateUnsilencedMeter leaf.meterMacAddress status leaf.hopCount fuota).2 :=
  steady_move (Move.leafRecorded (core fuota) leaf status found told) rfl rfl rfl rfl

theorem Path.isLeaf {before after : Fuota} {leaf : MeterVitalInfo} (path : Path permitted before after)
    (found : (core before).IsLeaf leaf) : (core after).IsLeaf leaf := by
  rw [Core.IsLeaf, (moves_fixed path).1]
  exact found

theorem steady_enableLeaf (leaf : MeterVitalInfo) (fuota : Fuota) (found : (core fuota).IsLeaf leaf)
    (state : fuota.machine.ondemandFuotaState = .networkSilence) :
    Steady permitted fuota (enableLeaf leaf fuota).2 := by
  apply moved_bind steady_trans
    (within_sendFuotaEnableToLeaf leaf fuota ⟨⟨leaf, found⟩, Or.inl state⟩)
  intro done after ran moved
  have here := moved.moves.isLeaf found
  cases done with
  | false => exact steady_recordLeaf leaf 0 after here (Or.inr (Or.inl ⟨moved.state.trans state, rfl⟩))
  | true =>
    exact steady_recordLeaf leaf 1 after here (Or.inl (sendFuotaEnableToLeaf_heard leaf fuota after ran))

theorem steady_disableLeaf (leaf : MeterVitalInfo) (fuota : Fuota) (found : (core fuota).IsLeaf leaf)
    (state : fuota.machine.ondemandFuotaState = .networkUnsilence) :
    Steady permitted fuota (disableLeaf leaf fuota).2 := by
  apply moved_bind steady_trans
    (within_sendFuotaDisableToLeafNodes leaf fuota ⟨⟨leaf, found⟩, Or.inr state⟩)
  intro done after ran moved
  have here := moved.moves.isLeaf found
  cases done with
  | false => exact steady_recordLeaf leaf 1 after here (Or.inr (Or.inr ⟨moved.state.trans state, rfl⟩))
  | true =>
    exact steady_recordLeaf leaf 0 after here
      (Or.inl (sendFuotaDisableToLeafNodes_heard leaf fuota after ran))

theorem steady_forEach (body : MeterVitalInfo -> Prog Fuota Unit) (state : FuotaState)
    (moves : forall leaf fuota, (core fuota).IsLeaf leaf -> fuota.machine.ondemandFuotaState = state ->
      Steady permitted fuota (body leaf fuota).2)
    (leaves : List MeterVitalInfo) (fuota : Fuota) (found : ∀ leaf ∈ leaves, (core fuota).IsLeaf leaf)
    (inside : fuota.machine.ondemandFuotaState = state) :
    Steady permitted fuota (forEach body leaves fuota).2 := by
  induction leaves generalizing fuota with
  | nil => exact steady_refl fuota
  | cons leaf rest ih =>
    apply moved_bind steady_trans (moves leaf fuota (found leaf (by simp)) inside)
    intro _ after _ moved
    apply ih after
    next =>
      intro other member
      exact moved.moves.isLeaf (found other (by simp [member]))
    next => exact moved.state.trans inside

theorem unseen_undernodes : Unseen undernodes := by
  intro fuota
  simp only [undernodes, bind, getGatewayUndernodes]
  cases fuota.inputs.meters fuota.counters.metersRead <;> rfl

theorem undernodes_queried {fuota after : Fuota} {meters : List MeterVitalInfo}
    (ran : undernodes fuota = (some meters, after)) :
    exists index, (core after).inputs.meters index = some meters := by
  simp only [undernodes, bind, getGatewayUndernodes] at ran
  cases known : fuota.inputs.meters fuota.counters.metersRead with
  | none => simp [known, waiting] at ran
  | some queried =>
    simp only [known, pure, Prod.mk.injEq, Option.some.injEq] at ran
    refine ⟨fuota.counters.metersRead, ?_⟩
    rw [← ran.2, ← ran.1]
    exact known

theorem steady_visitLeaves (body : MeterVitalInfo -> Prog Fuota Unit) (state : FuotaState)
    (moves : forall leaf fuota, (core fuota).IsLeaf leaf -> fuota.machine.ondemandFuotaState = state ->
      Steady permitted fuota (body leaf fuota).2)
    (meters : List MeterVitalInfo) (ondemandMac : Bytes) (fuota : Fuota)
    (queried : exists index, (core fuota).inputs.meters index = some meters)
    (inside : fuota.machine.ondemandFuotaState = state) :
    Steady permitted fuota (visitLeaves body meters ondemandMac fuota).2 := by
  apply moved_bind steady_trans (steady_same rfl)
  intro _ after _ moved
  obtain ⟨index, known⟩ := queried
  apply steady_forEach body state moves
  next =>
    intro leaf member
    apply moved.moves.isLeaf
    exact ⟨index, meters, ondemandMac, known, member⟩
  next => exact moved.state.trans inside

theorem steady_enableNetwork (ondemandMac : Bytes) (fuota : Fuota)
    (inside : fuota.machine.ondemandFuotaState = .networkSilence) :
    Steady permitted fuota (enableNetwork ondemandMac fuota).2 := by
  apply moved_bind steady_trans (unseen_undernodes.steady fuota)
  intro meters after ran moved
  split
  next => exact steady_refl after
  next =>
    apply moved_bind steady_trans (steady_visitLeaves enableLeaf .networkSilence steady_enableLeaf meters
      ondemandMac after (undernodes_queried ran) (moved.state.trans inside))
    intro _ last _ _
    exact steady_refl last

end Leaves

/-- By moves to a state, with the hop count of the request and the queue as they were. -/
structure Reached (permitted : Cause -> Core -> Prop) (before : Fuota) (state : FuotaState)
    (after : Fuota) : Prop where
  moves : Path permitted before after
  state : after.machine.ondemandFuotaState = state
  hopCount : after.client.hopCount = before.client.hopCount
  queue : after.client.rfMeterFuota = before.client.rfMeterFuota

section Reaching

theorem path_setState (next : FuotaState) (fuota : Fuota)
    (leads : Leads (core fuota).hops fuota.machine.ondemandFuotaState next) :
    Path permitted fuota (setState next fuota).2 := path_move (Move.assigned (core fuota) next leads) rfl

theorem path_jump (cause : Cause) (next : FuotaState) (fuota : Fuota)
    (ok : permitted cause (core fuota))
    (jumps : Jumps cause fuota.machine.ondemandFuotaState next fuota.client.rfMeterFuota) :
    Path permitted fuota (setState next fuota).2 :=
  path_move (Move.jumped (core fuota) cause next ok jumps) rfl

def Aimed (hopCount : Int) (fuota : Fuota) : Prop := fuota.client.hopCount = hopCount

theorem aimed_stable {hopCount : Int} : Stable permitted (Aimed hopCount) :=
  fun _ _ steady aimed => steady.hopCount.trans aimed

variable {before : Fuota} {state : FuotaState}

theorem reached_start (inside : before.machine.ondemandFuotaState = state) :
    Reached permitted before state before := ⟨path_refl before, inside, rfl, rfl⟩

theorem Reached.steady {fuota after : Fuota} (reached : Reached permitted before state fuota)
    (moved : Steady permitted fuota after) : Reached permitted before state after :=
  ⟨reached.moves.trans moved.moves, moved.state.trans reached.state,
    moved.hopCount.trans reached.hopCount, moved.queue.trans reached.queue⟩

theorem Reached.assigned {fuota : Fuota} (reached : Reached permitted before state fuota)
    (next : FuotaState) (leads : Leads (core before).hops state next) :
    Reached permitted before next (setState next fuota).2 := by
  refine ⟨reached.moves.trans (path_setState next fuota ?_), rfl, reached.hopCount, reached.queue⟩
  rw [reached.state, Core.hops, (moves_fixed reached.moves).2.2]
  exact leads

theorem Reached.proceeded {fuota : Fuota} (reached : Reached permitted before state fuota)
    (next : FuotaState) (follows : Follows state next) :
    Reached permitted before next (proceed next fuota).2 := by
  refine ⟨reached.moves.trans (path_move (Move.proceeded (core fuota) next ?_) ?_), rfl,
    reached.hopCount, reached.queue⟩
  next =>
    have same : (core fuota).state = state := reached.state
    rw [same]
    exact follows
  next => simp [proceed, update, core, Core.assign, Core.note]

/-- A program that takes the machine from one state to another. -/
def Goes (permitted : Cause -> Core -> Prop) (before : Fuota) {A : Type} (state : FuotaState)
    (prog : Prog Fuota A) (next : FuotaState) : Prop :=
  Triple (Path permitted before) (Reached permitted before state) prog
    fun _ => Reached permitted before next

theorem goes_of {A : Type} {prog : Prog Fuota A} {next : FuotaState}
    (moves : forall fuota, Reached permitted before state fuota ->
      Reached permitted before next (prog fuota).2) : Goes permitted before state prog next := by
  intro fuota known
  have moved := moves fuota known
  cases ran : prog fuota with
  | mk outcome last =>
    rw [ran] at moved
    cases outcome with
    | none => exact moved.moves
    | some result => exact moved

theorem goes_steady {A : Type} {prog : Prog Fuota A} (moves : Respects (Steady permitted) prog) :
    Goes permitted before state prog state := goes_of fun fuota known => known.steady (moves fuota)

theorem goes_within {A : Type} {prog : Prog Fuota A}
    (moves : Respects (Within permitted (Aimed before.client.hopCount)) prog) :
    Goes permitted before state prog state :=
  goes_of fun fuota known => known.steady (moves fuota known.hopCount)

theorem goes_setState (next : FuotaState) (leads : Leads (core before).hops state next) :
    Goes permitted before state (setState next) next :=
  goes_of fun _ known => known.assigned next leads

theorem goes_proceed (next : FuotaState) (follows : Follows state next) :
    Goes permitted before state (proceed next) next :=
  goes_of fun _ known => known.proceeded next follows

theorem goes_bind {A B : Type} {first : Prog Fuota A} {next : A -> Prog Fuota B}
    {middle last : FuotaState} (moved : Goes permitted before state first middle)
    (later : forall value, Goes permitted before middle (next value) last) :
    Goes permitted before state (first >>= next) last := triple_bind _ moved later

/-- Where a state is reached behind a program, also by a program that is still waiting. -/
theorem goes_moves {A : Type} {prog : Prog Fuota A} (state next : FuotaState)
    (goes : Goes permitted before state prog next)
    (inside : before.machine.ondemandFuotaState = state) : Path permitted before (prog before).2 := by
  have moved := goes before (reached_start inside)
  cases ran : prog before with
  | mk outcome last =>
    rw [ran] at moved
    cases outcome with
    | none => exact moved
    | some result => exact moved.moves

end Reaching

section Unsilencing

/-- A steady program, and behind it moves from a state that is still known. -/
theorem steady_path_bind {A B : Type} {first : Prog Fuota A} {next : A -> Prog Fuota B} (fuota : Fuota)
    (steady : Steady permitted fuota (first fuota).2)
    (behind : forall value after, first fuota = (some value, after) -> Steady permitted fuota after ->
      Path permitted after (next value after).2) : Path permitted fuota ((first >>= next) fuota).2 := by
  apply moved_bind path_trans steady.moves
  intro value after ran _
  rw [ran] at steady
  exact behind value after ran steady

theorem silenceCommand_sequence {step : Nat} {command : Bytes} (known : silenceCommand step = some command) :
    SequenceCommand command := ⟨step, Or.inl known⟩

theorem unsilenceCommand_sequence {step : Nat} {command : Bytes}
    (known : unsilenceCommand step = some command) : SequenceCommand command := ⟨step, Or.inr known⟩

theorem steady_prepareToUnsilenceTheGatewayNode :
    Respects (Steady permitted) prepareToUnsilenceTheGatewayNode := by
  apply steady_bind (steady_observe _)
  intro step
  split
  next command known =>
    apply steady_bind (steady_framePmeshOtaCmdHeader _ command (unsilenceCommand_sequence known))
    intro _
    exact steady_bind steady_buildAndStoreFuotaCmd fun _ => steady_pure ()
  next => exact steady_pure ()

theorem steady_targetTheGateway : Respects (Steady permitted) targetTheGateway :=
  fun fuota => steady_move (Move.retargeted (core fuota) fuota.radio.dcuShortAddr) rfl rfl rfl rfl

theorem unseen_nodelistEmpty : Unseen nodelistEmpty := fun _ => rfl

/-- The nodes are asked for, or those of the answer already unsilenced. -/
def Unsilencing (permitted : Cause -> Core -> Prop) (before after : Fuota) : Prop :=
  Reached permitted before .networkUnsilence after \/ Reached permitted before .gatewayPathUnsilence after

variable {before : Fuota}

theorem Reached.skipped {fuota : Fuota} (reached : Reached permitted before .networkUnsilence fuota)
    (ok : forall now, permitted .skipped now) (found : (core fuota).HasAnswer) :
    Reached permitted before .gatewayPathUnsilence (setState .gatewayPathUnsilence fuota).2 :=
  ⟨reached.moves.trans (path_move (Move.skipped (core fuota) (ok _) reached.state found) rfl), rfl,
    reached.hopCount, reached.queue⟩

theorem Path.answered {fuota after : Fuota} (path : Path permitted fuota after)
    (found : (core fuota).HasAnswer) : (core after).HasAnswer := by
  rw [Core.HasAnswer, (moves_fixed path).1]
  exact found

theorem processRffuotaDisableSequence_unsilencing (ok : forall now, permitted .skipped now)
    (ondemandMac : Bytes) :
    Triple (Path permitted before) (Reached permitted before .networkUnsilence)
      (processRffuotaDisableSequence ondemandMac) fun _ => Unsilencing permitted before := by
  apply triple_bind fun meters after => Reached permitted before .networkUnsilence after /\
    exists index, (core after).inputs.meters index = some meters
  next =>
    intro fuota reached
    have goes : Goes permitted before .networkUnsilence undernodes .networkUnsilence :=
      goes_steady unseen_undernodes.steady
    have moved := goes fuota reached
    cases ran : undernodes fuota with
    | mk outcome after =>
      rw [ran] at moved
      cases outcome with
      | none => exact moved
      | some meters => exact ⟨moved, undernodes_queried ran⟩
  next =>
    intro meters
    split
    next => exact triple_pure () fun _ known => Or.inl known.1
    next some_ =>
      apply triple_bind fun _ after => Reached permitted before .networkUnsilence after /\
        (core after).HasAnswer
      next =>
        rintro fuota ⟨reached, queried⟩
        have steady : Steady permitted fuota (visitLeaves disableLeaf meters ondemandMac fuota).2 :=
          steady_visitLeaves disableLeaf .networkUnsilence steady_disableLeaf meters ondemandMac fuota
            queried reached.state
        obtain ⟨index, known⟩ := queried
        cases ran : visitLeaves disableLeaf meters ondemandMac fuota with
        | mk outcome after =>
          rw [ran] at steady
          cases outcome with
          | none => exact reached.moves.trans steady.moves
          | some _ =>
            refine ⟨reached.steady steady, Or.inr ⟨index, meters, ?_, some_⟩⟩
            rw [(moves_fixed steady.moves).1]
            exact known
      next =>
        intro _ fuota known
        exact Or.inr (known.1.skipped ok known.2)

theorem prepareCommandsToUnsilenceTheNetworkForFuota_unsilencing (ok : forall now, permitted .skipped now) :
    Triple (Path permitted before) (Reached permitted before .networkUnsilence)
      prepareCommandsToUnsilenceTheNetworkForFuota fun _ => Unsilencing permitted before := by
  apply triple_bind _ (goes_steady unseen_undernodes.steady)
  intro meters
  apply triple_bind _ (goes_steady (Unseen.steady fun _ => rfl))
  intro _
  apply triple_bind _ (goes_steady (Unseen.steady fun _ => rfl))
  intro _
  apply triple_bind _ (goes_steady (steady_observe _))
  exact fun mac => processRffuotaDisableSequence_unsilencing ok mac

theorem sendNetworkUnsilence_unsilencing (ok : forall now, permitted .skipped now) :
    Triple (Path permitted before) (Reached permitted before .networkUnsilence)
      sendNetworkUnsilence fun _ => Unsilencing permitted before := by
  apply triple_bind fun empty after => Reached permitted before .networkUnsilence after /\
    (empty = true -> (core after).HasAnswer)
  next =>
    intro fuota reached
    exact ⟨reached.steady (unseen_nodelistEmpty.steady fuota),
      fun empty => Or.inl ⟨fuota.counters.listsCounted, empty⟩⟩
  next =>
    intro empty
    cases empty with
    | false =>
      apply (prepareCommandsToUnsilenceTheNetworkForFuota_unsilencing ok).weaken
      next => exact fun _ known => known.1
      next => exact fun _ _ later => later
    | true =>
      apply triple_bind fun _ after => Reached permitted before .networkUnsilence after /\
        (core after).HasAnswer
      next =>
        intro fuota known
        have steady : Steady permitted fuota (targetTheGateway fuota).2 := steady_targetTheGateway fuota
        exact ⟨known.1.steady steady, steady.moves.answered (known.2 rfl)⟩
      next =>
        intro _
        apply triple_bind fun _ => Reached permitted before .gatewayPathUnsilence
        next => exact fun fuota known => known.1.skipped ok known.2
        next =>
          intro _
          apply (goes_steady steady_prepareToUnsilenceTheGatewayNode).weaken
          next => exact fun _ known => known
          next => exact fun _ _ later => Or.inr later

/-- The next command of the queue cannot be read: the state stays what it was. -/
def Stuck (before : Fuota) : Prop := exists command rest, before.client.rfMeterFuota = command :: rest /\
  (split colon command).length < 7

theorem parseAndUpdateFuotaRequest_ran (command : Bytes) (fuota : Fuota) :
    parseAndUpdateFuotaRequest command fuota =
      if (split colon command).length < 7 then (some false, fuota)
      else match stoi (part (split colon command) 0) with
        | .error _ => (none, fuota)
        | .ok requestId => (some true, { fuota with
            client := { fuota.client with
              requestId := requestId
              firmwarePath := part (split colon command) 5
              firmwareFilename := part (split colon command) 6 }
            firmware := { fuota.firmware with firmwareFile := part (split colon command) 6 } }) := by
  simp only [parseAndUpdateFuotaRequest]
  split
  next => rfl
  next =>
    cases id : stoi (part (split colon command) 0) with
    | error kind => exact waited_bind rfl
    | ok requestId => rfl

/-- Where the completion of a request leaves the machine. -/
def Completed (permitted : Cause -> Core -> Prop) (before : Fuota) (state : FuotaState) (after : Fuota) :
    Prop :=
  Path permitted before after /\ (after.machine.ondemandFuotaState = .networkUnsilence \/
    after.machine.ondemandFuotaState = .gatewayPathUnsilence \/
    after.machine.ondemandFuotaState = .openFile \/
    Stuck before /\ after.machine.ondemandFuotaState = state /\
      after.client.hopCount = before.client.hopCount)

/-- The queue is one shorter, or its front is the request from now on. -/
theorem continueWith_completed (ok : forall now, permitted .completed now) (state : FuotaState)
    (command : Bytes) (rest : List Bytes) (fuota : Fuota) (reached : Reached permitted before state fuota)
    (queue : fuota.client.rfMeterFuota = command :: rest) :
    Triple (Path permitted before)
      (· = { fuota with client := { fuota.client with rfMeterFuota := rest } })
      (continueWith command) fun _ => Completed permitted before state := by
  have shrunk : Move permitted (core fuota) { core fuota with queue := rest } :=
    Move.shrunk (core fuota) rest (by simp [core, queue])
  let taken : Fuota := { fuota with
    client := { fuota.client with rfMeterFuota := rest }
    machine := { fuota.machine with cmdBytes := command } }
  have parsed := parseAndUpdateFuotaRequest_ran command taken
  apply triple_ran (show setMachine _ _ = (some (), taken) from rfl)
  by_cases short : (split colon command).length < 7
  next =>
    rw [if_pos short] at parsed
    apply triple_ran parsed
    refine triple_result (show _ = (some (), taken) from rfl) ⟨?_, Or.inr (Or.inr (Or.inr ?_))⟩
    next => exact reached.moves.trans (path_move shrunk rfl)
    next => exact ⟨⟨command, rest, reached.queue.symm.trans queue, short⟩, reached.state, reached.hopCount⟩
  next =>
    rw [if_neg short] at parsed
    cases id : stoi (part (split colon command) 0) with
    | error kind =>
      rw [id] at parsed
      intro start here
      rw [here, waited_bind parsed]
      exact reached.moves.trans (path_move shrunk rfl)
    | ok requestId =>
      rw [id] at parsed
      apply triple_ran parsed
      refine triple_result (show _ = (some (), _) from rfl) ⟨?_, Or.inr (Or.inr (Or.inl rfl))⟩
      apply path_trans before fuota _ reached.moves
      apply path_move (Move.completed (core fuota) command rest requestId (ok _) queue (by omega) id)
      simp [taken, core, Core.note, Core.assign]

theorem handleFuotaCompletion_completed (ok : forall now, permitted .completed now)
    (skip : forall now, permitted .skipped now) (state : FuotaState) :
    Triple (Path permitted before) (Reached permitted before state) handleFuotaCompletion
      fun _ => Completed permitted before state := by
  intro fuota reached
  have whole : Triple (Path permitted before) (· = fuota) handleFuotaCompletion
      fun _ => Completed permitted before state := by
    cases queue : fuota.client.rfMeterFuota with
    | nil =>
      apply triple_ran (show dequeueFuota fuota = (some none, fuota) by simp [dequeueFuota, queue])
      apply triple_ran (show setState .networkUnsilence fuota =
        (some (), (setState .networkUnsilence fuota).2) from rfl)
      apply Triple.weaken (sendNetworkUnsilence_unsilencing skip)
      next =>
        intro start here
        rw [here]
        exact ⟨reached.moves.trans (path_jump .completed .networkUnsilence fuota (ok _) ⟨queue, rfl⟩), rfl,
          reached.hopCount, reached.queue⟩
      next =>
        intro _ after unsilencing
        rcases unsilencing with asked | skipped
        · exact ⟨asked.moves, Or.inl asked.state⟩
        · exact ⟨skipped.moves, Or.inr (Or.inl skipped.state)⟩
    | cons command rest =>
      apply triple_ran (show dequeueFuota fuota = (some (some command), { fuota with
          client := { fuota.client with rfMeterFuota := rest } }) by simp [dequeueFuota, queue])
      exact continueWith_completed ok state command rest fuota reached queue
  exact whole fuota rfl

end Unsilencing

end Hes.Fuota
