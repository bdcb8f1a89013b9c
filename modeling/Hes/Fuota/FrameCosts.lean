import Hes.Fuota.LeafCover
import Hes.Lib.Graded

set_option autoImplicit false

namespace Hes.Fuota

open Prog Mqtt

/-- A frame outside of the upload loop, in which the state is FW_IMAGE_TRANSFER. -/
def Event.transmits : Event -> Bool
  | .sent frame => frame.state ≠ .fwImageTransfer
  | _ => false

def transmitted (log : List Event) : Nat := log.countP Event.transmits

/-- One read gives no more than the buffer of `recv` holds, and the node lists have a limit. -/
structure InNetwork (nodes : Nat) (inputs : Inputs) : Prop where
  received : forall index bytes, inputs.arrival index = .data bytes -> bytes.length ≤ 1024
  listed : forall index meters, inputs.meters index = some meters -> meters.length ≤ nodes

/-- All that the machine decides by whether it goes on. -/
structure Place where
  state : FuotaState
  cntx : RetryContext
  active : Bool
  gateway : Nat
  target : Nat
  unsilence : Nat
  hops : UInt8
  queue : List Bytes
  deriving DecidableEq, Repr

def place (fuota : Fuota) : Place where
  state := fuota.machine.ondemandFuotaState
  cntx := fuota.machine.cntx
  active := fuota.machine.cntxActive
  gateway := fuota.machine.fuotaGatewaySilenceState
  target := fuota.machine.fuotaTargetnodeSilenceState
  unsilence := fuota.machine.fuotaGatewayUnsilenceState
  hops := fuota.radio.routerPath.hopCount
  queue := fuota.client.rfMeterFuota

/-- The upload counts its own retries and may spend those of the machine. -/
def Place.seen (uploads : Bool) (here : Place) : Place :=
  if uploads then { here with cntx := { here.cntx with retryCount := 0, alternateRetry := 0 } } else here

theorem seen_state (uploads : Bool) (here : Place) : (here.seen uploads).state = here.state := by
  cases uploads <;> rfl

variable {nodes : Nat} {uploads : Bool} {here : Place}

/-- The machine stays in its place and transmits no more than `cost` frames. -/
def Costs (nodes : Nat) (uploads : Bool) (here : Place) (cost : Nat) (before after : Fuota) : Prop :=
  InNetwork nodes before.inputs -> (place before).seen uploads = here ->
    after.inputs = before.inputs /\ (place after).seen uploads = here /\
      transmitted after.log ≤ transmitted before.log + cost

theorem costs_graded : Graded (Costs nodes uploads here) where
  refl _ _ known := ⟨rfl, known, Nat.le_refl _⟩
  trans cost more first second third before behind network known := by
    obtain ⟨inputs, stays, less⟩ := before network known
    obtain ⟨inputsToo, staysToo, lessToo⟩ := behind (inputs ▸ network) stays
    exact ⟨inputsToo.trans inputs, staysToo, by omega⟩
  mono cost more before after below costs network known := by
    obtain ⟨inputs, stays, less⟩ := costs network known
    exact ⟨inputs, stays, by omega⟩

theorem costs_same {before after : Fuota} (inputs : after.inputs = before.inputs)
    (stays : (place after).seen uploads = (place before).seen uploads) (log : after.log = before.log) :
    Costs nodes uploads here 0 before after :=
  fun _ known => ⟨inputs, stays.trans known, by rw [log]; exact Nat.le_refl _⟩

theorem costs_event {before after : Fuota} (event : Event) (other : event.transmits = false)
    (inputs : after.inputs = before.inputs) (stays : place after = place before)
    (log : after.log = before.log ++ [event]) : Costs nodes uploads here 0 before after := by
  intro _ known
  refine ⟨inputs, by rw [stays]; exact known, ?_⟩
  rw [log, transmitted, List.countP_append, List.countP_singleton, other]
  simp [transmitted]

section Parts

theorem bind_costs {A B : Type} {first : Prog Fuota A} {next : A -> Prog Fuota B} (cost more : Nat)
    (before : Respects (Costs nodes uploads here cost) first)
    (behind : forall value, Respects (Costs nodes uploads here more) (next value)) :
    Respects (Costs nodes uploads here (cost + more)) (first >>= next) :=
  graded_bind costs_graded cost more before behind

theorem free_costs {A B : Type} {first : Prog Fuota A} {next : A -> Prog Fuota B} {cost : Nat}
    (before : Respects (Costs nodes uploads here 0) first)
    (behind : forall value, Respects (Costs nodes uploads here cost) (next value)) :
    Respects (Costs nodes uploads here cost) (first >>= next) :=
  Nat.zero_add cost ▸ bind_costs 0 cost before behind

theorem costs_free {A B : Type} {first : Prog Fuota A} {next : A -> Prog Fuota B} {cost : Nat}
    (before : Respects (Costs nodes uploads here cost) first)
    (behind : forall value, Respects (Costs nodes uploads here 0) (next value)) :
    Respects (Costs nodes uploads here cost) (first >>= next) :=
  bind_costs cost 0 before behind

theorem pure_costs {A : Type} (cost : Nat) (value : A) :
    Respects (Costs nodes uploads here cost) (pure value : Prog Fuota A) :=
  graded_free costs_graded cost (graded_pure costs_graded value)

theorem observe_costs {A : Type} (view : Fuota -> A) :
    Respects (Costs nodes uploads here 0) (observe view) := graded_observe costs_graded view

theorem updateStatus_costs (status errorCode : Nat) :
    Respects (Costs nodes uploads here 0) (updateStatus status errorCode) := by
  intro fuota
  simp only [updateStatus, ondemandFuotaUpdateStatus, observe, update, bind]
  split
  next => exact costs_same rfl rfl rfl
  next =>
    split
    next => split <;> exact costs_event _ rfl rfl rfl rfl
    next => split <;> exact costs_event _ rfl rfl rfl rfl

theorem recorded_costs (meterMac : Bytes) (status : Nat) (hopCount : UInt8) :
    Respects (Costs nodes uploads here 0) (insertUpdateUnsilencedMeter meterMac status hopCount) :=
  fun _ => costs_event _ rfl rfl rfl rfl

theorem framePmeshOta_costs (packetType : UInt8) (cmdData : Bytes) :
    Respects (Costs nodes uploads here 0) (framePmeshOtaCmdHeader packetType cmdData) :=
  fun _ => costs_same rfl rfl rfl

theorem framePmeshTarget_costs (packetType : UInt8) (cmdData : Bytes) :
    Respects (Costs nodes uploads here 0) (framePmeshFuotaCmdHeaderForTargetNode packetType cmdData) := by
  intro fuota
  simp only [framePmeshFuotaCmdHeaderForTargetNode, observe, setRadio, update, bind]
  split
  next => exact costs_same rfl rfl rfl
  next => exact costs_same rfl rfl rfl

theorem frameNetwork_costs (packetType : UInt8) (cmdData : Bytes) :
    Respects (Costs nodes uploads here 0) (frameFuotaCmdheaderForNetwork packetType cmdData) := by
  intro fuota
  simp only [frameFuotaCmdheaderForNetwork, observe, setRadio, update, bind]
  split
  next => exact costs_same rfl rfl rfl
  next => exact costs_same rfl rfl rfl

/-- What a frame costs in a place. -/
def Place.frame (here : Place) : Nat := if here.state = .fwImageTransfer then 0 else 1

theorem frame_le (here : Place) : here.frame ≤ 1 := by
  unfold Place.frame
  split <;> omega

theorem writeFrame_costs : Respects (Costs nodes uploads here here.frame) writeFrame := by
  intro fuota _ known
  refine ⟨rfl, known, ?_⟩
  have state : fuota.machine.ondemandFuotaState = here.state := by
    rw [← known, seen_state]
    rfl
  show transmitted (fuota.log ++ [_]) ≤ _
  rw [transmitted, List.countP_append, List.countP_singleton, Place.frame, ← state]
  by_cases uploading : fuota.machine.ondemandFuotaState = .fwImageTransfer
  next => simp [transmitted, Event.transmits, uploading]
  next => simp [transmitted, Event.transmits, uploading]

theorem buildNetworkCommand_costs : Respects (Costs nodes uploads here 0) buildNetworkCommand := by
  apply free_costs (observe_costs _)
  intro machine
  split
  next => exact frameNetwork_costs _ _
  next => exact pure_costs 0 ()

theorem buildAndStoreFuotaCmd_costs : Respects (Costs nodes uploads here 1) buildAndStoreFuotaCmd := by
  apply free_costs buildNetworkCommand_costs
  intro _
  apply costs_free (graded_most costs_graded 1 (frame_le here) writeFrame_costs)
  intro written
  split
  next =>
    apply free_costs fun _ => costs_same rfl rfl rfl
    intro _
    exact free_costs (fun _ => costs_same rfl rfl rfl) fun _ => pure_costs 0 true
  next => exact pure_costs 0 false

theorem sendToTarget_costs (packetType : UInt8) (command : Bytes) :
    Respects (Costs nodes uploads here 1) (sendToTarget packetType command) := by
  apply free_costs (framePmeshTarget_costs _ _)
  exact fun _ => costs_free buildAndStoreFuotaCmd_costs fun _ => pure_costs 0 ()

end Parts

section Sequences

/-- The frames that a wait may still resend: each for a busy frame of the buffer, which is shorter
behind it, or for one of the three timeouts. -/
def socketPotential (vars : SocketVars) : Nat :=
  if vars.rfRetryCount < rfMaxRetries then
    max vars.recvbuf.length 1280 + (rfMaxRetries - vars.rfRetryCount) * 1281
  else vars.recvbuf.length

theorem resend_costs (vars paying : SocketVars) (paid : 1 + socketPotential { vars with
      rfRetryCount := vars.rfRetryCount + 1 } ≤ socketPotential paying) (fuota : Fuota) :
    Paid (Costs nodes uploads here) socketPotential (socketPotential paying) fuota
      (resend vars fuota) := by
  have wrote := graded_most costs_graded 1 (frame_le here)
    (@writeFrame_costs nodes uploads here) fuota
  unfold resend
  by_cases written : fuota.inputs.write fuota.counters.writes
  next =>
    have ran : writeFrame fuota = (some true, (writeFrame fuota).2) :=
      congrArg (fun result => (some result, (writeFrame fuota).2)) written
    rw [ran_bind ran]
    exact ⟨1, wrote, paid⟩
  next =>
    have ran : writeFrame fuota = (some false, (writeFrame fuota).2) :=
      congrArg (fun result => (some result, (writeFrame fuota).2)) (eq_false_of_ne_true written)
    rw [ran_bind ran]
    exact costs_graded.mono 1 _ _ _ (by omega) wrote

theorem potential_counted (vars next : SocketVars)
    (counted : next.rfRetryCount = vars.rfRetryCount + 1)
    (consumed : next.recvbuf.length < vars.recvbuf.length \/
      vars.rfRetryCount < rfMaxRetries /\ next.recvbuf.length ≤ vars.recvbuf.length) :
    1 + socketPotential next ≤ socketPotential vars := by
  unfold socketPotential
  rw [counted]
  by_cases left : vars.rfRetryCount < rfMaxRetries
  next =>
    by_cases more : vars.rfRetryCount + 1 < rfMaxRetries
    next => rw [if_pos left, if_pos more]; omega
    next => rw [if_pos left, if_neg more]; omega
  next => rw [if_neg left, if_neg (by omega)]; omega

theorem potential_read (vars : SocketVars) (bytes : Bytes) (left : vars.rfRetryCount < rfMaxRetries)
    (missing : firstFrame vars.recvbuf = none) (short : bytes.length ≤ 1024) :
    socketPotential { vars with recvbuf := vars.recvbuf ++ bytes } ≤ socketPotential vars := by
  have few := firstFrame_none vars.recvbuf missing
  unfold socketPotential
  simp only [left, if_true, List.length_append]
  omega

theorem handleFrame_costs (frame rest : Bytes) (vars : SocketVars)
    (found : firstFrame vars.recvbuf = some (frame, rest)) (fuota : Fuota) :
    Paid (Costs nodes uploads here) socketPotential (socketPotential vars) fuota
      (handleFrame frame { vars with recvbuf := rest } fuota) := by
  have shorter := firstFrame_rest vars.recvbuf frame rest found
  unfold handleFrame
  split
  next =>
    exact resend_costs { vars with recvbuf := rest } vars
      (potential_counted vars _ rfl (Or.inl shorter)) fuota
  next =>
    split
    next => exact costs_graded.mono 0 _ _ _ (Nat.zero_le _) (costs_graded.refl fuota)
    next => exact costs_graded.mono 0 _ _ _ (Nat.zero_le _) (costs_graded.refl fuota)

theorem waitForSocketResponse_costs :
    Respects (Costs nodes uploads here (socketPotential {})) waitForSocketResponse := by
  apply free_costs (observe_costs _)
  intro fuel
  apply graded_loop costs_graded socketTurn socketPotential fun fuota => InNetwork nodes fuota.inputs
  next => exact fun cost state after outside network => absurd network outside
  intro vars fuota network
  unfold socketTurn
  cases found : firstFrame vars.recvbuf with
  | some complete => exact handleFrame_costs complete.1 complete.2 vars found fuota
  | none =>
    dsimp only
    by_cases left : vars.rfRetryCount < rfMaxRetries
    next =>
      rw [if_pos left]
      let heard : Fuota := { fuota with
        counters := { fuota.counters with arrivals := fuota.counters.arrivals + 1 } }
      have read : Costs nodes uploads here 0 fuota heard := costs_same rfl rfl rfl
      rw [ran_bind (show nextArrival fuota =
        (some (fuota.inputs.arrival fuota.counters.arrivals), heard) from rfl)]
      cases arrival : fuota.inputs.arrival fuota.counters.arrivals with
      | failed => exact costs_graded.mono 0 _ _ _ (Nat.zero_le _) read
      | timedOut =>
        exact (resend_costs vars vars
          (potential_counted vars _ rfl (Or.inr ⟨left, Nat.le_refl _⟩)) heard).behind costs_graded read
      | data bytes =>
        dsimp only
        by_cases closed : bytes = []
        next =>
          rw [if_pos closed]
          exact costs_graded.mono 0 _ _ _ (Nat.zero_le _) read
        next =>
          rw [if_neg closed]
          refine ⟨0, read, ?_⟩
          rw [Nat.zero_add]
          exact potential_read vars bytes left found (network.received _ bytes arrival)
    next =>
      rw [if_neg left]
      exact costs_graded.mono 0 _ _ _ (Nat.zero_le _) (costs_graded.refl fuota)

/-- A command and the frames that are resent for it. -/
def stepCost : Nat := 1 + socketPotential {}

theorem executeStep_costs (attempts : Nat) :
    Respects (Costs nodes uploads here (attempts * stepCost)) (executeStep attempts) := by
  induction attempts with
  | zero => exact pure_costs _ false
  | succ attempts ih =>
    rw [Nat.succ_mul, Nat.add_comm, stepCost, Nat.add_assoc]
    apply bind_costs 1 _ buildAndStoreFuotaCmd_costs
    intro written
    split
    next =>
      apply bind_costs _ _ waitForSocketResponse_costs
      intro answered
      split
      next =>
        apply free_costs (observe_costs _)
        intro radio
        exact free_costs (fun _ => costs_event _ rfl rfl rfl rfl) fun _ => pure_costs _ true
      next => exact ih
    next => exact graded_most costs_graded _ (Nat.le_add_left _ _) ih

theorem executeFuotasequence_costs (steps : List Nat) :
    Respects (Costs nodes uploads here (steps.length * (3 * stepCost))) (executeFuotasequence steps) := by
  induction steps with
  | nil => exact pure_costs _ true
  | cons step rest ih =>
    rw [List.length_cons, Nat.succ_mul, Nat.add_comm]
    apply free_costs fun _ => costs_same rfl rfl rfl
    intro _
    apply bind_costs _ _ (executeStep_costs 3)
    intro done
    split
    next => exact ih
    next => exact pure_costs _ false

/-- The four steps for one leaf. -/
def leafCost : Nat := 4 * (3 * stepCost)

theorem addressLeaf_costs (leaf : MeterVitalInfo) :
    Respects (Costs nodes uploads here 0) (addressLeaf leaf) := by
  apply free_costs fun _ => costs_same rfl rfl rfl
  intro _
  apply free_costs (observe_costs _)
  intro routes
  split
  next => exact pure_costs 0 false
  next => exact free_costs (fun _ => costs_same rfl rfl rfl) fun _ => pure_costs 0 true

theorem sendFuotaEnableToLeaf_costs (leaf : MeterVitalInfo) :
    Respects (Costs nodes uploads here leafCost) (sendFuotaEnableToLeaf leaf) := by
  apply free_costs (addressLeaf_costs leaf)
  intro addressed
  split
  next =>
    apply free_costs fun _ => costs_same rfl rfl rfl
    intro _
    apply costs_free (executeFuotasequence_costs sequenceSteps)
    intro success
    exact free_costs (fun _ => costs_same rfl rfl rfl) fun _ => pure_costs 0 success
  next => exact pure_costs _ false

theorem sendFuotaDisableToLeafNodes_costs (leaf : MeterVitalInfo) :
    Respects (Costs nodes uploads here leafCost) (sendFuotaDisableToLeafNodes leaf) := by
  apply free_costs (addressLeaf_costs leaf)
  intro addressed
  split
  next =>
    apply free_costs fun _ => costs_same rfl rfl rfl
    intro _
    apply costs_free (executeFuotasequence_costs sequenceSteps)
    intro success
    exact free_costs (fun _ => costs_same rfl rfl rfl) fun _ => pure_costs 0 success
  next => exact pure_costs _ false

theorem enableLeaf_costs (leaf : MeterVitalInfo) :
    Respects (Costs nodes uploads here leafCost) (enableLeaf leaf) := by
  apply costs_free (sendFuotaEnableToLeaf_costs leaf)
  intro success
  split <;> exact recorded_costs _ _ _

theorem disableLeaf_costs (leaf : MeterVitalInfo) :
    Respects (Costs nodes uploads here leafCost) (disableLeaf leaf) := by
  apply costs_free (sendFuotaDisableToLeafNodes_costs leaf)
  intro success
  split <;> exact recorded_costs _ _ _

theorem forEach_costs (body : MeterVitalInfo -> Prog Fuota Unit) (cost : Nat)
    (each : forall leaf, Respects (Costs nodes uploads here cost) (body leaf))
    (leaves : List MeterVitalInfo) :
    Respects (Costs nodes uploads here (leaves.length * cost)) (forEach body leaves) := by
  induction leaves with
  | nil => exact pure_costs _ ()
  | cons leaf rest ih =>
    rw [List.length_cons, Nat.succ_mul, Nat.add_comm]
    exact bind_costs _ _ (each leaf) fun _ => ih

theorem detectLeafNodes_length (meters : List MeterVitalInfo) :
    (detectLeafNodes meters).length ≤ meters.length := by
  unfold detectLeafNodes
  rw [List.length_map]
  exact (List.length_filter_le _ _).trans (by simp)

theorem visitLeaves_costs (body : MeterVitalInfo -> Prog Fuota Unit)
    (each : forall leaf, Respects (Costs nodes uploads here leafCost) (body leaf))
    (meters : List MeterVitalInfo) (few : meters.length ≤ nodes) (ondemandMac : Bytes) :
    Respects (Costs nodes uploads here (nodes * leafCost)) (visitLeaves body meters ondemandMac) := by
  apply free_costs fun _ => costs_same rfl rfl rfl
  intro _
  apply graded_most costs_graded _ _ (forEach_costs body leafCost each _)
  exact Nat.mul_le_mul_right _ ((List.length_filter_le _ _).trans ((detectLeafNodes_length meters).trans few))

/-- The nodes that the query answers with are in the network. -/
theorem undernodes_costs {A : Type} {next : List MeterVitalInfo -> Prog Fuota A} (cost : Nat)
    (behind : forall meters, meters.length ≤ nodes ->
      Respects (Costs nodes uploads here cost) (next meters)) :
    Respects (Costs nodes uploads here cost) (undernodes >>= next) := by
  intro fuota
  let asked : Fuota := { fuota with
    counters := { fuota.counters with metersRead := fuota.counters.metersRead + 1 } }
  have free : Costs nodes uploads here 0 fuota asked := costs_same rfl rfl rfl
  have ran : undernodes fuota = (fuota.inputs.meters fuota.counters.metersRead, asked) := by
    rw [undernodes, ran_bind (show getGatewayUndernodes fuota =
      (some (fuota.inputs.meters fuota.counters.metersRead), asked) from rfl)]
    cases fuota.inputs.meters fuota.counters.metersRead <;> rfl
  intro network known
  cases listed : fuota.inputs.meters fuota.counters.metersRead with
  | none =>
    rw [listed] at ran
    rw [waited_bind ran]
    exact costs_graded.mono 0 cost _ _ (Nat.zero_le _) free network known
  | some meters =>
    rw [listed] at ran
    rw [ran_bind ran]
    have later := behind meters (network.listed _ meters listed) asked
    have both := costs_graded.trans 0 cost _ _ _ free later network known
    rwa [Nat.zero_add] at both

theorem enableNetwork_costs (ondemandMac : Bytes) :
    Respects (Costs nodes uploads here (nodes * leafCost)) (enableNetwork ondemandMac) := by
  apply undernodes_costs
  intro meters few
  split
  next => exact pure_costs _ false
  next =>
    exact costs_free (visitLeaves_costs enableLeaf enableLeaf_costs meters few ondemandMac)
      fun _ => pure_costs 0 true

end Sequences

section Alternates

/-- Free for the upload: its retries are the machine's too. -/
theorem setCntx_free (change : RetryContext -> RetryContext)
    (same : forall cntx : RetryContext, (change cntx).maxRetries = cntx.maxRetries /\
      (change cntx).alternateMaxcnt = cntx.alternateMaxcnt) :
    Respects (Costs nodes true here 0) (setCntx change) := by
  intro fuota
  have kept := same fuota.machine.cntx
  have stays : (place (setCntx change fuota).2).seen true = (place fuota).seen true := by
    simp [Place.seen, place, setCntx, setMachine, update, kept.1, kept.2]
  exact costs_same rfl stays rfl

theorem getAlternateSourceRoute_costs : Respects (Costs nodes uploads here 0) getAlternateSourceRoute := by
  intro fuota
  unfold getAlternateSourceRoute
  dsimp only
  split <;> exact costs_same rfl rfl rfl

theorem useAlternate_costs (chosen : Radio -> Option AlternatePathInfo) :
    Respects (Costs nodes uploads here 0) (useAlternate chosen) := by
  apply free_costs (observe_costs _)
  intro radio
  split
  next => exact free_costs (fun _ => costs_same rfl rfl rfl) fun _ => pure_costs 0 true
  next => exact pure_costs 0 false

theorem search_costs (chosen : Radio -> Option AlternatePathInfo) :
    Respects (Costs nodes uploads here 0)
      (getAlternateSourceRoute >>= fun found => if found then useAlternate chosen else pure false) := by
  apply free_costs getAlternateSourceRoute_costs
  intro found
  split
  next => exact useAlternate_costs chosen
  next => exact pure_costs 0 false

theorem updateClientTxBufferWithRoute_costs (payload : Option Bytes) (payloadLen : Nat) :
    Respects (Costs nodes uploads here 0) (updateClientTxBufferWithRoute payload payloadLen) :=
  free_costs (observe_costs _) fun _ _ => costs_same rfl rfl rfl

theorem prepareAlternateRouteRetry_costs (payload : Option Bytes) (payloadLen : Nat) :
    Respects (Costs nodes true here 0) (prepareAlternateRouteRetry payload payloadLen) := by
  apply free_costs
  next => exact setCntx_free _ fun _ => ⟨rfl, rfl⟩
  intro _
  apply free_costs (updateStatus_costs 18 1)
  intro _
  apply free_costs (observe_costs _)
  intro buffer
  dsimp only
  split
  next => exact pure_costs 0 ()
  next =>
    apply free_costs (search_costs _)
    intro found
    split
    next =>
      apply free_costs (updateClientTxBufferWithRoute_costs _ _)
      exact fun _ _ => costs_same rfl rfl rfl
    next => exact setCntx_free _ fun _ => ⟨rfl, rfl⟩

theorem prepareAlternateSamerouteRetry_costs (payload : Option Bytes) (payloadLen : Nat) :
    Respects (Costs nodes true here 0) (prepareAlternateSamerouteRetry payload payloadLen) := by
  unfold prepareAlternateSamerouteRetry
  split
  next => exact pure_costs 0 ()
  next =>
    apply free_costs
    next => exact setCntx_free _ fun _ => ⟨rfl, rfl⟩
    intro _
    apply free_costs (updateStatus_costs 22 1)
    intro _
    apply free_costs (observe_costs _)
    intro buffer
    dsimp only
    split
    next => exact pure_costs 0 ()
    next =>
      apply free_costs (free_costs (updateStatus_costs 22 1) fun _ => search_costs _)
      intro found
      split
      next => exact updateClientTxBufferWithRoute_costs _ _
      next => exact setCntx_free _ fun _ => ⟨rfl, rfl⟩

end Alternates

section Exchanges

/-- In the upload loop the frames do not count. -/
theorem writeFrame_free (inside : here.state = .fwImageTransfer) :
    Respects (Costs nodes uploads here 0) writeFrame := by
  have wrote := @writeFrame_costs nodes uploads here
  rwa [Place.frame, if_pos inside] at wrote

theorem setUpload_costs (change : Upload -> Upload) : Respects (Costs nodes uploads here 0) (setUpload change) :=
  fun _ => costs_same rfl rfl rfl

theorem nextArrival_costs : Respects (Costs nodes uploads here 0) nextArrival :=
  fun _ => costs_same rfl rfl rfl

variable (inside : here.state = .fwImageTransfer)

include inside

theorem lastSectorAttempts_costs (attempts : Nat) :
    Respects (Costs nodes uploads here 0) (lastSectorAttempts attempts) := by
  induction attempts with
  | zero => exact pure_costs 0 none
  | succ attempts ih =>
    apply free_costs (writeFrame_free inside)
    intro written
    split
    next =>
      apply free_costs nextArrival_costs
      intro arrival
      cases arrival with
      | timedOut | failed => exact ih
      | data bytes =>
        dsimp only
        split
        next => exact ih
        next =>
          apply free_costs (free_costs (observe_costs _) fun _ => free_costs (setUpload_costs _)
            fun _ => pure_costs 0 15)
          exact fun _ => pure_costs 0 _
    next => exact ih

theorem lastSectorStatus_costs :
    Respects (Costs nodes uploads here 0) rffuotaReadLastsectorPageAndSubpageStatus := by
  apply free_costs (updateStatus_costs 12 1)
  intro _
  exact free_costs (framePmeshTarget_costs _ _) fun _ => lastSectorAttempts_costs inside 3

theorem jumpToLastSector_costs (forward : Nat) :
    Respects (Costs nodes uploads here 0) (jumpToLastSector forward) := by
  apply free_costs (lastSectorStatus_costs inside)
  intro status
  split
  next => exact pure_costs 0 _
  next =>
    apply free_costs (setUpload_costs _)
    intro _
    have fixed : Respects (Costs nodes uploads here 0) fixPageSubpageAndSeek := by
      apply free_costs (observe_costs _)
      intro sectorValue
      apply free_costs (setUpload_costs _)
      intro _
      apply free_costs (observe_costs _)
      intro upload
      apply free_costs fun _ => costs_same rfl rfl rfl
      intro _
      exact free_costs (setUpload_costs _) fun _ => setUpload_costs _
    apply free_costs fixed
    exact fun _ => free_costs (setUpload_costs _) fun _ => pure_costs 0 _

omit inside in
theorem retryHandling_costs : Respects (Costs nodes true here 0) retryHandling := by
  apply free_costs (observe_costs _)
  intro upload
  split
  next =>
    apply free_costs (setUpload_costs _)
    intro _
    split
    next => exact free_costs (setUpload_costs _) fun _ => pure_costs 0 _
    next =>
      apply free_costs (setUpload_costs _)
      exact fun _ => free_costs (prepareAlternateSamerouteRetry_costs _ _) fun _ => pure_costs 0 _
  next =>
    apply free_costs (setUpload_costs _)
    intro _
    split
    next => exact free_costs (setUpload_costs _) fun _ => pure_costs 0 _
    next => exact pure_costs 0 _

theorem handleFuotaPostRead_costs (bytesRead : Option Nat) :
    Respects (Costs nodes true here 0) (handleFuotaPostRead bytesRead) := by
  apply free_costs (observe_costs _)
  intro upload
  split
  next =>
    apply free_costs
    next => exact setCntx_free _ fun _ => ⟨rfl, rfl⟩
    next => exact fun _ => free_costs (setUpload_costs _) fun _ => pure_costs 0 _
  next =>
    split
    next =>
      apply free_costs (setUpload_costs _)
      exact fun _ => free_costs (updateStatus_costs 4 0) fun _ => pure_costs 0 _
    next =>
      dsimp only
      split
      next => exact jumpToLastSector_costs inside 1
      next =>
        split
        next => exact jumpToLastSector_costs inside 0
        next => exact retryHandling_costs

theorem judge_costs (bytesRead : Option Nat) : Respects (Costs nodes true here 0) (judge bytesRead) := by
  apply free_costs (setUpload_costs _)
  intro _
  apply free_costs (handleFuotaPostRead_costs inside bytesRead)
  intro read
  cases read <;> exact pure_costs 0 _

theorem exchangeTurn_costs (frame : ImageFrame) :
    Respects (Costs nodes true here 0) (exchangeTurn frame) := by
  apply free_costs (observe_costs _)
  intro fuota
  split
  next =>
    apply free_costs fun _ => costs_same rfl rfl rfl
    intro written
    apply free_costs fun _ => costs_event _ rfl rfl rfl rfl
    intro _
    split
    next =>
      apply free_costs nextArrival_costs
      intro arrival
      cases arrival with
      | timedOut => exact free_costs (setUpload_costs _) fun _ => pure_costs 0 _
      | failed => exact judge_costs inside none
      | data bytes =>
        dsimp only
        apply free_costs (setUpload_costs _)
        intro _
        split
        next => exact free_costs (setUpload_costs _) fun _ => pure_costs 0 _
        next => exact judge_costs inside _
    next => exact pure_costs 0 _
  next => exact pure_costs 0 _

theorem exchange_costs (frame : ImageFrame) (fuel : Nat) :
    Respects (Costs nodes true here 0) (loop (fun _ => exchangeTurn frame) fuel ()) :=
  respects_loop costs_graded.refl (fun first second third => costs_graded.trans 0 0 first second third)
    _ (fun _ => exchangeTurn_costs inside frame) fuel ()

end Exchanges

end Hes.Fuota
