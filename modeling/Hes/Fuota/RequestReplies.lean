import Hes.Fuota.Geometry
import Hes.Fuota.RequestFrames

set_option autoImplicit false

namespace Hes.Fuota

open Prog Mqtt

section Orders

variable {nodes : Nat} {first here : Place}

theorem lower_budget (loud : here.state ≠ .networkSilence) (lower : here.rank < first.rank) :
    here.budget nodes + 2 ≤ first.height nodes := by
  have left := left_le here
  have step : here.rank * span nodes + span nodes ≤ first.rank * span nodes := by
    rw [← Nat.succ_mul]
    exact Nat.mul_le_mul_right _ lower
  have wide : 32 ≤ span nodes := Nat.le_add_left 32 _
  have paid : here.budget nodes ≤ here.height nodes + 1 := by
    unfold Place.budget
    split
    next silent => exact absurd silent loud
    all_goals omega
  rw [Place.height] at paid ⊢
  omega

theorem silence_budget (silent : here.state = .networkSilence) (lower : 13 < first.rank) :
    here.budget nodes ≤ first.height nodes := by
  have less : 13 * span nodes ≤ first.rank * span nodes := Nat.mul_le_mul_right _ lower.le
  simp only [Place.budget, silent, Place.height]
  omega

/-- Enough for the frames of the unsilencing, and those that follow it. -/
theorem completion_height (high : 4 ≤ first.rank) : 4 * span nodes ≤ first.height nodes :=
  (Nat.mul_le_mul_right _ high).trans (Nat.le_add_right _ _)

end Orders

section Openings

variable {nodes : Nat} {inputs : Inputs} {queue : List Bytes} {base top : Nat} {here : Place} {cost : Nat}

/-- A file may be open, and the gateway asked to be silent. -/
def Opened (inputs : Inputs) (base : Nat) (here : Place) (cost : Nat) (fuota : Fuota) : Prop :=
  exists state, Stands inputs base { here with state := state } (cost + 1) fuota

theorem Stands.opened {fuota : Fuota} (stands : Stands inputs base here cost fuota) :
    Opened inputs base here cost fuota :=
  ⟨here.state, stands.inputs, stands.place, stands.sent.trans (Nat.le_succ _)⟩

theorem silenceGateway_costs : Respects (Costs nodes false here 1) prepareGatewaySilenceCmd := by
  apply free_costs (observe_costs _)
  intro step
  split
  next =>
    apply free_costs (framePmeshOta_costs _ _)
    exact fun _ => costs_free buildAndStoreFuotaCmd_costs fun _ => pure_costs 0 ()
  next => exact pure_costs 1 ()

variable (network : InNetwork nodes inputs) (fits : Affords (fun _ => 0) queue top here (cost + 1))

include network fits

theorem failed_opened (status : Nat) :
    Triple (Halted queue base top) (Stands inputs base here cost)
      (updateStatus status 1 >>= fun _ => (pure none : Prog Fuota (Option Bytes)))
      fun _ => Opened inputs base here cost := by
  apply stands_free network (fits.mono (by omega)) (updateStatus_costs status 1)
  exact fun _ => triple_pure none fun _ stands => stands.opened

theorem openFirmware_opened (firmwarePath requestedFilename : Bytes) :
    Triple (Halted queue base top) (Stands inputs base here cost)
      (openFirmware firmwarePath requestedFilename) fun _ => Opened inputs base here cost := by
  have now : Affords (fun _ => 0) queue top here cost := fits.mono (by omega)
  apply stands_free network now fun _ => costs_same rfl rfl rfl
  intro content
  cases content with
  | none =>
    apply stands_free network now fun _ => costs_same rfl rfl rfl
    exact fun _ => failed_opened network fits 1
  | some content =>
    apply stands_free network now fun _ => costs_same rfl rfl rfl
    intro _
    apply stands_free network now fun _ => costs_same rfl rfl rfl
    intro _
    apply stands_free network now fun _ => costs_event _ rfl rfl rfl rfl
    intro _
    apply triple_bind _ (setState_goes .gatewayPathSilence)
    intro _
    have silenced : Affords (fun _ => 0) queue top { here with state := .gatewayPathSilence } (cost + 1) :=
      ⟨fits.limited, fits.paid⟩
    apply triple_bind _ (stands_costs network 1 silenceGateway_costs silenced)
    exact fun _ => triple_pure (some firmwarePath) fun _ stands => ⟨_, stands⟩

theorem openRequested_opened (name : Bytes) :
    Triple (Halted queue base top) (Stands inputs base here cost) (openRequestedFirmware name)
      fun _ => Opened inputs base here cost := by
  have now : Affords (fun _ => 0) queue top here cost := fits.mono (by omega)
  unfold openRequestedFirmware
  split
  next => exact failed_opened network fits 2
  next =>
    apply stands_free network now (observe_costs _)
    intro fuota
    apply stands_free network now fun _ => costs_same rfl rfl rfl
    intro _
    split
    next => exact failed_opened network fits 0
    next => exact openFirmware_opened network fits _ _

end Openings

section Handlers

variable {nodes : Nat} {inputs : Inputs} {base : Nat} {here : Place}

theorem answers_note {first : Place} (network : InNetwork nodes inputs) (under : Under first here)
    {B : Type} {next : Unit -> Prog Fuota B} (event : Event) (other : event.transmits = false)
    (behind : Answers nodes inputs base first here (next ())) :
    Answers nodes inputs base first here (note event >>= next) :=
  answers_free network under (fun _ => costs_event event other rfl rfl rfl) fun _ => behind

theorem answers_status {first : Place} (network : InNetwork nodes inputs) (under : Under first here)
    {B : Type} {next : Unit -> Prog Fuota B} (status errorCode : Nat)
    (behind : Answers nodes inputs base first here (next ())) :
    Answers nodes inputs base first here (updateStatus status errorCode >>= next) :=
  answers_free network under (updateStatus_costs status errorCode) fun _ => behind

theorem acknowledgeGateway_costs : Respects (Costs nodes false here 0) acknowledgeGateway := by
  apply free_costs (observe_costs _)
  intro node
  exact free_costs (observe_costs _) fun _ _ => costs_event _ rfl rfl rfl rfl

theorem acknowledgeTarget_costs : Respects (Costs nodes false here 0) acknowledgeTarget := by
  apply free_costs (observe_costs _)
  intro node
  exact free_costs (observe_costs _) fun _ _ => costs_event _ rfl rfl rfl rfl

/-- The tries begin anew. -/
def Place.renewed (here : Place) : Place :=
  { here with cntx := { here.cntx with retryCount := 0, alternateRetry := 0 } }

theorem Under.renewed {first : Place} (under : Under first here) : Under first here.renewed :=
  ⟨under.limited, under.queue⟩

theorem Under.moved {first : Place} (under : Under first here) (state : FuotaState) :
    Under first { here with state := state } := ⟨under.limited, under.queue⟩

theorem proceed_answers {first : Place} (next : FuotaState) (under : Under first here)
    (loud : next ≠ .networkSilence) (lower : { here with state := next }.rank < first.rank) :
    Answers nodes inputs base first here (proceed next) := by
  apply triple_update
  intro fuota stands
  have paid : { here with state := next }.budget nodes + 2 ≤ first.height nodes :=
    lower_budget loud lower
  refine ⟨{ here with state := next }, 0, ⟨stands.inputs, ?_, ?_⟩,
    (under.moved next).affords _ (by omega)⟩
  next => exact congrArg (fun now : Place => { now with state := next }) stands.place
  next =>
    have sent := stands.sent
    rw [transmitted] at sent ⊢
    simpa [Event.transmits] using sent

theorem succeed_answers {first : Place} (next : FuotaState) (under : Under first here)
    (loud : next ≠ .networkSilence) (lower : { here with state := next }.rank < first.rank) :
    Answers nodes inputs base first here (succeed >>= fun _ => proceed next) := by
  apply answers_machine _ Place.renewed fun _ => rfl
  exact proceed_answers next under.renewed loud lower

theorem lower_answers {first : Place} (next : FuotaState) (under : Under first here)
    (loud : next ≠ .networkSilence) (lower : { here with state := next }.rank < first.rank) :
    Answers nodes inputs base first here (setState next) := by
  have paid : { here with state := next }.budget nodes + 2 ≤ first.height nodes :=
    lower_budget loud lower
  exact answers_setState next under (by omega)

theorem begins_answers {first : Place} (change : Machine -> Machine) (effect : Place -> Place)
    (follows : forall fuota : Fuota,
      place { fuota with machine := change fuota.machine } = effect (place fuota))
    (under : Under first (effect here)) (loud : (effect here).state ≠ .networkSilence)
    (lower : (effect here).rank < first.rank) :
    Answers nodes inputs base first here (setMachine change) := by
  have paid : (effect here).budget nodes + 2 ≤ first.height nodes := lower_budget loud lower
  exact answers_setMachine change effect follows under (by omega)

/-- One try less, in the same state. -/
def Place.retried (here : Place) : Place :=
  { here with cntx := { here.cntx with retryCount := here.cntx.retryCount + 1 } }

theorem Under.retried {first : Place} (under : Under first here) : Under first here.retried :=
  ⟨under.limited, under.queue⟩

/-- The states that count the replies they refuse. -/
def counting : List FuotaState :=
  [.sectorRead, .fwimageOfSectorCount, .eraseFlash, .fwImageEndofPageTransfer, .newFwimageCrcCalculate,
    .activateNewFwimage, .readAndCompareFwVersion]

theorem again_answers (state : FuotaState) (entered : here.state = state) (counts : state ∈ counting)
    (few : here.cntx.retryCount < 3) (under : Under here here.retried) :
    Answers nodes inputs base here here.retried (setState state) := by
  apply answers_setState state under
  have less : here.retried.retries + 1 = here.retries := by
    simp only [Place.retries, Place.retried]
    omega
  subst entered
  have room : here.retried.budget nodes ≤ here.height nodes := by
    have same : here.retried.state = here.state := rfl
    simp only [Place.budget, Place.height, Place.rank, Place.left, same]
    generalize here.state = state at counts
    simp only [counting, List.mem_cons, List.not_mem_nil, or_false] at counts
    rcases counts with rfl | rfl | rfl | rfl | rfl | rfl | rfl <;> dsimp only <;> omega
  exact room

section Branches

variable {data : Bytes} (network : InNetwork nodes inputs) (limited : Limited here)

include network limited

theorem replyOpenFile_answers (entered : here.state = .openFile) :
    Answers nodes inputs base here here replyOpenFile := by
  have under : Under here here := ⟨limited, rfl⟩
  have paid : { here with state := .gatewayPathSilence, gateway := atFuotaEnable }.budget nodes + 2 ≤
      here.height nodes := lower_budget (by simp) (by simp [Place.rank, entered])
  have fits : Affords (fun _ => 0) here.queue (here.height nodes) here (0 + 1) :=
    ⟨limited, Or.inr ⟨rfl, by omega⟩⟩
  apply triple_bind fun _ => Opened inputs base here 0
  next =>
    apply stands_look id (fun _ => True) fun _ _ => trivial
    intro fuota _
    split
    next =>
      apply triple_bind _ (openRequested_opened network fits _)
      intro path
      cases path with
      | some path =>
        apply triple_update
        intro last opened
        obtain ⟨state, stands⟩ := opened
        exact ⟨state, stands.inputs, stands.place, stands.sent⟩
      | none => exact triple_pure () fun _ opened => opened
    next =>
      apply triple_bind _ (openRequested_opened network fits _)
      exact fun _ => triple_pure () fun _ opened => opened
  intro _
  apply triple_exists
  intro state
  apply triple_bind _ (setState_goes .gatewayPathSilence)
  intro _
  apply (setMachine_goes _ (fun now => { now with gateway := atFuotaEnable }) fun _ => rfl).weaken fun _ => id
  exact fun _ _ stands => ⟨_, 1, stands, limited, Or.inr ⟨rfl, (Nat.le_succ _).trans paid⟩⟩

theorem replyGatewayPathSilence_answers (entered : here.state = .gatewayPathSilence)
    (goes : accepts .gatewayPathSilence data = true -> stepDone data = true) :
    Answers nodes inputs base here here (replyGatewayPathSilence data) := by
  have under : Under here here := ⟨limited, rfl⟩
  unfold replyGatewayPathSilence
  split
  next accepted =>
    apply answers_status network under
    rw [if_pos (goes accepted)]
    apply answers_free network under acknowledgeGateway_costs
    intro _
    apply answers_look id (place · = here) fun _ same => same
    intro fuota same
    subst same
    split
    next few =>
      apply answers_setMachine _ (fun now => { now with gateway := now.gateway + 1 }) fun _ => rfl
      next => exact ⟨limited, rfl⟩
      next =>
        have step : (place fuota).gateway < 3 := few
        simp only [Place.budget, Place.height, Place.rank, Place.left, entered]
        omega
    next =>
      apply answers_free network under (recorded_costs _ _ _)
      intro _
      split
      next =>
        apply answers_state .targetNodeSilence
        apply begins_answers _ (fun now => { now with gateway := atFuotaEnable }) fun _ => rfl
        next => exact ⟨limited, rfl⟩
        next => simp
        next => simp [Place.rank, entered]
      next =>
        apply answers_state .networkSilence
        apply answers_setMachine _ (fun now => { now with gateway := atFuotaEnable }) fun _ => rfl
        next => exact ⟨limited, rfl⟩
        next => exact silence_budget rfl (by simp [Place.rank, entered])
  next => exact silenceFailed_holds _ _ (fun _ => ⟨rfl, rfl⟩) under.now

theorem replyTargetNodeSilence_answers (entered : here.state = .targetNodeSilence) :
    Answers nodes inputs base here here (replyTargetNodeSilence data) := by
  have under : Under here here := ⟨limited, rfl⟩
  unfold replyTargetNodeSilence
  split
  next =>
    apply answers_free network under acknowledgeTarget_costs
    intro _
    apply answers_look _ (· = here.target) fun _ same => congrArg Place.target same
    intro step known
    subst known
    split
    next few =>
      apply answers_setMachine _ (fun now => { now with target := now.target + 1 }) fun _ => rfl
      next => exact ⟨limited, rfl⟩
      next =>
        have step : here.target < 3 := few
        simp only [Place.budget, Place.height, Place.rank, Place.left, entered]
        omega
    next =>
      apply answers_state .networkSilence
      apply answers_setMachine _ (fun now => { now with target := atFuotaEnable }) fun _ => rfl
      next => exact ⟨limited, rfl⟩
      next => exact silence_budget rfl (by simp [Place.rank, entered])
  next => exact silenceFailed_holds _ _ (fun _ => ⟨rfl, rfl⟩) under.now

omit network in
theorem replyNetworkSilence_answers (late : accepts .networkSilence data = false) :
    Answers nodes inputs base here here (replyNetworkSilence data) := by
  have under : Under here here := ⟨limited, rfl⟩
  unfold replyNetworkSilence
  rw [late, if_neg (by simp)]
  exact silenceFailed_holds _ _ (fun _ => ⟨rfl, rfl⟩) under.now

theorem replyFwimageOfSectorCount_answers (entered : here.state = .fwimageOfSectorCount) :
    Answers nodes inputs base here here (replyFwimageOfSectorCount data) := by
  have under : Under here here := ⟨limited, rfl⟩
  unfold replyFwimageOfSectorCount
  split
  next =>
    apply answers_status network under
    apply answers_machine _ Place.renewed fun _ => rfl
    apply answers_machine _ (fun now => { now with active := false }) fun _ => rfl
    exact proceed_answers .eraseFlash ⟨⟨limited.1, rfl⟩, rfl⟩ (by simp) (by simp [Place.rank, entered])
  next =>
    apply retryOr_answers network 3 _ _ under (completion_height (by simp [Place.rank, entered]))
    next => exact fun few => again_answers _ entered (by simp [counting]) few under.retried
    next => exact pure_costs 0 ()

theorem replyEraseFlash_answers (entered : here.state = .eraseFlash) :
    Answers nodes inputs base here here (replyEraseFlash data) := by
  have under : Under here here := ⟨limited, rfl⟩
  unfold replyEraseFlash
  split
  next =>
    apply answers_status network under
    apply answers_machine _ Place.renewed fun _ => rfl
    exact proceed_answers _ under.renewed (by simp) (by simp [Place.rank, entered])
  next =>
    apply retryOr_answers network 3 _ _ under (completion_height (by simp [Place.rank, entered]))
    next => exact fun few => again_answers _ entered (by simp [counting]) few under.retried
    next => exact pure_costs 0 ()

theorem replyFwImageTransfer_answers (entered : here.state = .fwImageTransfer) :
    Answers nodes inputs base here here replyFwImageTransfer := by
  have under : Under here here := ⟨limited, rfl⟩
  apply answers_status network under
  exact lower_answers _ under (by simp) (by simp [Place.rank, entered])

theorem replyLastUpdate_answers (entered : here.state = .lastUpdateFwimageOfSectorcount) :
    Answers nodes inputs base here here (replyLastUpdate data) := by
  have under : Under here here := ⟨limited, rfl⟩
  apply answers_status network under
  split
  next =>
    apply answers_machine _ Place.renewed fun _ => rfl
    exact lower_answers _ under.renewed (by simp) (by simp [Place.rank, entered])
  next =>
    apply answers_setState _ under
    simp [Place.budget, Place.height, Place.rank, Place.left, entered]

theorem replyFwImageEndofPageTransfer_answers (entered : here.state = .fwImageEndofPageTransfer) :
    Answers nodes inputs base here here (replyFwImageEndofPageTransfer data) := by
  have under : Under here here := ⟨limited, rfl⟩
  unfold replyFwImageEndofPageTransfer
  split
  next =>
    apply answers_status network under
    exact succeed_answers _ under (by simp) (by simp [Place.rank, entered])
  next =>
    apply retryOr_answers network 3 _ _ under (completion_height (by simp [Place.rank, entered]))
    next => exact fun few => again_answers _ entered (by simp [counting]) few under.retried
    next => exact pure_costs 0 ()

theorem replyNewFwimageCrcCalculate_answers (entered : here.state = .newFwimageCrcCalculate) :
    Answers nodes inputs base here here (replyNewFwimageCrcCalculate data) := by
  have under : Under here here := ⟨limited, rfl⟩
  unfold replyNewFwimageCrcCalculate
  split
  next =>
    apply answers_status network under
    apply answers_free network under fun _ => costs_same rfl rfl rfl
    intro _
    let effect : Place -> Place := fun now => { now with cntx := { now.cntx with retryCount := 0 } }
    have behind : Under here (effect here) := ⟨limited, rfl⟩
    apply answers_machine _ effect fun _ => rfl
    apply answers_free network behind fun _ => costs_same rfl rfl rfl
    intro _
    exact proceed_answers _ behind (by simp) (by simp [Place.rank, entered])
  next =>
    apply retryOr_answers network 2 _ _ under (completion_height (by simp [Place.rank, entered]))
    next =>
      intro few
      exact again_answers _ entered (by simp [counting]) (Nat.lt_succ_of_lt few) under.retried
    next => exact free_costs (updateStatus_costs 14 0) fun _ _ => costs_same rfl rfl rfl

theorem replyActivateNewFwimage_answers (entered : here.state = .activateNewFwimage) :
    Answers nodes inputs base here here (replyActivateNewFwimage data) := by
  have under : Under here here := ⟨limited, rfl⟩
  unfold replyActivateNewFwimage
  split
  next =>
    apply answers_status network under
    exact succeed_answers _ under (by simp) (by simp [Place.rank, entered])
  next =>
    apply retryOr_answers network 3 _ _ under (completion_height (by simp [Place.rank, entered]))
    next =>
      intro few
      apply answers_status network under.retried
      exact again_answers _ entered (by simp [counting]) few under.retried
    next => exact updateStatus_costs 16 0

theorem replySendActivateCmd_answers (entered : here.state = .sendActivateCmd)
    (spent : accepts .sendActivateCmd data = true \/ 3 ≤ here.cntx.retryCount) :
    Answers nodes inputs base here here (replySendActivateCmd data) := by
  have under : Under here here := ⟨limited, rfl⟩
  unfold replySendActivateCmd
  split
  next =>
    apply answers_status network under
    exact succeed_answers _ under (by simp) (by simp [Place.rank, entered])
  next refused =>
    apply retryOr_answers network 3 _ _ under (completion_height (by simp [Place.rank, entered]))
    next => exact fun few => absurd (spent.resolve_left refused) (by omega)
    next => exact updateStatus_costs 17 0

theorem replyReadAndCompareFwVersion_answers (entered : here.state = .readAndCompareFwVersion) :
    Answers nodes inputs base here here (replyReadAndCompareFwVersion data) := by
  have under : Under here here := ⟨limited, rfl⟩
  have high : 4 * span nodes ≤ here.height nodes := completion_height (by simp [Place.rank, entered])
  unfold replyReadAndCompareFwVersion
  split
  next =>
    apply answers_note network under _ rfl
    apply answers_status network under
    apply answers_machine _ Place.renewed fun _ => rfl
    apply answers_free network under.renewed fun _ => costs_same rfl rfl rfl
    intro _
    apply handleFuotaCompletion_holds network
    exact under.renewed.affords _ high
  next =>
    apply retryOr_answers network 3 _ _ under high
    next => exact fun few => again_answers _ entered (by simp [counting]) few under.retried
    next => exact updateStatus_costs 18 0

omit network limited in
theorem unsilenced_budget (state : FuotaState) (entered : here.state = state)
    (counts : state = .targetNodeUnsilence \/ state = .gatewayPathUnsilence) (few : here.unsilence < 3) :
    { here with unsilence := here.unsilence + 1 }.budget nodes ≤ here.height nodes := by
  simp only [Place.budget, Place.height, Place.rank, Place.left, entered]
  rcases counts with rfl | rfl <;> dsimp only <;> omega

theorem replyNetworkUnsilence_answers (entered : here.state = .networkUnsilence) :
    Answers nodes inputs base here here (replyNetworkUnsilence data) := by
  have under : Under here here := ⟨limited, rfl⟩
  have stays (gun : Nat) : { here with unsilence := gun }.budget nodes ≤ here.height nodes := by
    simp [Place.budget, Place.height, Place.rank, Place.left, entered]
  unfold replyNetworkUnsilence
  split
  next =>
    apply answers_status network under
    split
    next =>
      apply answers_free network under acknowledgeTarget_costs
      intro _
      apply answers_look _ (fun _ => True) fun _ _ => trivial
      intro step _
      split
      next =>
        apply answers_setMachine _ (fun now => { now with unsilence := now.unsilence + 1 }) fun _ => rfl
        next => exact ⟨limited, rfl⟩
        next => exact stays _
      next =>
        apply answers_look _ (fun _ => True) fun _ _ => trivial
        intro hops _
        split
        next =>
          apply answers_state .targetNodeUnsilence
          apply begins_answers _ (fun now => { now with unsilence := atFuotaEnable }) fun _ => rfl
          next => exact ⟨limited, rfl⟩
          next => simp
          next => simp [Place.rank, entered]
        next =>
          apply answers_state .networkUnsilence
          apply answers_setMachine _ (fun now => { now with unsilence := atFuotaEnable }) fun _ => rfl
          next => exact ⟨limited, rfl⟩
          next =>
            have same : { here with state := .networkUnsilence } = here := by rw [← entered]
            exact same ▸ stays _
    next => exact lower_answers _ under (by simp) (by simp [Place.rank, entered])
  next =>
    split
    next =>
      apply (stands_costs network 0 (updateStatus_costs 20 0) under.now).weaken fun _ => id
      exact fun _ _ stands => ⟨here, 0, stands, under.affords _ (stays here.unsilence)⟩
    next => exact lower_answers _ under (by simp) (by simp [Place.rank, entered])

theorem replyTargetNodeUnsilence_answers (entered : here.state = .targetNodeUnsilence)
    (accepted : accepts .targetNodeUnsilence data = true)
    (goes : stepDone data = true -> here.unsilence < 3 \/ here.hops > 0) :
    Answers nodes inputs base here here (replyTargetNodeUnsilence data) := by
  have under : Under here here := ⟨limited, rfl⟩
  unfold replyTargetNodeUnsilence
  rw [if_pos accepted]
  split
  next done =>
    apply answers_free network under acknowledgeTarget_costs
    intro _
    apply answers_look _ (· = here.unsilence) fun _ same => congrArg Place.unsilence same
    intro step known
    subst known
    split
    next few =>
      apply answers_setMachine _ (fun now => { now with unsilence := now.unsilence + 1 }) fun _ => rfl
      next => exact ⟨limited, rfl⟩
      next => exact unsilenced_budget _ entered (Or.inl rfl) few
    next many =>
      apply answers_look _ (· = here.hops) fun _ same => congrArg Place.hops same
      intro hops known
      subst known
      rw [if_pos ((goes done).resolve_left many)]
      apply answers_state .gatewayPathUnsilence
      apply begins_answers _ (fun now => { now with unsilence := atFuotaEnable }) fun _ => rfl
      next => exact ⟨limited, rfl⟩
      next => simp
      next => simp [Place.rank, entered]
  next => exact lower_answers _ under (by simp) (by simp [Place.rank, entered])

theorem rollback_answers :
    Answers nodes inputs base here here (nextCommandOr .rollbackToNormalCommMode) := by
  apply nextCommandOr_holds network
  exact ⟨limited, Or.inr ⟨rfl, by simp [Place.budget, Place.height, Place.rank, Place.left]⟩⟩

theorem replyGatewayPathUnsilence_answers (entered : here.state = .gatewayPathUnsilence)
    (other : accepts .gatewayPathUnsilence data = true \/ byteAt data 2 ≠ meshCommissionPacketType) :
    Answers nodes inputs base here here (replyGatewayPathUnsilence data) := by
  have under : Under here here := ⟨limited, rfl⟩
  unfold replyGatewayPathUnsilence
  split
  next =>
    split
    next =>
      apply answers_free network under acknowledgeGateway_costs
      intro _
      apply answers_look _ (· = here.unsilence) fun _ same => congrArg Place.unsilence same
      intro step known
      subst known
      split
      next few =>
        apply answers_setMachine _ (fun now => { now with unsilence := now.unsilence + 1 }) fun _ => rfl
        next => exact ⟨limited, rfl⟩
        next => exact unsilenced_budget _ entered (Or.inr rfl) few
      next =>
        apply answers_look _ (fun _ => True) fun _ _ => trivial
        intro gateway _
        apply answers_free network under (recorded_costs _ _ _)
        exact fun _ => rollback_answers network limited
    next => exact rollback_answers network limited
  next refused =>
    rw [if_neg (other.resolve_left refused)]
    exact rollback_answers network limited

end Branches

section Reopening

/-- SECTOR_READ goes on where no file was opened for the request, or its file can be opened again. -/
def Reopens (fuota : Fuota) : Prop :=
  fuota.firmware.totalFirmwaresize = 0 \/
    if fuota.firmware.dcuFolder = [] then fuota.firmware.session.file = []
    else fuota.client.firmwarePath = [] \/
      fuota.inputs.fopen fuota.counters.fopens = true /\
        fuota.inputs.files fuota.client.firmwarePath ≠ none

instance : DecidablePred Reopens := fun fuota => by
  delta Reopens
  infer_instance

theorem reopens_kept (fuota after : Fuota) (reopens : Reopens fuota)
    (inputs : after.inputs = fuota.inputs) (client : after.client = fuota.client)
    (counters : after.counters = fuota.counters)
    (folder : after.firmware.dcuFolder = fuota.firmware.dcuFolder)
    (size : after.firmware.totalFirmwaresize = fuota.firmware.totalFirmwaresize)
    (session : after.firmware.session = fuota.firmware.session) : Reopens after := by
  unfold Reopens at reopens ⊢
  rw [inputs, client, counters, folder, size, session]
  exact reopens

/-- A place in front of the reopening. -/
def Reopening (inputs : Inputs) (base : Nat) (here : Place) (fuota : Fuota) : Prop :=
  Stands inputs base here 0 fuota /\ Reopens fuota

/-- Behind a failed reopening the handler finds that there is no file, or that it is empty. -/
def Reopened (inputs : Inputs) (base : Nat) (here : Place) (goesOn : Bool) (fuota : Fuota) : Prop :=
  Stands inputs base here 0 fuota /\ (goesOn = false ->
    fuota.firmware.session.file = [] \/ fuota.firmware.totalFirmwaresize = 0)

variable {queue : List Bytes} {top : Nat} (network : InNetwork nodes inputs)
  (now : Affords (fun _ => 0) queue top here 0)

include network now

theorem updateStatus_stands (status errorCode : Nat) (fuota : Fuota)
    (stands : Stands inputs base here 0 fuota) : exists told,
    updateStatus status errorCode fuota = (some (), told) /\ Stands inputs base here 0 told /\
      reads told = reads fuota := by
  obtain ⟨told, ran, same⟩ := updateStatus_reads status errorCode fuota
  have behind := stands_costs network 0 (updateStatus_costs status errorCode) now fuota stands
  rw [ran] at behind
  exact ⟨told, ran, behind, same⟩

theorem updateStatus_reopening (status errorCode : Nat) :
    Triple (Halted queue base top) (Reopening inputs base here) (updateStatus status errorCode)
      fun _ => Reopening inputs base here := by
  rintro fuota ⟨stands, reopens⟩
  obtain ⟨told, ran, standing, same⟩ := updateStatus_stands network now status errorCode fuota stands
  rw [ran]
  simp only [reads, Prod.mk.injEq] at same
  obtain ⟨inputs, client, counters, firmware⟩ := same
  exact ⟨standing, reopens_kept fuota told reopens inputs client counters (by rw [firmware])
    (by rw [firmware]) (by rw [firmware])⟩

theorem keepOpen_reopened (content file : Bytes) (sectorValue : Nat) :
    Triple (Halted queue base top) (Stands inputs base here 0)
      (keepOpen content >>= fun _ => note (.opened file) >>= fun _ =>
        if sectorValue = 0 then waiting else pure true) (Reopened inputs base here) := by
  apply stands_free network now fun _ => costs_same rfl rfl rfl
  intro _
  apply stands_free network now fun _ => costs_event _ rfl rfl rfl rfl
  intro _
  split
  next => exact triple_waiting fun _ stands => stands.halted now
  next => exact triple_pure true fun _ stands => ⟨stands, fun stuck => nomatch stuck⟩

theorem dynamicFuotaCalculate_reopens :
    Triple (Halted queue base top) (Reopening inputs base here) dynamicFuotaCalculate
      (Reopened inputs base here) := by
  rintro fuota ⟨stands, reopens⟩
  rw [dynamicFuotaCalculate,
    ran_bind (show observe _ fuota = (some fuota.firmware.dcuFolder, fuota) from rfl)]
  by_cases folder : fuota.firmware.dcuFolder = []
  next =>
    rw [if_pos folder]
    rw [Reopens, if_pos folder] at reopens
    exact ⟨stands, fun _ => reopens.symm⟩
  next =>
    rw [if_neg folder]
    obtain ⟨told, ran, standing, same⟩ := updateStatus_stands network now 8 1 fuota stands
    simp only [reads, Prod.mk.injEq] at same
    obtain ⟨inputsSame, client, counters, firmware⟩ := same
    let file := told.client.firmwarePath
    let named : Fuota := { told with
      firmware := { told.firmware with session := { headerLen := headerLenWithoutPath, file := file } } }
    have here' : Stands inputs base here 0 named := ⟨standing.inputs, standing.place, standing.sent⟩
    rw [ran_bind ran, ran_bind (show observe id told = (some told, told) from rfl)]
    rw [ran_bind (show setFirmware _ told = (some (), named) from rfl)]
    by_cases unnamed : file = []
    next =>
      rw [if_pos unnamed]
      exact ⟨here', fun _ => Or.inl unnamed⟩
    next =>
      rw [if_neg unnamed]
      let tried : Fuota := { named with
        counters := { named.counters with fopens := named.counters.fopens + 1 } }
      have standing : Stands inputs base here 0 tried := ⟨here'.inputs, here'.place, here'.sent⟩
      rw [ran_bind (show fopen file named = (some (if named.inputs.fopen named.counters.fopens then
        named.inputs.files file else none), tried) from rfl)]
      cases found : (if named.inputs.fopen named.counters.fopens then named.inputs.files file else none) with
      | none =>
        refine ⟨⟨standing.inputs, standing.place, standing.sent⟩, fun _ => Or.inr ?_⟩
        show told.firmware.totalFirmwaresize = 0
        rw [firmware]
        apply reopens.resolve_right
        rw [if_neg folder]
        rintro (pathless | ⟨opens, listed⟩)
        next => exact unnamed (by rw [← pathless, ← client])
        next =>
          have opened : named.inputs.fopen named.counters.fopens = true := by
            simpa [named, inputsSame, counters] using opens
          rw [if_pos opened] at found
          exact listed (by rw [← inputsSame, ← client]; exact found)
      | some content => exact keepOpen_reopened network now content file _ tried standing

end Reopening

section SectorRead

variable {data : Bytes} (network : InNetwork nodes inputs) (limited : Limited here)

include network limited

theorem sectorReadAccepted_answers (entered : here.state = .sectorRead)
    (accepted : accepts .sectorRead data = true) :
    Triple (Halted here.queue base (here.height nodes)) (Reopening inputs base here)
      (replySectorRead data)
      fun _ => Holds (Place.budget nodes) inputs here.queue base (here.height nodes) := by
  have under : Under here here := ⟨limited, rfl⟩
  unfold replySectorRead
  rw [if_pos accepted]
  apply triple_bind fun _ => Reopening inputs base here
  next =>
    apply triple_update
    rintro fuota ⟨stands, reopens⟩
    refine ⟨⟨stands.inputs, stands.place, ?_⟩, reopens⟩
    have sent := stands.sent
    simpa [transmitted, Event.transmits] using sent
  intro _
  apply triple_bind fun _ => Reopening inputs base here
  next =>
    apply triple_update
    exact fun fuota known => ⟨⟨known.1.inputs, known.1.place, known.1.sent⟩, known.2⟩
  intro _
  apply triple_bind _ (updateStatus_reopening network under.now 7 1)
  intro _
  apply triple_bind fun _ => Reopening inputs base here.renewed
  next =>
    apply triple_update
    rintro fuota ⟨stands, reopens⟩
    exact ⟨⟨stands.inputs, congrArg Place.renewed stands.place, stands.sent⟩, reopens⟩
  intro _
  apply triple_bind _ (dynamicFuotaCalculate_reopens network under.renewed.now)
  intro goesOn
  cases goesOn with
  | true =>
    have next : Answers nodes inputs base here here.renewed (setState .fwimageOfSectorCount) :=
      lower_answers _ under.renewed (by simp) (by simp [Place.rank, entered])
    exact next.weaken (fun _ known => known.1) fun _ _ => id
  | false =>
    apply triple_bind fun firmware fuota => (firmware.session.file = [] \/ firmware.totalFirmwaresize = 0) /\
      Stands inputs base here.renewed 0 fuota
    next => exact triple_observe _ fun fuota known => ⟨known.2 rfl, known.1⟩
    intro firmware
    apply triple_known
    intro missing
    rw [if_pos (by simpa using missing)]
    apply answers_status network under.renewed
    exact lower_answers _ under.renewed (by simp) (by simp [Place.rank, entered])

theorem sectorReadRefused_answers (entered : here.state = .sectorRead)
    (refused : accepts .sectorRead data = false) (fresh : here.cntx.alternateRetry = 0) :
    Answers nodes inputs base here here (replySectorRead data) := by
  have under : Under here here := ⟨limited, rfl⟩
  unfold replySectorRead
  rw [refused, if_neg (by simp)]
  apply retryOr_answers network 3 _ _ under (completion_height (by simp [Place.rank, entered]))
  next =>
    intro few
    let effect : Place -> Place := fun now => { now with cntx := { now.cntx with alternateRetry := 0 } }
    have same : effect here.retried = here.retried := by simp only [effect, Place.retried, ← fresh]
    apply answers_machine _ effect fun _ => rfl
    show Answers nodes inputs base here (effect here.retried) _
    rw [same]
    exact again_answers _ entered (by simp [counting]) few under.retried
  next => exact pure_costs 0 ()

end SectorRead

end Handlers

/-- The replies that bring a request on. The others are asked for again, and none is counted. -/
def Advances (fuota : Fuota) (data : Bytes) : Prop :=
  match fuota.machine.ondemandFuotaState with
  | .gatewayPathSilence => accepts .gatewayPathSilence data = true -> stepDone data = true
  | .networkSilence => accepts .networkSilence data = false
  | .sectorRead =>
    if accepts .sectorRead data then Reopens fuota else fuota.machine.cntx.alternateRetry = 0
  | .sendActivateCmd => accepts .sendActivateCmd data = true \/ 3 ≤ fuota.machine.cntx.retryCount
  | .targetNodeUnsilence =>
    accepts .targetNodeUnsilence data = true /\ (stepDone data = true ->
      fuota.machine.fuotaGatewayUnsilenceState < atEnableFlashexit \/ fuota.radio.routerPath.hopCount > 0)
  | .gatewayPathUnsilence =>
    accepts .gatewayPathUnsilence data = true \/ byteAt data 2 ≠ meshCommissionPacketType
  | _ => True

instance (fuota : Fuota) (data : Bytes) : Decidable (Advances fuota data) := by
  delta Advances
  split <;> infer_instance

theorem replyIn_holds {nodes : Nat} (fuota : Fuota) (data : Bytes) (network : InNetwork nodes fuota.inputs)
    (limited : Limited (place fuota)) (answered : Advances fuota data) :
    Triple (Halted (place fuota).queue (transmitted fuota.log) ((place fuota).height nodes)) (· = fuota)
      (replyIn fuota.machine.ondemandFuotaState data)
      fun _ => Holds (Place.budget nodes) fuota.inputs (place fuota).queue (transmitted fuota.log)
        ((place fuota).height nodes) := by
  have standing : Stands fuota.inputs (transmitted fuota.log) (place fuota) 0 fuota :=
    ⟨rfl, rfl, Nat.le_refl _⟩
  have start (prog : Prog Fuota Unit)
      (answers : Answers nodes fuota.inputs (transmitted fuota.log) (place fuota) (place fuota) prog) :
      Triple (Halted (place fuota).queue (transmitted fuota.log) ((place fuota).height nodes)) (· = fuota)
        prog fun _ => Holds (Place.budget nodes) fuota.inputs (place fuota).queue (transmitted fuota.log)
          ((place fuota).height nodes) :=
    answers.weaken (fun _ same => same ▸ standing) fun _ _ => id
  have quiet (known : (place fuota).budget nodes = 0) :
      Answers nodes fuota.inputs (transmitted fuota.log) (place fuota) (place fuota) (pure ()) :=
    answers_pure () ⟨limited, rfl⟩ (known ▸ Nat.zero_le _)
  unfold Advances at answered
  cases state : fuota.machine.ondemandFuotaState with
  | openFile => exact start _ (replyOpenFile_answers network limited state)
  | gatewayPathSilence =>
    rw [state] at answered
    exact start _ (replyGatewayPathSilence_answers network limited state answered)
  | targetNodeSilence => exact start _ (replyTargetNodeSilence_answers network limited state)
  | networkSilence =>
    rw [state] at answered
    exact start _ (replyNetworkSilence_answers limited answered)
  | sectorRead =>
    rw [state] at answered
    dsimp only at answered
    cases accepted : accepts .sectorRead data with
    | true =>
      rw [if_pos accepted] at answered
      apply (sectorReadAccepted_answers network limited state accepted).weaken
      next =>
        rintro _ rfl
        exact ⟨standing, answered⟩
      next => exact fun _ _ => id
    | false =>
      rw [accepted, if_neg (by simp)] at answered
      exact start _ (sectorReadRefused_answers network limited state accepted answered)
  | fwimageOfSectorCount => exact start _ (replyFwimageOfSectorCount_answers network limited state)
  | eraseFlash => exact start _ (replyEraseFlash_answers network limited state)
  | fwImageTransfer => exact start _ (replyFwImageTransfer_answers network limited state)
  | lastUpdateFwimageOfSectorcount => exact start _ (replyLastUpdate_answers network limited state)
  | fwImageEndofPageTransfer => exact start _ (replyFwImageEndofPageTransfer_answers network limited state)
  | newFwimageCrcCalculate => exact start _ (replyNewFwimageCrcCalculate_answers network limited state)
  | activateNewFwimage => exact start _ (replyActivateNewFwimage_answers network limited state)
  | sendActivateCmd =>
    rw [state] at answered
    exact start _ (replySendActivateCmd_answers network limited state answered)
  | readAndCompareFwVersion => exact start _ (replyReadAndCompareFwVersion_answers network limited state)
  | networkUnsilence => exact start _ (replyNetworkUnsilence_answers network limited state)
  | targetNodeUnsilence =>
    rw [state] at answered
    exact start _ (replyTargetNodeUnsilence_answers network limited state answered.1 answered.2)
  | gatewayPathUnsilence =>
    rw [state] at answered
    exact start _ (replyGatewayPathUnsilence_answers network limited state answered)
  | rollbackToNormalCommMode | idle | unset =>
    have known : (place fuota).state = _ := state
    exact start _ (quiet (by simp [Place.budget, Place.height, Place.rank, Place.left, known]))

end Hes.Fuota
