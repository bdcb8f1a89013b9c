import Hes.Fuota.RequestReplies

set_option autoImplicit false

namespace Hes.Fuota

open Prog Mqtt Transition

section Commands

variable {nodes : Nat} {here : Place}

theorem silenceTarget_costs : Respects (Costs nodes false here 1) prepareTargetnodeSilenceCmd := by
  apply free_costs (observe_costs _)
  intro step
  split
  next => exact sendToTarget_costs _ _
  next => exact pure_costs 1 ()

theorem unsilenceTarget_costs : Respects (Costs nodes false here 1) prepareToUnsilenceTheTargetNode := by
  apply free_costs (observe_costs _)
  intro step
  split
  next => exact sendToTarget_costs _ _
  next => exact pure_costs 1 ()

theorem endOfImage_costs : Respects (Costs nodes false here 1) prepareAndGetTheEndofImageTransfer := by
  apply free_costs (framePmeshTarget_costs _ _)
  exact fun _ => costs_free buildAndStoreFuotaCmd_costs fun _ => pure_costs 0 ()

theorem calculateCrc_costs : Respects (Costs nodes false here 0) calculateCrcForTargetNode := by
  apply free_costs
  next =>
    intro fuota
    simp only [ensureCrcTable, update]
    split <;> exact costs_same rfl rfl rfl
  intro _
  apply free_costs (observe_costs _)
  intro fuota
  split
  next => exact fun _ => costs_same rfl rfl rfl
  next =>
    split
    next => exact pure_costs 0 ()
    next =>
      apply free_costs fun _ => costs_same rfl rfl rfl
      intro _
      apply free_costs
      next =>
        apply respects_loop costs_graded.refl fun first second third => costs_graded.trans 0 0 first second third
        intro remaining
        unfold crcTurn
        split
        next =>
          apply free_costs (observe_costs _)
          intro sectorValue
          apply free_costs
          next =>
            intro now
            unfold fread
            dsimp only
            split <;> exact costs_same rfl rfl rfl
          intro chunk
          split
          next => exact pure_costs 0 _
          next => exact free_costs (fun _ => costs_same rfl rfl rfl) fun _ => pure_costs 0 _
        next => exact pure_costs 0 _
      intro complete
      split
      next => exact fun _ => costs_same rfl rfl rfl
      next => exact pure_costs 0 ()

end Commands

section Sending

variable {nodes : Nat} {inputs : Inputs} {queue : List Bytes} {base top : Nat} {here : Place} {cost : Nat}
  (network : InNetwork nodes inputs)

include network

theorem frame_holds {prog : Prog Fuota Unit} (fits : Affords (Place.budget nodes) queue top here cost)
    (room : here.height nodes + 1 ≤ here.budget nodes) (costs : Respects (Costs nodes false here 1) prog) :
    Triple (Halted queue base top) (Stands inputs base here cost) prog
      fun _ => Holds (Place.height nodes) inputs queue base top := by
  have paid : Affords (Place.height nodes) queue top here (cost + 1) := fits.mono (by omega)
  apply (stands_costs network 1 costs (paid.mono (by omega))).weaken fun _ => id
  exact fun _ _ stands => ⟨here, cost + 1, stands, paid⟩

omit network in
theorem rests_holds (fits : Affords (Place.budget nodes) queue top here cost) :
    Triple (Halted queue base top) (Stands inputs base here cost) (pure ())
      fun _ => Holds (Place.height nodes) inputs queue base top := by
  have less := height_budget nodes here
  exact triple_pure () fun _ stands => ⟨here, cost, stands, fits.mono (by omega)⟩

theorem sendOpenFile_holds (fits : Affords (Place.budget nodes) queue top here cost)
    (entered : here.state = .openFile) :
    Triple (Halted queue base top) (Stands inputs base here cost) sendOpenFile
      fun _ => Holds (Place.height nodes) inputs queue base top := by
  have paid : { here with state := .gatewayPathSilence }.height nodes + 1 ≤ here.budget nodes := by
    have left := left_le { here with state := .gatewayPathSilence }
    have wide : 32 ≤ span nodes := Nat.le_add_left 32 _
    simp only [Place.budget, Place.height, Place.rank, entered]
    omega
  have behind : Affords (Place.height nodes) queue top { here with state := .gatewayPathSilence } (cost + 1) :=
    fits.enters _ (by omega)
  have now : Affords (fun _ => 0) queue top here (cost + 1) := fits.mono (by omega)
  apply stands_free network (now.mono (by omega)) (observe_costs _)
  intro name
  apply triple_bind _ (openRequested_opened network now name)
  intro _
  apply triple_exists
  intro state
  apply (setState_goes .gatewayPathSilence).weaken fun _ => id
  exact fun _ _ stands => ⟨_, _, stands, behind⟩

theorem sendNetworkSilence_holds (fits : Affords (Place.budget nodes) queue top here cost)
    (entered : here.state = .networkSilence) :
    Triple (Halted queue base top) (Stands inputs base here cost) sendNetworkSilence
      fun _ => Holds (Place.height nodes) inputs queue base top := by
  have paid : { here with state := .sectorRead }.height nodes + visitCost nodes ≤ here.budget nodes := by
    have left := left_le { here with state := .sectorRead }
    simp only [Place.budget, Place.height, Place.rank, entered, span] at left ⊢
    omega
  have behind : Affords (Place.height nodes) queue top { here with state := .sectorRead }
      (cost + visitCost nodes) := fits.enters _ (by omega)
  have now : Affords (fun _ => 0) queue top here cost := fits.mono (by omega)
  have asks : Triple (Halted queue base top) (Stands inputs base { here with state := .sectorRead }
      (cost + nodes * leafCost)) prepareGetSectorReadForTargetNode
      fun _ => Holds (Place.height nodes) inputs queue base top := by
    apply (stands_costs network 1 (sendToTarget_costs _ _) (behind.mono (by unfold visitCost; omega))).weaken
      fun _ => id
    exact fun _ _ stands => ⟨_, _, stands, behind⟩
  apply stands_free network now fun _ => costs_same rfl rfl rfl
  intro alone
  split
  next =>
    apply stands_free network now fun _ => costs_same rfl rfl rfl
    intro _
    apply triple_bind _ (setState_goes .sectorRead)
    intro _
    apply asks.weaken
    next => exact fun _ stands => ⟨stands.inputs, stands.place, stands.sent.trans (by omega)⟩
    next => exact fun _ _ => id
  next =>
    apply undernodes_stands network now
    intro meters _
    apply stands_free network now fun _ => costs_same rfl rfl rfl
    intro _
    apply stands_free network now fun _ => costs_same rfl rfl rfl
    intro _
    apply stands_free network now (observe_costs _)
    intro mac
    have visits : Affords (fun _ => 0) queue top here (cost + nodes * leafCost) := by
      refine ⟨fits.limited, behind.paid.imp id fun paid => ⟨paid.1, ?_⟩⟩
      have room := paid.2
      unfold visitCost at room
      omega
    apply triple_bind _ (stands_costs network _ (enableNetwork_costs _) visits)
    intro enabled
    split
    next =>
      apply triple_bind _ (setState_goes .sectorRead)
      exact fun _ => asks
    next =>
      have stays : here.height nodes + nodes * leafCost ≤ here.budget nodes := by
        simp only [Place.budget, Place.height, Place.rank, Place.left, entered, span, visitCost]
        omega
      exact triple_pure () fun _ stands => ⟨here, _, stands, fits.mono (by omega)⟩

end Sending

section Uploads

variable {nodes : Nat} {inputs : Inputs} {queue : List Bytes} {base top : Nat}

/-- In the upload loop, in which the tries may change. -/
def InUpload (nodes : Nat) (inputs : Inputs) (queue : List Bytes) (base top : Nat) (fuota : Fuota) : Prop :=
  exists here cost, here.state = .fwImageTransfer /\ Stands inputs base here cost fuota /\
    Affords (fun _ => 9 * span nodes) queue top here cost

theorem InUpload.halted {fuota : Fuota} (uploading : InUpload nodes inputs queue base top fuota) :
    Halted queue base top fuota := by
  obtain ⟨here, cost, _, stands, fits⟩ := uploading
  exact stands.halted fits

theorem InUpload.holds {fuota : Fuota} (uploading : InUpload nodes inputs queue base top fuota) :
    Holds (Place.height nodes) inputs queue base top fuota := by
  obtain ⟨here, cost, entered, stands, fits⟩ := uploading
  have same : here.height nodes = 9 * span nodes := by
    simp [Place.height, Place.rank, Place.left, entered]
  exact ⟨here, cost, stands, fits.mono (by omega)⟩

variable (network : InNetwork nodes inputs)

include network

theorem uploading_costs {A : Type} {prog : Prog Fuota A}
    (free : forall here : Place, here.state = .fwImageTransfer -> Respects (Costs nodes true here 0) prog) :
    Triple (Halted queue base top) (InUpload nodes inputs queue base top) prog
      fun _ => InUpload nodes inputs queue base top := by
  rintro fuota ⟨here, cost, entered, stands, fits⟩
  obtain ⟨same, stays, less⟩ := free (here.seen true) entered fuota (stands.inputs ▸ network)
    (congrArg (Place.seen true) stands.place)
  have sent := stands.sent
  have behind : InUpload nodes inputs queue base top (prog fuota).2 := by
    have state : (place (prog fuota).2).state = .fwImageTransfer :=
      (congrArg Place.state stays).trans entered
    have limited : Limited (place (prog fuota).2) :=
      ⟨⟨(congrArg (fun now => now.cntx.maxRetries) stays).trans fits.limited.1.1,
        (congrArg (fun now => now.cntx.alternateMaxcnt) stays).trans fits.limited.1.2⟩,
        (congrArg Place.active stays).trans fits.limited.2⟩
    have queued : (place (prog fuota).2).queue = here.queue :=
      (congrArg Place.queue stays : ((place (prog fuota).2).seen true).queue = (here.seen true).queue)
    exact ⟨_, cost, state, ⟨same.trans stands.inputs, rfl, by omega⟩,
      fits.goes limited queued (Nat.le_refl _)⟩
  cases ran : prog fuota with
  | mk outcome after =>
    rw [ran] at behind
    cases outcome with
    | none => exact behind.halted
    | some value => exact behind

theorem uploading_free {A B : Type} {post : B -> Fuota -> Prop} {first : Prog Fuota A}
    {next : A -> Prog Fuota B}
    (free : forall here : Place, here.state = .fwImageTransfer -> Respects (Costs nodes true here 0) first)
    (behind : forall value,
      Triple (Halted queue base top) (InUpload nodes inputs queue base top) (next value) post) :
    Triple (Halted queue base top) (InUpload nodes inputs queue base top) (first >>= next) post :=
  triple_bind _ (uploading_costs network free) behind

/-- The loop came to its end, or the upload was given up. -/
def UploadEnds (nodes : Nat) (inputs : Inputs) (queue : List Bytes) (base top : Nat) : Bool -> Fuota -> Prop
  | true => InUpload nodes inputs queue base top
  | false => Holds (Place.height nodes) inputs queue base top

/-- Behind a turn of the loop. -/
def Turned (nodes : Nat) (inputs : Inputs) (queue : List Bytes) (base top : Nat) :
    Turn Unit Bool -> Fuota -> Prop :=
  afterTurn (fun _ => InUpload nodes inputs queue base top) (UploadEnds nodes inputs queue base top)

theorem givenUp_turned {rest : Prog Fuota (Turn Unit Bool)}
    (behind : Triple (Halted queue base top) (Holds (Place.height nodes) inputs queue base top) rest
      (Turned nodes inputs queue base top)) :
    Triple (Halted queue base top) (InUpload nodes inputs queue base top)
      (handleFuotaCompletion >>= fun _ => rest) (Turned nodes inputs queue base top) := by
  apply triple_bind _ _ fun _ => behind
  rintro fuota ⟨here, cost, entered, stands, fits⟩
  have affords : Affords (fun _ => 4 * span nodes) queue top here cost := fits.mono (by omega)
  exact ((handleFuotaCompletion_holds network affords).weaken (fun _ => id)
    fun _ _ holds => holds.mono (height_budget nodes)) fuota stands

theorem afterExchange_turned (frame : ImageFrame) (exchange : Exchange) :
    Triple (Halted queue base top) (InUpload nodes inputs queue base top) (afterExchange frame exchange)
      (Turned nodes inputs queue base top) := by
  have stopped : Triple (Halted queue base top) (Holds (Place.height nodes) inputs queue base top)
      (pure (.done false)) (Turned nodes inputs queue base top) := triple_pure _ fun _ => id
  have goesOn : Triple (Halted queue base top) (InUpload nodes inputs queue base top)
      (advance frame.lastSubpage >>= fun _ => pure (.again ())) (Turned nodes inputs queue base top) := by
    apply uploading_free network fun _ _ => setUpload_costs _
    exact fun _ => triple_pure _ fun _ => id
  cases exchange with
  | acknowledged =>
    apply uploading_free network fun _ _ _ => costs_event _ rfl rfl rfl rfl
    exact fun _ => goesOn
  | jumped => exact goesOn
  | exhausted =>
    apply uploading_free network fun _ _ => observe_costs _
    intro alternates
    apply uploading_free network fun _ _ => setUpload_costs _
    intro _
    split
    next => exact givenUp_turned network stopped
    next => exact goesOn
  | aborted =>
    apply uploading_free network fun _ _ => updateStatus_costs 11 0
    exact fun _ => givenUp_turned network stopped
  | writeFailed =>
    apply uploading_free network fun _ _ => updateStatus_costs 1 0
    exact fun _ => triple_pure _ fun _ uploading => uploading.holds

theorem uploadTurn_turned :
    Triple (Halted queue base top) (InUpload nodes inputs queue base top) (uploadTurn ())
      (Turned nodes inputs queue base top) := by
  apply uploading_free network fun _ _ => observe_costs _
  intro fuota
  dsimp only
  split
  next =>
    apply uploading_free network fun _ _ => observe_costs _
    intro position
    apply uploading_free network
    next =>
      intro _ _ now
      unfold fread
      dsimp only
      split <;> exact costs_same rfl rfl rfl
    intro payload
    split
    next => exact triple_pure _ fun _ => id
    next =>
      apply uploading_free network fun _ _ => setUpload_costs _
      intro _
      apply uploading_free network fun _ _ => observe_costs _
      intro sending
      apply uploading_free network fun _ _ => updateStatus_costs 11 1
      intro _
      apply uploading_free network fun _ inside => exchange_costs inside _ _
      exact fun exchange => afterExchange_turned network _ exchange
  next => exact triple_pure _ fun _ => id

theorem endUpload_holds :
    Triple (Halted queue base top) (InUpload nodes inputs queue base top)
      (endUpload >>= fun _ => prepareAndGetTheEndofImageTransfer)
      fun _ => Holds (Place.height nodes) inputs queue base top := by
  rintro fuota ⟨here, cost, entered, stands, fits⟩
  let there : Place := { here with state := .fwImageEndofPageTransfer }
  have behind : Affords (Place.height nodes) queue top there (cost + 1) := by
    have less := left_le there
    have wide : 32 ≤ span nodes := Nat.le_add_left 32 _
    have height : there.height nodes = 8 * span nodes + there.left := rfl
    have room : there.height nodes + (cost + 1) ≤ 9 * span nodes + cost := by omega
    exact fits.enters _ room
  have now : Affords (fun _ => 0) queue top here cost := fits.mono (by omega)
  have ending : Triple (Halted queue base top) (Stands inputs base here cost) endUpload
      fun _ => Stands inputs base there cost := by
    apply stands_free network now fun _ => costs_event _ rfl rfl rfl rfl
    intro _
    apply stands_look _ (· = here.state) fun _ same => congrArg Place.state same
    intro state known
    rw [if_pos (known.trans entered)]
    exact setState_goes _
  have sends : Triple (Halted queue base top) (Stands inputs base here cost)
      (endUpload >>= fun _ => prepareAndGetTheEndofImageTransfer)
      fun _ => Holds (Place.height nodes) inputs queue base top := by
    apply triple_bind _ ending
    intro _
    apply (stands_costs network 1 endOfImage_costs (behind.mono (by omega))).weaken fun _ => id
    exact fun _ _ stands => ⟨_, _, stands, behind⟩
  exact sends fuota stands

theorem fuotaUploadingProcess_holds {here : Place} {cost : Nat}
    (fits : Affords (Place.budget nodes) queue top here cost) (entered : here.state = .fwImageTransfer) :
    Triple (Halted queue base top) (Stands inputs base here cost) fuotaUploadingProcess
      fun _ => Holds (Place.height nodes) inputs queue base top := by
  have begins (fuota : Fuota) (stands : Stands inputs base here cost fuota) :
      InUpload nodes inputs queue base top fuota := by
    have same : here.budget nodes = 9 * span nodes := by
      simp [Place.budget, Place.height, Place.rank, Place.left, entered]
    exact ⟨here, cost, entered, stands, fits.mono (by omega)⟩
  have started : forall here : Place, here.state = .fwImageTransfer ->
      Respects (Costs nodes true here 0) startUpload := by
    intro _ _
    apply free_costs (setUpload_costs _)
    intro _
    apply free_costs (free_costs (observe_costs _) fun _ => free_costs (setUpload_costs _)
      fun _ => pure_costs 0 _)
    intro _
    apply free_costs (free_costs (observe_costs _) fun _ => free_costs (setUpload_costs _)
      fun _ => pure_costs 0 _)
    intro _
    apply free_costs (setUpload_costs _)
    intro _
    apply free_costs fun _ => costs_same rfl rfl rfl
    exact fun _ => free_costs (observe_costs _) fun _ _ => costs_event _ rfl rfl rfl rfl
  have uploads : Triple (Halted queue base top) (InUpload nodes inputs queue base top)
      fuotaUploadingProcess fun _ => Holds (Place.height nodes) inputs queue base top := by
    apply uploading_free network started
    intro _
    apply uploading_free network fun _ _ => observe_costs _
    intro fuel
    apply triple_bind (UploadEnds nodes inputs queue base top)
    next =>
      apply triple_loop uploadTurn (fun _ => InUpload nodes inputs queue base top)
      next => exact fun _ _ => InUpload.halted
      next => exact fun _ => uploadTurn_turned network
    intro ended
    cases ended with
    | true => exact endUpload_holds network
    | false => exact triple_pure () fun _ => id
  exact uploads.weaken begins fun _ _ => id

/-- The frames that a state sends are what its budget is for. -/
theorem cansendFuotaNextCommand_holds :
    Triple (Halted queue base top) (Holds (Place.budget nodes) inputs queue base top)
      cansendFuotaNextCommand fun _ => Holds (Place.height nodes) inputs queue base top := by
  rintro fuota ⟨here, cost, stands, fits⟩
  have sends : Triple (Halted queue base top) (Stands inputs base here cost) cansendFuotaNextCommand
      fun _ => Holds (Place.height nodes) inputs queue base top := by
    apply stands_look _ (· = here.state) fun _ same => congrArg Place.state same
    intro state known
    subst known
    have room (apart : here.budget nodes = here.height nodes + 1) :
        here.height nodes + 1 ≤ here.budget nodes := apart.ge
    cases entered : here.state with
    | openFile => exact sendOpenFile_holds network fits entered
    | networkSilence => exact sendNetworkSilence_holds network fits entered
    | fwImageTransfer => exact fuotaUploadingProcess_holds network fits entered
    | networkUnsilence =>
      apply sendNetworkUnsilence_holds network
      next => exact fits.mono (Nat.add_le_add_right (height_budget nodes here) cost)
      next =>
        apply fits.enters .gatewayPathUnsilence
        have left := left_le { here with state := .gatewayPathUnsilence }
        simp only [Place.budget, Place.height, Place.rank, entered, span] at left ⊢
        omega
    | gatewayPathSilence =>
      exact frame_holds network fits (room (by simp [Place.budget, entered])) silenceGateway_costs
    | targetNodeSilence =>
      exact frame_holds network fits (room (by simp [Place.budget, entered])) silenceTarget_costs
    | targetNodeUnsilence =>
      exact frame_holds network fits (room (by simp [Place.budget, entered])) unsilenceTarget_costs
    | gatewayPathUnsilence =>
      exact frame_holds network fits (room (by simp [Place.budget, entered])) unsilenceGateway_costs
    | fwImageEndofPageTransfer =>
      exact frame_holds network fits (room (by simp [Place.budget, entered])) endOfImage_costs
    | newFwimageCrcCalculate =>
      apply frame_holds network fits (room (by simp [Place.budget, entered]))
      apply free_costs calculateCrc_costs
      exact fun _ => free_costs (observe_costs _) fun _ => sendToTarget_costs _ _
    | fwimageOfSectorCount =>
      apply frame_holds network fits (room (by simp [Place.budget, entered]))
      exact free_costs (observe_costs _) fun _ => sendToTarget_costs _ _
    | sectorRead | eraseFlash | activateNewFwimage | sendActivateCmd | readAndCompareFwVersion =>
      exact frame_holds network fits (room (by simp [Place.budget, entered])) (sendToTarget_costs _ _)
    | rollbackToNormalCommMode =>
      apply (setState_goes .rollbackToNormalCommMode).weaken fun _ => id
      refine fun _ _ stands => ⟨_, cost, stands, fits.enters _ ?_⟩
      simp only [Place.height, Place.rank, Place.left]
      omega
    | lastUpdateFwimageOfSectorcount | idle | unset => exact rests_holds fits
  exact sends fuota stands

end Uploads

section Steps

variable {nodes : Nat} {fuota : Fuota}

/-- The session is over, or the next request is taken up. -/
theorem replyRollback_holds (network : InNetwork nodes fuota.inputs) (limited : Limited (place fuota)) :
    Triple (Halted (place fuota).queue (transmitted fuota.log) ((place fuota).height nodes)) (· = fuota)
      replyRollback
      fun finished => Holds (if finished then Place.height nodes else Place.budget nodes) fuota.inputs
        (place fuota).queue (transmitted fuota.log) ((place fuota).height nodes) := by
  have taken : Triple (Halted (place fuota).queue (transmitted fuota.log) ((place fuota).height nodes))
      (Stands fuota.inputs (transmitted fuota.log) (place fuota) 0) replyRollback
      fun finished => Holds (if finished then Place.height nodes else Place.budget nodes) fuota.inputs
        (place fuota).queue (transmitted fuota.log) ((place fuota).height nodes) := by
    apply dequeue_stands
    next =>
      intro _
      have stays : Affords (Place.height nodes) (place fuota).queue ((place fuota).height nodes)
          (place fuota) 0 := ⟨limited, Or.inr ⟨rfl, (Nat.add_zero _).le⟩⟩
      apply stands_free network (stays.mono (by omega)) fun _ => costs_same rfl rfl rfl
      exact fun _ => triple_pure true fun _ stands => ⟨place fuota, 0, stands, stays⟩
    next =>
      intro command rest queued
      have shorter : rest.length < (place fuota).queue.length := by simp [queued]
      have kept : Limited { place fuota with queue := rest } := limited
      apply triple_bind _ (takeCommand_holds network command kept shorter (Place.budget nodes))
      exact fun _ => triple_pure false fun _ holds => holds
  apply taken.weaken
  next =>
    rintro _ rfl
    exact ⟨rfl, rfl, Nat.le_refl _⟩
  next => exact fun _ _ => id

theorem clientProcess_holds (data : Bytes) (network : InNetwork nodes fuota.inputs)
    (limited : Limited (place fuota)) (advances : Advances fuota data) :
    Triple (Halted (place fuota).queue (transmitted fuota.log) ((place fuota).height nodes)) (· = fuota)
      (clientProcessRfFuotaData data)
      fun _ => Holds (Place.height nodes) fuota.inputs (place fuota).queue (transmitted fuota.log)
        ((place fuota).height nodes) := by
  -- a reply that brings the request on pays for its frames, also where its thread does not come
  -- back
  apply triple_ran (show getState fuota = (some fuota.machine.ondemandFuotaState, fuota) from rfl)
  by_cases rolled : fuota.machine.ondemandFuotaState = .rollbackToNormalCommMode
  next =>
    rw [if_pos rolled]
    apply triple_bind _ (replyRollback_holds network limited)
    intro finished
    cases finished with
    | true => exact triple_pure () fun _ => id
    | false => exact cansendFuotaNextCommand_holds network
  next =>
    rw [if_neg rolled]
    apply triple_bind _ (replyIn_holds fuota data network limited advances)
    exact fun _ => cansendFuotaNextCommand_holds network

end Steps

section Polls

variable {nodes : Nat} {fuota : Fuota}

/-- Apart from the tries a poll leaves the place as it is, and no more of them. -/
structure Fewer (first here : Place) : Prop where
  same : here.seen true = first.seen true
  retries : here.retries ≤ first.retries

theorem Fewer.limited {first here : Place} (fewer : Fewer first here) (limited : Limited first) :
    Limited here :=
  ⟨⟨(congrArg (fun now => now.cntx.maxRetries) fewer.same).trans limited.1.1,
    (congrArg (fun now => now.cntx.alternateMaxcnt) fewer.same).trans limited.1.2⟩,
    (congrArg Place.active fewer.same).trans limited.2⟩

theorem Fewer.height {first here : Place} (fewer : Fewer first here) :
    here.height nodes ≤ first.height nodes := by
  obtain ⟨same, retries⟩ := fewer
  simp only [Place.seen, if_true, Place.mk.injEq] at same
  obtain ⟨state, -, -, gateway, target, unsilence, -⟩ := same
  simp only [Place.height, Place.rank, Place.left, state, gateway, target, unsilence]
  generalize first.state = now
  cases now <;> dsimp only <;> omega

theorem sendAgain_holds (ready : Fuota) (network : InNetwork nodes fuota.inputs)
    (limited : Limited (place fuota)) (inputs : ready.inputs = fuota.inputs)
    (fewer : Fewer (place fuota) (place ready))
    (quiet : transmitted ready.log ≤ transmitted fuota.log) :
    Triple (fun _ => True) (· = ready) sendAgain
      fun _ => Holds (Place.height nodes) fuota.inputs (place fuota).queue (transmitted fuota.log + 1)
        ((place fuota).height nodes) := by
  intro _ known
  rw [known]
  obtain ⟨after, sent, ran, -⟩ := sendAgain_sends ready
  have costs : Respects (Costs nodes false (place ready) 1) sendAgain :=
    costs_free buildAndStoreFuotaCmd_costs fun _ => pure_costs 0 ()
  obtain ⟨same, stays, less⟩ := costs ready (inputs ▸ network) rfl
  rw [ran] at same stays less ⊢
  dsimp only at less
  have queue : ((place ready).seen true).queue = ((place fuota).seen true).queue :=
    congrArg Place.queue fewer.same
  have height : (place ready).height nodes + 0 ≤ (place fuota).height nodes :=
    (Nat.add_zero _).le.trans fewer.height
  exact ⟨place ready, 0, ⟨same.trans inputs, stays, by omega⟩, fewer.limited limited,
    Or.inr ⟨queue, height⟩⟩

theorem prepared_fewer {sameHops : Bool} {payloadLen : Nat} {prog : Prog Fuota Unit} {prepared : Fuota}
    (network : InNetwork nodes fuota.inputs) (limited : Limited (place fuota))
    (spent : fuota.machine.cntx.maxRetries ≤ fuota.machine.cntx.retryCount)
    (alternates : fuota.machine.cntx.alternateRetry < fuota.machine.cntx.alternateMaxcnt)
    (ran : prog (began fuota) = (some (), prepared))
    (costs : forall here, Respects (Costs nodes true here 0) prog)
    (switched : Prepared sameHops payloadLen (began fuota) prepared) :
    prepared.inputs = fuota.inputs /\ Fewer (place fuota) (place prepared) /\
      transmitted prepared.log ≤ transmitted fuota.log := by
  have beginning : (place (began fuota)).seen true = (place fuota).seen true := rfl
  obtain ⟨inputs, stays, less⟩ := costs _ (began fuota) network rfl
  rw [ran] at inputs stays less
  refine ⟨inputs, ⟨stays.trans beginning, ?_⟩, less⟩
  obtain ⟨⟨retries, most⟩, -⟩ := limited
  have retriesSame : (began fuota).machine.cntx.maxRetries = 3 := retries
  have mostSame : (began fuota).machine.cntx.alternateMaxcnt = 2 := most
  have counted : (began fuota).machine.cntx.alternateRetry = fuota.machine.cntx.alternateRetry + 1 := rfl
  have anew := switched.retryCount
  have more := switched.spent
  have most' : fuota.machine.cntx.alternateMaxcnt = 2 := most
  have retries' : fuota.machine.cntx.maxRetries = 3 := retries
  show (2 - prepared.machine.cntx.alternateRetry) * 4 + (3 - prepared.machine.cntx.retryCount) ≤
    (2 - fuota.machine.cntx.alternateRetry) * 4 + (3 - fuota.machine.cntx.retryCount)
  omega

theorem reported_holds {here : Place} {inputs : Inputs} {base top : Nat} (network : InNetwork nodes inputs)
    (limited : Limited here) :
    Triple (Halted here.queue base top) (Stands inputs base here 0)
      (setMachine (fun machine => { machine with
          waitingForResponse := false
          useAlternateFuotaRoute := false
          cntx := { machine.cntx with retryCount := 0, alternateRetry := 0 } }) >>= fun _ =>
        observe (fun fuota : Fuota => fuota.client.requestId) >>= fun requestId =>
          note (.updated requestId 3 0) >>= fun _ => nextCommandOr .networkSilence)
      fun _ => Holds (Place.height nodes) inputs here.queue base top := by
  have anew : Limited here.renewed := limited
  have now : Affords (fun _ => 0) here.queue top here.renewed 0 := ⟨anew, Or.inr ⟨rfl, Nat.zero_le _⟩⟩
  apply triple_bind _ (setMachine_goes _ Place.renewed fun _ => rfl)
  intro _
  apply stands_free network now (observe_costs _)
  intro requestId
  apply stands_free network now fun _ => costs_event _ rfl rfl rfl rfl
  intro _
  apply dequeue_stands
  next =>
    intro _
    apply (setState_goes .networkSilence).weaken fun _ => id
    refine fun _ _ stands => ⟨_, 0, stands, now.enters _ ?_⟩
    simp [Place.height, Place.rank, Place.left]
  next =>
    intro command rest queued
    have longer : here.queue = command :: rest := queued
    have shorter : { here.renewed with queue := rest }.queue.length < here.queue.length := by simp [longer]
    have kept : Limited { here.renewed with queue := rest } := anew
    exact takeCommand_holds network command kept shorter _

theorem pollTimeoutHandler_holds (network : InNetwork nodes fuota.inputs) (limited : Limited (place fuota)) :
    Triple (fun _ => True) (· = fuota) pollTimeoutHandler
      fun _ => Holds (Place.height nodes) fuota.inputs (place fuota).queue (transmitted fuota.log + 1)
        ((place fuota).height nodes) := by
  obtain ⟨⟨three, two⟩, inactive⟩ := limited
  have retries : fuota.machine.cntx.maxRetries = 3 := three
  have most : fuota.machine.cntx.alternateMaxcnt = 2 := two
  have bounded : Limited (place fuota) := ⟨⟨three, two⟩, inactive⟩
  have standing : Stands fuota.inputs (transmitted fuota.log + 1) (place fuota) 0 fuota :=
    ⟨rfl, rfl, Nat.le_succ _⟩
  intro _ known
  rw [known, pollTimeoutHandler, ran_bind (show observe _ fuota = (some fuota.machine, fuota) from rfl),
    ran_bind (show observe _ fuota = (some fuota.client.timeoutState, fuota) from rfl)]
  by_cases due : (decide (fuota.client.timeoutState ≠ .timerFuotaResponse) ||
      !fuota.machine.waitingForResponse) = true
  next =>
    rw [if_pos due]
    exact ⟨place fuota, 0, standing, bounded, Or.inr ⟨rfl, (Nat.add_zero _).le⟩⟩
  rw [if_neg due]
  by_cases few : fuota.machine.cntx.retryCount < fuota.machine.cntx.maxRetries
  next =>
    rw [if_pos few, ran_bind (show setCntx _ fuota = (some (), resent fuota) from rfl)]
    apply sendAgain_holds (resent fuota) network bounded rfl ⟨rfl, ?_⟩ (Nat.le_refl _) _ rfl
    have counted : (resent fuota).machine.cntx.retryCount = fuota.machine.cntx.retryCount + 1 := rfl
    have same : (resent fuota).machine.cntx.alternateRetry = fuota.machine.cntx.alternateRetry := rfl
    show (2 - (resent fuota).machine.cntx.alternateRetry) * 4 + (3 - (resent fuota).machine.cntx.retryCount) ≤
      (2 - fuota.machine.cntx.alternateRetry) * 4 + (3 - fuota.machine.cntx.retryCount)
    omega
  rw [if_neg few]
  by_cases alternates : fuota.machine.cntx.alternateRetry < fuota.machine.cntx.alternateMaxcnt
  next =>
    rw [if_pos alternates, ran_bind (show setMachine _ fuota = (some (), began fuota) from rfl),
      ran_bind (show observe _ (began fuota) = (some fuota.radio.clientTxBuffer, began fuota) from rfl)]
    rw [ran_bind (show getState (began fuota) =
      (some fuota.machine.ondemandFuotaState, began fuota) from rfl)]
    by_cases uploads : (fuota.machine.ondemandFuotaState = .fwImageTransfer ||
        fuota.machine.ondemandFuotaState = .fwimageOfSectorCount) = true
    next =>
      obtain ⟨prepared, ran, switched⟩ :=
        prepareAlternateSamerouteRetry_prepares none _ (Nat.succ_ne_zero _) (began fuota)
      obtain ⟨inputs, fewer, quiet⟩ := prepared_fewer network bounded (by omega) alternates ran
        (fun _ => prepareAlternateSamerouteRetry_costs _ _) switched
      rw [if_pos uploads, ran_bind ran]
      exact sendAgain_holds prepared network bounded inputs fewer quiet _ rfl
    next =>
      obtain ⟨prepared, ran, switched⟩ := prepareAlternateRouteRetry_prepares none _ (began fuota)
      obtain ⟨inputs, fewer, quiet⟩ := prepared_fewer network bounded (by omega) alternates ran
        (fun _ => prepareAlternateRouteRetry_costs _ _) switched
      rw [if_neg uploads, ran_bind ran]
      exact sendAgain_holds prepared network bounded inputs fewer quiet _ rfl
  next =>
    rw [if_neg alternates]
    have reports : Triple (Halted (place fuota).queue (transmitted fuota.log + 1) ((place fuota).height nodes))
        (Stands fuota.inputs (transmitted fuota.log + 1) (place fuota) 0) _ _ :=
      reported_holds network bounded
    exact reports.waits (fun _ _ => trivial) fuota standing

end Polls

end Hes.Fuota
