import Hes.Fuota.Refinement

set_option autoImplicit false

namespace Hes.Fuota

open Prog Text Mqtt Relation

variable {permitted : Cause -> Core -> Prop}

section Uploads

theorem unseen_setUpload (change : Upload -> Upload) : Unseen (setUpload change) := fun _ => rfl

theorem steady_setUpload (change : Upload -> Upload) : Respects (Steady permitted) (setUpload change) :=
  (unseen_setUpload change).steady

theorem unseen_updateFuotaResponseBuff : Unseen updateFuotaResponseBuff := fun _ => rfl

theorem unseen_fseek (position : Nat) : Unseen (fseek position) := by
  intro fuota
  simp [fseek, setFirmware, update, core, Function.comp_def]

theorem unseen_fread (count : Nat) : Unseen (fread count) := by
  intro fuota
  simp only [fread]
  cases opened : fuota.firmware.foutaReadFd with
  | none => rfl
  | some file => simp [core, opened]

variable {hopCount : Int}

theorem within_frameForTarget_aside (aim : forall now : Core, now.hopCount = hopCount ->
      permitted .targeted now)
    (packetType : UInt8) (command : Bytes) (other : command ≠ activateRead)
    (plain : ¬ Verifying command) :
    Respects (Within permitted (Aimed hopCount))
      (framePmeshFuotaCmdHeaderForTargetNode packetType command) := by
  intro fuota aimed
  apply steady_framePmeshFuotaCmdHeaderForTargetNode packetType command fuota
  next => exact fun now same => aim now (same.trans aimed)
  next => exact fun same => absurd same other
  next => exact fun verifying => absurd verifying plain

theorem steady_lastSectorAttempts (attempts : Nat) :
    Respects (Steady permitted) (lastSectorAttempts attempts) := by
  induction attempts with
  | zero => exact steady_pure none
  | succ attempts ih =>
    apply steady_bind steady_writeFrame
    intro written
    split
    next =>
      apply steady_bind unseen_nextArrival.steady
      intro arrival
      cases arrival with
      | failed => exact ih
      | timedOut => exact ih
      | data bytes =>
        dsimp only
        split
        next => exact ih
        next => exact steady_bind unseen_updateFuotaResponseBuff.steady fun _ => steady_pure _
    next => exact ih

theorem within_rffuotaReadLastsectorPageAndSubpageStatus
    (aim : forall now : Core, now.hopCount = hopCount -> permitted .targeted now) :
    Respects (Within permitted (Aimed hopCount)) rffuotaReadLastsectorPageAndSubpageStatus := by
  apply within_bind aimed_stable (Steady.within (steady_updateStatus 12 1))
  intro _
  apply within_bind aimed_stable
    (within_frameForTarget_aside aim _ _ (by decide) (by unfold Verifying; decide))
  exact fun _ => Steady.within (steady_lastSectorAttempts 3)

theorem steady_fixPageSubpageAndSeek : Respects (Steady permitted) fixPageSubpageAndSeek := by
  apply steady_bind (steady_observe _)
  intro _
  apply steady_bind (steady_setUpload _)
  intro _
  apply steady_bind (steady_observe _)
  intro _
  apply steady_bind (unseen_fseek _).steady
  intro _
  exact steady_bind (steady_setUpload _) fun _ => steady_setUpload _

theorem within_jumpToLastSector
    (aim : forall now : Core, now.hopCount = hopCount -> permitted .targeted now) (forward : Nat) :
    Respects (Within permitted (Aimed hopCount)) (jumpToLastSector forward) := by
  apply within_bind aimed_stable (within_rffuotaReadLastsectorPageAndSubpageStatus aim)
  intro status
  split
  next => exact Steady.within (steady_pure _)
  next =>
    apply Steady.within
    apply steady_bind (steady_setUpload _)
    intro _
    apply steady_bind steady_fixPageSubpageAndSeek
    intro _
    exact steady_bind (steady_setUpload _) fun _ => steady_pure _

theorem steady_retryHandling : Respects (Steady permitted) retryHandling := by
  apply steady_bind (steady_observe _)
  intro upload
  split
  next =>
    apply steady_bind (steady_setUpload _)
    intro _
    split
    next => exact steady_bind (steady_setUpload _) fun _ => steady_pure _
    next =>
      apply steady_bind (steady_setUpload _)
      intro _
      exact steady_bind (steady_prepareAlternateSamerouteRetry _ _) fun _ => steady_pure _
  next =>
    apply steady_bind (steady_setUpload _)
    intro _
    split
    next => exact steady_bind (steady_setUpload _) fun _ => steady_pure _
    next => exact steady_pure _

theorem within_handleFuotaPostRead
    (aim : forall now : Core, now.hopCount = hopCount -> permitted .targeted now)
    (bytesRead : Option Nat) :
    Respects (Within permitted (Aimed hopCount)) (handleFuotaPostRead bytesRead) := by
  apply within_bind aimed_stable (Steady.within (steady_observe _))
  intro upload
  split
  next =>
    apply Steady.within
    apply steady_bind (unseen_setCntx _).steady
    intro _
    exact steady_bind (steady_setUpload _) fun _ => steady_pure _
  next =>
    cases bytesRead with
    | none =>
      apply Steady.within
      apply steady_bind (steady_setUpload _)
      intro _
      exact steady_bind (steady_updateStatus 4 0) fun _ => steady_pure _
    | some length =>
      dsimp only
      split
      next => exact within_jumpToLastSector aim 1
      next =>
        split
        next => exact within_jumpToLastSector aim 0
        next => exact Steady.within steady_retryHandling

theorem within_judge (aim : forall now : Core, now.hopCount = hopCount -> permitted .targeted now)
    (bytesRead : Option Nat) : Respects (Within permitted (Aimed hopCount)) (judge bytesRead) := by
  apply within_bind aimed_stable (Steady.within (steady_setUpload _))
  intro _
  apply within_bind aimed_stable (within_handleFuotaPostRead aim bytesRead)
  intro decision
  cases decision <;> exact Steady.within (steady_pure _)

theorem unseen_nextWrite : Unseen nextWrite := fun _ => rfl

theorem within_exchangeTurn (aim : forall now : Core, now.hopCount = hopCount -> permitted .targeted now)
    (frame : ImageFrame) : Respects (Within permitted (Aimed hopCount)) (exchangeTurn frame) := by
  intro fuota aimed
  rw [exchangeTurn, ran_bind (show observe id fuota = (some fuota, fuota) from rfl)]
  split
  next =>
    apply moved_bind steady_trans (unseen_nextWrite.steady fuota)
    intro written after ran counted
    have same : core after = core fuota := by
      rw [← (Prod.mk.inj ran).2]
      rfl
    have requests : after.client.requestId = fuota.client.requestId := congrArg Core.requestId same
    rw [← requests]
    apply moved_bind steady_trans (steady_move (Move.imaged (core after) frame) rfl rfl rfl rfl)
    intro _ noted _ moved
    have still : Aimed hopCount noted := moved.hopCount.trans (counted.hopCount.trans aimed)
    split
    next =>
      refine within_bind aimed_stable (Steady.within unseen_nextArrival.steady) ?_ noted still
      intro arrival
      cases arrival with
      | timedOut => exact Steady.within (steady_bind (steady_setUpload _) fun _ => steady_pure _)
      | failed => exact within_judge aim none
      | data bytes =>
        apply within_bind aimed_stable (Steady.within (steady_setUpload _))
        intro _
        split
        next => exact Steady.within (steady_bind (steady_setUpload _) fun _ => steady_pure _)
        next => exact within_judge aim _
    next => exact steady_refl noted
  next => exact steady_refl fuota

/-- Still in the upload, or out of it: what is known when a turn or the loop comes to an end. -/
def Along (permitted : Cause -> Core -> Prop) (before : Fuota) (going : Bool) (after : Fuota) : Prop :=
  if going then Steady permitted before after else Path permitted before after

/-- The turns of an upload, and its last one, stay in the state; a given up upload may leave it. -/
def Turn.going : Turn Unit Bool -> Bool
  | .again _ => true
  | .done result => result

theorem steady_advance (lastSubpage : Bool) : Respects (Steady permitted) (advance lastSubpage) :=
  steady_setUpload _

theorem within_along {A : Type} {prog : Prog Fuota A} {before : Fuota}
    (aimed : Aimed hopCount before) (moves : Respects (Within permitted (Aimed hopCount)) prog) :
    Triple (Path permitted before) (Steady permitted before) prog fun _ => Steady permitted before := by
  intro fuota known
  have moved := steady_trans before fuota _ known (moves fuota (known.hopCount.trans aimed))
  cases ran : prog fuota with
  | mk outcome last =>
    rw [ran] at moved
    cases outcome with
    | none => exact moved.moves
    | some result => exact moved

theorem steady_along {A : Type} {prog : Prog Fuota A} {before : Fuota}
    (steady : Respects (Steady permitted) prog) :
    Triple (Path permitted before) (Steady permitted before) prog fun _ => Steady permitted before :=
  @within_along permitted before.client.hopCount A prog before rfl (Steady.within steady)

theorem completion_along (ok : forall now, permitted .completed now)
    (skip : forall now, permitted .skipped now) (before : Fuota) :
    Triple (Path permitted before) (Steady permitted before)
      (handleFuotaCompletion >>= fun _ => pure (Turn.done false))
      fun turn after => Along permitted before (Turn.going turn) after := by
  apply triple_bind fun _ => Path permitted before
  next =>
    apply (handleFuotaCompletion_completed ok skip before.machine.ondemandFuotaState).weaken
    next => exact fun _ steady => (reached_start rfl).steady steady
    next => exact fun _ _ completed => completed.1
  next => exact fun _ => triple_pure _ fun _ moved => moved

theorem afterExchange_along (ok : forall now, permitted .completed now)
    (skip : forall now, permitted .skipped now) (frame : ImageFrame) (exchange : Exchange)
    (before : Fuota) :
    Triple (Path permitted before) (Steady permitted before) (afterExchange frame exchange)
      fun turn after => Along permitted before (Turn.going turn) after := by
  have advances (prog : Prog Fuota Unit) (steady : Respects (Steady permitted) prog) :
      Triple (Path permitted before) (Steady permitted before)
        (prog >>= fun _ => pure (Turn.again ()))
        fun turn after => Along permitted before (Turn.going turn) after :=
    triple_bind _ (steady_along steady) fun _ => triple_pure _ fun _ known => known
  cases exchange with
  | acknowledged =>
    apply triple_bind _ (steady_along fun fuota =>
      steady_move (Move.imageAcknowledged (core fuota) frame) rfl rfl rfl rfl)
    exact fun _ => advances _ (steady_advance frame.lastSubpage)
  | jumped => exact advances _ (steady_advance frame.lastSubpage)
  | exhausted =>
    apply triple_bind _ (steady_along (steady_observe _))
    intro alternates
    apply triple_bind _ (steady_along (steady_setUpload _))
    intro _
    split
    next => exact completion_along ok skip before
    next => exact advances _ (steady_advance frame.lastSubpage)
  | aborted =>
    apply triple_bind _ (steady_along (steady_updateStatus 11 0))
    exact fun _ => completion_along ok skip before
  | writeFailed =>
    apply triple_bind _ (steady_along (steady_updateStatus 1 0))
    exact fun _ => triple_pure _ fun _ known => known.moves

theorem sendSubpage_along (ok : forall now, permitted .completed now)
    (skip : forall now, permitted .skipped now)
    (aim : forall now : Core, now.hopCount = hopCount -> permitted .targeted now)
    (payload : Bytes) (position : Nat) (lastSubpage : Bool) (before : Fuota)
    (aimed : Aimed hopCount before) :
    Triple (Path permitted before) (Steady permitted before) (sendSubpage payload position lastSubpage)
      fun turn after => Along permitted before (Turn.going turn) after := by
  apply triple_bind _ (steady_along (steady_setUpload _))
  intro _
  apply triple_bind _ (steady_along (steady_observe _))
  intro fuota
  apply triple_bind _ (steady_along (steady_updateStatus 11 1))
  intro _
  apply triple_bind _ (within_along aimed
    (respects_loop within_refl (within_trans aimed_stable) _
      (fun _ => within_exchangeTurn aim _) fuota.inputs.fuel ()))
  exact fun exchange => afterExchange_along ok skip _ exchange before

theorem uploadTurn_along (ok : forall now, permitted .completed now)
    (skip : forall now, permitted .skipped now)
    (aim : forall now : Core, now.hopCount = hopCount -> permitted .targeted now) (before : Fuota)
    (aimed : Aimed hopCount before) :
    Triple (Path permitted before) (Steady permitted before) (uploadTurn ())
      fun turn after => Along permitted before (Turn.going turn) after := by
  apply triple_bind _ (steady_along (steady_observe _))
  intro fuota
  dsimp only
  split
  next =>
    apply triple_bind _ (steady_along (steady_observe _))
    intro position
    apply triple_bind _ (steady_along (unseen_fread _).steady)
    intro payload
    split
    next => exact triple_pure _ fun _ known => known
    next => exact sendSubpage_along ok skip aim _ _ _ before aimed
  next => exact triple_pure _ fun _ known => known

theorem upload_along (ok : forall now, permitted .completed now)
    (skip : forall now, permitted .skipped now)
    (aim : forall now : Core, now.hopCount = hopCount -> permitted .targeted now) (fuel : Nat)
    (before : Fuota) (aimed : Aimed hopCount before) :
    Triple (Path permitted before) (Steady permitted before) (loop uploadTurn fuel ())
      fun result after => Along permitted before result after := by
  apply triple_loop uploadTurn (fun _ => Steady permitted before) (fun _ _ known => known.moves)
  intro _
  apply (uploadTurn_along ok skip aim before aimed).weaken (fun _ known => known)
  intro turn after along
  cases turn with
  | again _ => exact along
  | done _ => exact along

theorem steady_startUpload (fuota : Fuota)
    (starts : forall now : Core, now.built = fuota.radio.built -> permitted .uploading now) :
    Steady permitted fuota (startUpload fuota).2 := by
  apply steady_move (Move.uploadStarted (core fuota) (starts _ rfl)) _ rfl rfl rfl
  simp [startUpload, bind, observe, setUpload, update, updateFuotaResponseBuff,
    updateFuotaImageTransferTxBuff, pure, fseek, setFirmware, note, core, Core.note, Function.comp_def]

theorem within_prepareAndGetTheEndofImageTransfer
    (aim : forall now : Core, now.hopCount = hopCount -> permitted .targeted now) :
    Respects (Within permitted (Aimed hopCount)) prepareAndGetTheEndofImageTransfer := by
  apply within_bind aimed_stable
    (within_frameForTarget_aside aim _ _ (by decide) (by unfold Verifying; decide))
  intro _
  exact Steady.within (steady_bind steady_buildAndStoreFuotaCmd fun _ => steady_pure _)

/-- The moves of an upload; what is known where its loop comes to an end is asked for. -/
theorem path_fuotaUploadingProcess (ok : forall now, permitted .completed now)
    (skip : forall now, permitted .skipped now) (fuota : Fuota)
    (aim : forall now : Core, now.hopCount = fuota.client.hopCount -> permitted .targeted now)
    (starts : forall now : Core, now.built = fuota.radio.built -> permitted .uploading now)
    (ends : forall ended, loop uploadTurn (startUpload fuota).2.inputs.fuel () (startUpload fuota).2 =
      (some true, ended) -> permitted .uploaded (core ended))
    (state : fuota.machine.ondemandFuotaState = .fwImageTransfer) :
    Path permitted fuota (fuotaUploadingProcess fuota).2 := by
  have moved := steady_startUpload fuota starts
  rw [fuotaUploadingProcess, ran_bind (show startUpload fuota = (some (), (startUpload fuota).2) from rfl),
    ran_bind (show observe _ (startUpload fuota).2 = (some (startUpload fuota).2.inputs.fuel, _) from rfl)]
  apply path_trans _ _ _ moved.moves
  have looped := upload_along ok skip aim (startUpload fuota).2.inputs.fuel (startUpload fuota).2
    moved.hopCount (startUpload fuota).2 (steady_refl _)
  cases ran : loop uploadTurn (startUpload fuota).2.inputs.fuel () (startUpload fuota).2 with
  | mk outcome last =>
    rw [ran] at looped
    cases outcome with
    | none =>
      rw [waited_bind ran]
      exact looped
    | some result =>
      rw [ran_bind ran]
      cases result with
      | false => exact looped
      | true =>
        have inside : last.machine.ondemandFuotaState = .fwImageTransfer :=
          looped.state.trans (moved.state.trans state)
        have aimed : Aimed fuota.client.hopCount last := looped.hopCount.trans moved.hopCount
        apply path_trans _ _ _ looped.moves
        let uploaded : Fuota := { last with
          machine := { last.machine with ondemandFuotaState := .fwImageEndofPageTransfer }
          log := last.log ++ [.uploadEnded] ++ [.assigned .fwImageEndofPageTransfer] }
        have ended : endUpload last = (some (), uploaded) := by
          rw [endUpload, ran_bind (show note .uploadEnded last = (some (), _) from rfl),
            ran_bind (show getState _ = (some _, _) from rfl), if_pos inside]
          rfl
        rw [if_pos rfl, ran_bind ended]
        apply path_trans last uploaded _
          (path_move (Move.uploaded (core last) (ends last ran) inside) rfl)
        exact (within_prepareAndGetTheEndofImageTransfer aim uploaded aimed).moves

end Uploads

end Hes.Fuota
