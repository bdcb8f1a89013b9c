import Hes.Fuota.StepRefinement

set_option autoImplicit false

namespace Hes.Fuota

open Prog Text Mqtt Relation

variable {permitted : Cause -> Core -> Prop} {fuota : Fuota} {data : Bytes}

section Silencing

theorem acknowledged_replies (state : FuotaState) (advancing : Prog Fuota Unit)
    (permits : Permits permitted fuota data) (inside : fuota.machine.ondemandFuotaState = state)
    (kind : state = .targetNodeSilence \/ state = .networkSilence) (accepted : accepts state data = true)
    (advances : Onward permitted fuota data state advancing) :
    Replies permitted fuota data (acknowledgeTarget >>= fun _ => advancing) := by
  have acknowledges : Acknowledges fuota data := by
    rw [Acknowledges, inside]
    exact ⟨accepted, by rcases kind with rfl | rfl <;> exact trivial⟩
  have noted := @steady_acknowledgeTarget permitted fuota
    (permits .acknowledged (core fuota) ⟨acknowledges, fuota.log, rfl⟩)
    (by rw [inside]; exact kind.imp id Or.inl)
  apply triple_ran (show acknowledgeTarget fuota = (some (), (acknowledgeTarget fuota).2) from rfl)
  apply advances.weaken
  next =>
    intro start here
    rw [here]
    exact (reached_start inside).steady noted
  next => exact fun _ _ later => later

theorem replyTargetNodeSilence_replies (permits : Permits permitted fuota data)
    (inside : fuota.machine.ondemandFuotaState = .targetNodeSilence) :
    Replies permitted fuota data (replyTargetNodeSilence data) := by
  have targets : Targets fuota data := by
    rw [Targets, inside]
    exact trivial
  unfold replyTargetNodeSilence
  split
  next accepted =>
    apply acknowledged_replies .targetNodeSilence _ permits inside (Or.inl rfl) accepted
    apply onward_bind (goes_steady (steady_observe _))
    intro step
    split
    next =>
      exact (goes_steady (Unseen.steady fun _ => rfl)).onward fun last reached =>
        ready_aimed permits targets reached (by decide)
    next =>
      apply onward_bind (goes_setState .networkSilence (show Leads _ .targetNodeSilence .networkSilence
        from trivial))
      intro _
      exact (goes_steady (Unseen.steady fun _ => rfl)).onward fun last reached =>
        ready_aimed permits targets reached (by decide)
  next refused =>
    exact silenceFailed_replies .targetNodeSilence _ permits inside rfl (by simpa using refused)

theorem replyNetworkSilence_replies (permits : Permits permitted fuota data)
    (inside : fuota.machine.ondemandFuotaState = .networkSilence) :
    Replies permitted fuota data (replyNetworkSilence data) := by
  have targets : Targets fuota data := by
    rw [Targets, inside]
    exact trivial
  unfold replyNetworkSilence
  split
  next accepted =>
    apply acknowledged_replies .networkSilence _ permits inside (Or.inr rfl) accepted
    apply onward_bind (goes_steady (steady_observe _))
    intro step
    split
    next =>
      exact (goes_steady (Unseen.steady fun _ => rfl)).onward fun last reached =>
        ready_aimed permits targets reached (by decide)
    next =>
      exact (goes_setState .sectorRead (show Leads _ .networkSilence .sectorRead from trivial)).onward
        fun last reached => ready_aimed permits targets reached (by decide)
  next refused =>
    exact silenceFailed_replies .networkSilence _ permits inside rfl (by simpa using refused)

end Silencing

section Uploading

theorem locates_dynamicFuotaCalculate :
    Triple (Path permitted fuota) (Reached permitted fuota .sectorRead) dynamicFuotaCalculate
      fun located after => Reached permitted fuota .sectorRead after /\
        (located = true -> exists log path, after.log = log ++ [.opened path]) := by
  -- the file of the request is opened once more: in the end, where the size and the sector are
  -- known
  apply triple_bind _ (goes_steady (steady_observe _))
  intro folder
  split
  next => exact triple_pure false fun _ known => ⟨known, by simp⟩
  next =>
    apply triple_bind _ (goes_steady (steady_updateStatus 8 1))
    intro _ before reached
    let session : Fuota := { before with firmware := { before.firmware with
      session := { headerLen := headerLenWithoutPath, file := before.client.firmwarePath } } }
    have placed : Reached permitted fuota .sectorRead session := reached.steady (steady_same rfl)
    refine triple_ran (show observe id before = (some before, before) from rfl) ?_ before rfl
    apply triple_ran (show setFirmware _ before = (some (), session) from rfl)
    split
    next => exact triple_pure false fun _ same => same ▸ ⟨placed, by simp⟩
    next =>
      obtain ⟨content, counted, ran, same, _, inputs, known⟩ := fopen_ran before.client.firmwarePath session
      have opens : Reached permitted fuota .sectorRead counted := placed.steady (steady_same same)
      have path : before.client.firmwarePath = (core counted).clientPath := by
        rw [same]
        rfl
      apply triple_ran ran
      cases content with
      | none =>
        rw [← inputs] at known
        let closed : Fuota := { counted with
          firmware := { counted.firmware with foutaReadFd := none } }
        have last : Reached permitted fuota .sectorRead closed :=
          opens.steady (steady_move (Move.closed (core counted) before.client.firmwarePath
            (Or.inr (Or.inl opens.state)) known) rfl rfl rfl rfl)
        apply triple_ran (show keepNone counted = (some (), closed) from rfl)
        exact triple_pure false fun _ same => same ▸ ⟨last, by simp⟩
      | some bytes =>
        rw [← inputs, path] at known
        let opened : Fuota := { counted with
          firmware := { counted.firmware with
            foutaReadFd := some { content := bytes }
            totalFirmwaresize := bytes.length % 2 ^ 32 }
          log := counted.log ++ [.opened before.client.firmwarePath] }
        have moved : Steady permitted counted opened := by
          apply steady_move (Move.reopened (core counted) bytes opens.state known) _ rfl rfl rfl
          rw [← path]
          rfl
        have last : Reached permitted fuota .sectorRead opened := opens.steady moved
        apply triple_ran (show keepOpen bytes counted = (some (), _) from rfl)
        apply triple_ran (show note _ _ = (some (), opened) from rfl)
        split
        next => exact triple_waiting fun _ same => same ▸ last.moves
        next => exact triple_pure true fun _ same => same ▸ ⟨last, fun _ => ⟨_, _, rfl⟩⟩

theorem goes_succeed (state : FuotaState) : Goes permitted fuota state succeed state :=
  goes_steady unseen_succeed.steady

theorem goes_updateStatus (state : FuotaState) (requestStatus errorCode : Nat) :
    Goes permitted fuota state (updateStatus requestStatus errorCode) state :=
  goes_steady (steady_updateStatus requestStatus errorCode)

theorem steady_noteAccepted (fuota : Fuota) (state : FuotaState)
    (inside : fuota.machine.ondemandFuotaState = state) :
    Steady permitted fuota (note (.accepted state) fuota).2 := by
  subst inside
  exact steady_move (Move.accepted (core fuota)) rfl rfl rfl rfl

theorem goes_noteAccepted (state : FuotaState) :
    Goes permitted fuota state (note (.accepted state)) state :=
  goes_of fun before reached => reached.steady (steady_noteAccepted before state reached.state)

theorem Reached.sectored {before : Fuota} (reached : Reached permitted fuota .sectorRead before)
    (value : Nat) : Reached permitted fuota .sectorRead { before with
      firmware := { before.firmware with sectorValue := value }
      log := before.log ++ [.accepted .sectorRead] } := by
  apply reached.steady
  apply steady_move (Move.sectored (core before) value reached.state) _ rfl rfl rfl
  have state : (core before).state = .sectorRead := reached.state
  rw [state]
  rfl

theorem replySectorRead_replies (permits : Permits permitted fuota data)
    (inside : fuota.machine.ondemandFuotaState = .sectorRead) :
    Replies permitted fuota data (replySectorRead data) := by
  have targets : Targets fuota data := by
    rw [Targets, inside]
    exact trivial
  have rests : forall last, Reached permitted fuota .sectorRead last -> Ready permitted fuota data last :=
    fun last reached => ready_aimed permits targets reached (by decide)
  unfold replySectorRead
  split
  next accepted =>
    apply replies_of inside
    intro before reached
    refine triple_ran (show note (.accepted .sectorRead) before = (some (), _) from rfl) ?_ before rfl
    apply triple_ran (show setFirmware _ _ = (some (), _) from rfl)
    have sectored := reached.sectored ((fromEnd data 3).toNat * 256 + (fromEnd data 2).toNat)
    refine Triple.weaken (show Onward permitted fuota data .sectorRead _ from ?_)
      (fun _ same => same ▸ sectored) fun _ _ later => later
    apply onward_bind (goes_updateStatus .sectorRead 7 1)
    intro _
    apply onward_bind (goes_succeed .sectorRead)
    intro _
    apply triple_bind _ locates_dynamicFuotaCalculate
    intro calculated
    split
    next known =>
      rintro last ⟨reached, opened⟩
      obtain ⟨log, path, opened⟩ := opened known
      have moved : Reached permitted fuota .fwimageOfSectorCount (setState .fwimageOfSectorCount last).2 :=
        ⟨reached.moves.trans (path_move (Move.located (core last) log path reached.state opened) rfl), rfl,
          reached.hopCount, reached.queue⟩
      exact ⟨moved.moves, ready_aimed permits targets moved ⟨by decide, by decide, by decide⟩⟩
    next =>
      refine Triple.weaken (show Onward permitted fuota data .sectorRead _ from ?_)
        (fun _ known => known.1) fun _ _ later => later
      apply onward_bind (goes_steady (steady_observe _))
      intro firmware
      split
      next =>
        apply onward_bind (goes_updateStatus .sectorRead 2 1)
        intro _
        have unsilences : Unsilences fuota data := by
          refine Or.inr (Or.inr ?_)
          rw [inside]
          exact accepted
        exact (goes_setState .networkUnsilence (show Leads _ .sectorRead .networkUnsilence
          from trivial)).onward fun last reached => ready_unsilencing permits unsilences reached.state
      next => exact (goes_steady (steady_pure ())).onward rests
  next refused =>
    apply refused_replies .sectorRead .sectorRead _ permits inside _ targets (steady_pure ())
    next =>
      apply goes_bind (goes_steady (Unseen.steady fun _ => rfl))
      exact fun _ => goes_setState .sectorRead (show Leads _ .sectorRead .sectorRead from rfl)
    next => decide
    next => decide
    next =>
      intro spent
      rw [Completes, inside, GivesUp, inside]
      exact ⟨by simpa using refused, spent⟩

theorem stage_replies (state next : FuotaState) (good : Prog Fuota Unit) (again : FuotaState)
    (retrying given : Prog Fuota Unit) (permits : Permits permitted fuota data)
    (inside : fuota.machine.ondemandFuotaState = state) (targets : Targets fuota data)
    (gives : Respects (Steady permitted) given)
    (proceeds : accepts state data = true -> Goes permitted fuota state good next)
    (retries : Goes permitted fuota state retrying again) (plain : state.plain) (plainNext : next.plain)
    (plainAgain : again.plain)
    (completes : accepts state data = false -> 3 ≤ fuota.machine.cntx.retryCount -> Completes fuota data) :
    Replies permitted fuota data (if accepts state data then good else retryOr 3 retrying given) := by
  split
  next accepted =>
    exact replies_of inside ((proceeds accepted).onward fun last reached =>
      ready_aimed permits targets reached plainNext)
  next refused =>
    exact refused_replies state again given permits inside (completes (by simpa using refused)) targets
      gives retrying retries plain plainAgain

theorem replyFwimageOfSectorCount_replies (permits : Permits permitted fuota data)
    (inside : fuota.machine.ondemandFuotaState = .fwimageOfSectorCount) :
    Replies permitted fuota data (replyFwimageOfSectorCount data) := by
  apply stage_replies .fwimageOfSectorCount .eraseFlash _ .fwimageOfSectorCount _ _ permits inside
  next =>
    rw [Targets, inside]
    exact trivial
  next => exact steady_pure ()
  next =>
    intro _
    apply goes_bind (goes_updateStatus .fwimageOfSectorCount 9 1)
    intro _
    apply goes_bind (goes_succeed .fwimageOfSectorCount)
    intro _
    apply goes_bind (goes_steady (Unseen.steady fun _ => rfl))
    exact fun _ => goes_proceed .eraseFlash trivial
  next => exact goes_setState .fwimageOfSectorCount rfl
  next => decide
  next => decide
  next => decide
  next =>
    intro refused spent
    rw [Completes, inside, GivesUp, inside]
    exact ⟨refused, spent⟩

theorem replyFwImageEndofPageTransfer_replies (permits : Permits permitted fuota data)
    (inside : fuota.machine.ondemandFuotaState = .fwImageEndofPageTransfer) :
    Replies permitted fuota data (replyFwImageEndofPageTransfer data) := by
  have targets : Targets fuota data := by
    rw [Targets, inside]
    exact trivial
  unfold replyFwImageEndofPageTransfer
  split
  next accepted =>
    apply replies_of inside
    apply onward_bind (goes_updateStatus .fwImageEndofPageTransfer 13 1)
    intro _
    apply onward_bind (goes_succeed .fwImageEndofPageTransfer)
    intro _
    apply (goes_proceed .newFwimageCrcCalculate
      (show Follows .fwImageEndofPageTransfer .newFwimageCrcCalculate from trivial)).onward
    intro last reached
    unfold Ready
    rw [reached.state]
    refine ⟨fun now same => permits.aim targets now (same.trans reached.hopCount), ?_⟩
    rw [Sums, inside]
    exact accepted
  next refused =>
    apply refused_replies .fwImageEndofPageTransfer .fwImageEndofPageTransfer _ permits inside _ targets
      (steady_pure ()) _ (goes_setState .fwImageEndofPageTransfer rfl) (by decide) (by decide)
    intro spent
    rw [Completes, inside, GivesUp, inside]
    exact ⟨by simpa using refused, spent⟩

theorem replyActivateNewFwimage_replies (permits : Permits permitted fuota data)
    (inside : fuota.machine.ondemandFuotaState = .activateNewFwimage) :
    Replies permitted fuota data (replyActivateNewFwimage data) := by
  apply stage_replies .activateNewFwimage .sendActivateCmd _ .activateNewFwimage _ _ permits inside
  next =>
    rw [Targets, inside]
    exact trivial
  next => exact steady_updateStatus 16 0
  next =>
    intro _
    apply goes_bind (goes_updateStatus .activateNewFwimage 15 1)
    intro _
    apply goes_bind (goes_succeed .activateNewFwimage)
    exact fun _ => goes_proceed .sendActivateCmd trivial
  next =>
    apply goes_bind (goes_updateStatus .activateNewFwimage 16 1)
    exact fun _ => goes_setState .activateNewFwimage rfl
  next => decide
  next => decide
  next => decide
  next =>
    intro refused spent
    rw [Completes, inside, GivesUp, inside]
    exact ⟨refused, spent⟩

theorem replySendActivateCmd_replies (permits : Permits permitted fuota data)
    (inside : fuota.machine.ondemandFuotaState = .sendActivateCmd) :
    Replies permitted fuota data (replySendActivateCmd data) := by
  apply stage_replies .sendActivateCmd .readAndCompareFwVersion _ .activateNewFwimage _ _ permits inside
  next =>
    rw [Targets, inside]
    exact trivial
  next => exact steady_updateStatus 17 0
  next =>
    intro _
    apply goes_bind (goes_updateStatus .sendActivateCmd 17 1)
    intro _
    apply goes_bind (goes_succeed .sendActivateCmd)
    exact fun _ => goes_proceed .readAndCompareFwVersion trivial
  next => exact goes_setState .activateNewFwimage trivial
  next => decide
  next => decide
  next => decide
  next =>
    intro refused spent
    rw [Completes, inside, GivesUp, inside]
    exact ⟨refused, spent⟩

/-- The frame in the transmit buffer is the same. -/
def SameBuilt (before after : Fuota) : Prop := after.radio.built = before.radio.built

theorem sameBuilt_trans (first second third : Fuota) (before : SameBuilt first second)
    (behind : SameBuilt second third) : SameBuilt first third := behind.trans before

theorem sameBuilt_updateStatus (requestStatus errorCode : Nat) :
    Respects SameBuilt (updateStatus requestStatus errorCode) := by
  intro before
  simp only [updateStatus, ondemandFuotaUpdateStatus, bind, observe, update, SameBuilt]
  split <;> rfl

theorem replyEraseFlash_replies (permits : Permits permitted fuota data)
    (inside : fuota.machine.ondemandFuotaState = .eraseFlash) :
    Replies permitted fuota data (replyEraseFlash data) := by
  have targets : Targets fuota data := by
    rw [Targets, inside]
    exact trivial
  unfold replyEraseFlash
  split
  next accepted =>
    let started : Prog Fuota Unit := do
      updateStatus 10 1
      setMachine fun machine => { machine with
        cntx := { machine.cntx with retryCount := 0, alternateRetry := 0 }
        useAlternateFuotaRoute := false }
      proceed .fwImageTransfer
    have moved : Goes permitted fuota .eraseFlash started .fwImageTransfer := by
      apply goes_bind (goes_updateStatus .eraseFlash 10 1)
      intro _
      apply goes_bind (goes_steady (Unseen.steady fun _ => rfl))
      exact fun _ => goes_proceed .fwImageTransfer trivial
    have kept : Respects SameBuilt started := by
      apply respects_bind sameBuilt_trans (sameBuilt_updateStatus 10 1)
      intro _
      exact respects_bind sameBuilt_trans (fun _ => rfl) fun _ _ => rfl
    have ran : started fuota = (some (), (started fuota).2) := rfl
    have reached : Reached permitted fuota .fwImageTransfer (started fuota).2 :=
      moved fuota (reached_start inside)
    have built := kept fuota
    apply triple_result ran
    refine ⟨reached.moves, ?_⟩
    unfold Ready
    rw [reached.state]
    exact ⟨fun now same => permits.aim targets now (same.trans reached.hopCount),
      ⟨inside, accepted⟩, built⟩
  next refused =>
    apply refused_replies .eraseFlash .eraseFlash _ permits inside _ targets (steady_pure ()) _
      (goes_setState .eraseFlash rfl) (by decide) (by decide)
    intro spent
    rw [Completes, inside, GivesUp, inside]
    exact Or.inr ⟨by simpa using refused, spent⟩

theorem goes_cut (state : FuotaState) (permits : Permits permitted fuota data)
    (inside : fuota.machine.ondemandFuotaState = state)
    (kind : state = .fwImageTransfer \/ state = .lastUpdateFwimageOfSectorcount) :
    Goes permitted fuota state (setState .fwImageEndofPageTransfer) .fwImageEndofPageTransfer := by
  apply goes_of
  intro before reached
  have cuts : permitted .cut (core before) := by
    apply permits .cut (core before)
    rw [ReplyCauses, inside]
    exact kind
  refine ⟨reached.moves.trans (path_jump .cut .fwImageEndofPageTransfer before cuts ?_), rfl,
    reached.hopCount, reached.queue⟩
  rw [reached.state]
  exact ⟨kind, rfl⟩

theorem replyFwImageTransfer_replies (permits : Permits permitted fuota data)
    (inside : fuota.machine.ondemandFuotaState = .fwImageTransfer) :
    Replies permitted fuota data replyFwImageTransfer := by
  have targets : Targets fuota data := by
    rw [Targets, inside]
    exact trivial
  apply replies_of inside
  apply onward_bind (goes_updateStatus .fwImageTransfer 11 1)
  intro _
  exact (goes_cut .fwImageTransfer permits inside (Or.inl rfl)).onward fun last reached =>
    ready_aimed permits targets reached (by decide)

theorem replyLastUpdate_replies (permits : Permits permitted fuota data)
    (inside : fuota.machine.ondemandFuotaState = .lastUpdateFwimageOfSectorcount) :
    Replies permitted fuota data (replyLastUpdate data) := by
  have targets : Targets fuota data := by
    rw [Targets, inside]
    exact trivial
  apply replies_of inside
  apply onward_bind (goes_updateStatus .lastUpdateFwimageOfSectorcount 12 1)
  intro _
  split
  next =>
    apply onward_bind (goes_succeed .lastUpdateFwimageOfSectorcount)
    intro _
    exact (goes_cut .lastUpdateFwimageOfSectorcount permits inside (Or.inr rfl)).onward
      fun last reached => ready_aimed permits targets reached (by decide)
  next =>
    exact (goes_setState .lastUpdateFwimageOfSectorcount
      (show Leads _ .lastUpdateFwimageOfSectorcount .lastUpdateFwimageOfSectorcount from rfl)).onward
      fun last reached => ready_resting reached.state trivial

theorem steady_resetCrc : Respects (Steady permitted) resetCrc :=
  fun before => steady_move (Move.crcReset (core before)) rfl rfl rfl rfl

theorem replyNewFwimageCrcCalculate_replies (permits : Permits permitted fuota data)
    (inside : fuota.machine.ondemandFuotaState = .newFwimageCrcCalculate) :
    Replies permitted fuota data (replyNewFwimageCrcCalculate data) := by
  have targets : Targets fuota data := by
    rw [Targets, inside]
    exact trivial
  unfold replyNewFwimageCrcCalculate
  split
  next accepted =>
    have verified : Goes permitted fuota .newFwimageCrcCalculate (do
        resetCrc
        setMachine fun machine => { machine with
          waitingForResponse := false
          cntx := { machine.cntx with retryCount := 0 } }
        setCrc fun crc => { crc with rfFuotaCrcCalculated := false }) .newFwimageCrcCalculate :=
      goes_steady fun before => steady_move (Move.crcVerified (core before)) rfl rfl rfl rfl
    have follows : Follows .newFwimageCrcCalculate .activateNewFwimage := trivial
    have behind := goes_bind verified fun _ => goes_proceed .activateNewFwimage follows
    simp only [prog_bind_assoc] at behind
    apply replies_of inside
    apply onward_bind (goes_updateStatus .newFwimageCrcCalculate 14 1)
    exact fun _ => behind.onward fun last reached => ready_aimed permits targets reached (by decide)
  next refused =>
    have vain : accepts .newFwimageCrcCalculate data = false := by simpa using refused
    have sums : Sums fuota data := by
      rw [Sums, inside]
      exact vain
    have rests (last : Fuota) (same : last.machine.ondemandFuotaState = .newFwimageCrcCalculate)
        (hopCount : last.client.hopCount = fuota.client.hopCount) : Ready permitted fuota data last := by
      unfold Ready
      rw [same]
      exact ⟨fun now equal => permits.aim targets now (equal.trans hopCount), sums⟩
    apply retryOr_replies .newFwimageCrcCalculate 2 _ _ permits inside
    next =>
      intro spent
      rw [Completes, inside]
      exact ⟨by rw [inside]; exact vain, spent⟩
    next =>
      exact (goes_setState .newFwimageCrcCalculate
        (show Leads _ .newFwimageCrcCalculate .newFwimageCrcCalculate from rfl)).onward
        fun last reached => rests last reached.state reached.hopCount
    next => exact steady_bind (steady_updateStatus 14 0) fun _ => steady_resetCrc
    next => exact fun last _ same hopCount => rests last same hopCount

end Uploading

section Comparing

theorem compared_replies (permits : Permits permitted fuota data)
    (inside : fuota.machine.ondemandFuotaState = .readAndCompareFwVersion)
    (accepted : accepts .readAndCompareFwVersion data = true) :
    Onward permitted fuota data .readAndCompareFwVersion (do
      comparisionOfFirmware
      handleFuotaCompletion) := by
  have compares : Compares fuota data := ⟨inside, accepted⟩
  have completes : Completes fuota data := by
    rw [Completes, inside]
    exact Or.inl accepted
  intro before reached
  have counted : Path permitted fuota (comparisionOfFirmware before).2 :=
    reached.moves.trans (path_move (Move.compared (core before) (permits .compared _ compares)) rfl)
  have whole : Triple (Path permitted fuota) (· = before) (do
      comparisionOfFirmware
      handleFuotaCompletion) fun _ last => Path permitted fuota last /\ Ready permitted fuota data last := by
    apply triple_ran (show comparisionOfFirmware before =
      (some (), (comparisionOfFirmware before).2) from rfl)
    have state : (comparisionOfFirmware before).2.machine.ondemandFuotaState = .readAndCompareFwVersion :=
      reached.state
    have hopCount : (comparisionOfFirmware before).2.client.hopCount =
        if fuota.client.hopCount = 0 then 1 else fuota.client.hopCount := by
      rw [← reached.hopCount]
      rfl
    have queue : (comparisionOfFirmware before).2.client.rfMeterFuota = fuota.client.rfMeterFuota :=
      reached.queue
    generalize (comparisionOfFirmware before).2 = after at counted state hopCount queue
    have completed := (@handleFuotaCompletion_completed permitted after (fun now => permits .completed now completes)
      (fun now => permits .skipped now (Or.inl completes)) .readAndCompareFwVersion).waits
      fun last later => counted.trans later
    apply completed.weaken
    next =>
      intro start here
      rw [here]
      exact reached_start state
    next =>
      rintro _ last ⟨moves, unsilences | gateway | opens | ⟨stuck, same, hops⟩⟩
      · exact ⟨counted.trans moves, ready_unsilencing permits (Or.inl completes) unsilences⟩
      · exact ⟨counted.trans moves, ready_resting gateway trivial⟩
      · exact ⟨counted.trans moves, ready_resting opens trivial⟩
      · refine ⟨counted.trans moves, ?_⟩
        have short : Stuck fuota := by
          rw [Stuck, queue] at stuck
          exact stuck
        have targets : Targets fuota data := by
          rw [Targets, inside]
          exact Or.inr short
        unfold Ready
        rw [same]
        exact fun now equal => permits .targeted now
          ⟨targets, Or.inr ⟨compares, equal.trans (hops.trans hopCount)⟩⟩
  exact whole before rfl

theorem replyReadAndCompareFwVersion_replies (permits : Permits permitted fuota data)
    (inside : fuota.machine.ondemandFuotaState = .readAndCompareFwVersion) :
    Replies permitted fuota data (replyReadAndCompareFwVersion data) := by
  unfold replyReadAndCompareFwVersion
  split
  next accepted =>
    apply replies_of inside
    apply onward_bind (goes_noteAccepted .readAndCompareFwVersion)
    intro _
    apply onward_bind (goes_updateStatus .readAndCompareFwVersion 18 1)
    intro _
    apply onward_bind (goes_succeed .readAndCompareFwVersion)
    exact fun _ => compared_replies permits inside accepted
  next refused =>
    have vain : accepts .readAndCompareFwVersion data = false := by simpa using refused
    have targets : Targets fuota data := by
      rw [Targets, inside]
      exact Or.inl vain
    apply refused_replies .readAndCompareFwVersion .readAndCompareFwVersion _ permits inside _ targets
      (steady_updateStatus 18 0) _ (goes_setState .readAndCompareFwVersion rfl) (by decide) (by decide)
    intro spent
    rw [Completes, inside]
    exact Or.inr ⟨by rw [inside]; exact vain, spent⟩

end Comparing

section Unsilencing

theorem stepped_updateStatus (requestStatus errorCode : Nat) (before : Fuota) :
    stepped (updateStatus requestStatus errorCode before).2 = stepped before := by
  simp only [updateStatus, ondemandFuotaUpdateStatus, bind, observe, update]
  split
  next => rfl
  next => simp only [stepped, apply_ite Machine.fuotaGatewayUnsilenceState, Machine.terminal, ite_self]

theorem countUnsilenceStep_ready (state next : FuotaState) (after : Fuota)
    (permits : Permits permitted fuota data) (unsilences : Unsilences fuota data)
    (reached : Reached permitted fuota state after) (leads : (core fuota).hops = true ->
      Leads (core fuota).hops state next)
    (back : (core fuota).hops = false -> Leads (core fuota).hops state .networkUnsilence)
    (stays : stepped after = true ->
      forall last, Reached permitted fuota state last -> Ready permitted fuota data last)
    (finishes : stepped after = false ->
      forall last, Reached permitted fuota next last -> Ready permitted fuota data last) :
    Triple (Path permitted fuota) (· = after) (countUnsilenceStep (finishUnsilence next))
      fun _ last => Path permitted fuota last /\ Ready permitted fuota data last := by
  -- the reply is counted, or behind the last one the next state of the unsilencing taken
  apply triple_ran (show observe _ after =
    (some after.machine.fuotaGatewayUnsilenceState, after) from rfl)
  split
  next more =>
    exact Goes.ready (goes_steady (Unseen.steady fun _ => rfl)) reached
      (stays (by simpa [stepped] using more))
  next done =>
    have ends : stepped after = false := by simpa [stepped] using done
    have hops : (core fuota).hops = decide (after.radio.routerPath.hopCount > 0) := by
      rw [Core.hops, ← (moves_fixed reached.moves).2.2]
      rfl
    apply triple_ran (show observe _ after = (some after.radio.routerPath.hopCount, after) from rfl)
    split
    next some_ =>
      apply Goes.ready (goes_bind (goes_setState next (leads (by simpa [hops] using some_))) fun _ =>
        goes_steady (Unseen.steady fun _ => rfl)) reached (finishes ends)
    next none_ =>
      apply Goes.ready (goes_bind (goes_setState .networkUnsilence (back (by simpa [hops] using none_)))
        fun _ => goes_steady (Unseen.steady fun _ => rfl)) reached
      exact fun last later => ready_unsilencing permits unsilences later.state

theorem replyNetworkUnsilence_replies (permits : Permits permitted fuota data)
    (inside : fuota.machine.ondemandFuotaState = .networkUnsilence) :
    Replies permitted fuota data (replyNetworkUnsilence data) := by
  have unsilences : Unsilences fuota data := by
    rw [Unsilences, inside]
    exact Or.inr (Or.inr trivial)
  have leads (hops : Bool) : Leads hops .networkUnsilence .targetNodeUnsilence := trivial
  have asks (targets : Targets fuota data) (last : Fuota)
      (later : Reached permitted fuota .targetNodeUnsilence last) : Ready permitted fuota data last :=
    ready_aimed permits targets later (by decide)
  have told (status code : Nat) : Reached permitted fuota .networkUnsilence (updateStatus status code fuota).2 :=
    (reached_start inside).steady (steady_updateStatus status code fuota)
  unfold replyNetworkUnsilence
  split
  next accepted =>
    apply triple_ran (show updateStatus 20 1 fuota = (some (), (updateStatus 20 1 fuota).2) from rfl)
    split
    next done =>
      have acknowledges : Acknowledges fuota data := by
        rw [Acknowledges, inside]
        exact ⟨accepted, done⟩
      obtain ⟨log, logged⟩ := logged_updateStatus 20 1 fuota
      have noted := @steady_acknowledgeTarget permitted (updateStatus 20 1 fuota).2
        (permits .acknowledged _ ⟨acknowledges, log, logged⟩)
        (Or.inr (Or.inr (Or.inl (told 20 1).state)))
      apply triple_ran (show acknowledgeTarget (updateStatus 20 1 fuota).2 = (some (), _) from rfl)
      have same : stepped (acknowledgeTarget (updateStatus 20 1 fuota).2).2 = stepped fuota :=
        stepped_updateStatus 20 1 fuota
      apply countUnsilenceStep_ready .networkUnsilence .targetNodeUnsilence _ permits unsilences
        ((told 20 1).steady noted) (fun _ => leads _) (fun _ => rfl)
      next => exact fun _ last later => ready_unsilencing permits unsilences later.state
      next =>
        intro ends
        apply asks
        rw [Targets, inside]
        simp only [accepted, if_true]
        rintro ⟨_, more⟩
        rw [← same, ends] at more
        exact absurd more (by decide)
    next undone =>
      apply Goes.ready (goes_setState .targetNodeUnsilence (leads _)) (told 20 1)
      apply asks
      rw [Targets, inside]
      simp only [accepted, if_true]
      exact fun both => undone both.1
  next refused =>
    split
    next =>
      apply (goes_updateStatus .networkUnsilence 20 0).ready (reached_start inside)
      exact fun last later => ready_unsilencing permits unsilences later.state
    next other =>
      apply Goes.ready (goes_setState .targetNodeUnsilence (leads _)) (reached_start inside)
      apply asks
      rw [Targets, inside]
      simp only [refused]
      exact other

theorem replyTargetNodeUnsilence_replies (permits : Permits permitted fuota data)
    (inside : fuota.machine.ondemandFuotaState = .targetNodeUnsilence) :
    Replies permitted fuota data (replyTargetNodeUnsilence data) := by
  have unsilences : Unsilences fuota data := by
    rw [Unsilences, inside]
    exact Or.inr (Or.inr trivial)
  have targets : Targets fuota data := by
    rw [Targets, inside]
    exact trivial
  have leads (hops : Bool) : Leads hops .targetNodeUnsilence .gatewayPathUnsilence := trivial
  have stays (last : Fuota) (later : Reached permitted fuota .targetNodeUnsilence last) :
      Ready permitted fuota data last := ready_aimed permits targets later (by decide)
  unfold replyTargetNodeUnsilence
  split
  next accepted =>
    split
    next done =>
      have acknowledges : Acknowledges fuota data := by
        rw [Acknowledges, inside]
        exact ⟨accepted, done⟩
      have noted := @steady_acknowledgeTarget permitted fuota
        (permits .acknowledged (core fuota) ⟨acknowledges, fuota.log, rfl⟩)
        (Or.inr (Or.inr (Or.inr inside)))
      apply triple_ran (show acknowledgeTarget fuota = (some (), _) from rfl)
      apply countUnsilenceStep_ready .targetNodeUnsilence .gatewayPathUnsilence _ permits unsilences
        ((reached_start inside).steady noted) (fun _ => leads _)
      next =>
        intro none_
        rw [none_]
        exact rfl
      next => exact fun _ => stays
      next => exact fun _ last later => ready_resting later.state trivial
    next =>
      exact Goes.ready (goes_setState .gatewayPathUnsilence (leads _)) (reached_start inside)
        fun last later => ready_resting later.state trivial
  next =>
    exact Goes.ready (goes_setState .targetNodeUnsilence (show Leads _ .targetNodeUnsilence
      .targetNodeUnsilence from rfl)) (reached_start inside) stays

theorem finished_ready (after : Fuota) (permits : Permits permitted fuota data)
    (finishes : Finishes fuota data)
    (reached : Reached permitted fuota .gatewayPathUnsilence after) :
    Triple (Path permitted fuota) (· = after) (nextCommandOr .rollbackToNormalCommMode)
      fun _ last => Path permitted fuota last /\ Ready permitted fuota data last := by
  obtain ⟨last, ran, moved, states⟩ := @nextCommandOr_ran permitted .finished .rollbackToNormalCommMode
    after (permits .finished (core after) finishes)
    (by rw [reached.state]; exact Or.inl rfl)
    (fun empty => ⟨empty, reached.state, rfl⟩)
  apply triple_result ran
  refine ⟨reached.moves.trans moved, ?_⟩
  rcases states with opens | rolled
  · exact ready_resting opens trivial
  · exact ready_resting rolled trivial

theorem replyGatewayPathUnsilence_replies (permits : Permits permitted fuota data)
    (inside : fuota.machine.ondemandFuotaState = .gatewayPathUnsilence) :
    Replies permitted fuota data (replyGatewayPathUnsilence data) := by
  have start : Reached permitted fuota .gatewayPathUnsilence fuota := reached_start inside
  unfold replyGatewayPathUnsilence
  split
  next accepted =>
    split
    next done =>
      have acknowledges : Acknowledges fuota data := by
        rw [Acknowledges, inside]
        exact ⟨accepted, done⟩
      have noted := @steady_acknowledgeGateway permitted fuota
        (permits .acknowledged (core fuota) ⟨acknowledges, fuota.log, rfl⟩) (Or.inr inside)
      have reached := start.steady noted
      apply triple_ran (show acknowledgeGateway fuota = (some (), (acknowledgeGateway fuota).2) from rfl)
      apply triple_ran (show observe _ (acknowledgeGateway fuota).2 =
        (some fuota.machine.fuotaGatewayUnsilenceState, (acknowledgeGateway fuota).2) from rfl)
      split
      next =>
        exact Goes.ready (goes_steady (Unseen.steady fun _ => rfl)) reached
          fun last later => ready_resting later.state trivial
      next spent =>
        have finishes : Finishes fuota data := by
          rw [Finishes, inside]
          simp only [accepted, if_true]
          rintro ⟨_, more⟩
          exact spent (by simpa [stepped] using more)
        have recorded := @steady_recordGateway permitted 0 (acknowledgeGateway fuota).2
          (permits .recorded _ ⟨acknowledges, fun _ => rfl⟩) (Or.inr ⟨reached.state, rfl⟩)
        apply triple_ran (show observe _ (acknowledgeGateway fuota).2 =
          (some fuota.client.gatewayId, (acknowledgeGateway fuota).2) from rfl)
        apply triple_ran (show insertUpdateUnsilencedMeter fuota.client.gatewayId 0 0
          (acknowledgeGateway fuota).2 = (some (), _) from rfl)
        exact finished_ready _ permits finishes (reached.steady recorded)
    next undone =>
      apply finished_ready _ permits _ start
      rw [Finishes, inside]
      simp only [accepted, if_true]
      exact fun both => undone both.1
  next refused =>
    split
    next => exact triple_result rfl ⟨path_refl fuota, ready_resting inside trivial⟩
    next other =>
      apply finished_ready _ permits _ start
      rw [Finishes, inside]
      simp only [refused]
      exact other

end Unsilencing

section Dispatching

theorem replyIn_replies (permits : Permits permitted fuota data) :
    Replies permitted fuota data (replyIn fuota.machine.ondemandFuotaState data) := by
  have idle (state : FuotaState) (inside : fuota.machine.ondemandFuotaState = state)
      (resting : state = .rollbackToNormalCommMode \/ state = .idle \/ state = .unset) :
      Replies permitted fuota data (pure ()) := by
    apply triple_result (show (pure () : Prog Fuota Unit) fuota = (some (), fuota) from rfl)
    refine ⟨path_refl fuota, ?_⟩
    rcases resting with rfl | rfl | rfl <;> exact ready_resting inside trivial
  cases inside : fuota.machine.ondemandFuotaState
  case openFile => exact replyOpenFile_replies permits inside
  case gatewayPathSilence => exact replyGatewayPathSilence_replies permits inside
  case targetNodeSilence => exact replyTargetNodeSilence_replies permits inside
  case networkSilence => exact replyNetworkSilence_replies permits inside
  case sectorRead => exact replySectorRead_replies permits inside
  case fwimageOfSectorCount => exact replyFwimageOfSectorCount_replies permits inside
  case eraseFlash => exact replyEraseFlash_replies permits inside
  case fwImageTransfer => exact replyFwImageTransfer_replies permits inside
  case lastUpdateFwimageOfSectorcount => exact replyLastUpdate_replies permits inside
  case fwImageEndofPageTransfer => exact replyFwImageEndofPageTransfer_replies permits inside
  case newFwimageCrcCalculate => exact replyNewFwimageCrcCalculate_replies permits inside
  case activateNewFwimage => exact replyActivateNewFwimage_replies permits inside
  case sendActivateCmd => exact replySendActivateCmd_replies permits inside
  case readAndCompareFwVersion => exact replyReadAndCompareFwVersion_replies permits inside
  case networkUnsilence => exact replyNetworkUnsilence_replies permits inside
  case targetNodeUnsilence => exact replyTargetNodeUnsilence_replies permits inside
  case gatewayPathUnsilence => exact replyGatewayPathUnsilence_replies permits inside
  case rollbackToNormalCommMode => exact idle _ inside (Or.inl rfl)
  case idle => exact idle _ inside (Or.inr (Or.inl rfl))
  case unset => exact idle _ inside (Or.inr (Or.inr rfl))

/-- The command behind a reply is permitted by the causes of the reply. -/
theorem sendable_of_ready (permits : Permits permitted fuota data) (after : Fuota)
    (ran : replyIn fuota.machine.ondemandFuotaState data fuota = (some (), after))
    (moves : Path permitted fuota after) (ready : Ready permitted fuota data after) :
    Sendable permitted after := by
  have here : (replyIn fuota.machine.ondemandFuotaState data fuota).2 = after := by rw [ran]
  unfold Ready at ready
  unfold Sendable
  cases inside : after.machine.ondemandFuotaState <;> rw [inside] at ready <;> dsimp only at ready ⊢ <;>
    try exact ready
  case newFwimageCrcCalculate =>
    refine ⟨ready.1, fun route summed sums => permits .summed _ ⟨ready.2, route, summed, rfl, ?_⟩⟩
    rwa [here]
  case fwImageTransfer =>
    obtain ⟨aim, uploads, built⟩ := ready
    have completes : Completes fuota data := by
      rw [Completes, uploads.1]
      exact Or.inl uploads.2
    refine ⟨aim, fun now => permits .completed now completes,
      fun now => permits .skipped now (Or.inl completes),
      fun now same => permits .uploading now ⟨uploads, same.trans built⟩, ?_⟩
    intro ended finished
    refine permits .uploaded (core ended) ⟨uploads, ended, rfl, ?_⟩
    rw [uploads.1] at here
    have erased : (replyEraseFlash data fuota).2 = after := here
    have inputs : (startUpload after).2.inputs = fuota.inputs := (moves_fixed moves).1
    rw [uploadStart, erased, ← inputs]
    exact finished

theorem path_clientProcessRfFuotaData (permits : Permits permitted fuota data) :
    Path permitted fuota (clientProcessRfFuotaData data fuota).2 := by
  rw [clientProcessRfFuotaData,
    ran_bind (show getState fuota = (some fuota.machine.ondemandFuotaState, fuota) from rfl)]
  split
  next inside =>
    have finishes : Finishes fuota data := by
      rw [Finishes, inside]
      exact trivial
    cases queue : fuota.client.rfMeterFuota with
    | nil =>
      have empty : dequeueFuota fuota = (some none, fuota) := by simp [dequeueFuota, queue]
      have rolled : replyRollback fuota = (some true, { fuota with
          client := { fuota.client with timeoutState := .timerNone } }) := by
        rw [replyRollback, ran_bind empty]
        rfl
      rw [ran_bind rolled]
      exact path_same rfl
    | cons command rest =>
      let taken : Fuota := { fuota with client := { fuota.client with rfMeterFuota := rest } }
      have front : dequeueFuota fuota = (some (some command), taken) := by
        simp [dequeueFuota, queue, taken]
      have goesOn : replyRollback fuota = (some false, (takeCommand command taken).2) := by
        rw [replyRollback, ran_bind front]
        rfl
      have moved : Path permitted fuota (takeCommand command taken).2 := by
        apply path_move (Move.took (core fuota) .finished command rest
          (permits .finished (core fuota) finishes) (Or.inr inside) queue)
        simp [taken, takeCommand, bind, setMachine, note, setState, update, core, Core.note, Core.assign]
      rw [ran_bind goesOn]
      exact moved.trans (path_cansendFuotaNextCommand _ trivial)
  next =>
    have replies := replyIn_replies permits fuota rfl
    cases ran : replyIn fuota.machine.ondemandFuotaState data fuota with
    | mk result after =>
      rw [ran] at replies
      cases result with
      | none =>
        rw [waited_bind ran]
        exact replies
      | some _ =>
        rw [ran_bind ran]
        exact replies.1.trans (path_cansendFuotaNextCommand after
          (sendable_of_ready permits after ran replies.1 replies.2))

end Dispatching

end Hes.Fuota
