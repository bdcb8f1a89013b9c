import Hes.Fuota.ReplyRefinement

set_option autoImplicit false

namespace Hes.Fuota

open Prog Text Mqtt Relation Transition

variable {permitted : Cause -> Core -> Prop}

theorem path_pollTimeoutHandler (fuota : Fuota)
    (ok : forall now, PollFails fuota -> permitted .failed now) :
    Path permitted fuota (pollTimeoutHandler fuota).2 := by
  rw [pollTimeoutHandler, ran_bind (show observe _ fuota = (some fuota.machine, fuota) from rfl),
    ran_bind (show observe _ fuota = (some fuota.client.timeoutState, fuota) from rfl)]
  split
  next => exact path_refl fuota
  next due =>
    split
    next =>
      have moves : Respects (Steady permitted) (do
          setCntx fun cntx => { cntx with retryCount := cntx.retryCount + 1 }
          let _ <- buildAndStoreFuotaCmd) := by
        apply steady_bind (Unseen.steady fun _ => rfl)
        exact fun _ => steady_bind steady_buildAndStoreFuotaCmd fun _ => steady_pure ()
      exact (moves fuota).moves
    next spent =>
      split
      next =>
        have moves : Respects (Steady permitted) (do
            setMachine fun machine => { machine with
              cntx := { machine.cntx with
                retryCount := 0, alternateRetry := fuota.machine.cntx.alternateRetry + 1 }
              useAlternateFuotaRoute := true }
            let payloadLen := (byteAt (<- observe fun fuota => fuota.radio.clientTxBuffer) 1).toNat + 1
            let state <- getState
            if state = .fwImageTransfer || state = .fwimageOfSectorCount then
              prepareAlternateSamerouteRetry none payloadLen
            else prepareAlternateRouteRetry none payloadLen
            let _ <- buildAndStoreFuotaCmd) := by
          apply steady_bind (Unseen.steady fun _ => rfl)
          intro _
          apply steady_bind (steady_observe _)
          intro buffer
          apply steady_bind (steady_observe _)
          intro state
          have sends : Respects (Steady permitted) (buildAndStoreFuotaCmd >>= fun _ => pure ()) :=
            steady_bind steady_buildAndStoreFuotaCmd fun _ => steady_pure ()
          split
          next => exact steady_bind (steady_prepareAlternateSamerouteRetry _ _) fun _ => sends
          next => exact steady_bind (steady_prepareAlternateRouteRetry _ _) fun _ => sends
        exact (moves fuota).moves
      next completed =>
        have fails : PollFails fuota := by
          simp only [Bool.or_eq_true, decide_eq_true_eq, Bool.not_eq_true', not_or, ne_eq,
            Decidable.not_not, Bool.not_eq_false] at due
          exact ⟨due.1, due.2, by omega, by omega⟩
        let stopped : Fuota := { fuota with machine := { fuota.machine with
          waitingForResponse := false
          useAlternateFuotaRoute := false
          cntx := { fuota.machine.cntx with retryCount := 0, alternateRetry := 0 } } }
        let told : Fuota := { stopped with log := stopped.log ++ [.updated fuota.client.requestId 3 0] }
        rw [ran_bind (show setMachine _ fuota = (some (), stopped) from rfl),
          ran_bind (show observe _ stopped = (some fuota.client.requestId, stopped) from rfl),
          ran_bind (show note _ stopped = (some (), told) from rfl)]
        have updated : Path permitted fuota told := path_move (Move.updated (core fuota) 3 0) rfl
        obtain ⟨last, ran, moved, _⟩ := @nextCommandOr_ran permitted .failed .networkSilence told
          (ok _ fails) trivial (fun empty => ⟨empty, rfl⟩)
        rw [ran]
        exact updated.trans moved

theorem withoutRequest_suffix (pid : Int) (queue : List Bytes) : withoutRequest pid queue <:+ queue := by
  cases queue with
  | nil => exact List.suffix_refl []
  | cons front rest =>
    simp only [withoutRequest]
    split
    next => exact List.suffix_cons front rest
    next => exact List.suffix_refl (front :: rest)

theorem path_dropCompleted (fuota : Fuota) : exists after, dropCompleted fuota = (some (), after) /\
    Path permitted fuota after := by
  rw [dropCompleted, ran_bind (show observe _ fuota = (some fuota.machine, fuota) from rfl)]
  split
  next =>
    refine ⟨_, rfl, ?_⟩
    exact path_move (Move.shrunk (core fuota) _ (withoutRequest_suffix _ fuota.client.rfMeterFuota)) rfl
  next => exact ⟨fuota, rfl, path_refl fuota⟩

/-- The request is read from the front of the queue and its file opened. -/
def startCommand (command : Bytes) : Prog Fuota Unit := do
  setMachine fun machine => { machine with cmdBytes := command }
  let parts := split colon command
  if parts.length < 7 then return ()
  else
    let requestId <- orStop (stoi (part parts 0))
    let hopCount <- orStop (stoi (part parts 2))
    setClient fun client => { client with requestId := requestId, hopCount := hopCount }
    setFirmware fun firmware => { firmware with
      firmwarePath := part parts 5, firmwareFile := part parts 6 }
    note (.dequeued command)
    setState .openFile
    cansendFuotaNextCommand

theorem path_startCommand (command : Bytes) (rest : List Bytes) (kept : Fuota)
    (ok : permitted .started (core kept)) (queue : kept.client.rfMeterFuota = command :: rest) :
    Path permitted kept (startCommand command { kept with
      client := { kept.client with rfMeterFuota := rest } }).2 := by
  let taken : Fuota := { kept with client := { kept.client with rfMeterFuota := rest } }
  let read : Fuota := { taken with machine := { taken.machine with cmdBytes := command } }
  have shrunk : Path permitted kept read :=
    path_move (Move.shrunk (core kept) rest (by simp [core, queue])) rfl
  rw [startCommand, ran_bind (show setMachine _ taken = (some (), read) from rfl)]
  split
  next => exact shrunk
  next long =>
    cases id : stoi (part (split colon command) 0) with
    | error kind =>
      rw [waited_bind (show orStop (.error kind) read = (none, read) from rfl)]
      exact shrunk
    | ok requestId =>
      rw [ran_bind (show orStop (.ok requestId) read = (some requestId, read) from rfl)]
      cases hop : stoi (part (split colon command) 2) with
      | error kind =>
        rw [waited_bind (show orStop (.error kind) read = (none, read) from rfl)]
        exact shrunk
      | ok hopCount =>
        rw [ran_bind (show orStop (.ok hopCount) read = (some hopCount, read) from rfl)]
        let opened : Fuota := { read with
          client := { read.client with requestId := requestId, hopCount := hopCount }
          firmware := { read.firmware with
            firmwarePath := part (split colon command) 5, firmwareFile := part (split colon command) 6 }
          machine := { read.machine with ondemandFuotaState := .openFile }
          log := read.log ++ [.dequeued command] ++ [.assigned .openFile] }
        have moved : Path permitted kept opened := by
          apply path_move (Move.started (core kept) command rest requestId hopCount ok queue (by omega) id hop)
          rfl
        rw [ran_bind (show setClient _ read = (some (), _) from rfl)]
        rw [ran_bind (show setFirmware _ _ = (some (), _) from rfl)]
        rw [ran_bind (show note _ _ = (some (), _) from rfl)]
        rw [ran_bind (show setState _ _ = (some (), opened) from rfl)]
        exact moved.trans (path_cansendFuotaNextCommand opened trivial)

theorem path_processFuotaQueue (fuota : Fuota) (empties : forall now, permitted .emptied now)
    (starts : forall now, permitted .started now) : Path permitted fuota (processFuotaQueue fuota).2 := by
  obtain ⟨kept, dropped, moves⟩ := @path_dropCompleted permitted fuota
  rw [processFuotaQueue, ran_bind dropped]
  cases queue : kept.client.rfMeterFuota with
  | nil =>
    rw [ran_bind (show dequeueFuota kept = (some none, kept) by simp [dequeueFuota, queue])]
    exact moves.trans (path_jump .emptied .rollbackToNormalCommMode kept (empties _) ⟨queue, rfl⟩)
  | cons command rest =>
    rw [ran_bind (show dequeueFuota kept = (some (some command), { kept with
      client := { kept.client with rfMeterFuota := rest } }) by simp [dequeueFuota, queue])]
    exact moves.trans (path_startCommand command rest kept (starts _) queue)

theorem path_normalCommunication (fuota : Fuota) : Path permitted fuota (normalCommunication fuota).2 := by
  rw [normalCommunication,
    ran_bind (show getState fuota = (some fuota.machine.ondemandFuotaState, fuota) from rfl)]
  split
  next inside =>
    apply path_move (Move.assigned (core fuota) .idle _) rfl
    have state : (core fuota).state = .rollbackToNormalCommMode := inside
    rw [state]
    exact trivial
  next => exact path_refl fuota

theorem path_resumeRfFuotaPendingStateProcess (path name : Bytes) (fuota : Fuota)
    (ok : forall now, permitted (.resumed (path ++ ascii "/" ++ name)) now) :
    Path permitted fuota (resumeRfFuotaPendingStateProcess path name fuota).2 := by
  let pending : Fuota := { fuota with machine := { fuota.machine with
    resumeFwpath := path, resumeFileName := name, resumeFuotaFlag := true } }
  rw [resumeRfFuotaPendingStateProcess, ran_bind (show observe id fuota = (some fuota, fuota) from rfl),
    ran_bind (show setMachine _ fuota = (some (), pending) from rfl)]
  split
  next => exact path_same rfl
  next =>
    obtain ⟨content, counted, ran, same, _, inputs, known⟩ := fopen_ran (path ++ ascii "/" ++ name) pending
    have start : Path permitted fuota counted := path_same same
    rw [ran_bind ran]
    rw [← inputs] at known
    cases content with
    | none =>
      exact start.trans (path_move (Move.closed (core counted) _ (Or.inr (Or.inr (ok _))) known) rfl)
    | some bytes =>
      let opened : Fuota := { counted with
        firmware := { counted.firmware with
          foutaReadFd := some { content := bytes }
          totalFirmwaresize := bytes.length % 2 ^ 32 }
        machine := { counted.machine with ondemandFuotaState := .openFile }
        log := counted.log ++ [.opened (path ++ ascii "/" ++ name)] ++ [.assigned .openFile] }
      have moved : Path permitted counted opened :=
        path_move (Move.resumed (core counted) (path ++ ascii "/" ++ name) bytes (ok _) known) rfl
      change Path permitted fuota ((do
        keepOpen bytes
        note (.opened (path ++ ascii "/" ++ name))
        setState .openFile
        cansendFuotaNextCommand) counted).2
      rw [ran_bind (show keepOpen bytes counted = (some (), _) from rfl)]
      rw [ran_bind (show note _ _ = (some (), _) from rfl)]
      rw [ran_bind (show setState _ _ = (some (), opened) from rfl)]
      exact (start.trans moved).trans (path_cansendFuotaNextCommand opened trivial)

/-- What the machine does in a step, it does by the causes of the step. -/
theorem perform_moves (fuota : Fuota) (action : Action) :
    Path (Causes fuota action) fuota (perform action fuota).2 := by
  cases action with
  | queue => exact path_processFuotaQueue fuota (fun _ => Or.inl rfl) fun _ => Or.inr rfl
  | reply data => exact path_clientProcessRfFuotaData fun _ _ cause => cause
  | pollTimeout => exact path_pollTimeoutHandler fuota fun _ fails => ⟨rfl, fails⟩
  | packet => exact path_normalCommunication fuota
  | resume path name => exact path_resumeRfFuotaPendingStateProcess path name fuota fun _ => rfl
  | enqueue command => exact path_move (Move.queued (core fuota) _ rfl) rfl
  | cancel ids => exact path_move (Move.queued (core fuota) _ rfl) rfl

end Hes.Fuota
