import Hes.Fuota.FinalReplies

set_option autoImplicit false

namespace Hes.Fuota

open Prog Text Mqtt Transition
open SyncTime (unsilencing commandWritten remaining wellFormed takenUp processFuotaQueue_ran)

section Actions

variable {fuota : Fuota}

theorem queue_settled (settled : Settled fuota.log)
    (next : forall requestId, takenRequest fuota = some requestId -> ¬ Over fuota.log requestId) :
    Settled (processFuotaQueue fuota).2.log := by
  obtain ⟨machine, _, outcome⟩ := processFuotaQueue_ran fuota
  cases queue : remaining fuota with
  | nil =>
    rw [queue] at outcome
    exact settled_events _ outcome (by simp [Resting, serves]) settled
  | cons command rest =>
    rw [queue] at outcome
    obtain ⟨_, same⟩ | ⟨complete, requestId, hopCount, known, opens⟩ := outcome
    next => rwa [same]
    next =>
      let ready := takenUp fuota machine command rest requestId hopCount
      have long : ¬ (split colon command).length < 7 := by
        intro short
        simp [wellFormed, Nat.not_le.mpr short] at complete
      have taken : takenRequest fuota = some requestId := by
        simp [takenRequest, nextRequest, queue, long, known, complete, Except.toOption]
      have grown : Logs Resting fuota ready :=
        ⟨[.dequeued command, .assigned .openFile], by simp [ready, takenUp], by simp [Resting, serves]⟩
      have past := unclosed_over (logs_mono (fun _ resting => Resting.unclosed resting) grown) requestId
      have live : Live ready :=
        ⟨resting_settled grown settled, mt past.mp (next requestId taken)⟩
      have working : Working ready (sendOpenFile ready).2 :=
        sendOpenFile_respects working_frame works_visits.toProceeds ready
      rw [opens]
      exact (working.serving.live live).settled

theorem timeout_working (send : Prog Fuota Unit) (sends : Respects Working send) :
    Respects Working (send >>= fun _ => buildAndStoreFuotaCmd >>= fun _ => pure ()) := by
  apply working_bind sends
  intro _
  apply working_bind (buildAndStoreFuotaCmd_respects working_frame.toSendFrame works_visits.toSends)
  exact fun _ => working_pure ()

def retryAlternate (alternates : Nat) : Prog Fuota Unit := do
  setMachine fun machine => { machine with
    cntx := { machine.cntx with retryCount := 0, alternateRetry := alternates + 1 }
    useAlternateFuotaRoute := true }
  let payloadLen := (byteAt (<- observe fun fuota => fuota.radio.clientTxBuffer) 1).toNat + 1
  let state <- getState
  if state = .fwImageTransfer || state = .fwimageOfSectorCount then
    prepareAlternateSamerouteRetry none payloadLen
  else prepareAlternateRouteRetry none payloadLen
  let _ <- buildAndStoreFuotaCmd

theorem retryAlternate_working (alternates : Nat) : Respects Working (retryAlternate alternates) := by
  refine working_bind (working_setMachine _ fun _ => rfl) ?_
  intro _
  apply working_bind (working_observe _)
  intro txBuffer
  apply working_bind (working_observe _)
  intro state
  dsimp only
  split
  next => exact timeout_working _ (prepareAlternateSamerouteRetry_respects
    working_frame.toSendFrame works_visits.toSends _ _)
  next => exact timeout_working _ (prepareAlternateRouteRetry_respects
    working_frame.toSendFrame works_visits.toSends _ _)

/-- The request times out for the last time: it is closed, and the next command is only taken up. -/
theorem timeout_closes (fuota : Fuota) (live : Live fuota) :
    Settled (((do
      note (.updated (<- observe fun fuota => fuota.client.requestId) 3 0)
      nextCommandOr .networkSilence) : Prog Fuota Unit) fuota).2.log := by
  let closed : Fuota := (note (.updated fuota.client.requestId 3 0) fuota).2
  have settled : Settled closed.log := by
    apply settled_append _ _ live.settled (List.pairwise_singleton _ _)
    intro event inside requestId known
    rw [List.mem_singleton] at inside
    subst inside
    have own : fuota.client.requestId = requestId := by simpa [serves] using known
    exact own ▸ live.unclosed
  have taken : Respects (Logs Resting) (nextCommandOr .networkSilence) := by
    apply logs_bind (fun _ => logs_same (by unfold dequeueFuota; split <;> rfl))
    intro front
    split
    next =>
      apply logs_bind (logs_setMachine _)
      intro _
      refine logs_bind (fun _ => logs_event (.dequeued _) rfl rfl) ?_
      exact fun _ => logs_setState _ rfl
    next => exact logs_setState _ rfl
  rw [ran_bind (show observe _ fuota = (some _, fuota) from rfl),
    ran_bind (show note _ fuota = (some (), closed) from rfl)]
  exact resting_settled (taken closed) settled

theorem pollTimeout_settled (settled : Settled fuota.log)
    (repeats : Over fuota.log fuota.client.requestId -> Repeats fuota) :
    Settled (pollTimeoutHandler fuota).2.log := by
  let machine := fuota.machine
  have state : machine.ondemandFuotaState = fuota.machine.ondemandFuotaState := rfl
  rw [pollTimeoutHandler, ran_bind (show observe _ fuota = (some machine, fuota) from rfl),
    ran_bind (show observe _ fuota = (some fuota.client.timeoutState, fuota) from rfl)]
  split
  next => exact settled
  next due =>
    have waits : fuota.client.timeoutState = .timerFuotaResponse /\
        fuota.machine.waitingForResponse = true := by
      simpa [machine] using due
    by_cases past : Over fuota.log fuota.client.requestId
    next =>
      obtain idle | idle | ⟨again, known, command⟩ := repeats past
      next => exact absurd waits.1 idle
      next => simp [waits.2] at idle
      next =>
        let counted : Fuota := (setCntx (fun cntx => { cntx with retryCount := cntx.retryCount + 1 }) fuota).2
        have rests : Logs Resting counted (buildAndStoreFuotaCmd counted).2 :=
          buildAndStoreFuotaCmd_rests counted known command
        obtain ⟨written, sent⟩ := SyncTime.buildAndStoreFuotaCmd_returns counted
        have ran : buildAndStoreFuotaCmd counted = (some written, (buildAndStoreFuotaCmd counted).2) := by
          rw [← sent]
        rw [if_pos again, ran_bind (show setCntx _ fuota = (some (), counted) from rfl), ran_bind ran]
        exact resting_settled rests settled
    next =>
      have live : Live fuota := ⟨settled, past⟩
      split
      next =>
        exact (timeout_working _ (setCntx_respects working_frame.toSendFrame _) fuota).serving.live live |>.settled
      next =>
        split
        next =>
          exact ((retryAlternate_working machine.cntx.alternateRetry fuota).serving.live live).settled
        next => exact timeout_closes _ { live with }

theorem resume_settled (path name : Bytes) (settled : Settled fuota.log)
    (allowed : Over fuota.log fuota.client.requestId -> resumes fuota path name = false) :
    Settled (resumeRfFuotaPendingStateProcess path name fuota).2.log := by
  let whole := path ++ ascii "/" ++ name
  let kept : Fuota := { fuota with machine := { fuota.machine with
    resumeFwpath := path, resumeFileName := name, resumeFuotaFlag := true } }
  let counted : Fuota := (fopen whole kept).2
  rw [resumeRfFuotaPendingStateProcess, ran_bind (show observe id fuota = (some fuota, fuota) from rfl),
    ran_bind (show setMachine _ fuota = (some (), kept) from rfl)]
  by_cases absent : (name = [] || (fuota.inputs.files whole).isNone) = true
  next =>
    rw [if_pos absent]
    exact settled
  next =>
    rw [if_neg absent]
    rw [ran_bind (show fopen whole kept = (some (if fuota.inputs.fopen fuota.counters.fopens then
      fuota.inputs.files whole else none), counted) from rfl)]
    cases file : (if fuota.inputs.fopen fuota.counters.fopens then fuota.inputs.files whole else none) with
    | none => exact settled
    | some content =>
      obtain ⟨opens, present⟩ : fuota.inputs.fopen fuota.counters.fopens = true /\
          fuota.inputs.files whole = some content := by simpa using file
      have named : name ≠ [] := by
        intro unnamed
        simp [unnamed] at absent
      have again : resumes fuota path name = true := by
        change (decide (name ≠ []) && (fuota.inputs.files whole).isSome && _) = true
        simp [named, present, opens]
      have past : ¬ Over fuota.log fuota.client.requestId := by
        intro past
        simp [again] at allowed
        exact allowed past
      let begun : Fuota := (setState .openFile (note (.opened whole) (keepOpen content counted).2).2).2
      have grown : begun.log = fuota.log ++ [.opened whole, .assigned .openFile] :=
        List.append_assoc _ _ _
      have started : Serving fuota begun :=
        ⟨rfl, _, grown, by simpa using ⟨Resting.own rfl _, Resting.own rfl _⟩⟩
      have live : Live begun := started.live ⟨settled, past⟩
      have working : Working begun (cansendFuotaNextCommand begun).2 :=
        cansendFuotaNextCommand_working begun (show FuotaState.openFile ≠ .fwImageTransfer by decide)
      exact (working.serving.live live).settled

theorem step_settled (fuota : Fuota) (action : Action) (next : Fuota) (settled : Settled fuota.log)
    (allowed : Allowed fuota action) (stepped : step fuota action = some next) : Settled next.log := by
  obtain rfl : (perform action fuota).2 = next := Option.some.inj stepped
  cases action with
  | queue => exact queue_settled settled allowed
  | reply data => exact reply_settled settled allowed
  | pollTimeout => exact pollTimeout_settled settled allowed
  | resume path name => exact resume_settled path name settled allowed
  | packet =>
    have silent : Respects (Logs Resting) normalCommunication := by
      apply logs_bind (logs_observe _)
      intro state
      split
      next => exact logs_bind (logs_setClient _) fun _ => logs_setState _ rfl
      next => exact logs_pure ()
    exact resting_settled (silent fuota) settled
  | enqueue command => exact settled
  | cancel ids => exact settled

end Actions

/-- In every run whose steps do not serve a request that is over, the final status of a request sticks. -/
theorem final_status_sticks (fuota last : Fuota) (actions : List Action)
    (allowed : AllAllowed step Allowed { fuota with log := [] } actions)
    (finished : run step { fuota with log := [] } actions = some last) : Sticks last.log := by
  have nothing : Settled [] := List.Pairwise.nil
  apply settled_sticks
  exact run_guarded_invariant step Allowed (fun fuota => Settled fuota.log) step_settled
    { fuota with log := [] } last actions nothing allowed finished

section Runs

instance (final later : Event) : Decidable (Disturbs final later) :=
  decidable_of_iff ((closes final).any fun requestId => serves later = some requestId && later ≠ final)
    (by simp [Disturbs, Option.any_eq_true])

instance (log : List Event) : Decidable (Sticks log) :=
  inferInstanceAs (Decidable (log.Pairwise fun final later => ¬ Disturbs final later))

instance (fuota : Fuota) : Decidable (Repeats fuota) := by
  unfold Repeats
  infer_instance

/-- Without replies, whether a step is allowed can be checked. -/
def checked (fuota : Fuota) (action : Action) : Bool :=
  match action with
  | .queue => decide (∀ next ∈ takenRequest fuota, ¬ Over fuota.log next)
  | .pollTimeout => decide (Over fuota.log fuota.client.requestId -> Repeats fuota)
  | .packet | .enqueue _ | .cancel _ => true
  | .reply _ | .resume .. => false

theorem checked_allowed (fuota : Fuota) (action : Action) (known : checked fuota action = true) :
    Allowed fuota action := by
  cases action with
  | queue =>
    have taken := decide_eq_true_iff.mp known
    exact taken
  | pollTimeout =>
    have repeats := decide_eq_true_iff.mp known
    exact repeats
  | packet | enqueue | cancel => trivial
  | reply | resume => cases known

/-- A request for one node, with a file of one byte. -/
def oneRequest : Fuota where
  inputs := { files := fun _ => some [0x01], fuel := 4 }
  client := {
    gatewayId := ascii "3CC1F60100000001"
    rfMeterFuota := [ascii "7:3CC1F60100000001:0:3CC1F60100000002:27:fw:image.bin"] }

/-- Nothing answers it, and another request follows. -/
def unanswered : List Action :=
  .queue :: List.replicate 13 .pollTimeout ++
    [.enqueue (ascii "8:3CC1F60100000001:0:3CC1F60100000002:27:fw:image.bin"), .queue]

/-- The request that timed out stays as it is, also while the next one is served. -/
theorem timed_out_request_sticks : exists last, run step { oneRequest with log := [] } unanswered = some last /\
    Over last.log 7 /\ Sticks last.log := by
  have timedOut : (run step { oneRequest with log := [] } unanswered).map
      (fun last => decide (Over last.log 7)) = some true := by decide +kernel
  have allowed : AllAllowed step (fun fuota action => checked fuota action = true)
      { oneRequest with log := [] } unanswered := by decide +kernel
  obtain ⟨last, finished, past⟩ := Option.map_eq_some_iff.mp timedOut
  have permitted := allAllowed_mono step _ Allowed checked_allowed _ unanswered allowed
  exact ⟨last, finished, of_decide_eq_true past,
    final_status_sticks oneRequest last unanswered permitted finished⟩

/-- Each of its replies is the one that the machine waits for. -/
def answered : List Action :=
  let sequenceReply : Bytes := [0x2E, 0x10, 0x04, 0x9B, 0x00]
  [.queue, .reply sequenceReply, .reply sequenceReply, .reply sequenceReply, .reply sequenceReply,
    .reply [0x2E, 0, 0x0A, 0, 0, 0x10, 0, 0], .reply [0x2E, 0, 0x0A, 0, 0, 0, 0, 0],
    .reply [0x2E, 0, 0x0A, 0, 0, 0, 0, 0], .reply [0x2E, 0, 0x0A, 0, 0, 1, 0, 0],
    .reply [0x2E, 0, 0x0A, 0, 0x0B, 0, 0, 0, 0, 0], .reply [0x2E, 0, 0x0A, 0, 0x0F, 0, 0, 0],
    .reply [0x2E, 0, 0x0A, 0, 0x0F, 0, 0, 0]]

/-- Behind the success, the version of the node is asked for. -/
theorem success_served_further : exists last, run step { oneRequest with log := [] } answered = some last /\
    ¬ Sticks last.log := by
  have disturbed : (run step { oneRequest with log := [] } answered).map
      (fun last => decide (Sticks last.log)) = some false := by decide +kernel
  obtain ⟨last, finished, known⟩ := Option.map_eq_some_iff.mp disturbed
  exact ⟨last, finished, of_decide_eq_false known⟩

end Runs

end Hes.Fuota
