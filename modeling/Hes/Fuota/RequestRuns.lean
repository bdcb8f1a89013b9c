import Hes.Fuota.RequestBounds
import Hes.Fuota.FailedOpen

set_option autoImplicit false

namespace Hes.Fuota

open Prog Text Mqtt Transition

section Starts

variable {nodes : Nat}

/-- The start of a request: whatever the place is behind it, it has its limits and few frames. -/
def Launches (nodes cost : Nat) (before after : Fuota) : Prop :=
  InNetwork nodes before.inputs -> Limited (place before) ->
    after.inputs = before.inputs /\ Limited (place after) /\
      transmitted after.log ≤ transmitted before.log + cost

theorem launches_graded : Graded (Launches nodes) where
  refl _ _ limited := ⟨rfl, limited, Nat.le_refl _⟩
  trans cost more first second third before behind network limited := by
    obtain ⟨inputs, kept, less⟩ := before network limited
    obtain ⟨inputsToo, keptToo, lessToo⟩ := behind (inputs ▸ network) kept
    exact ⟨inputsToo.trans inputs, keptToo, by omega⟩
  mono cost more before after below launches network limited := by
    obtain ⟨inputs, kept, less⟩ := launches network limited
    exact ⟨inputs, kept, by omega⟩

theorem launches_costs {A : Type} {prog : Prog Fuota A} {cost : Nat}
    (costs : forall here, Respects (Costs nodes false here cost) prog) :
    Respects (Launches nodes cost) prog := by
  intro fuota network limited
  obtain ⟨inputs, stays, less⟩ := costs (place fuota) fuota network rfl
  have same : place (prog fuota).2 = place fuota := stays
  exact ⟨inputs, same ▸ limited, less⟩

theorem launches_same {before after : Fuota} (inputs : after.inputs = before.inputs)
    (limits : after.machine.cntx = before.machine.cntx)
    (active : after.machine.cntxActive = before.machine.cntxActive)
    (quiet : transmitted after.log = transmitted before.log) : Launches nodes 0 before after := by
  rintro _ ⟨limited, inactive⟩
  exact ⟨inputs, ⟨show Limits after.machine.cntx from limits ▸ limited,
    show after.machine.cntxActive = false from active ▸ inactive⟩, quiet.le⟩

theorem launches_note (event : Event) (other : event.transmits = false) :
    Respects (Launches nodes 0) (note event) :=
  launches_costs fun _ _ => costs_event event other rfl rfl rfl

theorem launches_state (state : FuotaState) : Respects (Launches nodes 0) (setState state) := by
  refine fun fuota => launches_same rfl rfl rfl ?_
  show transmitted (fuota.log ++ [_]) = _
  rw [transmitted, List.countP_append, List.countP_singleton]
  simp [transmitted, Event.transmits]

theorem free_launches {A B : Type} {first : Prog Fuota A} {next : A -> Prog Fuota B} {cost : Nat}
    (before : Respects (Launches nodes 0) first)
    (behind : forall value, Respects (Launches nodes cost) (next value)) :
    Respects (Launches nodes cost) (first >>= next) :=
  Nat.zero_add cost ▸ graded_bind launches_graded 0 cost before behind

theorem pure_launches {A : Type} (cost : Nat) (value : A) :
    Respects (Launches nodes cost) (pure value : Prog Fuota A) :=
  graded_free launches_graded cost (graded_pure launches_graded value)

theorem launches_failed (status : Nat) :
    Respects (Launches nodes 1) (updateStatus status 1 >>= fun _ => (pure none : Prog Fuota (Option Bytes))) :=
  free_launches (launches_costs fun _ => updateStatus_costs status 1) fun _ => pure_launches 1 none

theorem launches_openFirmware (firmwarePath requestedFilename : Bytes) :
    Respects (Launches nodes 1) (openFirmware firmwarePath requestedFilename) := by
  apply free_launches fun _ => launches_same rfl rfl rfl rfl
  intro content
  cases content with
  | none =>
    apply free_launches fun _ => launches_same rfl rfl rfl rfl
    exact fun _ => launches_failed 1
  | some content =>
    apply free_launches fun _ => launches_same rfl rfl rfl rfl
    intro _
    apply free_launches fun _ => launches_same rfl rfl rfl rfl
    intro _
    apply free_launches (launches_note _ rfl)
    intro _
    apply free_launches (launches_state _)
    intro _
    apply graded_bind launches_graded 1 0 (launches_costs fun _ => silenceGateway_costs)
    exact fun _ => pure_launches 0 _

theorem launches_sendOpenFile : Respects (Launches nodes 1) sendOpenFile := by
  apply free_launches fun _ => launches_same rfl rfl rfl rfl
  intro name
  apply graded_bind launches_graded 1 0
  next =>
    unfold openRequestedFirmware
    split
    next => exact launches_failed 2
    next =>
      apply free_launches fun _ => launches_same rfl rfl rfl rfl
      intro fuota
      apply free_launches fun _ => launches_same rfl rfl rfl rfl
      intro _
      split
      next => exact launches_failed 0
      next => exact launches_openFirmware _ _
  next => exact fun _ => launches_state _

/-- OPEN_FILE is the state that the start leaves for its command. -/
theorem launches_opening :
    Respects (Launches nodes 1) (setState .openFile >>= fun _ => cansendFuotaNextCommand) := by
  intro fuota
  have entered : (setState .openFile >>= fun _ => cansendFuotaNextCommand) fuota =
      (setState .openFile >>= fun _ => sendOpenFile) fuota := rfl
  rw [entered]
  exact free_launches (launches_state _) (fun _ => launches_sendOpenFile) fuota

theorem launches_queue : Respects (Launches nodes 1) processFuotaQueue := by
  apply free_launches
  next =>
    apply free_launches fun _ => launches_same rfl rfl rfl rfl
    intro machine
    split
    next =>
      apply free_launches fun _ => launches_same rfl rfl rfl rfl
      exact fun _ _ => launches_same rfl rfl rfl rfl
    next => exact pure_launches 0 ()
  intro _
  apply free_launches
  next =>
    intro fuota
    unfold dequeueFuota
    split <;> exact launches_same rfl rfl rfl rfl
  intro command
  cases command with
  | none => exact graded_free launches_graded 1 (launches_state _)
  | some command =>
    apply free_launches fun _ => launches_same rfl rfl rfl rfl
    intro _
    dsimp only
    split
    next => exact pure_launches 1 ()
    next =>
      have number (index : Nat) :
          Respects (Launches nodes 0) (orStop (stoi (part (split colon command) index))) := by
        intro fuota
        cases stoi (part (split colon command) index) <;> exact launches_same rfl rfl rfl rfl
      apply free_launches (number 0)
      intro requestId
      apply free_launches (number 2)
      intro hopCount
      apply free_launches fun _ => launches_same rfl rfl rfl rfl
      intro _
      apply free_launches fun _ => launches_same rfl rfl rfl rfl
      intro _
      apply free_launches (launches_note _ rfl)
      exact fun _ => launches_opening

theorem launches_resume (path name : Bytes) :
    Respects (Launches nodes 1) (resumeRfFuotaPendingStateProcess path name) := by
  apply free_launches fun _ => launches_same rfl rfl rfl rfl
  intro fuota
  apply free_launches fun _ => launches_same rfl rfl rfl rfl
  intro _
  split
  next => exact graded_free launches_graded 1 fun _ => launches_same rfl rfl rfl rfl
  next =>
    apply free_launches fun _ => launches_same rfl rfl rfl rfl
    intro content
    cases content with
    | none =>
      apply free_launches fun _ => launches_same rfl rfl rfl rfl
      exact fun _ => graded_free launches_graded 1 fun _ => launches_same rfl rfl rfl rfl
    | some content =>
      apply free_launches fun _ => launches_same rfl rfl rfl rfl
      intro _
      apply free_launches (launches_note _ rfl)
      exact fun _ => launches_opening

end Starts

section Runs

variable {nodes : Nat}

/-- The steps that come back. A run is over where a thread waits for ever. -/
def returning : Step Fuota Action := fun fuota action =>
  match perform action fuota with
  | (some _, after) => some after
  | (none, _) => none

/-- The frames that the machine transmits in a step. What a poll resends is the timer's own. -/
def stepFrames (fuota : Fuota) (action : Action) : Nat :=
  match action with
  | .pollTimeout => 0
  | action => transmitted (perform action fuota).2.log - transmitted fuota.log

/-- A step within one request: no other one is taken up. -/
def SameRequest (fuota : Fuota) (action : Action) : Prop :=
  match action with
  | .reply _ | .pollTimeout =>
    (perform action fuota).2.client.rfMeterFuota = fuota.client.rfMeterFuota
  | .queue | .resume _ _ => False
  | .packet | .enqueue _ | .cancel _ => True

/-- A reply within the request brings it on. -/
def GoesForward (fuota : Fuota) (action : Action) : Prop :=
  SameRequest fuota action /\ match action with
    | .reply data => Advances fuota data
    | _ => True

instance (fuota : Fuota) : (action : Action) -> Decidable (SameRequest fuota action)
  | .reply _ => inferInstanceAs (Decidable (_ = _))
  | .pollTimeout => inferInstanceAs (Decidable (_ = _))
  | .queue => inferInstanceAs (Decidable False)
  | .resume _ _ => inferInstanceAs (Decidable False)
  | .packet => inferInstanceAs (Decidable True)
  | .enqueue _ => inferInstanceAs (Decidable True)
  | .cancel _ => inferInstanceAs (Decidable True)

instance (fuota : Fuota) : (action : Action) -> Decidable (GoesForward fuota action)
  | .reply data => inferInstanceAs (Decidable (SameRequest fuota (.reply data) /\ Advances fuota data))
  | .queue => inferInstanceAs (Decidable (SameRequest fuota .queue /\ True))
  | .pollTimeout => inferInstanceAs (Decidable (SameRequest fuota .pollTimeout /\ True))
  | .packet => inferInstanceAs (Decidable (SameRequest fuota .packet /\ True))
  | .resume path name => inferInstanceAs (Decidable (SameRequest fuota (.resume path name) /\ True))
  | .enqueue command => inferInstanceAs (Decidable (SameRequest fuota (.enqueue command) /\ True))
  | .cancel ids => inferInstanceAs (Decidable (SameRequest fuota (.cancel ids) /\ True))

/-- What every step of a run keeps. -/
structure Bounded (nodes : Nat) (fuota : Fuota) : Prop where
  network : InNetwork nodes fuota.inputs
  limited : Limited (place fuota)

def heightOf (nodes : Nat) (fuota : Fuota) : Nat := (place fuota).height nodes

theorem holds_pays {fuota after : Fuota} {base : Nat} (bounded : Bounded nodes fuota)
    (same : after.client.rfMeterFuota = fuota.client.rfMeterFuota)
    (holds : Holds (Place.height nodes) fuota.inputs (place fuota).queue base (heightOf nodes fuota) after) :
    Bounded nodes after /\ heightOf nodes after + (transmitted after.log - base) ≤ heightOf nodes fuota := by
  obtain ⟨here, cost, ⟨inputs, rfl, sent⟩, limited, paid⟩ := holds
  refine ⟨⟨inputs ▸ bounded.network, limited⟩, ?_⟩
  have queued : (place after).queue = (place fuota).queue := same
  rcases paid with shorter | ⟨-, less⟩
  next => exact absurd (congrArg List.length queued) (Nat.ne_of_lt shorter)
  next =>
    rw [heightOf]
    omega

/-- A step that changes no more than the queue, or leaves the upload, is free. -/
theorem quiet_pays {fuota after : Fuota} (bounded : Bounded nodes fuota)
    (inputs : after.inputs = fuota.inputs)
    (lower : place after = { place fuota with queue := (place after).queue } \/
      place after = { place fuota with state := .idle })
    (quiet : transmitted after.log = transmitted fuota.log) :
    Bounded nodes after /\ heightOf nodes after + (transmitted after.log - transmitted fuota.log) ≤
      heightOf nodes fuota := by
  have limited : Limited (place after) := by
    rcases lower with kept | idle
    next => exact kept ▸ bounded.limited
    next => exact idle ▸ bounded.limited
  refine ⟨⟨inputs ▸ bounded.network, limited⟩, ?_⟩
  rw [quiet, Nat.sub_self, Nat.add_zero, heightOf, heightOf]
  rcases lower with kept | idle
  next =>
    rw [kept]
    simp only [Place.height, Place.rank, Place.left, Place.retries, le_refl]
  next => simp [idle, Place.height, Place.rank, Place.left]

theorem step_pays (fuota : Fuota) (action : Action) (bounded : Bounded nodes fuota)
    (forward : GoesForward fuota action) :
    match returning fuota action with
    | some next => Bounded nodes next /\ heightOf nodes next + stepFrames fuota action ≤ heightOf nodes fuota
    | none => stepFrames fuota action ≤ heightOf nodes fuota := by
  obtain ⟨same, advances⟩ := forward
  cases action with
  | queue | resume path name => exact absurd same id
  | enqueue command | cancel ids => exact quiet_pays bounded rfl (Or.inl rfl) rfl
  | packet =>
    by_cases rolled : fuota.machine.ondemandFuotaState = .rollbackToNormalCommMode
    next =>
      let idle : Fuota := (setState .idle { fuota with
        client := { fuota.client with timeoutState := .timerNone } }).2
      have ran : perform .packet fuota = (some (), idle) := by
        rw [perform, normalCommunication,
          ran_bind (show getState fuota = (some .rollbackToNormalCommMode, fuota) from
            congrArg (fun state => (some state, fuota)) rolled), if_pos rfl]
        rfl
      have quiet : transmitted idle.log = transmitted fuota.log := by
        show transmitted (fuota.log ++ [_]) = _
        rw [transmitted, List.countP_append, List.countP_singleton]
        simp [transmitted, Event.transmits]
      have came : returning fuota .packet = some idle := by rw [returning, ran]
      have frames : stepFrames fuota .packet = transmitted idle.log - transmitted fuota.log :=
        congrArg (fun result : Option Unit × Fuota => transmitted result.2.log - transmitted fuota.log) ran
      have idled : place idle = { place fuota with state := .idle } := rfl
      rw [came, frames]
      exact quiet_pays bounded rfl (Or.inr idled) quiet
    next =>
      have ran : perform .packet fuota = (some (), fuota) := by
        rw [perform, normalCommunication,
          ran_bind (show getState fuota = (some fuota.machine.ondemandFuotaState, fuota) from rfl), if_neg rolled]
        rfl
      have came : returning fuota .packet = some fuota := by rw [returning, ran]
      have frames : stepFrames fuota .packet = transmitted fuota.log - transmitted fuota.log :=
        congrArg (fun result : Option Unit × Fuota => transmitted result.2.log - transmitted fuota.log) ran
      rw [came, frames]
      exact quiet_pays bounded rfl (Or.inl rfl) rfl
  | reply data =>
    have ran := clientProcess_holds data bounded.network bounded.limited advances fuota rfl
    unfold returning stepFrames
    unfold SameRequest at same
    simp only [perform] at same ⊢
    cases performed : clientProcessRfFuotaData data fuota with
    | mk outcome after =>
      rw [performed] at ran same
      cases outcome with
      | some _ => exact holds_pays bounded same ran
      | none =>
        rcases ran with shorter | sent
        next => exact absurd (congrArg List.length same) (Nat.ne_of_lt shorter)
        next =>
          show transmitted after.log - transmitted fuota.log ≤ heightOf nodes fuota
          unfold heightOf
          omega
  | pollTimeout =>
    have ran := pollTimeoutHandler_holds bounded.network bounded.limited fuota rfl
    unfold returning stepFrames
    unfold SameRequest at same
    simp only [perform] at same ⊢
    cases performed : pollTimeoutHandler fuota with
    | mk outcome after =>
      rw [performed] at ran same
      cases outcome with
      | some _ =>
        have paid : Bounded nodes after /\ heightOf nodes after +
            (transmitted after.log - (transmitted fuota.log + 1)) ≤ heightOf nodes fuota :=
          holds_pays bounded same ran
        have less : heightOf nodes after ≤ heightOf nodes fuota := by omega
        show Bounded nodes after /\ heightOf nodes after + 0 ≤ heightOf nodes fuota
        rw [Nat.add_zero]
        exact ⟨paid.1, less⟩
      | none => exact Nat.zero_le _

theorem heightOf_le (fuota : Fuota) : heightOf nodes fuota ≤ 17 * span nodes := by
  have left := left_le (place fuota)
  have wide : 32 ≤ span nodes := Nat.le_add_left 32 _
  have rank : (place fuota).rank ≤ 16 := by
    unfold Place.rank
    split <;> omega
  have most : (place fuota).rank * span nodes ≤ 16 * span nodes := Nat.mul_le_mul_right _ rank
  rw [heightOf, Place.height]
  omega

/-- In a network of so many nodes a request transmits at most so many frames outside of the upload
loop, where every reply brings it on; its start transmits one. -/
theorem request_framesBounded (nodes : Nat) (fuota : Fuota) (network : InNetwork nodes fuota.inputs)
    (limited : Limited (place fuota)) :
    (forall actions, AllAllowed returning GoesForward fuota actions ->
      spent returning stepFrames fuota actions ≤ 17 * span nodes) /\
    forall start, (start = .queue \/ exists path name, start = .resume path name) ->
      stepFrames fuota start ≤ 1 /\ InNetwork nodes (perform start fuota).2.inputs /\
        Limited (place (perform start fuota).2) := by
  constructor
  next =>
    intro actions forward
    apply Nat.le_trans _ (heightOf_le fuota)
    apply spent_le returning stepFrames (heightOf nodes) GoesForward (Bounded nodes) _ fuota actions
      ⟨network, limited⟩ forward
    intro state action bounded allowed
    have paid := step_pays state action bounded allowed
    cases stepped : returning state action with
    | none => simpa only [stepped] using paid
    | some next => simpa only [stepped] using paid
  next =>
    have launched (start : Action) (launches : Respects (Launches nodes 1) (perform start))
        (active : start ≠ .pollTimeout) : stepFrames fuota start ≤ 1 /\
          InNetwork nodes (perform start fuota).2.inputs /\ Limited (place (perform start fuota).2) := by
      obtain ⟨inputs, kept, less⟩ := launches fuota network limited
      refine ⟨?_, inputs ▸ network, kept⟩
      unfold stepFrames
      split
      next => exact absurd rfl active
      next => omega
    rintro start (rfl | ⟨path, name, rfl⟩)
    next => exact launched _ launches_queue (by simp)
    next => exact launched _ (launches_resume path name) (by simp)

/-- A gateway in the middle of its silencing, which has acknowledged no step yet. -/
def silencing : Fuota where
  machine := { ondemandFuotaState := .gatewayPathSilence }
  client := { gatewayId := ascii "3CC1F60112345678" }

theorem silencing_network : InNetwork 0 silencing.inputs where
  received _ _ arrived := Arrival.noConfusion arrived
  listed _ meters listed := by
    have none : meters = [] := (Option.some.inj listed).symm
    simp [none]

theorem request_framesBounded_silencing :
    spent returning stepFrames silencing
        [.reply [0x2D, 0x00, 0x04, 0x9B, 0x00], .pollTimeout, .reply [0x2D, 0x00, 0x04, 0x9B, 0x00]] ≤
      17 * span 0 :=
  (request_framesBounded 0 silencing silencing_network ⟨⟨rfl, rfl⟩, rfl⟩).1 _ (by decide +kernel)

section Unbounded

variable {nodes : Nat}

theorem buildAndStoreFuotaCmd_transmits (fuota : Fuota)
    (outside : fuota.machine.ondemandFuotaState ≠ .fwImageTransfer) : exists written after,
    buildAndStoreFuotaCmd fuota = (some written, after) /\
      transmitted after.log = transmitted fuota.log + 1 := by
  obtain ⟨radio, ran⟩ := buildNetworkCommand_loaded fuota
  let ready : Fuota := { fuota with radio := radio }
  have one : transmitted (writeFrame ready).2.log = transmitted fuota.log + 1 := by
    show transmitted (fuota.log ++ [_]) = _
    rw [transmitted, List.countP_append, List.countP_singleton]
    simp [transmitted, Event.transmits, ready, outside]
  rw [buildAndStoreFuotaCmd, ran_bind ran]
  rw [ran_bind (show writeFrame ready = (some (fuota.inputs.write fuota.counters.writes),
    (writeFrame ready).2) from rfl)]
  split
  next => exact ⟨true, _, rfl, one⟩
  next => exact ⟨false, _, rfl, one⟩

theorem undone_again (data : Bytes) (accepted : accepts .gatewayPathSilence data = true)
    (undone : stepDone data = false) (fuota : Fuota) (network : InNetwork nodes fuota.inputs)
    (entered : (place fuota).state = .gatewayPathSilence) (first : (place fuota).gateway = 0) :
    exists after, perform (.reply data) fuota = (some (), after) /\ after.inputs = fuota.inputs /\
      place after = place fuota /\ transmitted fuota.log + 1 ≤ transmitted after.log := by
  -- a reply to a step that is not done: the step is asked for again, and nothing counts it
  obtain ⟨told, ran, -⟩ := updateStatus_reads 6 1 fuota
  have kept : Costs nodes false (place fuota) 0 fuota (updateStatus 6 1 fuota).2 :=
    updateStatus_costs 6 1 fuota
  obtain ⟨inputs, stays, -⟩ := kept network rfl
  obtain ⟨statuses, logged, -⟩ := (updateStatus_leaves 6 1 fuota).told
  rw [ran] at inputs stays logged
  let asked : Fuota := (setState .gatewayPathSilence told).2
  have standing : place asked = place fuota := by
    have same : place told = place fuota := stays
    show { place told with state := .gatewayPathSilence } = place fuota
    rw [same, ← entered]
  have replied : replyIn .gatewayPathSilence data fuota = (some (), asked) := by
    show replyGatewayPathSilence data fuota = _
    rw [replyGatewayPathSilence, if_pos accepted, ran_bind ran, undone, if_neg (by simp)]
    rfl
  let framed : Fuota := (framePmeshOtaCmdHeader meshCommissionPacketType fuotaEnable asked).2
  have outside : framed.machine.ondemandFuotaState = .gatewayPathSilence := rfl
  obtain ⟨written, after, built, one⟩ := buildAndStoreFuotaCmd_transmits framed (by simp [outside])
  have sent : prepareGatewaySilenceCmd asked = (some (), after) := by
    have step : asked.machine.fuotaGatewaySilenceState = 0 := (congrArg Place.gateway standing).trans first
    rw [prepareGatewaySilenceCmd, ran_bind (show observe _ asked = (some _, asked) from rfl), step]
    show (framePmeshOtaCmdHeader _ _ >>= fun _ => _) asked = _
    rw [ran_bind (show framePmeshOtaCmdHeader _ _ asked = (some (), framed) from rfl), ran_bind built]
    rfl
  have costs : Costs nodes false (place asked) 1 asked (prepareGatewaySilenceCmd asked).2 :=
    silenceGateway_costs asked
  obtain ⟨inputsToo, staysToo, -⟩ := costs (inputs ▸ network) rfl
  rw [sent] at inputsToo staysToo
  refine ⟨after, ?_, inputsToo.trans inputs, staysToo.trans standing, ?_⟩
  next =>
    have state : fuota.machine.ondemandFuotaState = .gatewayPathSilence := entered
    show clientProcessRfFuotaData data fuota = _
    rw [clientProcessRfFuotaData, ran_bind (show getState fuota = (some .gatewayPathSilence, fuota) from
      congrArg (fun state => (some state, fuota)) state), if_neg (by simp), ran_bind replied]
    exact sent
  next =>
    have more : transmitted fuota.log ≤ transmitted framed.log := by
      show _ ≤ transmitted (told.log ++ [_])
      rw [logged, transmitted, transmitted, List.countP_append, List.countP_append]
      omega
    omega

/-- No number of frames is enough for a request, where its steps are not done. -/
theorem undoneSteps_unbounded : ¬ exists bound : Nat -> Nat, forall nodes fuota actions,
    InNetwork nodes fuota.inputs -> Limited (place fuota) ->
      AllAllowed returning SameRequest fuota actions ->
        spent returning stepFrames fuota actions ≤ bound nodes := by
  let data : Bytes := [0x2D, 0x00, 0x04, 0x00, 0x01]
  have repeats (count : Nat) : forall fuota, InNetwork 0 fuota.inputs -> place fuota = place silencing ->
      AllAllowed returning SameRequest fuota (List.replicate count (.reply data)) /\
        count ≤ spent returning stepFrames fuota (List.replicate count (.reply data)) := by
    induction count with
    | zero => exact fun _ _ _ => ⟨trivial, Nat.zero_le _⟩
    | succ count ih =>
      intro fuota network known
      obtain ⟨after, ran, inputs, stays, more⟩ := undone_again data (by decide) (by decide) fuota network
        (by rw [known]; rfl) (by rw [known]; rfl)
      obtain ⟨permitted, many⟩ := ih after (inputs ▸ network) (stays.trans known)
      have came : returning fuota (.reply data) = some after := by rw [returning, ran]
      have frames : stepFrames fuota (.reply data) = transmitted after.log - transmitted fuota.log :=
        congrArg (fun result : Option Unit × Fuota => transmitted result.2.log - transmitted fuota.log) ran
      have same : SameRequest fuota (.reply data) := by
        show (perform (.reply data) fuota).2.client.rfMeterFuota = fuota.client.rfMeterFuota
        rw [ran]
        exact congrArg Place.queue stays
      rw [List.replicate_succ, AllAllowed, spent, came, frames]
      exact ⟨⟨same, permitted⟩, by dsimp only; omega⟩
  rintro ⟨bound, bounded⟩
  obtain ⟨permitted, many⟩ := repeats (bound 0 + 1) silencing silencing_network rfl
  have less := bounded 0 silencing _ silencing_network ⟨⟨rfl, rfl⟩, rfl⟩ permitted
  omega

end Unbounded

end Runs

end Hes.Fuota
