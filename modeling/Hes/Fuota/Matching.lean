import Hes.Fuota.History

set_option autoImplicit false

namespace Hes.Fuota

open Prog Text Mqtt Transition

/-- The node that a reply comes from, and the event of the history that it answers. -/
structure Origin where
  node : Bytes
  place : Nat
  deriving DecidableEq, Repr

/-- The command of a transmitted copy, and the address of its node. -/
def copyOf : Event -> Option (Bytes × Bytes)
  | .sent sent => if sent.written then some (sent.built.command, lastHop sent.frame) else none
  | .imageSent _ frame => some (imageTransfer, lastHop frame.bytes)
  | _ => none

-- an AT command's reply repeats its code, a reply of the meter's module counts it up by one
def responseCode (command : Bytes) : UInt8 :=
  if byteAt command 0 = 0x2F then byteAt command 2 + 1 else byteAt command 1

/-- The code in a reply: `command` of `OtaAtCmdResponse`, or the third byte behind the header. -/
def carriedCode (command frame : Bytes) : UInt8 :=
  if byteAt command 0 = 0x2F then byteAt frame 17 else byteAt frame 15

/-- The reply carries the code of the command, and answers a copy of it that was sent from `start`
on to the node it comes from. -/
def Matched (command : Bytes) (start : Nat) (log : List Event) (frame : Bytes) (origin : Origin) : Prop :=
  carriedCode command frame = responseCode command /\ start ≤ origin.place /\
    log[origin.place]?.bind copyOf = some (command, origin.node)

section Waits

/-- A reply on which a wait ends, and the machine at that time. -/
structure Judged where
  frame : Bytes
  fuota : Fuota

/-- A frame that makes the wait send the command once more. -/
def asksAgain (frame : Bytes) : Bool :=
  (byteAt frame 2 = 0x09 || byteAt frame 2 = 0x03) &&
    (byteAt frame (frame.length - 1) = 0x06 || byteAt frame (frame.length - 1) = 0x07)

def looksAnswered (txBuffer frame : Bytes) : Bool :=
  !asksAgain frame && (byteAt frame 2 = 0x04 || byteAt frame 2 = 0x82) && validResponse txBuffer frame

/-- The first frame that does not ask for the command again. -/
def judgedFrame : Nat -> SocketVars -> Fuota -> Option Judged
  | 0, _, _ => none
  | fuel + 1, vars, fuota =>
    match (firstFrame vars.recvbuf).filter fun found => !asksAgain found.1, socketTurn vars fuota with
    | some (frame, _), _ => some { frame := frame, fuota := fuota }
    | none, (some (.again next), after) => judgedFrame fuel next after
    | none, _ => none

/-- The replies that the attempts of a step end on. -/
def heardIn : Nat -> Fuota -> List Judged
  | 0, _ => []
  | attempts + 1, fuota =>
    match buildAndStoreFuotaCmd fuota with
    | (some true, sent) => (judgedFrame sent.inputs.fuel {} sent).toList ++
        match waitForSocketResponse sent with
        | (some false, after) => heardIn attempts after
        | _ => []
    | (some false, failed) => heardIn attempts failed
    | (none, _) => []

def beginStep (state : Nat) (fuota : Fuota) : Fuota :=
  { fuota with machine := { fuota.machine with networkSilenceState := state } }

/-- The machine at the beginning of the steps of a sequence. -/
def begins : List Nat -> Fuota -> List Fuota
  | [], _ => []
  | state :: rest, fuota => beginStep state fuota ::
      match executeStep 3 (beginStep state fuota) with
      | (some true, after) => begins rest after
      | _ => []

/-- `origins` tells where the reply comes from that is read when so many reads were made. -/
def Judged.Matched (judged : Judged) (origins : Nat -> Origin) (start : Nat) : Prop :=
  exists command, networkCommand judged.fuota.machine = some command /\
    Fuota.Matched command start judged.fuota.log judged.frame (origins judged.fuota.counters.arrivals)

/-- A step that succeeds is left on a matched reply. -/
def LeftMatched (origins : Nat -> Origin) (begun : Fuota) : Prop :=
  (executeStep 3 begun).1 = some true -> exists judged,
    (heardIn 3 begun).getLast? = some judged /\ judged.Matched origins begun.log.length

/-- No other reply has the bytes that the wait looks at. -/
def StraysRejected (origins : Nat -> Origin) (begun : Fuota) : Prop :=
  ∀ judged ∈ heardIn 3 begun,
    looksAnswered judged.fuota.radio.clientTxBuffer judged.frame = true ->
      judged.Matched origins begun.log.length

end Waits

section Waits

def Judged.answers (judged : Judged) : Bool :=
  looksAnswered judged.fuota.radio.clientTxBuffer judged.frame

theorem socketTurn_judged (vars : SocketVars) (fuota : Fuota) (frame rest : Bytes)
    (ending : (firstFrame vars.recvbuf).filter (fun found => !asksAgain found.1) = some (frame, rest)) :
    socketTurn vars fuota =
      (some (.done (looksAnswered fuota.radio.clientTxBuffer frame)), fuota) := by
  obtain ⟨found, complete⟩ := Option.filter_eq_some_iff.mp ending
  have final : asksAgain frame = false := by simpa using complete
  have again : ((byteAt frame 2 = 0x09 || byteAt frame 2 = 0x03) &&
      (byteAt frame (frame.length - 1) = 0x06 || byteAt frame (frame.length - 1) = 0x07)) = false := final
  simp only [socketTurn, found, handleFrame, again, Bool.false_eq_true, if_false, looksAnswered, final,
    Bool.not_false, Bool.true_and]
  by_cases answered : (decide (byteAt frame 2 = 0x04) || decide (byteAt frame 2 = 0x82)) = true
  next =>
    simp only [answered, if_true, Bool.true_and]
    rfl
  next =>
    rw [Bool.not_eq_true] at answered
    simp only [answered, Bool.false_eq_true, if_false, Bool.false_and]
    rfl

theorem gaveUp {fuota after : Fuota} {result : Bool}
    (ran : (pure (.done false) : Prog Fuota (Turn SocketVars Bool)) fuota = (some (.done result), after)) :
    false = result := by
  simpa using ((returned_pure _ _ _ _).mp ran).1

theorem resend_done (vars : SocketVars) (fuota after : Fuota) (result : Bool)
    (ran : resend vars fuota = (some (.done result), after)) : result = false := by
  obtain ⟨written, middle, _, rest⟩ := (returned_bind _ _ _ _ _).mp ran
  cases written with
  | true => simp at rest
  | false => exact (gaveUp rest).symm

theorem socketTurn_further (vars : SocketVars) (fuota after : Fuota) (result : Bool)
    (further : (firstFrame vars.recvbuf).filter (fun found => !asksAgain found.1) = none)
    (ran : socketTurn vars fuota = (some (.done result), after)) : result = false := by
  unfold socketTurn at ran
  cases found : firstFrame vars.recvbuf with
  | some pair =>
    have again : asksAgain pair.1 = true := by simpa [found] using further
    have condition : ((byteAt pair.1 2 = 0x09 || byteAt pair.1 2 = 0x03) &&
        (byteAt pair.1 (pair.1.length - 1) = 0x06 || byteAt pair.1 (pair.1.length - 1) = 0x07)) = true :=
      again
    rw [found] at ran
    simp only [handleFrame, condition, if_true] at ran
    exact resend_done _ fuota after result ran
  | none =>
    rw [found] at ran
    by_cases few : vars.rfRetryCount < rfMaxRetries
    next =>
      simp only [few, if_true] at ran
      obtain ⟨arrival, middle, _, rest⟩ := (returned_bind _ _ _ _ _).mp ran
      cases arrival with
      | failed => exact (gaveUp rest).symm
      | timedOut => exact resend_done _ middle after result rest
      | data bytes =>
        by_cases empty : bytes = []
        next =>
          simp only [empty, if_true] at rest
          exact (gaveUp rest).symm
        next => simp [empty] at rest
    next =>
      simp only [few, if_false] at ran
      exact (gaveUp ran).symm

/-- A wait succeeds on the reply that it ends on, and only by that reply's bytes. -/
theorem loop_judged (fuel : Nat) (vars : SocketVars) (fuota : Fuota) :
    (loop socketTurn fuel vars fuota).1 = some true <->
      exists judged, judgedFrame fuel vars fuota = some judged /\ judged.answers = true := by
  induction fuel generalizing vars fuota with
  | zero => simp [loop, waiting, judgedFrame]
  | succ fuel ih =>
    rw [loop, judgedFrame]
    cases ending : (firstFrame vars.recvbuf).filter (fun found => !asksAgain found.1) with
    | some pair =>
      rw [ran_bind (socketTurn_judged vars fuota pair.1 pair.2 ending)]
      simp [pure, Judged.answers]
    | none =>
      cases ran : socketTurn vars fuota with
      | mk outcome after =>
        cases outcome with
        | none => simp [waited_bind ran]
        | some turn =>
          rw [ran_bind ran]
          cases turn with
          | again next => exact ih next after
          | done result =>
            have failed : result = false := socketTurn_further vars fuota after result ending ran
            simp [pure, failed]

theorem waitForSocketResponse_judged (fuota : Fuota) :
    (waitForSocketResponse fuota).1 = some true <->
      exists judged, judgedFrame fuota.inputs.fuel {} fuota = some judged /\ judged.answers = true :=
  loop_judged fuota.inputs.fuel {} fuota

end Waits

section Steps

/-- A step succeeds on the last reply it hears, and hears no more behind one with the right bytes. -/
theorem executeStep_answered (attempts : Nat) (fuota : Fuota) :
    ((executeStep attempts fuota).1 = some true <->
      ∃ judged ∈ heardIn attempts fuota, judged.answers = true) /\
    ∀ judged ∈ heardIn attempts fuota, judged.answers = true ->
      (heardIn attempts fuota).getLast? = some judged := by
  induction attempts generalizing fuota with
  | zero => simp [executeStep, heardIn, pure]
  | succ attempts ih =>
    rw [executeStep, heardIn]
    cases built : buildAndStoreFuotaCmd fuota with
    | mk outcome sent =>
      cases outcome with
      | none => simp [waited_bind built]
      | some written =>
        rw [ran_bind built]
        cases written with
        | false => exact ih sent
        | true =>
          dsimp only
          have decided := waitForSocketResponse_judged sent
          cases waited : waitForSocketResponse sent with
          | mk answer after =>
            rw [waited] at decided
            have silent (unanswered : answer ≠ some true) (judged : Judged)
                (known : judgedFrame sent.inputs.fuel {} sent = some judged) : judged.answers = false := by
              cases answered : judged.answers with
              | false => rfl
              | true => exact absurd (decided.mpr ⟨judged, known, answered⟩) unanswered
            cases answer with
            | none =>
              rw [if_pos rfl, waited_bind waited]
              cases known : judgedFrame sent.inputs.fuel {} sent with
              | none => simp
              | some judged => simp [silent (by simp) judged known]
            | some answer =>
              rw [if_pos rfl, ran_bind waited]
              cases answer with
              | true =>
                obtain ⟨judged, known, answered⟩ := decided.mp rfl
                simp [known, answered, bind, observe, note, update, pure]
              | false =>
                have later := ih after
                cases known : judgedFrame sent.inputs.fuel {} sent with
                | none => simpa using later
                | some judged =>
                  have unanswered := silent (by simp) judged known
                  dsimp only [Option.toList_some]
                  refine ⟨?_, ?_⟩
                  next => simpa [unanswered] using later.1
                  next =>
                    intro other inside answered
                    have behind : other ∈ heardIn attempts after := by
                      cases List.mem_append.mp inside with
                      | inl first =>
                        have same : other = judged := by simpa using first
                        simp [same, unanswered] at answered
                      | inr behind => exact behind
                    have last := later.2 other behind answered
                    rw [List.getLast?_append, last]
                    rfl

/-- A step is left on a matched reply exactly when no other reply has the bytes it looks at. -/
theorem leftMatched_iff (origins : Nat -> Origin) (begun : Fuota) :
    LeftMatched origins begun <-> StraysRejected origins begun := by
  obtain ⟨succeeds, last⟩ := executeStep_answered 3 begun
  constructor
  next =>
    intro matched judged heard answered
    obtain ⟨left, ended, known⟩ := matched (succeeds.mpr ⟨judged, heard, answered⟩)
    have same : judged = left := Option.some.inj ((last judged heard answered).symm.trans ended)
    exact same ▸ known
  next =>
    intro rejected success
    obtain ⟨judged, heard, answered⟩ := succeeds.mp success
    exact ⟨judged, last judged heard answered, rejected judged heard answered⟩

end Steps

section Handlers

/-- The command that is sent in the state of the machine. -/
def stepCommand (fuota : Fuota) : Option Bytes :=
  let machine := fuota.machine
  match machine.ondemandFuotaState with
  | .gatewayPathSilence => silenceCommand machine.fuotaGatewaySilenceState
  | .targetNodeSilence => silenceCommand machine.fuotaTargetnodeSilenceState
  | .networkSilence => silenceCommand machine.networkSilenceState
  | .sectorRead => some sectorRead
  | .fwimageOfSectorCount => some (fwInfo fuota.firmware)
  | .eraseFlash => some eraseFlashArea
  | .fwImageTransfer => some imageTransfer
  | .lastUpdateFwimageOfSectorcount => some lastsectorPageRead
  | .fwImageEndofPageTransfer => some endofImageTransfer
  | .newFwimageCrcCalculate => some (verifyCommand fuota.crc.value)
  | .activateNewFwimage => some activateRead
  | .sendActivateCmd => some activateStatusRead
  | .readAndCompareFwVersion => some rfInternalFw
  | .networkUnsilence => unsilenceCommand machine.networkSilenceState
  | .targetNodeUnsilence => unsilenceCommand machine.fuotaTargetnodeUnsilenceState
  | .gatewayPathUnsilence => unsilenceCommand machine.fuotaGatewayUnsilenceState
  | .openFile | .rollbackToNormalCommMode | .idle | .unset => none

def leavesStep (state : FuotaState) : Event -> Bool
  | .assigned next => next ≠ state
  | .accepted _ | .acknowledged _ _ => true
  | _ => false

/-- The place behind the last event that left a step. -/
def stepStart (state : FuotaState) (log : List Event) : Nat :=
  (log.reverse.dropWhile fun event => !leavesStep state event).length

/-- What the success branch of a state logs. -/
def passedBy (state : FuotaState) : Event -> Bool
  | .acknowledged _ _ => state = .gatewayPathSilence || state = .targetNodeSilence ||
      state = .networkSilence || state = .networkUnsilence || state = .targetNodeUnsilence ||
      state = .gatewayPathUnsilence
  | .assigned next => (state = .fwImageTransfer || state = .lastUpdateFwimageOfSectorcount) &&
      next = .fwImageEndofPageTransfer
  | .accepted left => left = state
  | _ => false

/-- The handler of the state leaves it through its success branch. -/
def LeftBySuccess (fuota : Fuota) (data : Bytes) : Prop :=
  let state := fuota.machine.ondemandFuotaState
  ∃ event ∈ (replyIn state data fuota).2.log.drop fuota.log.length, passedBy state event = true

/-- The bytes that the success branch of a state looks at. -/
def looksDone (state : FuotaState) (data : Bytes) : Bool :=
  match state with
  | .openFile | .rollbackToNormalCommMode | .idle | .unset => false
  | .gatewayPathSilence | .networkUnsilence | .targetNodeUnsilence | .gatewayPathUnsilence =>
    accepts state data && stepDone data
  | _ => accepts state data

def RepliedTo (fuota : Fuota) (data : Bytes) (origin : Origin) : Prop :=
  exists command, stepCommand fuota = some command /\
    Matched command (stepStart fuota.machine.ondemandFuotaState fuota.log) fuota.log data origin

def RepliesMatched (fuota : Fuota) (delivery : Action × Origin) : Prop :=
  match delivery with
  | (.reply data, origin) => LeftBySuccess fuota data -> RepliedTo fuota data origin
  | _ => True

def StrayRepliesRejected (fuota : Fuota) (delivery : Action × Origin) : Prop :=
  match delivery with
  | (.reply data, origin) =>
    looksDone fuota.machine.ondemandFuotaState data = true -> RepliedTo fuota data origin
  | _ => True

def deliver : Step Fuota (Action × Origin) := fun fuota delivery => step fuota delivery.1

end Handlers

section Branches

variable {state : FuotaState}

/-- Events that no success branch of the state logs. -/
def Unpassed (state : FuotaState) (event : Event) : Prop := passedBy state event = false

def Passed (state : FuotaState) (before after : Fuota) : Prop :=
  ∃ event ∈ after.log.drop before.log.length, passedBy state event = true

theorem unpassed_not_passed {before after : Fuota} (logs : Logs (Unpassed state) before after) :
    ¬ Passed state before after := by
  intro passed
  obtain ⟨events, logged, unpassed⟩ := logs
  obtain ⟨event, inside, known⟩ := passed
  rw [logged, List.drop_left] at inside
  have other : passedBy state event = false := unpassed event inside
  simp [other] at known

theorem passed_of {before middle after : Fuota} (event : Event) (known : passedBy state event = true)
    (earlier : Logs (fun _ => True) before middle)
    (later : exists events, after.log = middle.log ++ event :: events) : Passed state before after := by
  obtain ⟨first, logged, _⟩ := earlier
  obtain ⟨second, continued⟩ := later
  refine ⟨event, ?_, known⟩
  rw [continued, logged, List.append_assoc, List.drop_left]
  simp

theorem passed_behind {before middle after : Fuota} (event : Event) (known : passedBy state event = true)
    (earlier : Logs (fun _ => True) before middle) (noted : Fuota)
    (logged : noted.log = middle.log ++ [event]) (later : Logs (fun _ => True) noted after) :
    Passed state before after := by
  obtain ⟨events, continued, _⟩ := later
  exact passed_of event known earlier ⟨events, by rw [continued, logged, List.append_assoc]; rfl⟩

theorem trivial_ordinary : Ordinary fun _ => True where
  sent _ := trivial
  updated _ _ _ := trivial
  assigned _ := trivial
  dequeued _ := trivial
  opened _ := trivial
  acknowledged _ _ := trivial
  recorded _ _ := trivial

theorem unpassed_plain (working : state ≠ .fwImageTransfer)
    (here : state ≠ .lastUpdateFwimageOfSectorcount) : Plain (Unpassed state) where
  sent _ := rfl
  updated _ _ _ := rfl
  assigned _ := by simp [Unpassed, passedBy, working, here]
  dequeued _ := rfl
  opened _ := rfl

theorem updateStatus_ran (requestStatus errorCode : Nat) (fuota : Fuota) :
    exists after, updateStatus requestStatus errorCode fuota = (some (), after) /\
      after.machine.ondemandFuotaState = fuota.machine.ondemandFuotaState /\
      Logs (fun _ => True) fuota after := by
  refine ⟨_, rfl, ?_, logs_updateStatus trivial_ordinary.updated requestStatus errorCode fuota⟩
  dsimp only
  split
  next => rfl
  next => split <;> split <;> rfl

end Branches

section Handlers

variable {state : FuotaState} {fuota : Fuota} {data : Bytes}

theorem branch_left {good bad : Prog Fuota Unit} {done : Bool} (passes : Passed state fuota (good fuota).2)
    (fails : Logs (Unpassed state) fuota (bad fuota).2) :
    Passed state fuota ((if done = true then good else bad) fuota).2 <-> done = true := by
  cases done with
  | true => simpa using passes
  | false => simpa using unpassed_not_passed fails

theorem unpassed_ordinary (known : forall node command, passedBy state (.acknowledged node command) = false)
    (working : state ≠ .fwImageTransfer) (here : state ≠ .lastUpdateFwimageOfSectorcount) :
    Ordinary (Unpassed state) where
  toPlain := unpassed_plain working here
  acknowledged := known
  recorded _ _ := rfl

theorem proceed_passed {before : Fuota} (next : FuotaState) (inside : fuota.machine.ondemandFuotaState = state)
    (earlier : Logs (fun _ => True) before fuota) : Passed state before (proceed next fuota).2 := by
  refine passed_of (.accepted state) (by simp [passedBy]) earlier ⟨[.assigned next], ?_⟩
  simp [proceed, update, inside]

theorem told_passed {status errorCode : Nat} {rest : Prog Fuota Unit}
    (passes : forall told, told.machine.ondemandFuotaState = fuota.machine.ondemandFuotaState ->
      Logs (fun _ => True) fuota told -> Passed state fuota (rest told).2) :
    Passed state fuota ((updateStatus status errorCode >>= fun _ => rest) fuota).2 := by
  obtain ⟨told, updated, same, logged⟩ := updateStatus_ran status errorCode fuota
  rw [ran_bind updated]
  exact passes told same logged

theorem noted_passed {event : Event} {rest : Prog Fuota Unit} (known : passedBy state event = true)
    (grows : Respects (Logs fun _ => True) rest) :
    Passed state fuota ((note event >>= fun _ => rest) fuota).2 := by
  let noted := (note event fuota).2
  rw [ran_bind (show note event fuota = (some (), noted) from rfl)]
  exact passed_behind event known (logs_refl fuota) noted rfl (grows noted)

theorem stage_left (inside : fuota.machine.ondemandFuotaState = state)
    (ordinary : Ordinary (Unpassed state)) {done : Bool} {status limit : Nat}
    {rest retrying given : Prog Fuota Unit}
    (passes : forall told, told.machine.ondemandFuotaState = state ->
      Logs (fun _ => True) fuota told -> Passed state fuota (rest told).2)
    (retries : Respects (Logs (Unpassed state)) retrying) (gives : Respects (Logs (Unpassed state)) given) :
    Passed state fuota ((if done = true then updateStatus status 1 >>= fun _ => rest
      else retryOr limit retrying given) fuota).2 <-> done = true :=
  branch_left (told_passed fun told same logged => passes told (same.trans inside) logged)
    (logs_retryOr ordinary limit retrying given retries gives fuota)

theorem sectorRead_left :
    Passed .sectorRead fuota (replySectorRead data fuota).2 <-> accepts .sectorRead data = true := by
  have ordinary : Ordinary (Unpassed .sectorRead) :=
    unpassed_ordinary (fun _ _ => rfl) (by decide) (by decide)
  apply branch_left
  next =>
    apply noted_passed rfl
    apply logs_bind (logs_setFirmware _)
    intro _
    apply logs_bind (logs_updateStatus trivial_ordinary.updated 7 1)
    intro _
    apply logs_bind (logs_setMachine _)
    intro _
    apply logs_bind (dynamicFuotaCalculate_respects (logs_frame _) trivial_ordinary.toPlain.proceeds)
    intro calculated
    split
    next => exact logs_setState _ trivial
    next =>
      apply logs_bind (logs_observe _)
      intro firmware
      split
      next =>
        apply logs_bind (logs_updateStatus trivial_ordinary.updated 2 1)
        exact fun _ => logs_setState _ trivial
      next => exact logs_pure ()
  next =>
    apply logs_retryOr ordinary
    next =>
      apply logs_bind (logs_setMachine _)
      exact fun _ => logs_setState _ (ordinary.assigned _)
    next => exact logs_pure ()

theorem fwimageOfSectorCount_left
    (inside : fuota.machine.ondemandFuotaState = .fwimageOfSectorCount) :
    Passed .fwimageOfSectorCount fuota (replyFwimageOfSectorCount data fuota).2 <->
      accepts .fwimageOfSectorCount data = true := by
  have ordinary : Ordinary (Unpassed .fwimageOfSectorCount) :=
    unpassed_ordinary (fun _ _ => rfl) (by decide) (by decide)
  exact stage_left inside ordinary (fun _ same logged => proceed_passed _ same logged)
    (logs_setState _ (ordinary.assigned _)) (logs_pure ())

theorem eraseFlash_left (inside : fuota.machine.ondemandFuotaState = .eraseFlash) :
    Passed .eraseFlash fuota (replyEraseFlash data fuota).2 <-> accepts .eraseFlash data = true := by
  have ordinary : Ordinary (Unpassed .eraseFlash) :=
    unpassed_ordinary (fun _ _ => rfl) (by decide) (by decide)
  exact stage_left inside ordinary (fun _ same logged => proceed_passed _ same logged)
    (logs_setState _ (ordinary.assigned _)) (logs_pure ())

theorem fwImageTransfer_left : Passed .fwImageTransfer fuota (replyFwImageTransfer fuota).2 :=
  told_passed fun _ _ logged => passed_of (.assigned .fwImageEndofPageTransfer) rfl logged ⟨[], rfl⟩

theorem lastUpdate_left :
    Passed .lastUpdateFwimageOfSectorcount fuota (replyLastUpdate data fuota).2 <->
      accepts .lastUpdateFwimageOfSectorcount data = true := by
  constructor
  next =>
    intro passed
    by_contra refused
    let unpassed := Unpassed .lastUpdateFwimageOfSectorcount
    have told : Respects (Logs unpassed) (updateStatus 12 1) := logs_updateStatus (fun _ _ _ => rfl) 12 1
    have stays : Respects (Logs unpassed) (setState .lastUpdateFwimageOfSectorcount) :=
      logs_setState _ rfl
    have logs : Logs unpassed fuota (replyLastUpdate data fuota).2 := by
      unfold replyLastUpdate
      rw [if_neg refused]
      exact logs_bind told (fun _ => stays) fuota
    exact unpassed_not_passed logs passed
  next =>
    intro accepted
    unfold replyLastUpdate
    rw [if_pos accepted]
    exact told_passed fun _ _ logged =>
      passed_of (.assigned .fwImageEndofPageTransfer) rfl logged ⟨[], rfl⟩

theorem fwImageEndofPageTransfer_left
    (inside : fuota.machine.ondemandFuotaState = .fwImageEndofPageTransfer) :
    Passed .fwImageEndofPageTransfer fuota (replyFwImageEndofPageTransfer data fuota).2 <->
      accepts .fwImageEndofPageTransfer data = true := by
  have ordinary : Ordinary (Unpassed .fwImageEndofPageTransfer) :=
    unpassed_ordinary (fun _ _ => rfl) (by decide) (by decide)
  exact stage_left inside ordinary (fun _ same logged => proceed_passed _ same logged)
    (logs_setState _ (ordinary.assigned _)) (logs_pure ())

theorem newFwimageCrcCalculate_left
    (inside : fuota.machine.ondemandFuotaState = .newFwimageCrcCalculate) :
    Passed .newFwimageCrcCalculate fuota (replyNewFwimageCrcCalculate data fuota).2 <->
      accepts .newFwimageCrcCalculate data = true := by
  have ordinary : Ordinary (Unpassed .newFwimageCrcCalculate) :=
    unpassed_ordinary (fun _ _ => rfl) (by decide) (by decide)
  refine stage_left inside ordinary ?_ ?_ ?_
  next => exact fun _ same logged => proceed_passed _ same logged
  next => exact logs_setState _ (ordinary.assigned _)
  next =>
    apply logs_bind (logs_updateStatus ordinary.updated 14 0)
    exact fun _ => setCrc_respects (logs_frame _).toSendFrame _

theorem activateNewFwimage_left (inside : fuota.machine.ondemandFuotaState = .activateNewFwimage) :
    Passed .activateNewFwimage fuota (replyActivateNewFwimage data fuota).2 <->
      accepts .activateNewFwimage data = true := by
  have ordinary : Ordinary (Unpassed .activateNewFwimage) :=
    unpassed_ordinary (fun _ _ => rfl) (by decide) (by decide)
  refine stage_left inside ordinary ?_ ?_ ?_
  next => exact fun _ same logged => proceed_passed _ same logged
  next =>
    apply logs_bind (logs_updateStatus ordinary.updated 16 1)
    exact fun _ => logs_setState _ (ordinary.assigned _)
  next => exact logs_updateStatus ordinary.updated 16 0

theorem sendActivateCmd_left (inside : fuota.machine.ondemandFuotaState = .sendActivateCmd) :
    Passed .sendActivateCmd fuota (replySendActivateCmd data fuota).2 <->
      accepts .sendActivateCmd data = true := by
  have ordinary : Ordinary (Unpassed .sendActivateCmd) :=
    unpassed_ordinary (fun _ _ => rfl) (by decide) (by decide)
  exact stage_left inside ordinary (fun _ same logged => proceed_passed _ same logged)
    (logs_setState _ (ordinary.assigned _)) (logs_updateStatus ordinary.updated 17 0)

theorem readAndCompareFwVersion_left :
    Passed .readAndCompareFwVersion fuota (replyReadAndCompareFwVersion data fuota).2 <->
      accepts .readAndCompareFwVersion data = true := by
  have ordinary : Ordinary (Unpassed .readAndCompareFwVersion) :=
    unpassed_ordinary (fun _ _ => rfl) (by decide) (by decide)
  apply branch_left
  next =>
    apply noted_passed rfl
    apply logs_bind (logs_updateStatus trivial_ordinary.updated 18 1)
    intro _
    apply logs_bind (logs_setMachine _)
    intro _
    apply logs_bind (logs_setClient _)
    exact fun _ => logs_handleFuotaCompletion trivial_ordinary
  next =>
    exact logs_retryOr ordinary 3 _ _ (logs_setState _ (ordinary.assigned _))
      (logs_updateStatus ordinary.updated 18 0) fuota

section Sequences

/-- What the gateway or the target acknowledges leaves its step, whatever is done behind it. -/
theorem acknowledge_passed {before : Fuota} (node : Bytes) {rest : Prog Fuota Unit}
    (known : forall command, passedBy state (.acknowledged node command) = true)
    (earlier : Logs (fun _ => True) before fuota) (grows : Respects (Logs fun _ => True) rest) :
    Passed state before ((acknowledge node >>= fun _ => rest) fuota).2 :=
  passed_behind (.acknowledged node fuota.radio.built.command) (known _) earlier
    (acknowledge node fuota).2 rfl (grows _)

theorem logs_countUnsilenceStep {finished : Prog Fuota Unit}
    (grows : Respects (Logs fun _ => True) finished) :
    Respects (Logs fun _ => True) (countUnsilenceStep finished) := by
  apply logs_bind (logs_observe _)
  intro step
  split
  next => exact logs_setMachine _
  next => exact grows

theorem logs_finishUnsilence (next : FuotaState) :
    Respects (Logs fun _ => True) (finishUnsilence next) := by
  apply logs_bind (logs_observe _)
  intro hopCount
  dsimp only
  split
  next => exact logs_bind (logs_setState _ trivial) fun _ => logs_setMachine _
  next => exact logs_bind (logs_setState _ trivial) fun _ => logs_setMachine _

/-- A reply of the right packet type whose last bytes are looked at as well. -/
theorem nested_left {answered done : Bool} {good other bad : Prog Fuota Unit}
    (passes : Passed state fuota (good fuota).2) (stays : Logs (Unpassed state) fuota (other fuota).2)
    (fails : Logs (Unpassed state) fuota (bad fuota).2) :
    Passed state fuota ((if answered = true then (if done = true then good else other) else bad) fuota).2 <->
      (answered && done) = true := by
  cases answered with
  | false => simpa using unpassed_not_passed fails
  | true =>
    have inner : Passed state fuota ((if done = true then good else other) fuota).2 <-> done = true :=
      branch_left passes stays
    simpa using inner

theorem gatewayPathSilence_left :
    Passed .gatewayPathSilence fuota (replyGatewayPathSilence data fuota).2 <->
      (accepts .gatewayPathSilence data && stepDone data) = true := by
  have plain : Plain (Unpassed .gatewayPathSilence) := unpassed_plain (by decide) (by decide)
  have grows : Respects (Logs fun _ => True) (do
      let fuota <- observe id
      if fuota.machine.fuotaGatewaySilenceState < atEnableFlashexit then
        setMachine fun machine => { machine with
          fuotaGatewaySilenceState := machine.fuotaGatewaySilenceState + 1 }
      else
        insertUpdateUnsilencedMeter fuota.client.gatewayId 1 0
        if fuota.radio.routerPath.hopCount > 0 then setState .targetNodeSilence
        else setState .networkSilence
        setMachine fun machine => { machine with fuotaGatewaySilenceState := atFuotaEnable }) := by
    apply logs_bind (logs_observe _)
    intro fuota
    split
    next => exact logs_setMachine _
    next =>
      apply logs_bind (insertUpdateUnsilencedMeter_respects (logs_frame _) trivial_ordinary.visits _ _ _)
      intro _
      dsimp only
      split
      next => exact logs_bind (logs_setState _ trivial) fun _ => logs_setMachine _
      next => exact logs_bind (logs_setState _ trivial) fun _ => logs_setMachine _
  unfold replyGatewayPathSilence
  cases accepted : accepts .gatewayPathSilence data with
  | false =>
    have failed := silenceFailed_respects (logs_frame _) plain.proceeds .gatewayPathSilence
      (by decide) (fun cntx => { cntx with retryCount := cntx.retryCount + 1 }) fuota
    simpa using unpassed_not_passed failed
  | true =>
    rw [if_pos rfl, Bool.true_and]
    cases done : stepDone data with
    | false =>
      have stays := logs_bind (logs_updateStatus plain.updated 6 1)
        (fun _ => logs_setState .gatewayPathSilence (plain.assigned _)) fuota
      simpa using unpassed_not_passed stays
    | true =>
      simp only [if_true, iff_true]
      exact told_passed fun told _ logged => acknowledge_passed _ (fun _ => rfl) logged grows

theorem targetNodeSilence_left :
    Passed .targetNodeSilence fuota (replyTargetNodeSilence data fuota).2 <->
      accepts .targetNodeSilence data = true := by
  have plain : Plain (Unpassed .targetNodeSilence) := unpassed_plain (by decide) (by decide)
  apply branch_left
  next =>
    refine acknowledge_passed _ (fun _ => rfl) (logs_refl fuota) ?_
    apply logs_bind (logs_observe _)
    intro step
    split
    next => exact logs_setMachine _
    next => exact logs_bind (logs_setState _ trivial) fun _ => logs_setMachine _
  next => exact silenceFailed_respects (logs_frame _) plain.proceeds _ (by decide) _ fuota

theorem networkSilence_left :
    Passed .networkSilence fuota (replyNetworkSilence data fuota).2 <->
      accepts .networkSilence data = true := by
  have plain : Plain (Unpassed .networkSilence) := unpassed_plain (by decide) (by decide)
  apply branch_left
  next =>
    refine acknowledge_passed _ (fun _ => rfl) (logs_refl fuota) ?_
    apply logs_bind (logs_observe _)
    intro step
    split
    next => exact logs_setMachine _
    next => exact logs_setState _ trivial
  next => exact silenceFailed_respects (logs_frame _) plain.proceeds _ (by decide) _ fuota

theorem networkUnsilence_left :
    Passed .networkUnsilence fuota (replyNetworkUnsilence data fuota).2 <->
      (accepts .networkUnsilence data && stepDone data) = true := by
  have plain : Plain (Unpassed .networkUnsilence) := unpassed_plain (by decide) (by decide)
  unfold replyNetworkUnsilence
  cases accepted : accepts .networkUnsilence data with
  | false =>
    have failed : Respects (Logs (Unpassed .networkUnsilence))
        (if byteAt data 2 = meshCommissionPacketType then updateStatus 20 0
          else setState .targetNodeUnsilence) := by
      split
      next => exact logs_updateStatus plain.updated 20 0
      next => exact logs_setState _ (plain.assigned _)
    simpa using unpassed_not_passed (failed fuota)
  | true =>
    rw [if_pos rfl, Bool.true_and]
    cases done : stepDone data with
    | false =>
      have stays := logs_bind (logs_updateStatus plain.updated 20 1)
        (fun _ => logs_setState .targetNodeUnsilence (plain.assigned _)) fuota
      simpa using unpassed_not_passed stays
    | true =>
      simp only [if_true, iff_true]
      exact told_passed fun told _ logged => acknowledge_passed _ (fun _ => rfl) logged
        (logs_countUnsilenceStep (logs_finishUnsilence _))

theorem targetNodeUnsilence_left :
    Passed .targetNodeUnsilence fuota (replyTargetNodeUnsilence data fuota).2 <->
      (accepts .targetNodeUnsilence data && stepDone data) = true := by
  have plain : Plain (Unpassed .targetNodeUnsilence) := unpassed_plain (by decide) (by decide)
  apply nested_left
  next =>
    exact acknowledge_passed _ (fun _ => rfl) (logs_refl fuota)
      (logs_countUnsilenceStep (logs_finishUnsilence _))
  next => exact logs_setState _ (plain.assigned _) fuota
  next => exact logs_setState _ (plain.assigned _) fuota

theorem gatewayPathUnsilence_left :
    Passed .gatewayPathUnsilence fuota (replyGatewayPathUnsilence data fuota).2 <->
      (accepts .gatewayPathUnsilence data && stepDone data) = true := by
  have plain : Plain (Unpassed .gatewayPathUnsilence) := unpassed_plain (by decide) (by decide)
  apply nested_left
  next =>
    refine acknowledge_passed _ (fun _ => rfl) (logs_refl fuota) (logs_countUnsilenceStep ?_)
    apply logs_bind (logs_observe _)
    intro gatewayId
    apply logs_bind (insertUpdateUnsilencedMeter_respects (logs_frame _) trivial_ordinary.visits _ _ _)
    exact fun _ => nextCommandOr_respects (logs_frame _) trivial_ordinary.toPlain.proceeds _ (by decide)
  next => exact nextCommandOr_respects (logs_frame _) plain.proceeds _ (by decide) fuota
  next =>
    split
    next => exact logs_pure () fuota
    next => exact nextCommandOr_respects (logs_frame _) plain.proceeds _ (by decide) fuota

end Sequences

end Handlers

theorem leftBySuccess_iff (fuota : Fuota) (data : Bytes) :
    LeftBySuccess fuota data <-> looksDone fuota.machine.ondemandFuotaState data = true := by
  have idle (state : FuotaState) : ¬ Passed state fuota fuota := unpassed_not_passed (logs_refl fuota)
  show Passed fuota.machine.ondemandFuotaState fuota
    (replyIn fuota.machine.ondemandFuotaState data fuota).2 <-> _
  cases state : fuota.machine.ondemandFuotaState with
  | openFile =>
    have plain : Plain (Unpassed .openFile) := unpassed_plain (by decide) (by decide)
    have stays := replyOpenFile_respects (logs_frame _) plain.proceeds fuota
    exact iff_of_false (unpassed_not_passed stays) Bool.false_ne_true
  | gatewayPathSilence => exact gatewayPathSilence_left
  | targetNodeSilence => exact targetNodeSilence_left
  | networkSilence => exact networkSilence_left
  | sectorRead => exact sectorRead_left
  | fwimageOfSectorCount => exact fwimageOfSectorCount_left state
  | eraseFlash => exact eraseFlash_left state
  | fwImageTransfer => exact ⟨fun _ => rfl, fun _ => fwImageTransfer_left⟩
  | lastUpdateFwimageOfSectorcount => exact lastUpdate_left
  | fwImageEndofPageTransfer => exact fwImageEndofPageTransfer_left state
  | newFwimageCrcCalculate => exact newFwimageCrcCalculate_left state
  | activateNewFwimage => exact activateNewFwimage_left state
  | sendActivateCmd => exact sendActivateCmd_left state
  | readAndCompareFwVersion => exact readAndCompareFwVersion_left
  | networkUnsilence => exact networkUnsilence_left
  | targetNodeUnsilence => exact targetNodeUnsilence_left
  | gatewayPathUnsilence => exact gatewayPathUnsilence_left
  | rollbackToNormalCommMode => exact iff_of_false (idle _) Bool.false_ne_true
  | idle => exact iff_of_false (idle _) Bool.false_ne_true
  | unset => exact iff_of_false (idle _) Bool.false_ne_true

/-- In every sequence and in every run, the steps are left on matched replies exactly when no other
reply has the bytes that the waits and the states look at. -/
theorem replies_matched_iff (fuota : Fuota) (states : List Nat) (origins : Nat -> Origin)
    (deliveries : List (Action × Origin)) :
    ((∀ begun ∈ begins states fuota, LeftMatched origins begun) <->
      ∀ begun ∈ begins states fuota, StraysRejected origins begun) /\
    (AllAllowed deliver RepliesMatched fuota deliveries <->
      AllAllowed deliver StrayRepliesRejected fuota deliveries) := by
  constructor
  next => exact forall₂_congr fun begun _ => leftMatched_iff origins begun
  next =>
    apply allAllowed_congr
    intro fuota delivery
    rcases delivery with ⟨action, origin⟩
    cases action with
    | reply data => exact imp_congr_left (leftBySuccess_iff fuota data)
    | queue | pollTimeout | packet | resume | enqueue | cancel => exact Iff.rfl

-- the reply of a leaf to the enable command
def enableReply : Bytes :=
  [0x2E, 0x10, 0x04, 0x00, 0x00, 0x00, 0x01, 0x00, 0x00, 0x00, 0x01, 0x00, 0x00, 0x00, 0x02, 0x9B, 0x00]

/-- The reply to the enable command arrives twice. -/
def duplicatedReply : Fuota where
  inputs := { arrival := fun _ => .data enableReply, fuel := 4 }
  client := { gatewayId := ascii "3CC1F60100000001" }
  machine := { useAlternateFuotaRoute := true }
  radio := {
    currentFuotaTargetMac := [0x3C, 0xC1, 0xF6, 0x01, 0x00, 0x00, 0x00, 0x02]
    currentFuotaRoute := { paths := [0x00, 0x00, 0x00, 0x02], hopCount := 1 } }

/-- The mode entry is taken as done on the second reply to the enable command. -/
theorem duplicate_leaves_mode_entry : ¬ ∀ begun ∈ begins [atFuotaEnable, atFuotaModeEntry] duplicatedReply,
    LeftMatched (fun _ => { node := [0x00, 0x00, 0x00, 0x02], place := 0 }) begun := by
  intro matched
  have run : (begins [atFuotaEnable, atFuotaModeEntry] duplicatedReply).map (fun begun =>
      ((executeStep 3 begun).1, begun.log.length)) = [(some true, 0), (some true, 2)] := by
    decide +kernel
  have inside : (some true, 2) ∈ (begins [atFuotaEnable, atFuotaModeEntry] duplicatedReply).map
      (fun begun => ((executeStep 3 begun).1, begun.log.length)) := by
    simp [run]
  obtain ⟨begun, step, same⟩ := List.mem_map.mp inside
  obtain ⟨success, start⟩ := Prod.mk.inj same
  obtain ⟨judged, _, command, _, _, sentBehind, _⟩ := matched begun step success
  simp [start] at sentBehind

end Hes.Fuota
