import Hes.Coalesced
import Hes.OdmFrames
import Hes.OdmRequest

set_option autoImplicit false

namespace Hes.Recovery

open Prog Client Mqtt OdmFrames

def SameHeader (before after : Client) : Prop :=
  after.control.pmeshHeader = before.control.pmeshHeader

theorem sameHeader_refl (client : Client) : SameHeader client client := rfl

theorem sameHeader_trans (first second third : Client) (before : SameHeader first second)
    (behind : SameHeader second third) : SameHeader first third := behind.trans before

/-- What receiving leaves of a request: its header, and how often it was tried. -/
def SameRequest (before after : Client) : Prop :=
  after.control.pmeshHeader = before.control.pmeshHeader /\ after.control.retry = before.control.retry

theorem sameRequest_refl (client : Client) : SameRequest client client := ⟨rfl, rfl⟩

theorem sameRequest_trans (first second third : Client) (before : SameRequest first second)
    (behind : SameRequest second third) : SameRequest first third :=
  ⟨behind.1.trans before.1, behind.2.trans before.2⟩

theorem sameRequest_sends : SendFrame SameRequest where
  refl := sameRequest_refl
  trans := sameRequest_trans
  destination := fun client buf => by
    unfold SameRequest getDestinationAddress
    dsimp only
    split <;> exact ⟨rfl, rfl⟩
  counters := fun _ _ => ⟨rfl, rfl⟩
  assign := fun _ => ⟨rfl, rfl⟩
  send := fun _ _ _ => ⟨rfl, rfl⟩

section Receiving

theorem onControl_sameRequest {A : Type} (change : Control -> A × Control)
    (kept : forall control, (change control).2.pmeshHeader = control.pmeshHeader /\
      (change control).2.retry = control.retry) :
    Respects SameRequest (onControl change) := fun client => kept client.control

theorem isValidPacket_request (packet : Packet) (control : Control) :
    (isValidPacket packet control).2.pmeshHeader = control.pmeshHeader /\
      (isValidPacket packet control).2.retry = control.retry := by
  unfold isValidPacket
  dsimp only
  (repeat' split) <;> exact ⟨rfl, rfl⟩

theorem clientProcessData_sameRequest (packet : Packet) :
    Respects SameRequest (clientProcessData packet) := by
  have typed (control : Control) : (processPacketType packet control).2.pmeshHeader = control.pmeshHeader /\
      (processPacketType packet control).2.retry = control.retry := by
    obtain ⟨armed, same⟩ := Coalesced.processPacketType_control packet control
    rw [same]
    exact ⟨rfl, rfl⟩
  have switched : Respects SameRequest (pullSwitch packet) := by
    intro client
    unfold pullSwitch
    split <;> exact ⟨rfl, rfl⟩
  unfold clientProcessData
  split
  next => exact respects_pure sameRequest_refl _
  next =>
    refine respects_bind sameRequest_trans (onControl_sameRequest _ typed) fun code => ?_
    split
    next => exact respects_pure sameRequest_refl _
    next =>
      refine respects_bind sameRequest_trans switched fun answer => ?_
      cases answer with
      | some code => exact respects_pure sameRequest_refl _
      | none =>
        refine respects_bind sameRequest_trans (respects_observe sameRequest_refl _) fun page => ?_
        exact fun client => ⟨rfl, rfl⟩

theorem processFrame_sameRequest (packet : Packet) (last : Bool) :
    Respects SameRequest (processFrame packet last) := by
  have validated : Respects SameRequest (validateReceivedData packet) := by
    refine respects_bind sameRequest_trans (onControl_sameRequest _ (isValidPacket_request packet))
      fun valid => ?_
    split
    next => exact clientProcessData_sameRequest packet
    next => exact respects_pure sameRequest_refl _
  refine respects_bind sameRequest_trans (fun client => ⟨rfl, rfl⟩) fun _ => ?_
  refine respects_bind sameRequest_trans validated fun code => ?_
  exact respects_bind sameRequest_trans (fun client => ⟨rfl, rfl⟩)
    fun _ => respects_pure sameRequest_refl code

theorem receivedFrames_sameRequest (buffer : Bytes) (length frames offset : Nat) (code : Code) :
    Respects SameRequest (receivedFrames buffer length frames offset code) := by
  induction frames generalizing offset code with
  | zero => exact respects_pure sameRequest_refl _
  | succ frames ih =>
    rw [receivedFrames]
    split
    next =>
      exact respects_bind sameRequest_trans (processFrame_sameRequest _ _) fun next => ih _ next
    next => exact respects_pure sameRequest_refl _

theorem receiveDataAndValidateResponse_sameRequest :
    Respects SameRequest receiveDataAndValidateResponse := by
  have started (buffer : Bytes) (length : Nat) (control : Control) :
      (initCommunication buffer length control).2.pmeshHeader = control.pmeshHeader /\
        (initCommunication buffer length control).2.retry = control.retry := by
    unfold initCommunication
    split <;> exact ⟨rfl, rfl⟩
  have taken (buffer : Bytes) (length : Nat) :
      Respects SameRequest (clientReceivedData buffer length) := by
    unfold clientReceivedData
    split
    next => exact respects_pure sameRequest_refl _
    next =>
      refine respects_bind sameRequest_trans (fun client => ⟨rfl, rfl⟩) fun _ => ?_
      refine respects_bind sameRequest_trans (respects_observe sameRequest_refl _) fun first => ?_
      split
      next =>
        refine respects_bind sameRequest_trans (fun client => ⟨rfl, rfl⟩) fun _ => ?_
        refine respects_bind sameRequest_trans (fun client => ⟨rfl, rfl⟩) fun _ => ?_
        refine respects_bind sameRequest_trans (onControl_sameRequest _ (started buffer length))
          fun code => ?_
        exact respects_bind sameRequest_trans (fun client => ⟨rfl, rfl⟩)
          fun _ => respects_pure sameRequest_refl code
      next => exact receivedFrames_sameRequest _ _ _ _ _
  unfold receiveDataAndValidateResponse
  refine respects_bind sameRequest_trans (receiveData_respects sameRequest_sends 4096) fun received => ?_
  split
  split
  next => exact taken _ _
  next => exact respects_pure sameRequest_refl _

theorem receiveDataAndValidateResponse_sameHeader :
    Respects SameHeader receiveDataAndValidateResponse :=
  fun client => (receiveDataAndValidateResponse_sameRequest client).1

theorem writeToClient_sameRequest (buf : Bytes) : Respects SameRequest (writeToClient buf) :=
  writeWith_respects sameRequest_sends _ buf

theorem writeToClient_sameHeader (buf : Bytes) : Respects SameHeader (writeToClient buf) :=
  fun client => (writeToClient_sameRequest buf client).1

end Receiving

section Attempts

/-- One turn of the loop in `handle_connection_failed`, begun with less than three tries. -/
def attempt (retry : Nat) : Prog Client (Turn Unit (Option Exit)) := do
  setRetry (retry + 1)
  let header <- observe fun client => client.control.pmeshHeader
  if (<- writeToClient header) ≠ .success then return .done (some .sendFailed)
  else if (<- receiveDataAndValidateResponse) = .dlmsSuccess then
    setRetry 1
    return .done none
  else return .again ()

theorem reconnect_attempt (requestId : Int) (turns : Nat) :
    reconnect requestId (turns + 1) = do
      let retry <- getRetry
      if retry < 3 then
        match <- attempt retry with
        | .again () => reconnect requestId turns
        | .done result => return result
      else
        updateDlmsOnDemandRequestStatus requestId .dlmsFailed 0
        return some (.reported .dlmsFailed) := by
  rw [reconnect]
  congr 1
  funext retry
  split
  next =>
    simp only [attempt, bind_assoc]
    congr 1
    funext _
    congr 1
    funext header
    congr 1
    funext code
    split
    next => simp
    next =>
      simp only [bind_assoc]
      congr 1
      funext reply
      split <;> simp
  next => rfl

/-- The frames that `reconnect` passes to `write_to_client`. -/
def reconnectFrames : Nat -> Client -> List Bytes
  | 0, _ => []
  | turns + 1, client =>
    if client.control.retry < 3 then
      client.control.pmeshHeader ::
        match attempt client.control.retry client with
        | (some (.again _), after) => reconnectFrames turns after
        | _ => []
    else []

theorem attempt_sameHeader (retry : Nat) : Respects SameHeader (attempt retry) := by
  refine respects_bind sameHeader_trans (fun client => rfl) fun _ => ?_
  refine respects_bind sameHeader_trans (respects_observe sameHeader_refl _) fun header => ?_
  refine respects_bind sameHeader_trans (writeToClient_sameHeader header) fun code => ?_
  split
  next => exact respects_pure sameHeader_refl _
  next =>
    refine respects_bind sameHeader_trans receiveDataAndValidateResponse_sameHeader fun reply => ?_
    split
    next =>
      exact respects_bind sameHeader_trans (fun client => rfl) fun _ => respects_pure sameHeader_refl _
    next => exact respects_pure sameHeader_refl _

theorem reconnectFrames_same (turns : Nat) (client : Client) :
    ∀ frame ∈ reconnectFrames turns client, frame = client.control.pmeshHeader := by
  induction turns generalizing client with
  | zero => simp [reconnectFrames]
  | succ turns ih =>
    unfold reconnectFrames
    split
    next =>
      intro frame among
      rcases List.mem_cons.mp among with first | later
      next => exact first
      next =>
        split at later
        next after ran =>
          have kept := (attempt_sameHeader _).returned ran
          exact (ih after frame later).trans kept
        next => simp at later
    next => simp

/-- The connection is there again, so the count starts again. -/
theorem attempt_done (retry : Nat) (client after : Client)
    (ran : attempt retry client = (some (.done none), after)) : after.control.retry = 1 := by
  obtain ⟨_, counted, -, ran⟩ := (returned_bind _ _ _ _ _).mp ran
  obtain ⟨header, held, -, ran⟩ := (returned_bind _ _ _ _ _).mp ran
  obtain ⟨code, wrote, -, ran⟩ := (returned_bind _ _ _ _ _).mp ran
  split at ran
  next => simp at ran
  next =>
    obtain ⟨reply, heard, -, ran⟩ := (returned_bind _ _ _ _ _).mp ran
    split at ran
    next =>
      obtain ⟨_, fresh, started, ran⟩ := (returned_bind _ _ _ _ _).mp ran
      obtain ⟨-, rfl⟩ := (returned_pure _ _ _ _).mp ran
      obtain rfl : _ = fresh := by simpa [setRetry, setControl, onControl] using started
      rfl
    next => simp at ran

theorem reconnect_again (requestId : Int) (turns : Nat) (client after : Client)
    (ran : reconnect requestId turns client = (some none, after)) :
    SameHeader client after /\ client.control.retry < 3 /\ after.control.retry = 1 := by
  -- a call that comes back to the request has transmitted, and the header stays as it has made it
  have exhausted (client : Client) : ¬ (updateDlmsOnDemandRequestStatus requestId .dlmsFailed 0 >>=
      fun _ => pure (some (Exit.reported .dlmsFailed))) client = (some none, after) := by
    intro ran
    obtain ⟨told, reached, -, ran⟩ := (returned_bind _ _ _ _ _).mp ran
    simp at ran
  induction turns generalizing client with
  | zero => exact absurd ran (exhausted client)
  | succ turns ih =>
    rw [reconnect_attempt, ran_bind (show getRetry client = (some client.control.retry, client) from rfl)] at ran
    split at ran
    next few =>
      obtain ⟨result, tried, first, ran⟩ := (returned_bind _ _ _ _ _).mp ran
      have kept := (attempt_sameHeader _).returned first
      cases result with
      | again _ =>
        obtain ⟨same, -, fresh⟩ := ih tried ran
        exact ⟨sameHeader_trans _ _ _ kept same, few, fresh⟩
      | done result =>
        obtain ⟨rfl, rfl⟩ := (returned_pure _ _ _ _).mp ran
        exact ⟨kept, few, attempt_done _ client tried first⟩
    next => exact absurd ran (exhausted client)

end Attempts

section Turns

variable (requestId : Int) (downloadDataType : UInt8)

def appendEnable (client : Client) : Client :=
  { client with control := { client.control with
      pmeshHeader := client.control.pmeshHeader ++ dlmsEnable } }

/-- The frames of `handle_connection_failed` in one turn of the receive loop. -/
def turnFrames (client : Client) : List Bytes :=
  match receiveDataAndValidateResponse client with
  | (some .dlmsConnectionFailed, received) =>
    if received.control.retry = 3 then [] else reconnectFrames 3 (appendEnable received)
  | _ => []

theorem turnFrames_same (client : Client) :
    ∀ frame ∈ turnFrames client, frame = client.control.pmeshHeader ++ dlmsEnable := by
  unfold turnFrames
  split
  next received ran =>
    have kept := receiveDataAndValidateResponse_sameHeader.returned ran
    split
    next => simp
    next =>
      intro frame among
      rw [reconnectFrames_same 3 _ frame among]
      exact congrArg (· ++ dlmsEnable) kept
  next => simp

/-- What a turn that is not the last makes of the request, by the code of its reply. -/
def GoesOn (vars : OdmVars) (received : Client) (next : OdmVars) (after : Client) : Code -> Prop
  | .success => next = vars /\ SameHeader received after /\ after.control.retry = 1 /\
      (byteAt vars.buf 2 ≠ 0x0E && !validateResponseFrame vars.buf received.control.clientRxBuffer) = true
  | .dlmsSuccess => next = vars /\ SameRequest received after
  | .timeoutReceived => received.control.retry ≠ 3 /\ next = { vars with once := false } /\
      SameHeader received after /\ after.control.retry = received.control.retry + 1
  | .dlmsConnectionFailed => received.control.retry ≠ 3 /\ next = vars /\
      reconnect requestId 3 (appendEnable received) = (some none, after)
  | .pollTimeout => downloadDataType ≠ 13 /\ vars.pollRetry < 3 /\
      next = { vars with pollRetry := vars.pollRetry + 1 } /\ SameRequest received after
  | .succesNextPage => SameHeader received after /\ after.control.retry = 1 /\
      next = { vars with buf := nextPageCommand vars.buf downloadDataType vars.pageIndex
                         pageIndex := vars.pageIndex + 1, pollRetry := 1 }
  | .dlmsChecksumError => vars.dlmsChecksumErrorRetry < 3 /\ SameRequest received after /\
      next = { vars with buf := recalculateDlmsChecksum vars.buf
                         dlmsChecksumErrorRetry := vars.dlmsChecksumErrorRetry + 1 }
  | .invalidResponse | .commandInProgress => next = { vars with invalidResp := true } /\ after = received
  | .failure | .enabled | .failedResponse | .nextPagePresent | .pushDataReceived =>
    next = vars /\ after = received
  | .pmeshError | .failedPmeshError | .dlmsError => False

variable {vars next : OdmVars} {client after : Client}

theorem resendPacket_sameRequest (buf : Bytes) : Respects SameRequest (resendPacket buf) :=
  respects_bind sameRequest_trans (writeToClient_sameRequest buf)
    fun _ => respects_pure sameRequest_refl _

theorem resendOrReturn_again (ran : resendOrReturn vars client = (some (.again next), after)) :
    next = vars /\ SameRequest client after := by
  obtain ⟨sent, wrote, moved, ran⟩ := (returned_bind _ _ _ _ _).mp ran
  split at ran
  next =>
    simp only [returned_pure, Turn.again.injEq] at ran
    exact ⟨ran.1.symm, ran.2 ▸ (resendPacket_sameRequest vars.buf).returned moved⟩
  next => simp at ran

theorem retriesExhausted_done (requestId : Int) (client after : Client) :
    retriesExhausted requestId client ≠ (some (.again next), after) := by
  intro ran
  obtain ⟨_, told, -, ran⟩ := (returned_bind _ _ _ _ _).mp ran
  obtain ⟨_, fresh, -, ran⟩ := (returned_bind _ _ _ _ _).mp ran
  simp at ran

theorem reportClear_done (requestId : Int) (status : RequestStatus) (client after : Client) :
    reportClearAndBreak requestId status client ≠ (some (.again next), after) := by
  intro ran
  obtain ⟨_, told, -, ran⟩ := (returned_bind _ _ _ _ _).mp ran
  obtain ⟨_, cleared, -, ran⟩ := (returned_bind _ _ _ _ _).mp ran
  simp at ran

theorem report_done (requestId : Int) (status : RequestStatus) (client after : Client) :
    reportAndBreak requestId status client ≠ (some (.again next), after) := by
  intro ran
  obtain ⟨_, told, -, ran⟩ := (returned_bind _ _ _ _ _).mp ran
  simp at ran

theorem getRetry_ran (client : Client) : getRetry client = (some client.control.retry, client) := rfl

theorem timeoutTurn_again (ran : timeoutTurn requestId vars client = (some (.again next), after)) :
    GoesOn requestId downloadDataType vars client next after .timeoutReceived := by
  rw [timeoutTurn, ran_bind (getRetry_ran client)] at ran
  split at ran
  next => exact absurd ran (retriesExhausted_done requestId client after)
  next tries =>
    split at ran
    next =>
      obtain ⟨same, header, counted⟩ := resendOrReturn_again ran
      exact ⟨tries, same, header, counted⟩
    next =>
      obtain ⟨same, header, counted⟩ := resendOrReturn_again ran
      exact ⟨tries, same, header, counted⟩

theorem connectionFailedTurn_again
    (ran : connectionFailedTurn requestId vars client = (some (.again next), after)) :
    GoesOn requestId downloadDataType vars client next after .dlmsConnectionFailed := by
  rw [connectionFailedTurn, ran_bind (getRetry_ran client)] at ran
  split at ran
  next => exact absurd ran (retriesExhausted_done requestId client after)
  next tries =>
    obtain ⟨exit, reached, recovered, ran⟩ := (returned_bind _ _ _ _ _).mp ran
    cases exit with
    | some exit => simp at ran
    | none =>
      simp only [returned_pure, Turn.again.injEq] at ran
      obtain ⟨rfl, rfl⟩ := ran
      exact ⟨tries, rfl, recovered⟩

theorem pollTimeoutTurn_again
    (ran : pollTimeoutTurn requestId downloadDataType vars client = (some (.again next), after)) :
    GoesOn requestId downloadDataType vars client next after .pollTimeout := by
  unfold pollTimeoutTurn at ran
  split at ran
  next =>
    obtain ⟨_, told, -, ran⟩ := (returned_bind _ _ _ _ _).mp ran
    simp at ran
  next node =>
    split at ran
    next few => exact ⟨node, few, resendOrReturn_again ran⟩
    next =>
      split at ran
      next =>
        obtain ⟨_, lost, -, ran⟩ := (returned_bind _ _ _ _ _).mp ran
        exact absurd ran (reportClear_done requestId _ lost after)
      next => exact absurd ran (reportClear_done requestId _ client after)

theorem nextPageTurn_again
    (ran : nextPageTurn downloadDataType vars client = (some (.again next), after)) :
    GoesOn requestId downloadDataType vars client next after .succesNextPage := by
  obtain ⟨_, fresh, started, ran⟩ := (returned_bind _ _ _ _ _).mp ran
  obtain rfl : _ = fresh := by simpa [setControl, onControl] using started
  obtain ⟨handled, wrote, paged, ran⟩ := (returned_bind _ _ _ _ _).mp ran
  obtain ⟨sent, written, moved, paged⟩ := (returned_bind _ _ _ _ _).mp paged
  have kept := (resendPacket_sameRequest _).returned moved
  split at paged
  next =>
    obtain ⟨rfl, rfl⟩ := (returned_pure _ _ _ _).mp paged
    simp only [returned_pure, Turn.again.injEq] at ran
    obtain ⟨rfl, rfl⟩ := ran
    exact ⟨kept.1, kept.2, rfl⟩
  next =>
    obtain ⟨rfl, rfl⟩ := (returned_pure _ _ _ _).mp paged
    simp at ran

theorem checksumErrorTurn_again
    (ran : checksumErrorTurn requestId vars client = (some (.again next), after)) :
    GoesOn requestId downloadDataType vars client next after .dlmsChecksumError := by
  obtain ⟨_, wrote, moved, ran⟩ := (returned_bind _ _ _ _ _).mp ran
  split at ran
  next => exact absurd ran (reportClear_done requestId _ wrote after)
  next =>
    split at ran
    next => exact absurd ran (report_done requestId _ wrote after)
    next few =>
      simp only [returned_pure, Turn.again.injEq] at ran
      obtain ⟨rfl, rfl⟩ := ran
      simp only [gt_iff_lt, not_lt] at few
      exact ⟨by omega, (writeToClient_sameRequest _).returned moved, rfl⟩

theorem succeeded_again (ran : (setRetry 1 >>= fun _ => handleSuccess downloadDataType vars.buf >>=
      fun handled => if handled then pure (Turn.done Exit.answered) else pure (Turn.again vars)) client =
        (some (.again next), after)) :
    GoesOn requestId downloadDataType vars client next after .success := by
  obtain ⟨_, fresh, started, ran⟩ := (returned_bind _ _ _ _ _).mp ran
  obtain rfl : _ = fresh := by simpa [setRetry, setControl, onControl] using started
  obtain ⟨handled, reached, stored, ran⟩ := (returned_bind _ _ _ _ _).mp ran
  obtain ⟨received, seen, looked, stored⟩ := (returned_bind _ _ _ _ _).mp stored
  obtain ⟨rfl, rfl⟩ := (returned_observe _ _ _ _).mp looked
  split at stored
  next other =>
    obtain ⟨rfl, rfl⟩ := (returned_pure _ _ _ _).mp stored
    simp only [Bool.false_eq_true, if_false, returned_pure, Turn.again.injEq] at ran
    obtain ⟨rfl, rfl⟩ := ran
    exact ⟨rfl, rfl, rfl, other⟩
  next =>
    obtain ⟨_, written, -, stored⟩ := (returned_bind _ _ _ _ _).mp stored
    obtain ⟨_, cleared, -, stored⟩ := (returned_bind _ _ _ _ _).mp stored
    obtain ⟨rfl, rfl⟩ := (returned_pure _ _ _ _).mp stored
    simp at ran

theorem odmTurn_again (ran : odmTurn requestId downloadDataType vars client = (some (.again next), after)) :
    exists code received, receiveDataAndValidateResponse client = (some code, received) /\
      GoesOn requestId downloadDataType vars received next after code := by
  obtain ⟨code, received, heard, ran⟩ := (returned_bind _ _ _ _ _).mp ran
  refine ⟨code, received, heard, ?_⟩
  have quietly {vars : OdmVars} (ran : (pure (.again vars) : Prog Client (Turn OdmVars Exit)) received =
      (some (.again next), after)) : next = vars /\ after = received := by
    simp only [returned_pure, Turn.again.injEq] at ran
    exact ⟨ran.1.symm, ran.2.symm⟩
  cases code with
  | success => exact succeeded_again requestId downloadDataType ran
  | dlmsSuccess => exact resendOrReturn_again ran
  | pmeshError =>
    dsimp only at ran
    split at ran
    next =>
      obtain ⟨_, told, -, ran⟩ := (returned_bind _ _ _ _ _).mp ran
      simp at ran
    next => exact absurd ran (report_done requestId _ received after)
  | timeoutReceived => exact timeoutTurn_again requestId downloadDataType ran
  | dlmsConnectionFailed => exact connectionFailedTurn_again requestId downloadDataType ran
  | failedPmeshError => exact absurd ran (reportClear_done requestId _ received after)
  | dlmsError =>
    obtain ⟨_, coded, -, ran⟩ := (returned_bind _ _ _ _ _).mp ran
    obtain ⟨_, told, -, ran⟩ := (returned_bind _ _ _ _ _).mp ran
    obtain ⟨_, cleared, -, ran⟩ := (returned_bind _ _ _ _ _).mp ran
    simp at ran
  | pollTimeout => exact pollTimeoutTurn_again requestId downloadDataType ran
  | succesNextPage => exact nextPageTurn_again requestId downloadDataType ran
  | dlmsChecksumError => exact checksumErrorTurn_again requestId downloadDataType ran
  | invalidResponse | commandInProgress => exact quietly ran
  | failure | enabled | failedResponse | nextPagePresent | pushDataReceived => exact quietly ran

/-- The header is kept by a turn that is not the last. -/
def Keeps (start : Client) (turn : Turn OdmVars Exit) (after : Client) : Prop :=
  forall next, turn = .again next -> SameHeader start after

/-- What a turn that is not the last makes of the header. -/
def Headed (start : Client) (turn : Turn OdmVars Exit) (after : Client) : Prop :=
  forall next, turn = .again next -> after.control.pmeshHeader =
    start.control.pmeshHeader ++ if turnFrames start = [] then [] else dlmsEnable

theorem goesOn_keeps {start received : Client} {code : Code} (different : code ≠ .dlmsConnectionFailed)
    (kept : SameHeader start received)
    (goesOn : GoesOn requestId downloadDataType vars received next after code) :
    Keeps start (.again next) after := by
  intro _ _
  apply sameHeader_trans _ _ _ kept
  cases code with
  | dlmsConnectionFailed => exact absurd rfl different
  | success => exact goesOn.2.1
  | dlmsSuccess => exact goesOn.2.1
  | timeoutReceived => exact goesOn.2.2.1
  | pollTimeout => exact goesOn.2.2.2.1
  | succesNextPage => exact goesOn.1
  | dlmsChecksumError => exact goesOn.2.1.1
  | invalidResponse | commandInProgress => exact goesOn.2 ▸ sameHeader_refl _
  | failure | enabled | failedResponse | nextPagePresent | pushDataReceived =>
    exact goesOn.2 ▸ sameHeader_refl _
  | pmeshError | failedPmeshError | dlmsError => exact goesOn.elim

theorem odmTurn_headed (start : Client) (vars : OdmVars) :
    Returns (· = start) (odmTurn requestId downloadDataType vars) (Headed start) := by
  apply returns_of_returned
  rintro client turn after rfl ran next rfl
  obtain ⟨code, received, heard, goesOn⟩ := odmTurn_again requestId downloadDataType ran
  have kept := receiveDataAndValidateResponse_sameHeader.returned heard
  by_cases failed : code = .dlmsConnectionFailed
  next =>
    rw [failed] at heard goesOn
    obtain ⟨tries, -, recovered⟩ := goesOn
    obtain ⟨same, few, -⟩ := reconnect_again requestId 3 (appendEnable received) after recovered
    have some : turnFrames client ≠ [] := by
      simp [turnFrames, heard, tries, reconnectFrames, few]
    rw [if_neg some, ← kept]
    exact same
  next =>
    have quiet : turnFrames client = [] := by
      unfold turnFrames
      rw [heard]
      cases code <;> simp at failed ⊢
    rw [if_pos quiet, List.append_nil]
    exact goesOn_keeps requestId downloadDataType failed kept goesOn next rfl

end Turns

section Runs

/-- The calls of `handle_connection_failed` in some turns, by what they transmit. -/
def callsOf (turns : List (OdmVars × Client)) : List (List Bytes) :=
  (turns.map fun turn => turnFrames turn.2).filter fun frames => frames ≠ []

theorem callsOf_cons (turn : OdmVars × Client) (turns : List (OdmVars × Client)) :
    callsOf (turn :: turns) =
      if turnFrames turn.2 = [] then callsOf turns else turnFrames turn.2 :: callsOf turns := by
  simp [callsOf, List.filter_cons]

def loopCalls (requestId : Int) (downloadDataType : UInt8) (fuel : Nat) (vars : OdmVars)
    (client : Client) : List (List Bytes) :=
  callsOf (entered (odmTurn requestId downloadDataType) fuel vars client)

/-- Each call transmits the header of the call before it with one more command behind it. -/
def Grown : Bytes -> List (List Bytes) -> Prop
  | _, [] => True
  | header, frames :: rest => frames ≠ [] /\ (∀ frame ∈ frames, frame = header ++ dlmsEnable) /\
      Grown (header ++ dlmsEnable) rest

theorem loopCalls_grown (requestId : Int) (downloadDataType : UInt8) (fuel : Nat) (vars : OdmVars)
    (client : Client) :
    Grown client.control.pmeshHeader (loopCalls requestId downloadDataType fuel vars client) := by
  induction fuel generalizing vars client with
  | zero => trivial
  | succ fuel ih =>
    have later : Grown
        (client.control.pmeshHeader ++ if turnFrames client = [] then [] else dlmsEnable)
        (callsOf (entered (odmTurn requestId downloadDataType) (fuel + 1) vars client).tail) := by
      rw [entered, List.tail_cons]
      cases ran : odmTurn requestId downloadDataType vars client with
      | mk outcome after =>
        cases outcome with
        | none => trivial
        | some turn =>
          cases turn with
          | again next =>
            rw [← (odmTurn_headed requestId downloadDataType client vars).returned rfl ran next rfl]
            exact ih next after
          | done _ => trivial
    rw [entered, List.tail_cons] at later
    rw [loopCalls, entered, callsOf_cons]
    by_cases quiet : turnFrames client = []
    next => simpa [quiet] using later
    next =>
      rw [if_neg quiet]
      exact ⟨quiet, turnFrames_same client, by simpa [quiet] using later⟩

/-- Sending the request, up to the receive loop. -/
def opening (request : OdmRequest) : Prog Client Code := do
  beginServing request.packet.length request.downloadType
  setControl fun control => { control with txPageIndex := 0 }
  writeToClient request.packet

def tailKept (request : OdmRequest) (client : Client) : Client :=
  if request.packet.length ≥ 5 && request.downloadType > 0x0F then
    { client with profiles := keepPayloadTail request.packet client.profiles }
  else client

theorem processOdmRequest_opening (fuel : Nat) (request : OdmRequest) :
    processOdmRequest fuel request.packet request.requestId request.downloadType = do
      let code <- opening request
      let exit <- if code ≠ .success then pure .sendFailed else do
        update (tailKept request)
        loop (odmTurn request.requestId request.downloadType) fuel { buf := request.packet }
      endServing
      return exit := by
  simp only [processOdmRequest, opening, exchange, bind_assoc]
  congr 1
  funext _
  congr 1
  funext _
  congr 1
  funext code
  split
  next => rfl
  next =>
    funext client
    unfold tailKept
    split <;> rfl

/-- The calls of `handle_connection_failed` in `Process_ODM_request`. -/
def requestCalls (fuel : Nat) (request : OdmRequest) (client : Client) : List (List Bytes) :=
  match opening request client with
  | (some .success, sent) => loopCalls request.requestId request.downloadType fuel
      { buf := request.packet } (tailKept request sent)
  | _ => []

theorem requestCalls_grown (fuel : Nat) (request : OdmRequest) (client : Client) :
    Grown client.control.pmeshHeader (requestCalls fuel request client) := by
  have opened : Respects SameHeader (opening request) :=
    respects_bind sameHeader_trans (fun client => rfl) fun _ =>
      respects_bind sameHeader_trans (fun client => rfl) fun _ => writeToClient_sameHeader _
  unfold requestCalls
  split
  next sent ran =>
    have kept : SameHeader client (tailKept request sent) := by
      have same := opened.returned ran
      unfold tailKept
      split <;> exact same
    rw [← kept]
    exact loopCalls_grown _ _ _ _ _
  next => trivial

end Runs

section Requests

/-- The mesh header of a packet, to the end of its path. -/
def meshHeader (packet : Bytes) : Bytes := packet.take (headerEnd (byteAt packet 12))

/-- The header and the path of the request, and one command that connects. -/
structure Recovers (packet frame : Bytes) : Prop where
  command : frame = meshHeader packet ++ dlmsEnable
  size : (byteAt frame 1).toNat = frame.length - 1

/-- The client when `Process_ODM_request` is called: a ping leaves the header that it finds. -/
def begun (request : OdmRequest) (client : Client) : Client :=
  if request.downloadType = 13 then client
  else { client with control := { client.control with pmeshHeader := request.pmeshHeader } }

theorem prepared_request (command : OdmCommand) (lookup : PathLookup) (request : OdmRequest)
    (prepared : prepareOdm lookup command.cmd = .ok (.request request)) :
    if request.downloadType = 13 then request.packet = command.decoded
    else request.packet = command.frame /\ request.pmeshHeader = command.header := by
  unfold prepareOdm at prepared
  obtain ⟨requestId, -, prepared⟩ := (Text.ok_bind _ _ _).mp prepared
  obtain ⟨hopText, -, prepared⟩ := (Text.ok_bind _ _ _).mp prepared
  obtain ⟨hopCount, -, prepared⟩ := (Text.ok_bind _ _ _).mp prepared
  obtain ⟨gateway, -, prepared⟩ := (Text.ok_bind _ _ _).mp prepared
  obtain ⟨dest, -, prepared⟩ := (Text.ok_bind _ _ _).mp prepared
  split at prepared
  next => simp [pure, Except.pure] at prepared
  next =>
    have built : exists type, buildRequest command.parts requestId type gateway dest = .ok request := by
      unfold prepareRequest at prepared
      obtain ⟨text, -, prepared⟩ := (Text.ok_bind _ _ _).mp prepared
      obtain ⟨type, -, prepared⟩ := (Text.ok_bind _ _ _).mp prepared
      refine ⟨toUInt8 type, ?_⟩
      dsimp only at prepared
      split at prepared
      next =>
        obtain ⟨details, -, prepared⟩ := (Text.ok_bind _ _ _).mp prepared
        obtain ⟨other, built, same⟩ := (Text.ok_bind _ _ _).mp prepared
        simp only [pure, Except.pure, Except.ok.injEq, Prepared.request.injEq] at same
        exact same ▸ built
      next =>
        obtain ⟨other, built, same⟩ := (Text.ok_bind _ _ _).mp prepared
        simp only [pure, Except.pure, Except.ok.injEq, Prepared.request.injEq] at same
        exact same ▸ built
    obtain ⟨type, built⟩ := built
    unfold buildRequest at built
    dsimp only at built
    split at built
    next ping =>
      obtain ⟨text, -, built⟩ := (Text.ok_bind _ _ _).mp built
      obtain ⟨count, -, built⟩ := (Text.ok_bind _ _ _).mp built
      simp only [pure, Except.pure, Except.ok.injEq] at built
      rw [← built, if_pos ping]
      rfl
    next other =>
      rw [command.buildPmeshFrame_frame] at built
      simp only [bind, Except.bind, pure, Except.pure, Except.ok.injEq] at built
      rw [← built, if_neg other]
      exact ⟨rfl, rfl⟩

theorem recovered_once_iff (packet header : Bytes) (calls : List (List Bytes))
    (grown : Grown header calls) :
    (∀ frames ∈ calls, ∀ frame ∈ frames, Recovers packet frame) <->
      calls = [] \/ calls.length = 1 /\ Recovers packet (header ++ dlmsEnable) := by
  -- calls that all recover are one at most: a second one transmits two commands
  match calls with
  | [] => simp
  | [frames] =>
    obtain ⟨some, same, -⟩ := grown
    simp only [List.mem_singleton, forall_eq, List.cons_ne_nil, List.length_singleton, true_and, false_or]
    constructor
    next =>
      intro recovers
      obtain ⟨frame, among⟩ := List.exists_mem_of_ne_nil frames some
      exact same frame among ▸ recovers frame among
    next =>
      intro recovers frame among
      exact same frame among ▸ recovers
  | frames :: later :: rest =>
    obtain ⟨some, same, someLater, sameLater, -⟩ := grown
    simp only [List.length_cons, reduceCtorEq, false_or]
    constructor
    next =>
      intro recovers
      obtain ⟨frame, among⟩ := List.exists_mem_of_ne_nil frames some
      obtain ⟨second, amongLater⟩ := List.exists_mem_of_ne_nil later someLater
      have once := (recovers frames (by simp) frame among).command
      have twice := (recovers later (by simp) second amongLater).command
      rw [same frame among] at once
      rw [sameLater second amongLater, List.append_cancel_right once] at twice
      have size := congrArg List.length twice
      simp [dlmsEnable] at size
    next => omega

theorem header_recovers_iff (command : OdmCommand) :
    Recovers command.frame (command.header ++ dlmsEnable) <->
      command.decoded.length % 256 = 8 /\ headerEnd command.hops ≤ 248 := by
  have size := command.header_length
  have long : 17 ≤ headerEnd command.hops := by
    unfold headerEnd
    omega
  have hops := (command.frame_byte 12 (by omega)).trans command.header_fields.2.2.2.1
  have cut : meshHeader command.frame = command.header := by
    rw [meshHeader, hops, command.frame_eq, ← size, List.take_left]
  have length : byteAt (command.header ++ dlmsEnable) 1 =
      UInt8.ofNat (headerEnd command.hops + command.decoded.length - 1) := by
    rw [byteAt_append_left _ _ _ (by omega)]
    exact command.header_fields.2.1
  have total : (command.header ++ dlmsEnable).length = headerEnd command.hops + 8 := by
    rw [List.length_append, size]
    rfl
  have eight := command.fields.long
  constructor
  next =>
    intro recovers
    have same := recovers.size
    rw [length, total, UInt8.toNat_ofNat'] at same
    omega
  next =>
    rintro ⟨eighth, few⟩
    refine ⟨by rw [cut], ?_⟩
    rw [length, total, UInt8.toNat_ofNat']
    omega

theorem header_left_recovers_iff (packet header : Bytes) (long : 2 ≤ (meshHeader packet).length) :
    Recovers packet (header ++ dlmsEnable) <-> header = meshHeader packet /\
      (byteAt (meshHeader packet) 1).toNat = (meshHeader packet).length + 7 := by
  have total : (meshHeader packet ++ dlmsEnable).length - 1 = (meshHeader packet).length + 7 := by
    rw [List.length_append]
    rfl
  have length := byteAt_append_left (meshHeader packet) dlmsEnable 1 (by omega)
  constructor
  next =>
    intro recovers
    have same : header = meshHeader packet := List.append_cancel_right recovers.command
    have size := recovers.size
    rw [same, length, total] at size
    exact ⟨same, size⟩
  next =>
    rintro ⟨rfl, size⟩
    exact ⟨rfl, by rw [length, total, size]⟩

/-- Every frame that `handle_connection_failed` transmits for a request is right exactly when it
transmits in one call at most, for a command of eight bytes, and for a ping when an earlier
request has left the header of the ping. -/
theorem recovery_frames_iff (command : OdmCommand) (lookup : PathLookup) (request : OdmRequest)
    (prepared : prepareOdm lookup command.cmd = .ok (.request request)) (fuel : Nat) (client : Client) :
    let calls := requestCalls fuel request (begun request client)
    (∀ frames ∈ calls, ∀ frame ∈ frames, Recovers request.packet frame) <->
      calls = [] \/ calls.length = 1 /\
        if request.downloadType = 13 then
          client.control.pmeshHeader = meshHeader request.packet /\
            (byteAt (meshHeader request.packet) 1).toNat = (meshHeader request.packet).length + 7
        else command.decoded.length % 256 = 8 /\ headerEnd command.hops ≤ 248 := by
  have known := prepared_request command lookup request prepared
  have grown := requestCalls_grown fuel request (begun request client)
  intro calls
  rw [recovered_once_iff request.packet _ calls grown]
  split at known
  next ping =>
    have eight := command.fields.long
    have header : (begun request client).control.pmeshHeader = client.control.pmeshHeader := by
      rw [begun, if_pos ping]
    have long : 2 ≤ (meshHeader request.packet).length := by
      rw [meshHeader, List.length_take, known, headerEnd]
      omega
    rw [header, if_pos ping, header_left_recovers_iff _ _ long]
  next other =>
    have header : (begun request client).control.pmeshHeader = command.header := by
      rw [begun, if_neg other]
      exact known.2
    rw [header, known.1, if_neg other, header_recovers_iff]

end Requests

/-- The instantaneous profile of the gateway itself. -/
def gatewayProfile : OdmCommand where
  gatewayId := gatewayLetters
  seen := {}
  payload := commandOver "0" 0 "01:2B07000E01000041"
  cmd := commandOver "0" 0 "01:2B07000E01000041"
  queued := ⟨[.odm _], { globalSeenReqIds := [Text.ascii "1"] }, by decide +kernel,
    List.mem_singleton.mpr rfl⟩

def gatewayRequest : OdmRequest :=
  { requestId := 1, downloadType := 1, gatewayId := gatewayLetters, meterMacAddress := gatewayLetters
    meterSerialNo := Text.ascii "A3535435", packet := gatewayProfile.frame
    pmeshHeader := gatewayProfile.header }

/-- The gateway's answer about the DLMS connection. -/
def connection (status : UInt8) : Received := .data (
  [0x2E, 0x19, 0x08, 0, 0, 0, 0, 0, 0, 0, 0, 0xA3, 0x53, 0x54, 0x35, 0x00, 0x00] ++
    [0x2D, 0x00, 0x08, 0x00, 0x00, 0x00, 0x02, status, 0x00]) none

/-- A client that receives these answers and then none. -/
def answered (answers : List Received) : Client :=
  { inputs := { recv := fun index => answers.getD index .timedOut } }

theorem lost_connection_recovered :
    let calls := requestCalls 2 gatewayRequest
      (begun gatewayRequest (answered [connection 0x01, connection 0x00]))
    calls.length = 1 /\ ∀ frames ∈ calls, ∀ frame ∈ frames, Recovers gatewayRequest.packet frame :=
  ⟨by decide +kernel, (recovery_frames_iff gatewayProfile .found gatewayRequest (by decide +kernel) 2
    (answered [connection 0x01, connection 0x00])).mpr (.inr ⟨by decide +kernel, by decide +kernel⟩)⟩

/-- Lost once more, after the request is repeated, it is asked for with two commands. -/
theorem connection_lost_twice :
    prepareOdm .found gatewayProfile.cmd = .ok (.request gatewayRequest) /\
    requestCalls 3 gatewayRequest (begun gatewayRequest
        (answered [connection 0x01, connection 0x00, .timedOut, connection 0x01, connection 0x00])) =
      [[gatewayProfile.header ++ dlmsEnable], [gatewayProfile.header ++ dlmsEnable ++ dlmsEnable]] /\
    ¬ Recovers gatewayRequest.packet (gatewayProfile.header ++ dlmsEnable ++ dlmsEnable) := by
  refine ⟨by decide +kernel, by decide +kernel, fun recovers => ?_⟩
  have command := recovers.command
  revert command
  decide +kernel

end Hes.Recovery
