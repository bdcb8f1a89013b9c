import Hes.CommandFrames
import Hes.NextPages
import Hes.RawTurns

set_option autoImplicit false

namespace Hes.FrameBounds

open Prog Charge Client Mqtt RawTurns

section Limits

/-- The retry counter stays at most at 3. -/
def Limited (before after : Client) : Prop := before.control.retry ≤ 3 -> after.control.retry ≤ 3

theorem limited_refl (client : Client) : Limited client client := id

theorem limited_trans (first second third : Client) (before : Limited first second)
    (behind : Limited second third) : Limited first third := fun few => behind (before few)

theorem limited_database : DatabaseFrame Limited where
  refl := limited_refl
  trans := limited_trans
  profiles := fun _ _ => id
  queried := fun _ _ => id
  rows := fun _ _ => id
  updates := fun _ _ => id

theorem limited_same {A : Type} {prog : Prog Client A} (same : Respects Recovery.SameRequest prog) :
    Respects Limited prog := fun client few => (same client).2 ▸ few

theorem setRetry_limited (retry : Nat) (few : retry ≤ 3) : Respects Limited (setRetry retry) :=
  fun _ _ => few

theorem told_limited (requestId : Int) (status : RequestStatus) (errorCode : Nat) :
    Respects Limited (updateDlmsOnDemandRequestStatus requestId status errorCode) := fun _ => id

theorem ended_limited {A : Type} (result : A) : Respects Limited (pure result : Prog Client A) :=
  respects_pure limited_refl result

theorem clearAndBreak_limited (requestId : Int) (status : RequestStatus) :
    Respects Limited (reportClearAndBreak requestId status) :=
  respects_bind limited_trans (told_limited requestId status 0) fun _ =>
    respects_bind limited_trans (fun _ => id) fun _ => ended_limited _

theorem write_limited (buf : Bytes) : Respects Limited (writeToClient buf) :=
  limited_same (Recovery.writeToClient_sameRequest buf)

theorem resend_limited (vars : OdmVars) : Respects Limited (resendOrReturn vars) := by
  refine respects_bind limited_trans (respects_bind limited_trans (write_limited _)
    fun code => ended_limited _) fun sent => ?_
  split <;> exact ended_limited _

theorem retriesExhausted_limited (requestId : Int) : Respects Limited (retriesExhausted requestId) :=
  respects_bind limited_trans (told_limited _ _ _) fun _ =>
    respects_bind limited_trans (setRetry_limited 1 (by omega)) fun _ => ended_limited _

theorem timeoutTurn_limited (requestId : Int) (vars : OdmVars) :
    Respects Limited (timeoutTurn requestId vars) := by
  intro client few
  rw [timeoutTurn, ran_bind (show getRetry client = (some client.control.retry, client) from rfl)]
  split
  next => exact retriesExhausted_limited requestId client few
  next tries =>
    have again : Respects Limited
        (setRetry (client.control.retry + 1) >>= fun _ => resendOrReturn { vars with once := false }) :=
      respects_bind limited_trans (setRetry_limited _ (by omega)) fun _ => resend_limited _
    have first := respects_bind limited_trans (told_limited requestId .retryInProgress 0) fun _ => again
    split
    next => exact first client few
    next => exact again client few

theorem reconnect_limited (requestId : Int) (turns : Nat) :
    Respects Limited (reconnect requestId turns) := by
  have exhausted : Respects Limited (updateDlmsOnDemandRequestStatus requestId .dlmsFailed 0 >>=
      fun _ => pure (some (Exit.reported .dlmsFailed))) :=
    respects_bind limited_trans (told_limited _ _ _) fun _ => ended_limited _
  induction turns with
  | zero => exact exhausted
  | succ turns ih =>
    refine respects_bind limited_trans (respects_observe limited_refl _) fun retry => ?_
    split
    next few =>
      refine respects_bind limited_trans (setRetry_limited _ (by omega)) fun _ => ?_
      refine respects_bind limited_trans (respects_observe limited_refl _) fun header => ?_
      refine respects_bind limited_trans (write_limited header) fun code => ?_
      split
      next => exact ended_limited _
      next =>
        refine respects_bind limited_trans
          (limited_same Recovery.receiveDataAndValidateResponse_sameRequest) fun reply => ?_
        split
        next =>
          exact respects_bind limited_trans (setRetry_limited 1 (by omega)) fun _ => ended_limited _
        next => exact ih
    next => exact exhausted

theorem connectionFailedTurn_limited (requestId : Int) (vars : OdmVars) :
    Respects Limited (connectionFailedTurn requestId vars) := by
  refine respects_bind limited_trans (respects_observe limited_refl _) fun retry => ?_
  split
  next => exact retriesExhausted_limited requestId
  next =>
    refine respects_bind limited_trans (respects_bind limited_trans (fun _ => id)
      fun _ => reconnect_limited requestId 3) fun exit => ?_
    cases exit <;> exact ended_limited _

theorem pollTimeoutTurn_limited (requestId : Int) (downloadDataType : UInt8) (vars : OdmVars) :
    Respects Limited (pollTimeoutTurn requestId downloadDataType vars) := by
  unfold pollTimeoutTurn
  split
  next =>
    exact respects_bind limited_trans (updateInsertPingRequest_always limited_database _ _).respects
      fun _ => ended_limited _
  next =>
    split
    next => exact resend_limited _
    next =>
      split
      next => exact respects_bind limited_trans (fun _ => id) fun _ => clearAndBreak_limited _ _
      next => exact clearAndBreak_limited _ _

theorem nextPageTurn_limited (downloadDataType : UInt8) (vars : OdmVars) :
    Respects Limited (nextPageTurn downloadDataType vars) := by
  refine respects_bind limited_trans (fun client _ => show 1 ≤ 3 by omega) fun _ => ?_
  refine respects_bind limited_trans (respects_bind limited_trans
    (respects_bind limited_trans (write_limited _) fun code => ended_limited _) fun sent => ?_) fun next => ?_
  next => split <;> exact ended_limited _
  next => cases next <;> exact ended_limited _

theorem checksumErrorTurn_limited (requestId : Int) (vars : OdmVars) :
    Respects Limited (checksumErrorTurn requestId vars) := by
  refine respects_bind limited_trans (write_limited _) fun code => ?_
  split
  next => exact clearAndBreak_limited _ _
  next =>
    split
    next => exact respects_bind limited_trans (told_limited _ _ _) fun _ => ended_limited _
    next => exact ended_limited _

theorem handleSuccess_limited (downloadDataType : UInt8) (buf : Bytes) :
    Respects Limited (handleSuccess downloadDataType buf) := by
  refine respects_bind limited_trans (respects_observe limited_refl _) fun received => ?_
  split
  next => exact ended_limited _
  next =>
    refine respects_bind limited_trans (updateOdmDb_always limited_database _).respects fun _ => ?_
    exact respects_bind limited_trans (fun _ => id) fun _ => ended_limited _

theorem odmTurn_limited (requestId : Int) (downloadDataType : UInt8) (vars : OdmVars) :
    Respects Limited (odmTurn requestId downloadDataType vars) := by
  refine respects_bind limited_trans (limited_same Recovery.receiveDataAndValidateResponse_sameRequest)
    fun code => ?_
  have reported (status : RequestStatus) : Respects Limited (reportAndBreak requestId status) :=
    respects_bind limited_trans (told_limited _ _ _) fun _ => ended_limited _
  cases code with
  | success =>
    refine respects_bind limited_trans (setRetry_limited 1 (by omega)) fun _ => ?_
    refine respects_bind limited_trans (handleSuccess_limited downloadDataType _) fun handled => ?_
    split <;> exact ended_limited _
  | dlmsSuccess => exact resend_limited vars
  | pmeshError =>
    dsimp only
    split
    next =>
      exact respects_bind limited_trans (updateInsertPingRequest_always limited_database _ _).respects
        fun _ => ended_limited _
    next => exact reported _
  | timeoutReceived => exact timeoutTurn_limited requestId vars
  | dlmsConnectionFailed => exact connectionFailedTurn_limited requestId vars
  | failedPmeshError => exact clearAndBreak_limited _ _
  | dlmsError =>
    refine respects_bind limited_trans (respects_observe limited_refl _) fun error => ?_
    refine respects_bind limited_trans (told_limited _ _ _) fun _ => ?_
    exact respects_bind limited_trans (fun _ => id) fun _ => ended_limited _
  | pollTimeout => exact pollTimeoutTurn_limited requestId downloadDataType vars
  | succesNextPage => exact nextPageTurn_limited downloadDataType vars
  | dlmsChecksumError => exact checksumErrorTurn_limited requestId vars
  | invalidResponse | commandInProgress => exact ended_limited _
  | failure | enabled | failedResponse | nextPagePresent | pushDataReceived => exact ended_limited _

/-- `Process_ODM_request` never leaves the retry counter above 3. -/
theorem processOdmRequest_limited (fuel : Nat) (buf : Bytes) (requestId : Int)
    (downloadDataType : UInt8) :
    Respects Limited (processOdmRequest fuel buf requestId downloadDataType) := by
  refine respects_bind limited_trans (fun _ => id) fun _ => ?_
  refine respects_bind limited_trans ?_ fun exit => ?_
  next =>
    refine respects_bind limited_trans (fun _ => id) fun _ => ?_
    refine respects_bind limited_trans (write_limited buf) fun code => ?_
    have served := respects_loop limited_refl limited_trans _
      (odmTurn_limited requestId downloadDataType) fuel { buf := buf }
    split
    next => exact ended_limited _
    next =>
      split
      next => exact respects_bind limited_trans (fun _ => id) fun _ => served
      next => exact served
  next => exact respects_bind limited_trans (fun _ => id) fun _ => ended_limited _

end Limits

section Odm

variable (requestId : Int) (downloadDataType : UInt8)

/-- One call of `Process_ODM_request`, as the calls in front of it leave the retry counter. -/
structure OdmCall where
  request : OdmRequest
  client : Client
  few : client.control.retry ≤ 3

def odmTurns (call : OdmCall) (fuel : Nat) : List (OdmVars × Client) :=
  NextPages.requestTurns fuel call.request call.client

/-- The reply is taken as the one to the command. -/
def accepted (vars : OdmVars) (received : Client) : Bool :=
  byteAt vars.buf 2 = 0x0E || validateResponseFrame vars.buf received.control.clientRxBuffer

def odmPage (turn : OdmVars × Client) : Bool :=
  match receiveDataAndValidateResponse turn.2 with
  | (some .succesNextPage, _) => true
  | (some .success, received) => accepted turn.1 received
  | _ => false

/-- Replies that leave the retry counter below what it was, or as it was with a frame behind them. -/
def odmFree (turn : OdmVars × Client) : Bool :=
  match receiveDataAndValidateResponse turn.2 with
  | (some .dlmsSuccess, _) => true
  | (some .dlmsConnectionFailed, received) => received.control.retry ≠ 3
  | (some .success, received) => !accepted turn.1 received && received.control.retry > 1
  | _ => false

/-- The frames of a turn; it writes behind its reply. -/
def odmFrames (turn : OdmVars × Client) : Nat :=
  match receiveDataAndValidateResponse turn.2 with
  | (some .dlmsSuccess, _) | (some .succesNextPage, _) | (some .dlmsChecksumError, _) => 1
  | (some .timeoutReceived, received) => if received.control.retry = 3 then 0 else 1
  | (some .pollTimeout, _) => if downloadDataType ≠ 13 && turn.1.pollRetry < 3 then 1 else 0
  | (some .dlmsConnectionFailed, _) => (Recovery.turnFrames turn.2).length
  | _ => 0

/-- What the retry limits leave of a request. -/
def effortLeft (vars : OdmVars) (retry : Nat) : Nat :=
  (3 - retry) + (3 - vars.pollRetry) + (4 - vars.dlmsChecksumErrorRetry)

/-- What a turn that is not the last takes of the limits, or gives back. -/
structure Tried (vars : OdmVars) (retry frames : Nat) (free : Bool) (next : OdmVars) (later : Nat) :
    Prop where
  paid : effortLeft next later + frames ≤ effortLeft vars retry + if free then 5 else 0
  written : (if free then 1 else 0) + (if later > 1 then 1 else 0) ≤ (if retry > 1 then 1 else 0) + frames
  few : later ≤ 3

theorem reconnectFrames_few (turns : Nat) (client : Client) :
    (Recovery.reconnectFrames turns client).length ≤ turns := by
  induction turns generalizing client with
  | zero => simp [Recovery.reconnectFrames]
  | succ turns ih =>
    unfold Recovery.reconnectFrames
    split
    next =>
      rw [List.length_cons]
      split
      next after ran => exact Nat.succ_le_succ (ih after)
      next => simp
    next => simp

/-- A recovery that comes back to the request has transmitted one to three times. -/
theorem recovered_frames {client received after : Client}
    (heard : receiveDataAndValidateResponse client = (some .dlmsConnectionFailed, received))
    (tries : received.control.retry ≠ 3)
    (recovered : reconnect requestId 3 (Recovery.appendEnable received) = (some none, after)) :
    after.control.retry = 1 /\ 1 ≤ (Recovery.turnFrames client).length /\
      (Recovery.turnFrames client).length ≤ 3 := by
  obtain ⟨-, few, fresh⟩ := Recovery.reconnect_again requestId 3 _ _ recovered
  have frames : Recovery.turnFrames client =
      Recovery.reconnectFrames 3 (Recovery.appendEnable received) := by
    simp [Recovery.turnFrames, heard, tries]
  refine ⟨fresh, ?_, ?_⟩
  next =>
    rw [frames, Recovery.reconnectFrames, if_pos few]
    simp
  next =>
    rw [frames]
    exact reconnectFrames_few 3 _

theorem odmTurn_tried {turn next : OdmVars × Client}
    (follows : Follows (odmTurn requestId downloadDataType) turn next)
    (few : turn.2.control.retry ≤ 3) :
    Tried turn.1 turn.2.control.retry (odmFrames downloadDataType turn) (odmFree turn || odmPage turn)
      next.1 next.2.control.retry := by
  obtain ⟨vars, client⟩ := turn
  obtain ⟨later, after⟩ := next
  obtain ⟨code, received, heard, goesOn⟩ := Recovery.odmTurn_again requestId downloadDataType follows
  have kept := (Recovery.receiveDataAndValidateResponse_sameRequest.returned heard).2
  simp only [odmFrames, odmFree, odmPage, heard]
  dsimp only at few kept heard
  rw [← kept] at few ⊢
  cases code
  all_goals dsimp only at goesOn ⊢
  case success =>
    obtain ⟨rfl, -, fresh, other⟩ := goesOn
    have unaccepted : accepted later received = false := by simpa [accepted] using other
    rw [unaccepted, fresh]
    refine ⟨?_, by simp, by omega⟩
    simp only [effortLeft, Bool.not_false, Bool.true_and, Bool.or_false, decide_eq_true_eq]
    split <;> omega
  case dlmsSuccess =>
    obtain ⟨rfl, -, same⟩ := goesOn
    rw [same]
    exact ⟨by simp [effortLeft], by simp [Nat.add_comm], few⟩
  case timeoutReceived =>
    obtain ⟨tries, rfl, -, counted⟩ := goesOn
    rw [counted, if_neg tries]
    refine ⟨?_, ?_, by omega⟩
    next =>
      simp only [effortLeft]
      omega
    next =>
      simp only [Bool.or_self, Bool.false_eq_true, if_false]
      split <;> omega
  case dlmsConnectionFailed =>
    obtain ⟨tries, rfl, recovered⟩ := goesOn
    obtain ⟨fresh, some, frames⟩ := recovered_frames requestId heard tries recovered
    rw [fresh]
    have free : decide (received.control.retry ≠ 3) = true := decide_eq_true tries
    rw [free]
    refine ⟨?_, ?_, by omega⟩
    next =>
      simp only [effortLeft, Bool.or_false, if_true]
      omega
    next => simpa using Nat.le_add_left_of_le some
  case pollTimeout =>
    obtain ⟨node, left, rfl, -, same⟩ := goesOn
    rw [same]
    refine ⟨?_, ?_, few⟩
    next =>
      simp only [effortLeft, ne_eq, node, left, not_false_eq_true, decide_true, Bool.and_self, if_true]
      omega
    next => simp
  case succesNextPage =>
    obtain ⟨-, fresh, rfl⟩ := goesOn
    rw [fresh]
    refine ⟨?_, by simp, by omega⟩
    simp only [effortLeft, Bool.or_true, if_true]
    omega
  case dlmsChecksumError =>
    obtain ⟨left, ⟨-, same⟩, rfl⟩ := goesOn
    rw [same]
    refine ⟨?_, by simp, few⟩
    simp only [effortLeft]
    omega
  case pmeshError | failedPmeshError | dlmsError => exact goesOn.elim
  all_goals
    obtain ⟨rfl, rfl⟩ := goesOn
    exact ⟨by simp [effortLeft], by simp, few⟩

/-- The frames from a page to the next one: a turn writes behind its reply. -/
def odmBetween (call : OdmCall) (first : OdmVars × Client) (inside : List (OdmVars × Client))
    (_ : OdmVars × Client) : Nat :=
  ((first :: inside).map (odmFrames call.request.downloadType)).sum

def odmUncounted (_ : OdmCall) (_ : OdmVars × Client) (inside : List (OdmVars × Client))
    (_ : OdmVars × Client) : Nat := inside.countP odmFree

theorem odmPage_frames {turn : OdmVars × Client} (page : odmPage turn = true) :
    odmFrames downloadDataType turn ≤ 1 := by
  unfold odmPage at page
  unfold odmFrames
  split at page
  next heard => simp [heard]
  next heard => simp [heard]
  next => simp at page

/-- The turns of a call follow each other, with the retry counter at most at 3. -/
theorem odmTurns_follow (call : OdmCall) (fuel : Nat) :
    List.IsChain (Follows (odmTurn call.request.requestId call.request.downloadType)) (odmTurns call fuel) /\
      ∀ turn ∈ odmTurns call fuel, turn.2.control.retry ≤ 3 := by
  have opened : Respects Recovery.SameRequest (Recovery.opening call.request) :=
    respects_bind Recovery.sameRequest_trans (fun client => ⟨rfl, rfl⟩) fun _ =>
      respects_bind Recovery.sameRequest_trans (fun client => ⟨rfl, rfl⟩) fun _ =>
        Recovery.writeToClient_sameRequest _
  unfold odmTurns NextPages.requestTurns
  split
  next sent ran =>
    refine ⟨entered_follows _ _ _ _, entered_keeps _ (fun (client : Client) => client.control.retry ≤ 3) ?_ _ _ _ ?_⟩
    next => exact fun turn next few follows => (odmTurn_tried _ _ follows few).few
    next =>
      have kept := (opened.returned ran).2
      have few := call.few
      unfold Recovery.tailKept
      split <;> exact kept ▸ few
  next => exact ⟨.nil, by simp⟩

section Segments

variable {call : OdmCall} {fuel : Nat} {first last : OdmVars × Client}
  {inside : List (OdmVars × Client)}

theorem odm_paid (between : Between odmPage (odmTurns call fuel) first inside last) :
    ∀ turn ∈ inside, forall next,
      Follows (odmTurn call.request.requestId call.request.downloadType) turn next ->
        Tried turn.1 turn.2.control.retry (odmFrames call.request.downloadType turn) (odmFree turn)
          next.1 next.2.control.retry := by
  intro turn among next follows
  have few := (odmTurns_follow call fuel).2 turn (between.part.subset (by simp [among]))
  have tried := odmTurn_tried _ _ follows few
  rwa [between.quiet turn among, Bool.or_false] at tried

theorem odm_chain (between : Between odmPage (odmTurns call fuel) first inside last) :
    List.IsChain (Follows (odmTurn call.request.requestId call.request.downloadType)) (inside ++ [last]) :=
  between_chain (odmTurns_follow call fuel).1 between

theorem odmBetween_le (between : Between odmPage (odmTurns call fuel) first inside last) :
    odmBetween call first inside last ≤ 11 + 5 * odmUncounted call first inside last := by
  have page := odmPage_frames call.request.downloadType between.opened
  have paid := cost_le (fun turn => effortLeft turn.1 turn.2.control.retry)
    (odmFrames call.request.downloadType) (fun turn => if odmFree turn then 5 else 0) 10
    (fun turn => by simp only [effortLeft]; omega) inside last (odm_chain between)
    fun turn among next follows => (odm_paid between turn among next follows).paid
  rw [sum_charged] at paid
  rw [odmBetween, odmUncounted, List.map_cons, List.sum_cons]
  omega

theorem odmUncounted_le (between : Between odmPage (odmTurns call fuel) first inside last) :
    odmUncounted call first inside last ≤ 1 + 1 * odmBetween call first inside last := by
  have paid := cost_le (fun turn => if turn.2.control.retry > 1 then 1 else 0)
    (fun turn => if odmFree turn then 1 else 0) (odmFrames call.request.downloadType) 1
    (fun turn => by split <;> omega) inside last (odm_chain between)
    fun turn among next follows => by
      have written := (odm_paid between turn among next follows).written
      dsimp only
      omega
  rw [sum_charged] at paid
  rw [odmBetween, odmUncounted, List.map_cons, List.sum_cons]
  omega

end Segments

end Odm

/-- The retry limits bound the frames between two pages exactly where the answers that they do not
count have a bound. -/
theorem framesBounded_iff (maxRetries : Nat) (rawCalls : Set RawCall) (odmCalls : Set OdmCall) :
    (Bounded rawCalls (rawTurns maxRetries) (rawPaged maxRetries) rawBetween <->
      Bounded rawCalls (rawTurns maxRetries) (rawPaged maxRetries) (rawUncounted maxRetries)) /\
    (Bounded odmCalls odmTurns (fun _ => odmPage) odmBetween <->
      Bounded odmCalls odmTurns (fun _ => odmPage) odmUncounted) := by
  refine ⟨⟨?_, ?_⟩, ⟨?_, ?_⟩⟩
  next => exact bounded_of_le 1 1 fun _ _ _ _ _ between => rawUncounted_le maxRetries between
  next => exact bounded_of_le 3 9 fun _ _ _ _ _ between => rawBetween_le maxRetries between
  next => exact bounded_of_le 1 1 fun _ _ _ _ _ between => odmUncounted_le between
  next => exact bounded_of_le 5 11 fun _ _ _ _ _ between => odmBetween_le between

section Burst

def gatewayTexts : CommandFrames.GatewayTexts :=
  { panId := Text.ascii "1234", sourceId := Text.ascii "A3535435" }

/-- The command for a page of the first scalar profile of a node behind one router. -/
def scalarCommand (page sum : UInt8) : Bytes :=
  [0x2E, 0x18, 0x07, 0x00, 0x00, 0x12, 0x34, 0xA3, 0x53, 0x54, 0x35, 0x00, 0x01, 0xB1, 0xB2, 0xB3, 0xB4,
    0x2B, 0x07, page, 0x0A, 0x01, 0x00, 0x00, sum] ++ List.replicate 116 0

def nodeReply (dlms : Bytes) : Bytes :=
  [0x2E, UInt8.ofNat (16 + dlms.length), 0x08, 0, 0, 0, 0, 0, 0, 0, 0, 0xB1, 0xB2, 0xB3, 0xB4, 0x00, 0x00] ++ dlms

/-- The DLMS connection of the node is there. -/
def connected : Bytes := nodeReply [0x2D, 0x00, 0x08, 0x00, 0x00, 0x00, 0x02, 0x00, 0x37]

/-- A page of the profile, with more of them behind it. -/
def scalarPage (page : UInt8) : Bytes :=
  let dlms := [0x2D, 0x00, 0x0D, page, 0x0A, 0x01, 0x00, 0x01, 0x01, 0x04, 0x00, 0x06, 0x05]
  nodeReply (dlms ++ [calculateChecksum dlms 0 13])

/-- The gateway tells between two pages so many times that the connection is there. -/
def burst (count index : Nat) : Received :=
  .data (if index = 0 then scalarPage 0 else if index ≤ count then connected else scalarPage 1) none

def burstCall (count : Nat) : RawCall :=
  { client := { inputs := { recv := burst count } }, buf := scalarCommand 0 0x3D, length := 25 }

def nodeAddress : Bytes := [0xB1, 0xB2, 0xB3, 0xB4]

def controlWith (source chunk : Bytes) (length : Nat) (check : Bool) (page pages : UInt8) : Control :=
  { srcAddrCheckBuffer := source, clientRxBuffer := chunk, bufferRxLength := length
    needToValidateSrcAddr := check, txPageIndex := page, pageIndexCount := pages }

/-- The client in front of a chunk. -/
structure Listening (recv : Nat -> Received) (received : Nat) (control : Control) (client : Client) :
    Prop where
  inputs : client.inputs = { recv := recv }
  received : client.counters.received = received
  control : client.control = control

theorem heard_listening {recv : Nat -> Received} {received : Nat} {control : Control} {client : Client}
    (listening : Listening recv received control client) :
    Listening recv (received + 1) control (heard client) :=
  ⟨listening.inputs, congrArg (· + 1) listening.received, listening.control⟩

/-- The loop in front of the command for a page. -/
def asking (number sum : UInt8) (txBuffer : Bytes) (any : Bool) (ret : Code) : RawVars :=
  { buf := scalarCommand number sum, length := 25, txBuffer := txBuffer, gotAnyResponse := any, ret := ret }

def asked (number sum : UInt8) (txBuffer : Bytes) (any : Bool) (ret : Code) : RawVars :=
  { asking number sum (copyOver txBuffer (slice (scalarCommand number sum) 0 25)) any ret with
    needToWrite := false }

variable {recv : Nat -> Received} {received length : Nat} {source chunk : Bytes} {check : Bool}
  {page pages : UInt8} {client : Client}

/-- Each frame of the call makes the client ready for the node's answer to its page. -/
theorem command_written (number sum : UInt8) (txBuffer : Bytes) (any : Bool) (ret : Code)
    (listening : Listening recv received (controlWith source chunk length check page pages) client) :
    exists told, rawWrite 1 (asking number sum txBuffer any ret) client =
        (some (some (asked number sum txBuffer any ret)), told) /\
      Listening recv received (controlWith nodeAddress chunk length true number pages) told := by
  have short : (slice (scalarCommand number sum) 0 25).length ≤ 4096 := Nat.le_of_ble_eq_true rfl
  obtain ⟨told, wrote, inputs, heard, control⟩ :=
    rawWrite_sent 1 (asking number sum txBuffer any ret) rfl rfl (by rw [listening.inputs]) short
  refine ⟨told, wrote, inputs.trans listening.inputs, heard.trans listening.received, ?_⟩
  rw [control, listening.control]
  rfl

theorem page_taken (number : UInt8) (known : number = 0 \/ number = 1) (listening : Listening recv received
    (controlWith nodeAddress chunk length true number pages) client) :
    exists after, clientReceivedData (scalarPage number) 31 client = (some .succesNextPage, after) /\
      Listening recv received (controlWith nodeAddress (scalarPage number) 31 false number pages)
        after := by
  obtain ⟨inputs, counters, gateway, control, profiles, pull, odm⟩ := client
  obtain ⟨rfl, rfl, rfl⟩ := listening
  rcases known with rfl | rfl
  next => exact ⟨_, rfl, ⟨rfl, rfl, rfl⟩⟩
  next => exact ⟨_, rfl, ⟨rfl, rfl, rfl⟩⟩

theorem connected_taken (listening : Listening recv received
    (controlWith nodeAddress chunk length true page pages) client) :
    exists after, clientReceivedData connected 26 client = (some .dlmsSuccess, after) /\
      Listening recv received (controlWith nodeAddress connected 26 false page pages) after := by
  obtain ⟨inputs, counters, gateway, control, profiles, pull, odm⟩ := client
  obtain ⟨rfl, rfl, rfl⟩ := listening
  exact ⟨_, rfl, ⟨rfl, rfl, rfl⟩⟩

theorem page_turn (number sum : UInt8) (txBuffer : Bytes) (any : Bool) (ret : Code)
    (known : number = 0 \/ number = 1) (sent : recv received = .data (scalarPage number) none)
    (listening : Listening recv received (controlWith source chunk length check page pages) client) :
    exists after, rawReply 1 (asking number sum txBuffer any ret) client =
        (some (some (scalarPage number, { asked number sum txBuffer any ret with
          gotAnyResponse := true, ret := .succesNextPage })), after) /\
      Listening recv (received + 1) (controlWith nodeAddress (scalarPage number) 31 false number pages)
        after := by
  obtain ⟨told, wrote, ready⟩ := command_written number sum txBuffer any ret listening
  obtain ⟨after, coded, later⟩ := page_taken number known (heard_listening ready)
  have arrived : told.inputs.recv told.counters.received = .data (scalarPage number) none := by
    rw [ready.inputs, ready.received]
    exact sent
  rcases known with rfl | rfl
  next => exact ⟨after, rawReply_chunk 1 ⟨by decide, by decide, by decide⟩ wrote arrived coded, later⟩
  next => exact ⟨after, rawReply_chunk 1 ⟨by decide, by decide, by decide⟩ wrote arrived coded, later⟩

/-- The DLMS connection is told, and the command goes out once more. -/
theorem connected_turn (txBuffer : Bytes) (ret : Code)
    (sent : recv received = .data connected none)
    (listening : Listening recv received (controlWith source chunk length check page pages) client) :
    exists resent after,
      rawAnswer 1 4 (asking 1 0x3E txBuffer true ret, client) = some (connected, .dlmsSuccess) /\
      rawTurn 1 4 (asking 1 0x3E txBuffer true ret) client =
        (some (.again (asking 1 0x3E resent true .dlmsSuccess)), after) /\
      Listening recv (received + 1) (controlWith nodeAddress connected 26 false 1 pages) after := by
  obtain ⟨told, wrote, ready⟩ := command_written 1 0x3E txBuffer true ret listening
  obtain ⟨after, coded, later⟩ := connected_taken (heard_listening ready)
  have arrived : told.inputs.recv told.counters.received = .data connected none := by
    rw [ready.inputs, ready.received]
    exact sent
  have chunk : Chunk connected := ⟨by decide, by decide, by decide⟩
  have replied := rawReply_chunk 1 chunk wrote arrived coded
  exact ⟨_, after, rawAnswer_reply 1 4 (Nat.not_lt_zero 4) replied,
    rawTurn_reply 1 4 (Nat.not_lt_zero 4) replied, later⟩

/-- So many turns are told of the connection, and the last one has the second page. -/
structure Burst (count : Nat) (turns : List (RawVars × Client)) (inside : List (RawVars × Client))
    (last : RawVars × Client) : Prop where
  turns : turns = inside ++ [last]
  many : inside.length = count
  written : ∀ turn ∈ inside ++ [last], rawFrames turn = 1
  quiet : ∀ turn ∈ inside, rawPage (rawAnswer 1 4 turn) = false
  closed : rawPage (rawAnswer 1 4 last) = true

theorem burst_turns (count : Nat) (txBuffer : Bytes) (ret : Code)
    (told : ∀ index < count, recv (received + index) = .data connected none)
    (sent : recv (received + count) = .data (scalarPage 1) none)
    (listening : Listening recv received (controlWith source chunk length check page 1) client) :
    exists inside last, Burst count
      (entered (rawTurn 1 4) (count + 1) (asking 1 0x3E txBuffer true ret) client) inside last := by
  induction count generalizing received txBuffer ret chunk length check page source client with
  | zero =>
    obtain ⟨after, replied, -⟩ := page_turn 1 0x3E txBuffer true ret (.inr rfl) sent listening
    have answered := rawAnswer_reply 1 4 (Nat.not_lt_zero 4) replied
    refine ⟨[], (asking 1 0x3E txBuffer true ret, client), ?_, rfl, ?_, by simp, ?_⟩
    next =>
      rw [entered]
      split <;> rfl
    next => simp [rawFrames, asking]
    next => rw [answered]; rfl
  | succ count ih =>
    obtain ⟨resent, after, answered, ran, later⟩ :=
      connected_turn txBuffer ret (told 0 (by omega)) listening
    obtain ⟨inside, last, burst⟩ := ih resent .dlmsSuccess
      (fun index few => by rw [Nat.add_right_comm]; exact told (index + 1) (by omega))
      (by rw [Nat.add_right_comm]; exact sent) later
    refine ⟨(asking 1 0x3E txBuffer true ret, client) :: inside, last, ?_, ?_, ?_, ?_, burst.closed⟩
    next =>
      rw [entered, ran]
      exact congrArg _ burst.turns
    next => simp [burst.many]
    next =>
      intro turn among
      rcases List.mem_cons.mp among with rfl | later
      next => rfl
      next => exact burst.written turn later
    next =>
      intro turn among
      rcases List.mem_cons.mp among with rfl | later
      next => rw [answered]; rfl
      next => exact burst.quiet turn later

/-- The first page is counted into the command. -/
theorem first_counted (txBuffer : Bytes) (listening : Listening recv received
    (controlWith source chunk length check page 0) client) :
    exists after, rawSwitch 1 (scalarPage 0) { asked 0 0x3D txBuffer false .failure with
        gotAnyResponse := true, ret := .succesNextPage } client =
        (some (.again (asking 1 0x3E (copyOver txBuffer (slice (scalarCommand 0 0x3D) 0 25)) true
          .succesNextPage)), after) /\
      Listening recv received (controlWith source chunk length check page 1) after := by
  obtain ⟨inputs, counters, gateway, control, profiles, pull, odm⟩ := client
  obtain ⟨rfl, rfl, rfl⟩ := listening
  exact ⟨_, rfl, ⟨rfl, rfl, rfl⟩⟩

theorem burst_between (count : Nat) :
    exists first inside last, Between (rawPaged 4 (burstCall count)) (rawTurns 4 (burstCall count) (count + 2))
      first inside last /\ rawBetween (burstCall count) first inside last = count + 1 := by
  let start : Client := { inputs := { recv := burst count } }
  have ready : Listening (burst count) 0 (controlWith [0, 0, 0, 0] [] 0 false 0 0) start := ⟨rfl, rfl, rfl⟩
  obtain ⟨reached, replied, listening⟩ := page_turn 0 0x3D [] false .failure (.inl rfl) rfl ready
  obtain ⟨after, counted, later⟩ := first_counted [] listening
  have answered := rawAnswer_reply 1 4 (Nat.not_lt_zero 4) replied
  have ran : rawTurn 1 4 (asking 0 0x3D [] false .failure) start =
      (some (.again (asking 1 0x3E (copyOver [] (slice (scalarCommand 0 0x3D) 0 25)) true
        .succesNextPage)), after) := by
    rw [rawTurn_reply 1 4 (Nat.not_lt_zero 4) replied, ran_bind counted]
    rfl
  obtain ⟨inside, last, turns, many, written, quiet, closed⟩ := burst_turns count
    (copyOver [] (slice (scalarCommand 0 0x3D) 0 25)) .succesNextPage
    (fun index few => by simp only [burst]; rw [if_neg (by omega), if_pos (by omega)])
    (by simp only [burst]; rw [if_neg (by omega), if_neg (by omega)]) later
  refine ⟨(asking 0 0x3D [] false .failure, start), inside, last, ⟨?_, ?_, quiet, closed⟩, ?_⟩
  next =>
    have whole : rawTurns 4 (burstCall count) (count + 2) =
        (asking 0 0x3D [] false .failure, start) :: (inside ++ [last]) := by
      rw [← turns]
      change entered (rawTurn 1 4) (count + 1 + 1) (asking 0 0x3D [] false .failure) start = _
      rw [entered, ran]
    rw [whole]
  next =>
    change rawPage (rawAnswer 1 4 _) = true
    rw [answered]
    rfl
  next =>
    rw [rawBetween, List.map_congr_left written]
    simp [many]

/-- A node that is told to be connected again and again is asked again each time. -/
theorem burst_unbounded :
    CommandFrames.frameScalarProfileCmdToPull gatewayTexts (Text.ascii "B1B2B3B4") 1 1 =
      some (scalarCommand 0 0x3D) /\
    ¬ Bounded Set.univ (rawTurns 4) (rawPaged 4) rawBetween := by
  refine ⟨by decide +kernel, ?_⟩
  rintro ⟨bound, bounds⟩
  obtain ⟨first, inside, last, between, many⟩ := burst_between bound
  have few := bounds (burstCall bound) trivial (bound + 2) first inside last between
  omega

end Burst

end Hes.FrameBounds
