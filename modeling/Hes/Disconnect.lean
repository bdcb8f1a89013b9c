import Hes.Lib.Transition
import Hes.Transmit

set_option autoImplicit false

namespace Hes

open Prog Transition

/-- What the thread calls, in any order; `between` is what runs in between, which leaves the
status alone. -/
inductive Call where
  | receiveData (buffSize : Nat)
  | writeToClient (buf : Bytes)
  | writeToClientVector (buf : Bytes)
  | receiveDataAndValidateResponse
  | transmitRaw (buf : Bytes) (length maxRetries : Nat)
  | transmitVector (buff : Bytes) (maxRetries : Nat)
  | processOdmRequest (buf : Bytes) (requestId : Int) (downloadDataType : UInt8)
  | pollTimeoutHandler
  /-- `handle_client` finds a duplicate gateway, or `poll` fails. -/
  | pollFailed
  | between (client : Client)

/-- The result is dropped, so that calls of all kinds follow each other. -/
def dropResult {A : Type} (prog : Prog Client A) : Prog Client Unit := do
  let _ <- prog
  return ()

def Call.prog (fuel : Nat) : Call -> Prog Client Unit
  | .receiveData buffSize => dropResult (Client.receiveData buffSize)
  | .writeToClient buf => dropResult (Client.writeToClient buf)
  | .writeToClientVector buf => dropResult (Client.writeToClientVector buf)
  | .receiveDataAndValidateResponse => dropResult Client.receiveDataAndValidateResponse
  | .transmitRaw buf length maxRetries => dropResult (Client.transmitRaw fuel buf length maxRetries)
  | .transmitVector buff maxRetries => dropResult (Client.transmitVector fuel buff maxRetries)
  | .processOdmRequest buf requestId downloadDataType =>
    dropResult (Client.processOdmRequest fuel buf requestId downloadDataType)
  | .pollTimeoutHandler => Client.pollTimeoutHandler
  | .pollFailed => Client.setStatus .disconnected
  | .between client => update fun before => { client with gateway := before.gateway }

/-- A call, or as much of it as `fuel` turns of its loop do. -/
def callStep (fuel : Nat) : Step Client Call := fun client call =>
  some (call.prog fuel client).2

namespace Gateway

/-- No `send` of `write_to_client` failed or returned 0. -/
def Lossless (gateway : Gateway) : Prop :=
  forall result after, .sent .writeToClient result after ∈ gateway.history -> 0 < result

/-- Disconnection is absorbing, and a `send` that fails or returns 0 leaves it. -/
structure Sound (gateway : Gateway) : Prop where
  absorbing : gateway.history.Pairwise fun earlier later =>
    earlier = .assigned .disconnected -> later ≠ .assigned .connected
  failures : forall writer result after,
    .sent writer result after ∈ gateway.history -> result ≤ 0 -> after = .disconnected
  ends : .assigned .disconnected ∈ gateway.history -> gateway.status = .disconnected

structure Valid (gateway : Gateway) : Prop where
  failures : forall writer result after,
    .sent writer result after ∈ gateway.history -> result ≤ 0 -> after = writer.onFailure
  connects : gateway.Lossless -> .assigned .connected ∉ gateway.history
  ends : gateway.Lossless -> .assigned .disconnected ∈ gateway.history ->
    gateway.status = .disconnected

theorem initial_valid : Valid {} := by
  constructor <;> simp

theorem Lossless.earlier {earlier gateway : Gateway}
    (extended : exists later, gateway.history = earlier.history ++ later)
    (lossless : gateway.Lossless) : earlier.Lossless := by
  obtain ⟨later, history⟩ := extended
  intro result after inside
  exact lossless result after (history ▸ List.mem_append_left later inside)

theorem assign_valid (gateway : Gateway) (valid : gateway.Valid) :
    (gateway.assign .disconnected).Valid where
  failures writer result after inside := by
    have earlier : .sent writer result after ∈ gateway.history := by simpa [assign] using inside
    exact valid.failures writer result after earlier
  connects lossless := by
    have earlier : gateway.Lossless := Lossless.earlier ⟨_, rfl⟩ lossless
    simpa [assign] using valid.connects earlier
  ends _ _ := rfl

theorem send_valid (gateway : Gateway) (valid : gateway.Valid) (writer : Writer) (result : Int) :
    (gateway.send writer result).Valid := by
  unfold send
  split
  next failed =>
    constructor
    next =>
      intro other value after inside notPositive
      simp only [List.mem_append, List.mem_cons, reduceCtorEq, GatewayEvent.sent.injEq,
        List.not_mem_nil, or_false, false_or] at inside
      rcases inside with earlier | ⟨rfl, rfl, rfl⟩
      next => exact valid.failures other value after earlier notPositive
      next => rfl
    next =>
      intro lossless
      cases writer with
      | writeToClient =>
        have positive := lossless result .connected (by simp [Writer.onFailure])
        omega
      | writeToClientVector =>
        have earlier : gateway.Lossless := Lossless.earlier ⟨_, rfl⟩ lossless
        simpa [Writer.onFailure] using valid.connects earlier
    next =>
      intro lossless _
      cases writer with
      | writeToClient =>
        have positive := lossless result .connected (by simp [Writer.onFailure])
        omega
      | writeToClientVector => rfl
  next positive =>
    constructor
    next =>
      intro other value after inside notPositive
      simp only [List.mem_append, List.mem_singleton, GatewayEvent.sent.injEq] at inside
      rcases inside with earlier | ⟨rfl, rfl, rfl⟩
      next => exact valid.failures other value after earlier notPositive
      next => omega
    next =>
      intro lossless
      have earlier : gateway.Lossless := Lossless.earlier ⟨_, rfl⟩ lossless
      simpa using valid.connects earlier
    next =>
      intro lossless disconnected
      have earlier : gateway.Lossless := Lossless.earlier ⟨_, rfl⟩ lossless
      exact valid.ends earlier (by simpa using disconnected)

/-- Without a failed `send` of `write_to_client` nothing assigns CONNECTED. -/
theorem sound_iff_lossless (gateway : Gateway) (valid : gateway.Valid) :
    gateway.Sound <-> gateway.Lossless := by
  constructor
  next =>
    intro sound result after inside
    by_contra notPositive
    have failed : result ≤ 0 := by omega
    have connected := valid.failures .writeToClient result after inside failed
    have disconnected := sound.failures .writeToClient result after inside failed
    simp [connected, Writer.onFailure] at disconnected
  next =>
    intro lossless
    constructor
    next =>
      refine List.pairwise_of_forall_mem_list ?_
      intro earlier _ later inside _ reconnected
      exact valid.connects lossless (reconnected ▸ inside)
    next =>
      intro writer result after inside failed
      rw [valid.failures writer result after inside failed]
      cases writer with
      | writeToClient =>
        have positive := lossless result after inside
        omega
      | writeToClientVector => rfl
    next => exact valid.ends lossless

end Gateway

namespace Client

def KeepsGateway (before after : Client) : Prop := before.gateway.Valid -> after.gateway.Valid

theorem keepsGateway_frame : ReceiveFrame KeepsGateway where
  refl _ valid := valid
  trans _ _ _ before behind valid := behind (before valid)
  control _ _ valid := valid
  counters _ _ valid := valid
  assign client valid := Gateway.assign_valid client.gateway valid
  send client writer result valid := Gateway.send_valid client.gateway valid writer result
  profiles _ _ _ valid := valid
  pull _ _ _ valid := valid

theorem keepsGateway_contract (requestId : Int) (downloadDataType : UInt8) :
    OdmContract requestId downloadDataType (fun client => client.gateway.Valid)
      (fun client => client.gateway.Valid) (fun _ client => client.gateway.Valid) where
  moves := keepsGateway_frame
  waits _ valid := valid
  retried _ valid := valid
  sendFailed _ valid _ := valid
  reported _ _ _ _ valid := valid
  cleared _ _ _ valid := valid
  written := (updateOdmDb_sameGateway downloadDataType).triple fun _ _ valid same => same ▸ valid
  answered _ _ valid := valid
  pinged _ status := (updateInsertPingRequest_sameGateway 13 status).triple
    fun _ _ valid same => same ▸ valid

theorem processOdmRequest_keepsGateway (fuel : Nat) (buf : Bytes) (requestId : Int)
    (downloadDataType : UInt8) :
    Respects KeepsGateway (processOdmRequest fuel buf requestId downloadDataType) := by
  have contract := keepsGateway_contract requestId downloadDataType
  refine respects_bind keepsGateway_frame.trans (fun _ valid => valid) fun _ => ?_
  refine respects_bind keepsGateway_frame.trans ?_ fun exit => ?_
  next =>
    exact (exchange_left contract _ keepsGateway_frame.toFrame (fun _ valid => valid)
      contract.sendFailed buf (fun _ valid _ _ => valid) (fun _ valid _ => valid) fuel).respects
  next =>
    exact respects_bind keepsGateway_frame.trans (fun _ valid => valid)
      fun _ => respects_pure keepsGateway_frame.refl _

end Client

theorem dropResult_respects {A : Type} {rel : Client -> Client -> Prop} (frame : Client.Frame rel)
    (prog : Prog Client A) (respects : Respects rel prog) : Respects rel (dropResult prog) :=
  respects_bind frame.trans respects fun _ => respects_pure frame.refl ()

theorem callStep_valid (fuel : Nat) (client next : Client) (call : Call)
    (valid : client.gateway.Valid) (stepped : callStep fuel client call = some next) :
    next.gateway.Valid := by
  have frame := Client.keepsGateway_frame
  obtain rfl : (call.prog fuel client).2 = next := by simpa [callStep] using stepped
  suffices Respects Client.KeepsGateway (call.prog fuel) from this client valid
  cases call with
  | receiveData buffSize =>
    exact dropResult_respects frame.toFrame _ (Client.receiveData_respects frame.toSendFrame buffSize)
  | writeToClient buf =>
    exact dropResult_respects frame.toFrame _ (Client.writeWith_respects frame.toSendFrame _ buf)
  | writeToClientVector buf =>
    exact dropResult_respects frame.toFrame _ (Client.writeWith_respects frame.toSendFrame _ buf)
  | receiveDataAndValidateResponse =>
    exact dropResult_respects frame.toFrame _
      (Client.receiveDataAndValidateResponse_respects frame)
  | transmitRaw buf length maxRetries =>
    exact dropResult_respects frame.toFrame _
      (Client.transmitRaw_respects frame fuel buf length maxRetries)
  | transmitVector buff maxRetries =>
    exact dropResult_respects frame.toFrame _
      (Client.transmitVector_respects frame fuel buff maxRetries)
  | processOdmRequest buf requestId downloadDataType =>
    exact dropResult_respects frame.toFrame _
      (Client.processOdmRequest_keepsGateway fuel buf requestId downloadDataType)
  | pollTimeoutHandler => exact Client.pollTimeoutHandler_respects frame.toFrame
  | pollFailed => exact Client.disconnect_respects frame.toSendFrame
  | between other => exact fun client valid => valid

/-- In every run, disconnection is absorbing and every failed `send` leaves it exactly when no
`send` of `write_to_client` failed or returned 0. -/
theorem disconnected_absorbing_iff (fuel : Nat) (initial last : Client) (calls : List Call)
    (fresh : initial.gateway = {}) (ran : run (callStep fuel) initial calls = some last) :
    last.gateway.Sound <-> last.gateway.Lossless := by
  have valid : last.gateway.Valid :=
    run_invariant (callStep fuel) (fun client => client.gateway.Valid)
      (fun before call after known stepped => callStep_valid fuel before after call known stepped)
      initial last calls (fresh ▸ Gateway.initial_valid) ran
  exact Gateway.sound_iff_lossless last.gateway valid

/-- The stream ends under the command of a pull. -/
def closedStream : Client :=
  ((Call.transmitVector [0x2E] 2).prog 1 { inputs := { recv := fun _ => .data [] none } }).2

theorem disconnected_absorbing_iff_closed : closedStream.gateway.Sound := by
  have history : closedStream.gateway.history =
      [.sent .writeToClientVector 4096 .connected, .assigned .disconnected,
        .assigned .disconnected] := by
    decide +kernel
  refine (disconnected_absorbing_iff 1 { inputs := { recv := fun _ => .data [] none } }
    closedStream [.transmitVector [0x2E] 2] rfl rfl).mpr ?_
  intro result after inside
  simp [history] at inside

/-- The stream ends, the request is sent again, and the `send` that fails connects again. -/
def lostClient : Client :=
  { inputs := { recv := fun _ => .data [] none
                send := fun index => if index = 0 then 4096 else -1 } }

def lostRequest : Call :=
  .processOdmRequest [0x2E, 0x18, 0x07, 0, 0, 0, 1, 0, 0, 0, 1, 0, 0, 0, 0, 0, 1, 0x2B, 0x07,
    0x01, 0x0E, 0x01, 0x00, 0x00, 0x42] 7 1

theorem failed_send_reconnects : exists last,
    run (callStep 3) lostClient [lostRequest] = some last /\
      last.gateway.history = [.sent .writeToClient 4096 .connected, .assigned .disconnected,
        .assigned .connected, .sent .writeToClient (-1) .connected] /\
      last.gateway.status = .connected /\ ¬ last.gateway.Sound := by
  have history : (lostRequest.prog 3 lostClient).2.gateway =
      { status := .connected
        history := [.sent .writeToClient 4096 .connected, .assigned .disconnected,
          .assigned .connected, .sent .writeToClient (-1) .connected] } := by
    decide +kernel
  refine ⟨_, rfl, by rw [history], by rw [history], ?_⟩
  intro sound
  have absorbed := sound.absorbing
  simp [history] at absorbed

end Hes
